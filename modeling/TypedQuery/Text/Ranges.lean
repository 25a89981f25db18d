/-!
# Character classes as ranges of code points

A class of characters that a standard lists is kept as a list of inclusive ranges. The classes of
this library differ from the ASCII ones of the standard library, so each has a table of its own;
this module only says what it means to lie in one.
-/

namespace TypedQuery.Text

/-- Whether a code point lies in one of the inclusive ranges. -/
def inRanges (ranges : List (Nat × Nat)) (point : Nat) : Bool :=
  ranges.any fun range => range.1 ≤ point && point ≤ range.2

end TypedQuery.Text
