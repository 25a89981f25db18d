import TypedQuery.Text.Ranges

/-!
# Blank characters

Blank is the Unicode property White_Space. A predicate or an alias that holds blanks only says
nothing and is refused, and blanks may stand before each number of a date.
-/

namespace TypedQuery.Text

/-- The characters with the property White_Space. -/
def blankRanges : List (Nat × Nat) :=
  [(0x9, 0xD), (0x20, 0x20), (0x85, 0x85), (0xA0, 0xA0), (0x1680, 0x1680), (0x2000, 0x200A),
    (0x2028, 0x2029), (0x202F, 0x202F), (0x205F, 0x205F), (0x3000, 0x3000)]

/-- Whether a character is blank. -/
def isBlank (c : Char) : Bool :=
  inRanges blankRanges c.toNat

/-- Whether a text holds nothing but blanks; the empty text does. -/
def isBlankText (text : String) : Bool :=
  text.toList.all isBlank

end TypedQuery.Text
