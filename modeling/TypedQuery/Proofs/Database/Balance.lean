import Mathlib.Data.Multiset.MapFold
import Mathlib.Data.Multiset.UnionInter
import TypedQuery.Proofs.Database.Checkout
import TypedQuery.Proofs.Database.Lending

/-!
# A pool that clients share stays sound

Two invariants are kept by every step of a client. The count of the pool is that of the connections
that are idle, held or being opened (`Lending.Counted`): a place is counted before there is a
connection for it and is taken off the count if there never is one, and a connection stays counted
until it is dropped in a transaction. No connection is in two places, and none is idle in a
transaction (`Lending.Apart`): one that comes back inside is not made idle but closed.

All the rest follows from the two (`Lending.sound_of_reachable`). The count is not taken below zero
and reaches the limit only if every place is in use; a connection is not shared, and nobody gets one
in the middle of a transaction, least of all one that was dropped there: it is out of circulation,
and what is out of circulation stays out (`Lending.Run.retired`), because a new connection has a
number that none has had before.
-/

namespace TypedQuery.Database

namespace Lending

variable {s next : Lending} {limit : Nat}

/-! ## The count -/

/-- The count of a pool is that of the connections that are idle, held or being opened, and it stays
within the limit. -/
structure Counted (limit : Nat) (s : Lending) : Prop where
  limit_eq : s.pool.limit = limit
  opened_eq : s.pool.opened = s.pool.idle.length + s.lent.card + s.opening.card
  opened_le : s.pool.opened ≤ limit

/-- Who opens a connection has a place that was counted. -/
theorem Counted.opened_giveUp (h : s.Counted limit) {client : String} (mem : client ∈ s.opening) :
    s.pool.giveUp.opened + 1 = s.pool.opened := by
  have counted := h.opened_eq
  have : 0 < s.opening.card := Multiset.card_pos_iff_exists_mem.2 ⟨client, mem⟩
  simp only [Pool.giveUp]
  omega

/-- A connection that is held was counted. -/
theorem Counted.opened_discard (h : s.Counted limit) {holding : String × ConnectionId}
    (mem : holding ∈ s.lent) : s.pool.giveUp.opened + 1 = s.pool.opened := by
  have counted := h.opened_eq
  have : 0 < s.lent.card := Multiset.card_pos_iff_exists_mem.2 ⟨holding, mem⟩
  simp only [Pool.giveUp]
  omega

/-- A pool is exhausted exactly if all its connections are held or being opened. -/
theorem Counted.exhausted_iff (h : s.Counted limit) :
    s.pool.checkout = (.exhausted, s.pool) ↔
      s.pool.idle = [] ∧ s.lent.card + s.opening.card = limit := by
  obtain ⟨same, counted, le⟩ := h
  rw [Pool.checkout_eq_exhausted_iff]
  refine and_congr_right fun idle => ?_
  rw [idle, List.length_nil] at counted
  omega

/-- Every step keeps the count right. -/
theorem Counted.step (h : s.Counted limit) (step : Step s next) : next.Counted limit := by
  have same := h.limit_eq
  have counted := h.opened_eq
  have le := h.opened_le
  cases step with
  | ask client =>
    obtain ⟨c, rest, idle, asked⟩ | ⟨idle, room, asked⟩ | ⟨idle, full, asked⟩ := s.ask_cases client
    · rw [asked]
      rw [idle, List.length_cons] at counted
      exact ⟨same, by simp only [Multiset.card_cons]; omega, le⟩
    · rw [asked]
      exact ⟨same, by simp only [Multiset.card_cons]; omega, by simp only; omega⟩
    · rw [asked]
      exact h
  | connect mem =>
    have lost := Multiset.card_erase_add_one mem
    exact ⟨same, by simp only [connect, Multiset.card_cons]; omega, le⟩
  | @giveUp client mem =>
    have lost := Multiset.card_erase_add_one mem
    have freed := h.opened_giveUp mem
    refine ⟨same, ?_, ?_⟩
    · show s.pool.giveUp.opened = s.pool.idle.length + s.lent.card + (s.opening.erase client).card
      omega
    · show s.pool.giveUp.opened ≤ limit
      omega
  | use => exact ⟨same, counted, le⟩
  | @drop client c mem =>
    have lost := Multiset.card_erase_add_one mem
    cases status : s.inTransaction c with
    | false =>
      rw [drop_of_outside status]
      exact ⟨same, by simp only [List.length_cons]; omega, le⟩
    | true =>
      have freed := h.opened_discard mem
      rw [drop_of_inside status]
      refine ⟨same, ?_, ?_⟩
      · show s.pool.giveUp.opened =
          s.pool.idle.length + (s.lent.erase (client, c)).card + s.opening.card
        omega
      · show s.pool.giveUp.opened ≤ limit
        omega
  | close => exact ⟨same, counted, le⟩

/-! ## The connections -/

/-- The connections that clients hold. -/
def held (s : Lending) : Multiset ConnectionId := s.lent.map Prod.snd

/-- The connections that are idle or held. -/
def circulating (s : Lending) : Multiset ConnectionId := ↑s.pool.idle + s.held

/-- A connection that is lent out was idle. -/
theorem circulating_ask (s : Lending) (client : String) :
    (s.ask client).circulating = s.circulating := by
  obtain ⟨c, rest, idle, asked⟩ | ⟨-, -, asked⟩ | ⟨-, -, asked⟩ := s.ask_cases client
  · rw [asked]
    simp only [circulating, held, idle, Multiset.map_cons, Multiset.add_cons, ← Multiset.cons_coe,
      Multiset.cons_add]
  · rw [asked]
    rfl
  · rw [asked]

/-- Asking for a connection issues none. -/
theorem issued_ask (s : Lending) (client : String) : (s.ask client).issued = s.issued := by
  obtain ⟨c, rest, -, asked⟩ | ⟨-, -, asked⟩ | ⟨-, -, asked⟩ := s.ask_cases client
  · rw [asked]
  · rw [asked]
  · rw [asked]

/-- A connection that is opened is held. -/
theorem circulating_connect (s : Lending) (client : String) :
    (s.connect client).circulating = (s.issued + 1) ::ₘ s.circulating := by
  simp only [circulating, held, connect, Multiset.map_cons, Multiset.add_cons]

/-- What a client holds, and what is held besides. -/
theorem held_eq_cons {client : String} {c : ConnectionId} (mem : (client, c) ∈ s.lent) :
    s.held = c ::ₘ (s.lent.erase (client, c)).map Prod.snd := by
  rw [held, ← Multiset.map_cons Prod.snd (client, c), Multiset.cons_erase mem]

/-- A connection that is dropped outside of a transaction stays in circulation. -/
theorem circulating_drop_of_outside {client : String} {c : ConnectionId}
    (mem : (client, c) ∈ s.lent) (outside : s.inTransaction c = false) :
    (s.drop client c).circulating = s.circulating := by
  rw [drop_of_outside outside]
  simp only [circulating, held_eq_cons mem, ← Multiset.cons_coe, Multiset.cons_add,
    Multiset.add_cons]
  rfl

/-- A connection that is dropped in a transaction is taken out of circulation. -/
theorem circulating_drop_of_inside {client : String} {c : ConnectionId}
    (mem : (client, c) ∈ s.lent) (inside : s.inTransaction c = true) :
    s.circulating = c ::ₘ (s.drop client c).circulating := by
  rw [drop_of_inside inside]
  simp only [circulating, held_eq_cons mem, Multiset.add_cons]
  rfl

/-- No connection is in two places, and none is idle in a transaction. -/
structure Apart (s : Lending) : Prop where
  nodup : (s.circulating + s.closing).Nodup
  issued : ∀ c ∈ s.circulating + s.closing, c ≤ s.issued
  idle : ∀ c ∈ s.pool.idle, s.inTransaction c = false
  unissued : ∀ c, s.issued < c → s.inTransaction c = false

/-- A connection that is held has been opened. -/
theorem Apart.issued_of_held (h : s.Apart) {client : String} {c : ConnectionId}
    (mem : (client, c) ∈ s.lent) : c ≤ s.issued := by
  have held : c ∈ s.held := Multiset.mem_map_of_mem Prod.snd mem
  exact h.issued c (Multiset.mem_add.2 (.inl (Multiset.mem_add.2 (.inr held))))

/-- An idle connection is not held. -/
theorem Apart.ne_of_idle (h : s.Apart) {client : String} {c d : ConnectionId}
    (mem : (client, c) ∈ s.lent) (idle : d ∈ s.pool.idle) : d ≠ c := by
  have apart := (Multiset.nodup_add.1 (Multiset.nodup_add.1 h.nodup).1).2.2
  rintro rfl
  exact Multiset.disjoint_left.1 apart idle (Multiset.mem_map_of_mem Prod.snd mem)

/-- Connections that only change places stay apart. -/
theorem Apart.moved (h : s.Apart)
    (places : next.circulating + next.closing = s.circulating + s.closing)
    (counter : next.issued = s.issued) (idle : ∀ c ∈ next.pool.idle, next.inTransaction c = false)
    (unissued : ∀ c, s.issued < c → next.inTransaction c = false) : next.Apart where
  nodup := by
    rw [places]
    exact h.nodup
  issued := by
    rw [places, counter]
    exact h.issued
  idle := idle
  unissued := by
    rw [counter]
    exact unissued

/-- Every step keeps the connections apart. -/
theorem Apart.step (h : s.Apart) (step : Step s next) : next.Apart := by
  cases step with
  | ask client =>
    have same := s.circulating_ask client
    obtain ⟨c, rest, idle, asked⟩ | ⟨-, -, asked⟩ | ⟨-, -, asked⟩ := s.ask_cases client
    · rw [asked] at same ⊢
      have outside (d : ConnectionId) (mem : d ∈ rest) : s.inTransaction d = false :=
        h.idle d (idle ▸ List.mem_cons_of_mem c mem)
      exact h.moved (by rw [same]) rfl outside h.unissued
    · rw [asked]
      exact h.moved rfl rfl h.idle h.unissued
    · rw [asked]
      exact h
  | @connect client mem =>
    have same := s.circulating_connect client
    -- A connection that has not been issued yet is in no place.
    have new : s.issued + 1 ∉ s.circulating + s.closing := fun mem =>
      absurd (h.issued _ mem) (Nat.not_succ_le_self _)
    refine ⟨?_, ?_, fun d mem => ?_, fun d unissued => ?_⟩
    · rw [same, Multiset.cons_add, Multiset.nodup_cons]
      exact ⟨new, h.nodup⟩
    · rw [same, Multiset.cons_add]
      exact Multiset.forall_mem_cons.2 ⟨le_rfl, fun d mem => Nat.le_succ_of_le (h.issued d mem)⟩
    · simp only [connect, Function.update_apply]
      split
      · rfl
      · exact h.idle d mem
    · have later : s.issued + 1 < d := unissued
      simp only [connect, Function.update_of_ne later.ne']
      exact h.unissued d (Nat.lt_of_succ_lt later)
  | giveUp => exact h.moved rfl rfl h.idle h.unissued
  | @use client c use succeeded mem =>
    -- The connection that is used is held, so it is neither idle nor still to be issued.
    refine h.moved rfl rfl (fun d idle => ?_) fun d unissued => ?_
    · simp only [Lending.use, Function.update_of_ne (h.ne_of_idle mem idle)]
      exact h.idle d idle
    · have other : d ≠ c := (Nat.lt_of_le_of_lt (h.issued_of_held mem) unissued).ne'
      simp only [Lending.use, Function.update_of_ne other]
      exact h.unissued d unissued
  | @drop client c mem =>
    cases status : s.inTransaction c with
    | false =>
      have same := circulating_drop_of_outside mem status
      rw [drop_of_outside status] at same ⊢
      exact h.moved (by rw [same]) rfl (List.forall_mem_cons.2 ⟨status, h.idle⟩) h.unissued
    | true =>
      have same : (s.drop client c).circulating + c ::ₘ s.closing =
          s.circulating + s.closing := by
        rw [circulating_drop_of_inside mem status, Multiset.add_cons, Multiset.cons_add]
      rw [drop_of_inside status] at same ⊢
      exact h.moved same rfl h.idle h.unissued
  | @close c mem =>
    have less : s.circulating + s.closing.erase c ≤ s.circulating + s.closing :=
      Multiset.add_le_add_left (Multiset.erase_le c s.closing)
    have outside (d : ConnectionId) (before : s.inTransaction d = false) :
        (s.close c).inTransaction d = false := by
      simp only [close, Function.update_apply]
      split
      · rfl
      · exact before
    exact ⟨Multiset.nodup_of_le less h.nodup,
      fun d mem => h.issued d (Multiset.mem_of_le less mem), fun d mem => outside d (h.idle d mem),
      fun d unissued => outside d (h.unissued d unissued)⟩

/-- A connection that is out of circulation stays so. -/
theorem Step.retired (step : Step s next) {c : ConnectionId}
    (retired : c ≤ s.issued ∧ c ∉ s.circulating) : c ≤ next.issued ∧ c ∉ next.circulating := by
  obtain ⟨issued, gone⟩ := retired
  cases step with
  | ask client =>
    rw [circulating_ask, issued_ask]
    exact ⟨issued, gone⟩
  | connect =>
    refine ⟨Nat.le_succ_of_le issued, ?_⟩
    rw [circulating_connect, Multiset.mem_cons, not_or]
    exact ⟨(Nat.lt_succ_of_le issued).ne, gone⟩
  | giveUp => exact ⟨issued, gone⟩
  | use => exact ⟨issued, gone⟩
  | @drop client d mem =>
    refine ⟨issued, fun mem' => gone ?_⟩
    cases status : s.inTransaction d with
    | false => rwa [circulating_drop_of_outside mem status] at mem'
    | true =>
      rw [circulating_drop_of_inside mem status]
      exact Multiset.mem_cons_of_mem mem'
  | close => exact ⟨issued, gone⟩

/-- A connection that a step lends out is outside of a transaction. -/
theorem Apart.outside_of_lent (h : s.Apart) (step : Step s next) {client : String}
    {c : ConnectionId} (mem : (client, c) ∈ next.lent) (new : (client, c) ∉ s.lent) :
    next.inTransaction c = false := by
  cases step with
  | ask asking =>
    obtain ⟨d, rest, idle, asked⟩ | ⟨-, -, asked⟩ | ⟨-, -, asked⟩ := s.ask_cases asking
    · rw [asked] at mem ⊢
      obtain same | old := Multiset.mem_cons.1 mem
      · obtain ⟨-, rfl⟩ := Prod.mk.inj same
        exact h.idle c (idle ▸ List.mem_cons_self)
      · exact absurd old new
    · rw [asked] at mem
      exact absurd mem new
    · rw [asked] at mem
      exact absurd mem new
  | connect =>
    obtain same | old := Multiset.mem_cons.1 mem
    · obtain ⟨-, rfl⟩ := Prod.mk.inj same
      exact Function.update_self ..
    · exact absurd old new
  | giveUp => exact absurd mem new
  | use => exact absurd mem new
  | drop => exact absurd (Multiset.mem_of_mem_erase mem) new
  | close => exact absurd mem new

/-! ## Runs -/

/-- What clients can make of a pool keeps the count right. -/
theorem Reachable.counted (h : Reachable limit s) : s.Counted limit := by
  induction h with
  | refl => exact ⟨rfl, rfl, Nat.zero_le limit⟩
  | tail _ step ih => exact ih.step step

/-- What clients can make of a pool keeps the connections apart. -/
theorem Reachable.apart (h : Reachable limit s) : s.Apart := by
  induction h with
  | refl =>
    exact ⟨Multiset.nodup_zero, fun c mem => absurd mem (Multiset.notMem_zero c),
      fun c mem => absurd mem List.not_mem_nil, fun _ _ => rfl⟩
  | tail _ step ih => exact ih.step step

/-- A connection that is out of circulation is never lent out again. -/
theorem Run.retired {later : Lending} (run : Run s later) {c : ConnectionId}
    (retired : c ≤ s.issued ∧ c ∉ s.circulating) :
    c ≤ later.issued ∧ c ∉ later.circulating := by
  induction run with
  | refl => exact retired
  | tail _ step ih => exact step.retired ih

/-- What can be relied on while clients use a pool. -/
structure Sound (limit : Nat) (s : Lending) : Prop where
  /-- The count is that of the connections that are idle, held or being opened. -/
  opened_eq : s.pool.opened = s.pool.idle.length + s.lent.card + s.opening.card
  opened_le : s.pool.opened ≤ limit
  /-- A place that is given up was counted. -/
  opened_giveUp : ∀ client ∈ s.opening, (s.giveUp client).pool.opened + 1 = s.pool.opened
  /-- A connection that is discarded was counted. -/
  opened_drop : ∀ client c, (client, c) ∈ s.lent → s.inTransaction c = true →
    (s.drop client c).pool.opened + 1 = s.pool.opened
  /-- No connection is held twice, idle twice, or both. -/
  nodup : (↑s.pool.idle + s.held).Nodup
  holder_unique : ∀ c client other, (client, c) ∈ s.lent → (other, c) ∈ s.lent → client = other
  idle_outside : ∀ c ∈ s.pool.idle, s.inTransaction c = false
  /-- A connection is handed out outside of a transaction. -/
  lent_outside : ∀ next, Step s next → ∀ client c, (client, c) ∈ next.lent →
    (client, c) ∉ s.lent → next.inTransaction c = false
  /-- A connection that is dropped in a transaction is neither idle nor held any more. -/
  discarded : ∀ client c, (client, c) ∈ s.lent → s.inTransaction c = true →
    ∀ later, Run (s.drop client c) later →
      c ∉ later.pool.idle ∧ ∀ other, (other, c) ∉ later.lent
  /-- Who asks is told that all connections are in use exactly if all are held or being opened. -/
  refuses_iff : ∀ store : PooledDatabase, store.pool = s.pool →
    (store.Refuses limit ↔ s.pool.idle = [] ∧ s.lent.card + s.opening.card = limit)
  /-- A refusal changes nothing. -/
  refused_eq : ∀ store : PooledDatabase, store.pool = s.pool → store.Refuses limit →
    store.checkout.2 = store ∧ ∀ client, s.ask client = s

/-- Whatever clients make of a pool, in whichever order they take their steps: the count is right,
no connection is shared, none is lent out in a transaction, and only a pool with all its connections
in use refuses. -/
theorem sound_of_reachable (h : Reachable limit s) : s.Sound limit := by
  have counted := h.counted
  have apart := h.apart
  have circulating : s.circulating.Nodup := (Multiset.nodup_add.1 apart.nodup).1
  refine
    { opened_eq := counted.opened_eq
      opened_le := counted.opened_le
      opened_giveUp := fun client mem => ?_
      opened_drop := fun client c mem inside => ?_
      nodup := circulating
      holder_unique := fun c client other mem mem' => ?_
      idle_outside := apart.idle
      lent_outside := fun next step client c mem new => apart.outside_of_lent step mem new
      discarded := fun client c mem inside later run => ?_
      refuses_iff := fun store same => ?_
      refused_eq := fun store same refuses => ?_ }
  · exact counted.opened_giveUp mem
  · rw [drop_of_inside inside]
    exact counted.opened_discard mem
  · have held : s.held.Nodup := (Multiset.nodup_add.1 circulating).2.1
    exact congrArg Prod.fst (Multiset.inj_on_of_nodup_map held _ mem _ mem' rfl)
  · have out : c ∉ (s.drop client c).circulating := by
      rw [circulating_drop_of_inside mem inside, Multiset.nodup_cons] at circulating
      exact circulating.1
    have retired := (Run.retired run ⟨apart.issued_of_held mem, out⟩).2
    rw [Lending.circulating, Multiset.mem_add, not_or] at retired
    exact ⟨retired.1, fun other mem => retired.2 (Multiset.mem_map_of_mem Prod.snd mem)⟩
  · rw [← counted.limit_eq, ← same, PooledDatabase.refuses_iff, same, counted.exhausted_iff,
      counted.limit_eq]
  · rw [← counted.limit_eq, ← same, PooledDatabase.refuses_iff] at refuses
    refine ⟨by rw [PooledDatabase.checkout_of_exhausted refuses], fun client => ?_⟩
    rw [same] at refuses
    simp only [ask, refuses]

end Lending

end TypedQuery.Database

namespace TypedQuery.Desk

open Database Database.Lending

/-- Three clients want two connections, and one of them is refused while the others open theirs. -/
def asked : Lending := (((Lending.fresh 2).ask "ann").ask "bob").ask "cleo"

/-- One connection cannot be opened, so who was refused gets a place; the other one is dropped in a
transaction, and another is opened before it is closed. -/
def rush : Lending :=
  let opened := ((asked.connect "ann").giveUp "bob").ask "cleo"
  let dropped := (opened.use 1 .begin true).drop "ann" 1
  (dropped.ask "bob").connect "bob"

theorem reachable_asked : Reachable 2 asked :=
  .tail (.tail (.tail .refl (.ask "ann")) (.ask "bob")) (.ask "cleo")

theorem reachable_rush : Reachable 2 rush := by
  have opened : Reachable 2 (((asked.connect "ann").giveUp "bob").ask "cleo") :=
    .tail (.tail (.tail reachable_asked (.connect (by decide))) (.giveUp (by decide))) (.ask "cleo")
  have dropped : Reachable 2
      (((((asked.connect "ann").giveUp "bob").ask "cleo").use 1 .begin true).drop "ann" 1) :=
    .tail (.tail opened (@Step.use _ "ann" 1 .begin true (by decide))) (.drop (by decide))
  exact .tail (.tail dropped (.ask "bob")) (.connect (by decide))

/-- Two connections are in use, though one of them is not there yet, and one is still being
closed. -/
theorem sound_rush : rush.Sound 2 ∧ rush.pool.idle = [] ∧ rush.lent = {("bob", 2)} ∧
    rush.opening = {"cleo"} ∧ rush.closing = {1} :=
  ⟨sound_of_reachable reachable_rush, rfl, by decide, by decide, by decide⟩

end TypedQuery.Desk
