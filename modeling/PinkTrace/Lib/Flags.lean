import Mathlib.Algebra.Group.Nat.Defs

/-!
# Sets of options as words

An `int` of flags is a finite set: each option has its own bit, a set is the OR of the bits of its
members, and membership is a test of one bit. Two libraries that number the same options
differently have two such encodings of one set (`orOf` under two functions), to be compared bit by
bit (`getLsbD_orOf`) or member by member (`orOf_congr`).

The set is a list here, and the encoding does not care about its order or about members that stand
twice. That is why `orOf_congr` asks for the same members and not for the same list: a translation
loop produces its options in the order in which it tests them.
-/

set_option autoImplicit false

namespace Lib

variable {ι : Type} {w : Nat}

/-- The OR of the members' flags. Nothing is asked of `flag`: that each option has a bit of its
    own is a fact about one numbering, and is not needed to encode. -/
def orOf (flag : ι → BitVec w) (opts : List ι) : BitVec w :=
  opts.foldr (fun o m => flag o ||| m) 0

/-- A bit is set exactly if some member has it. This is the specification of `orOf`; the list it
    was computed from does not appear in it but through membership. -/
theorem getLsbD_orOf (flag : ι → BitVec w) (opts : List ι) (i : Nat) :
    (orOf flag opts).getLsbD i = true ↔ ∃ o ∈ opts, (flag o).getLsbD i = true := by
  induction opts with
  | nil => simp [orOf]
  | cons o rest ih =>
    have hcons : orOf flag (o :: rest) = flag o ||| orOf flag rest := rfl
    rw [hcons, BitVec.getLsbD_or, Bool.or_eq_true, ih]
    simp

/-- Two encodings of one set agree as soon as they agree on its members. The flags of options that
    are not in the set may differ as they like. -/
theorem orOf_congr {flag flag' : ι → BitVec w} {opts opts' : List ι}
    (hmem : ∀ o, o ∈ opts ↔ o ∈ opts') (hflag : ∀ o ∈ opts, flag o = flag' o) :
    orOf flag opts = orOf flag' opts' := by
  apply BitVec.eq_of_getLsbD_eq
  intro i _
  rw [Bool.eq_iff_iff, getLsbD_orOf, getLsbD_orOf]
  constructor
  · rintro ⟨o, ho, hbit⟩
    exact ⟨o, (hmem o).mp ho, by rwa [← hflag o ho]⟩
  · rintro ⟨o, ho, hbit⟩
    have ho' := (hmem o).mpr ho
    exact ⟨o, ho', by rwa [hflag o ho']⟩

/-- A member's flag is found again whole, whatever else is in the set. -/
theorem orOf_and_flag (flag : ι → BitVec w) {opts : List ι} {o : ι} (ho : o ∈ opts) :
    orOf flag opts &&& flag o = flag o := by
  apply BitVec.eq_of_getLsbD_eq
  intro i _
  rw [BitVec.getLsbD_and]
  cases hbit : (flag o).getLsbD i with
  | false => rw [Bool.and_false]
  | true => rw [(getLsbD_orOf flag opts i).mpr ⟨o, ho, hbit⟩, Bool.and_true]

/-- Testing a flag is reading its bit. `x & FLAG` in a condition is the left-hand side, the set
    that a proof reasons about the right-hand one. -/
theorem and_twoPow_ne_zero (x : BitVec w) (k : Nat) :
    x &&& BitVec.twoPow w k ≠ 0 ↔ x.getLsbD k = true := by
  rw [BitVec.and_twoPow]
  cases hbit : x.getLsbD k with
  | false => simp
  | true =>
    have hk : k < w := BitVec.lt_of_getLsbD hbit
    have hne : BitVec.twoPow w k ≠ 0 := by
      intro h0
      have hset := BitVec.getLsbD_twoPow (w := w) k k
      rw [h0] at hset
      simp [hk] at hset
    rw [if_pos rfl]
    exact ⟨fun _ => rfl, fun _ => hne⟩

end Lib
