import PinkTrace.Proof.Retval
import PinkTrace.Regset.PowerPC

/-!
# PowerPC return values, written and read back

The writer keeps errors out of band, as the hardware does. The reader folds the flag into the
value and goes on in band, and there a value that was written without the flag can still be taken
for an error: the round trip is lost for the values `-1` to `-(nerrnos - 1)` that were written as
no error.

Two defects stand in the way of the round trip, and what is proved of `RetvalRoundTrips` is exact
about both. The other one comes first in a run: between the write and the read is a fill, and a
build without `PINK_HAVE_GETREGS` refuses it. What is read then is the regset of some earlier
time, if there was one, and whatever it happens to say is not the result that was written.
-/

set_option autoImplicit false

namespace PinkTrace

namespace Powerpc

open Abi (pinkAbiDefault)

variable {arch : Arch} {t : Tracee arch}

/-! ## One register -/

/-- The offsets that the code computes are those of words. -/
theorem wordAtOffset?_mul {k : Nat} (hk : k < ptRegsCount) :
    wordAtOffset? arch (arch.sizeofLong * k) = some k := by
  have hdiv : arch.sizeofLong * k / arch.sizeofLong = k :=
    Nat.mul_div_cancel_left k arch.sizeofLong_pos
  rw [wordAtOffset?, hdiv, if_pos ⟨Nat.mul_mod_right .., hk⟩]

theorem pinkReadWordUser_reg (alive : t.err = none) {k : Nat} (hk : k < ptRegsCount) :
    pinkReadWordUser t (arch.sizeofLong * k) = .ok (t.regs k) := by
  simp only [pinkReadWordUser, alive, wordAtOffset?_mul hk]

theorem pinkWriteWordUser_reg (alive : t.err = none) {k : Nat} (hk : k < ptRegsCount)
    (v : Addr arch) : pinkWriteWordUser t (arch.sizeofLong * k) v =
      .ok { t with regs := fun j => if j = k then v else t.regs j } := by
  simp only [pinkWriteWordUser, alive, wordAtOffset?_mul hk]

/-! ## The flag -/

/-- The flag after it was set… -/
theorem or_and_self {w : Nat} (x m : BitVec w) : (x ||| m) &&& m = m := by
  apply BitVec.eq_of_getLsbD_eq
  intro i _
  rw [BitVec.getLsbD_and, BitVec.getLsbD_or]
  cases m.getLsbD i <;> simp

/-- …and after it was cleared, whatever else is in the register. -/
theorem and_not_and_self {w : Nat} (x m : BitVec w) : x &&& ~~~m &&& m = 0 := by
  apply BitVec.eq_of_getLsbD_eq
  intro i hi
  rw [BitVec.getLsbD_and, BitVec.getLsbD_and, BitVec.getLsbD_not, decide_eq_true hi]
  cases m.getLsbD i <;> simp

theorem soMask_ne_zero (arch : Arch) : soMask arch ≠ 0 := by
  cases arch <;> decide

/-- What `pink_read_retval` finds after `pink_write_retval` and a fill, in a build that can do
    one. The flag and the register together come to a number, and that number is classified. -/
theorem read_written_retval (alive : t.err = none) (rs : Regset arch) (retval : Addr arch)
    (error : BitVec 32) :
    ∃ t' rs', pinkWriteRetval t rs retval error = .ok t' ∧
      pinkRegsetFill true t' rs = (.ok (), rs') ∧
      pinkReadRetval rs' = classifyRetval
        (if error ≠ 0 then -error.signExtend arch.longBits else retval) (pinkAbiDefault arch) := by
  let flags := if error ≠ 0 then t.regs ptCcr ||| soMask arch
    else t.regs ptCcr &&& ~~~soMask arch
  let regs₁ : PtRegs arch := fun j =>
    if j = ptR3 then if error ≠ 0 then error.signExtend arch.longBits else retval else t.regs j
  let regs : PtRegs arch := fun j => if j = ptCcr then flags else regs₁ j
  have hflag : flags &&& soMask arch ≠ 0 ↔ error ≠ 0 := by
    by_cases he : error = 0
    · simp only [flags, he, ne_eq, not_true_eq_false, if_false, and_not_and_self]
    · simp only [flags, he, ne_eq, not_false_eq_true, if_true, or_and_self, soMask_ne_zero]
  refine ⟨⟨regs, t.err⟩, ⟨regs, pinkAbiDefault arch⟩, ?_, ?_, ?_⟩
  · rw [pinkWriteRetval, pinkReadWordUser_reg alive (by decide)]
    simp only [bind, Except.bind]
    rw [pinkWriteWordUser_reg alive (by decide)]
    exact pinkWriteWordUser_reg (t := ⟨regs₁, t.err⟩) alive (by decide) flags
  · simp only [pinkRegsetFill, pinkTraceGetRegs, ifHave, alive, if_true]
  · have hccr : Regset.ccr ⟨regs, pinkAbiDefault arch⟩ = flags := rfl
    have hgpr : Regset.gpr ⟨regs, pinkAbiDefault arch⟩ 3 =
        if error ≠ 0 then error.signExtend arch.longBits else retval := rfl
    rw [pinkReadRetval, hccr, hgpr]
    by_cases he : error = 0
    · rw [if_neg (mt hflag.mp (not_not_intro he)), if_neg (not_not_intro he),
        if_neg (not_not_intro he)]
    · rw [if_pos (hflag.mpr he), if_pos he, if_pos he]

/-! ## The round trip -/

/-- A result that was written is read back after the next fill: as the error it was, or as the
    value. A fill that is refused is no round trip, whatever the regset says. -/
def RetvalRoundTrips (haveGetregs : Bool) (t : Tracee arch) (rs : Regset arch)
    (retval : Addr arch) (error : BitVec 32) : Prop :=
  ∃ t' rs', pinkWriteRetval t rs retval error = .ok t' ∧
    pinkRegsetFill haveGetregs t' rs = (.ok (), rs') ∧
    pinkReadRetval rs' = if error ≠ 0 then (-1, error) else (retval, 0)

/-- Nothing comes back without a fill. -/
theorem not_retvalRoundTrips (t : Tracee arch) (rs : Regset arch) (retval : Addr arch)
    (error : BitVec 32) : ¬ RetvalRoundTrips false t rs retval error := by
  rintro ⟨t', rs', -, hfill, -⟩
  simp [pinkRegsetFill, pinkTraceGetRegs, ifHave] at hfill

theorem retvalRoundTrips_iff_classified (alive : t.err = none) (rs : Regset arch)
    (retval : Addr arch) (error : BitVec 32) :
    RetvalRoundTrips true t rs retval error ↔
      classifyRetval (if error ≠ 0 then -error.signExtend arch.longBits else retval)
        (pinkAbiDefault arch) = if error ≠ 0 then (-1, error) else (retval, 0) := by
  obtain ⟨t', rs', hwrite, hfill, hread⟩ := read_written_retval alive rs retval error
  rw [← hread]
  constructor
  · rintro ⟨t₁, rs₁, hwrite₁, hfill₁, hread₁⟩
    obtain rfl := Except.ok.inj (hwrite.symm.trans hwrite₁)
    obtain rfl := (Prod.mk.inj (hfill.symm.trans hfill₁)).2
    exact hread₁
  · exact fun h => ⟨t', rs', hwrite, hfill, h⟩

/-- On PowerPC nothing is cut to 32 bits: there is one ABI, as wide as a `long`. -/
theorem signedRetval_default (val : Addr arch) :
    signedRetval val (pinkAbiDefault arch) = val.toInt := by
  have hwide : truncates (pinkAbiDefault arch) = false := by
    cases arch <;> rfl
  rw [signedRetval, hwide, if_neg (by simp)]

/-- An error that was written is read back: negated twice, once by the reader for the flag and
    once for the window. -/
theorem classifyRetval_error {error : BitVec 32} (hpos : 0 < error.toInt)
    (hlt : error.toInt < nerrnos (pinkAbiDefault arch)) :
    classifyRetval (-error.signExtend arch.longBits) (pinkAbiDefault arch) = (-1, error) := by
  have hsigned : signedRetval (-error.signExtend arch.longBits) (pinkAbiDefault arch) =
      -error.toInt := by
    rw [nerrnos_eq] at hlt
    rw [signedRetval_default, BitVec.toInt_neg,
      BitVec.toInt_signExtend_of_le (longBits_ge arch)]
    rcases arch.sizes with ⟨-, hM⟩ | ⟨-, hM⟩ <;>
      · rw [hM]
        exact Int.bmod_eq_of_le (by omega) (by omega)
  exact classifyRetval_of_error hpos hlt hsigned

/-- Where there is a fill, a result round-trips exactly if it is an error, or is not the negation
    of one. -/
theorem retvalRoundTrips_filled_iff (rs : Regset arch) (retval : Addr arch) (error : BitVec 32)
    (alive : t.err = none) (hpos : 0 ≤ error.toInt)
    (hlt : error.toInt < nerrnos (pinkAbiDefault arch)) :
    RetvalRoundTrips true t rs retval error ↔ error ≠ 0 ∨
      ¬ (-((nerrnos (pinkAbiDefault arch) : Int) - 1) ≤ retval.toInt ∧ retval.toInt ≤ -1) := by
  rw [retvalRoundTrips_iff_classified alive]
  by_cases he : error = 0
  · have hc := classifyRetval_classified retval (pinkAbiDefault arch)
    rw [signedRetval_default] at hc
    simp only [he, ne_eq, not_true_eq_false, if_false, false_or]
    rw [← hc.reported, Decidable.not_not]
    exact ⟨fun h => congrArg Prod.snd h, fun h => Prod.ext (hc.value h) h⟩
  · have hne : error.toInt ≠ 0 := fun h0 => he (BitVec.eq_of_toInt_eq (h0.trans rfl))
    simp only [he, ne_eq, not_false_eq_true, if_true, true_or, iff_true]
    exact classifyRetval_error (by omega) hlt

/-- **A PowerPC result round-trips exactly if the build can fill a regset, and the result is an
    error or is not the negation of one.** The first condition is the macro's and no build meets
    it; the second is what the reader would still get wrong if one did. -/
theorem retvalRoundTrips_iff (haveGetregs : Bool) (t : Tracee arch) (rs : Regset arch)
    (retval : Addr arch) (error : BitVec 32) (alive : t.err = none) (hpos : 0 ≤ error.toInt)
    (hlt : error.toInt < nerrnos (pinkAbiDefault arch)) :
    RetvalRoundTrips haveGetregs t rs retval error ↔ haveGetregs = true ∧ (error ≠ 0 ∨
      ¬ (-((nerrnos (pinkAbiDefault arch) : Int) - 1) ≤ retval.toInt ∧ retval.toInt ≤ -1)) := by
  cases haveGetregs with
  | true => rw [retvalRoundTrips_filled_iff rs retval error alive hpos hlt, eq_self, true_and]
  | false => exact iff_of_false (not_retvalRoundTrips t rs retval error) (by simp)

/-- A tracee with all registers zero, and a regset that was filled from it. -/
def zeroTracee : Tracee .powerpc64 := ⟨fun _ => 0, none⟩

def zeroRegset : Regset .powerpc64 := ⟨fun _ => 0, pinkAbiDefault _⟩

/-- In a build as `configure` makes it, a result of 5 does not come back: the fill is refused, and
    what is read is the zero from before. With the macro set, a result of `-1` that is no error
    comes back as `EPERM`. -/
theorem five_and_minus_one_lost :
    (∃ t', pinkWriteRetval zeroTracee zeroRegset 5 0 = .ok t' ∧
      (pinkRegsetFill false t' zeroRegset).1 = .error .enosys ∧
      pinkReadRetval (pinkRegsetFill false t' zeroRegset).2 = (0, 0)) ∧
    ¬ RetvalRoundTrips false zeroTracee zeroRegset 5 0 ∧
    ¬ RetvalRoundTrips true zeroTracee zeroRegset (-1) 0 := by
  refine ⟨⟨_, rfl, rfl, by decide +kernel⟩, not_retvalRoundTrips _ _ _ _, ?_⟩
  rw [retvalRoundTrips_iff_classified rfl]
  decide +kernel

/-- An error comes back where a fill can be had. -/
theorem error_round_trips : RetvalRoundTrips true zeroTracee zeroRegset (-1) 1 :=
  (retvalRoundTrips_iff true _ _ _ _ rfl (by decide) (by rw [nerrnos_eq]; decide)).mpr
    ⟨rfl, Or.inl (by decide)⟩

end Powerpc

end PinkTrace
