import PinkTrace.Proof.Name
import PinkTrace.Proof.Regset.Accessors
import PinkTrace.Regset.AArch64

/-!
# Values and errors

A result is an error exactly if it is the negation of one of the errors the build has names for,
in the width of the ABI. `classifyRetval` decides that for the width `is_negated_errno` compares
in, so what is left per ABI is whether that is the width of its results. It is, for every ABI but
one: an x32 call returns 64 bits, and is looked at as if it returned 32.

`Classified` is stated for a signed number that is *given*, next to the register it is in. What
the number is taken from, 32 bits or 64, is thereby a choice of whoever states a theorem, and
that for x32 is the one where that choice and the code's are not the same.
-/

set_option autoImplicit false

namespace PinkTrace

open Lib

variable {arch : Arch}

/-- The result `signed`, which is `register` as a `long`, comes out as it should: as `-1` and its
    error, which has a name, or else as it is. -/
structure Classified (abi : Abi arch) (signed : Int) (register : Addr arch)
    (out : Addr arch × BitVec 32) : Prop where
  reported : out.2 ≠ 0 ↔ -((nerrnos abi : Int) - 1) ≤ signed ∧ signed ≤ -1
  error : out.2 ≠ 0 → out.1 = -1 ∧ out.2.toInt = -signed ∧
    ∃ name, pinkNameErrno arch out.2.toInt abi.index = some (some name)
  value : out.2 = 0 → out.1 = register

/-! ## Every error has a name -/

set_option maxRecDepth 100000 in
/-- Every row of the errors has a name, also those of numbers that are no error. -/
theorem errnoent_named (powerpc : Bool) : (errnoent powerpc).all Option.isSome = true := by
  cases powerpc <;> decide +kernel

/-- So every error below the bound has a name, and an error that a reader reports can be printed.
    -/
theorem pinkNameErrno_named (abi : Abi arch) {k : Nat} (hk : k < nerrnos abi) :
    ∃ name, pinkNameErrno arch k abi.index = some (some name) := by
  have hrow := List.all_eq_true.mp (errnoent_named arch.isPowerpc) _ (List.getElem_mem hk)
  obtain ⟨name, hname⟩ := Option.isSome_iff_exists.mp hrow
  refine ⟨name, nameIn_eq_some.mpr ⟨abi, abiRow_index abi, k, rfl, ?_⟩⟩
  rw [← hname]
  exact List.getElem?_eq_getElem hk

/-- **Results are classified in the width of the comparison.** That much holds on every build; the
    rest of the file is about that width. -/
theorem classifyRetval_classified (val : Addr arch) (abi : Abi arch) :
    Classified abi (signedRetval val abi) val (classifyRetval val abi) := by
  by_cases herr : isNegatedErrno val abi = true
  · have hwindow := (isNegatedErrno_iff val abi).mp herr
    have hint := toInt_error hwindow
    have hne : (-val).setWidth 32 ≠ 0 := fun h0 => by
      have hzero : (0 : BitVec 32).toInt = 0 := rfl
      rw [h0, hzero] at hint
      omega
    obtain ⟨name, hname⟩ := @pinkNameErrno_named arch abi (-signedRetval val abi).toNat (by omega)
    rw [classifyRetval, if_pos herr]
    refine ⟨iff_of_true hne (by omega), fun _ => ⟨rfl, hint, name, ?_⟩, fun h0 => absurd h0 hne⟩
    rw [hint, ← hname, Int.toNat_of_nonneg (by omega)]
  · have hwindow := mt (isNegatedErrno_iff val abi).mpr herr
    rw [classifyRetval, if_neg herr]
    exact ⟨iff_of_false (fun h => h rfl) (by omega), fun h => absurd rfl h, fun _ => rfl⟩

/-! ## The ABIs -/

theorem signedRetval_x86_64 (v : BitVec 64) : @signedRetval .x86_64 v .x86_64 = v.toInt := rfl

theorem signedRetval_x32 (v : BitVec 64) :
    @signedRetval .x86_64 v .x32 = (v.setWidth 32).toInt := rfl

theorem signedRetval_aarch64 (v : BitVec 64) : @signedRetval .aarch64 v .aarch64 = v.toInt := rfl

/-- A 32-bit register that was zero-extended is cut down again before it is compared. -/
theorem signedRetval_setWidth (u : BitVec 32) :
    @signedRetval .aarch64 (u.setWidth 64) .arm = u.toInt := by
  have hback : (u.setWidth 64).setWidth 32 = u := by
    rw [BitVec.setWidth_setWidth_of_le u (by decide), BitVec.setWidth_eq]
  exact congrArg BitVec.toInt hback

/-- A reader that classifies in the width of the ABI. -/
theorem classified_of_width {val : Addr arch} {abi : Abi arch} {signed : Int}
    {out : Addr arch × BitVec 32} (hout : out = classifyRetval val abi)
    (hsigned : signedRetval val abi = signed) : Classified abi signed val out := by
  rw [hout, ← hsigned]
  exact classifyRetval_classified val abi

/-- **Results are classified in the width of the ABI**, for the two ABIs of an AArch64 build and
    for those of an `x86_64` build that are not x32. The number that is judged is the register as
    the call left it; how it is widened afterwards, with its sign or without, is part of the
    statement too. -/
theorem retval_classified (x86 : X86Regset) (arm : Aarch64.Regset) :
    @Classified .x86_64 .x86_64 (x86.x86_64R .rax).toInt (x86.x86_64R .rax)
      (pinkReadRetval { x86 with abi := .x86_64 }) ∧
    @Classified .x86_64 .i386 (x86.i386R .eax).toInt ((x86.i386R .eax).signExtend 64)
      (pinkReadRetval { x86 with abi := .i386 }) ∧
    @Classified .aarch64 .aarch64 (arm.aarch64R 0).toInt (arm.aarch64R 0)
      (Aarch64.pinkReadRetval { arm with abi := .aarch64 }) ∧
    @Classified .aarch64 .arm (arm.armR 0).toInt ((arm.armR 0).setWidth 64)
      (Aarch64.pinkReadRetval { arm with abi := .arm }) := by
  refine ⟨?_, ?_, ?_, ?_⟩
  · exact classified_of_width rfl (signedRetval_x86_64 _)
  · exact classified_of_width rfl (signedRetval_signExtend .i386 _)
  · exact classified_of_width rfl (signedRetval_aarch64 _)
  · exact classified_of_width rfl (signedRetval_setWidth _)

/-! ## x32 -/

/-- The result of an x32 call is classified in 64 bits, which is how wide it is. -/
def X32Classified (rs : X86Regset) : Prop :=
  @Classified .x86_64 .x32 (rs.x86_64R .rax).toInt (rs.x86_64R .rax)
    (pinkReadRetval { rs with abi := .x32 })

/-- The negation of an error, for an x32 tracee. -/
def NegatesX32Errno (n : Int) : Prop := -((nerrnos Abi.x32 : Int) - 1) ≤ n ∧ n ≤ -1

/-- **The result of an x32 call is classified in 64 bits exactly if it is an error, or does not
    look like one in 32.** What is mistaken is a large success, such as a position in a file,
    whose lower half happens to be a small negative `int`. -/
theorem x32Classified_iff (rs : X86Regset) :
    X32Classified rs ↔ (NegatesX32Errno ((rs.x86_64R .rax).setWidth 32).toInt →
      NegatesX32Errno (rs.x86_64R .rax).toInt) := by
  have hnarrow : @Classified .x86_64 .x32 ((rs.x86_64R .rax).setWidth 32).toInt
      (rs.x86_64R .rax) (pinkReadRetval { rs with abi := .x32 }) :=
    classified_of_width rfl (signedRetval_x32 _)
  -- an error in 64 bits is the same number in 32
  have hsame : NegatesX32Errno (rs.x86_64R .rax).toInt →
      ((rs.x86_64R .rax).setWidth 32).toInt = (rs.x86_64R .rax).toInt := by
    rintro ⟨hlo, hhi⟩
    rw [nerrnos_eq] at hlo
    have hsmall : ∀ v : BitVec 64, -2 ^ 31 ≤ v.toInt → v.toInt < 2 ^ 31 →
        (v.setWidth 32).toInt = v.toInt := fun v => @toInt_setWidth_of_small .x86_64 v
    exact hsmall _ (by omega) (by omega)
  constructor
  · intro h hlow
    exact h.reported.mp (hnarrow.reported.mpr hlow)
  · intro h
    by_cases hwide : NegatesX32Errno (rs.x86_64R .rax).toInt
    · rw [hsame hwide] at hnarrow
      exact hnarrow
    · have hzero : (pinkReadRetval { rs with abi := .x32 }).2 = 0 := by
        refine Decidable.byContradiction fun hne => ?_
        exact hwide (h (hnarrow.reported.mp hne))
      exact ⟨iff_of_false (fun hne => hne hzero) hwide, fun hne => absurd hzero hne, hnarrow.value⟩

/-- An x32 tracee back from an `lseek` to the last byte of four gigabytes. -/
def lastOffset : X86Regset := ⟨leArray 8 fun _ => 0xffffffff, sizeofX86_64Regs, .x32⟩

/-- …which is read as `EPERM`. -/
theorem last_offset_taken_for_error :
    pinkReadRetval lastOffset = (-1, 1) ∧ ¬ X32Classified lastOffset := by
  have hread : pinkReadRetval lastOffset = (-1, 1) := by decide +kernel
  refine ⟨hread, fun h => ?_⟩
  have herr : (pinkReadRetval { lastOffset with abi := .x32 }).2 ≠ 0 := by
    decide +kernel
  have hvalue : (lastOffset.x86_64R .rax).toInt = 0xffffffff := by decide +kernel
  have hneg := (h.reported.mp herr).2
  change (lastOffset.x86_64R .rax).toInt ≤ -1 at hneg
  rw [hvalue] at hneg
  exact absurd hneg (by decide)

end PinkTrace
