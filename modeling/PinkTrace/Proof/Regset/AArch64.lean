import PinkTrace.Proof.Retval

/-!
# AArch64: one register for two readings, and half a system call number

The writers of an AArch64 build go through the caller's regset, so what they do to each other can
be read off it without another fill. Everything is kept apart there but the result and the first
argument, which are both `x0`: writing either is writing the other (`Undisturbed`).

`pink_write_syscall` installs the low 16 bits of a number. That is the call asked for as long as
there are no others, and neither of the two ABIs keeps to that (`InstallsCall`).

Both results are exact, and in both the exception is a harmless one: `x0` may be written with what
it holds already, and a number may be cut if neither it nor its rest names a call. Leaving these
out would make the statements shorter and one direction false.
-/

set_option autoImplicit false

namespace PinkTrace

namespace Aarch64

open Lib

variable {t : Tracee} {rs : Regset}

/-! ## One register of the regset -/

/-- Assigning to a register of the 64-bit layout… -/
theorem aarch64R_set_self (rs : Regset) (k : Nat) (v : BitVec 64) :
    (rs.setAarch64R k v).aarch64R k = v := by
  apply BitVec.eq_of_toNat_eq
  have hv := v.isLt
  rw [Regset.aarch64R, Regset.setAarch64R, leLoad_leStore, BitVec.toNat_ofNat]
  omega

/-- …leaves the others alone: their bytes do not overlap. -/
theorem aarch64R_set_of_ne {j k : Nat} (h : j ≠ k) (rs : Regset) (v : BitVec 64) :
    (rs.setAarch64R k v).aarch64R j = rs.aarch64R j := by
  rw [Regset.aarch64R, Regset.setAarch64R, leLoad_leStore_of_disjoint (by omega)]
  rfl

theorem pinkReadArgument_aarch64 (habi : rs.abi = .aarch64) (j : Nat) :
    pinkReadArgument rs j = if j < pinkMaxArgs then .ok (rs.aarch64R j) else .error .einval := by
  rw [pinkReadArgument, habi]

theorem pinkReadRetval_aarch64 (habi : rs.abi = .aarch64) :
    pinkReadRetval rs = @classifyRetval .aarch64 (rs.aarch64R 0) .aarch64 := by
  rw [pinkReadRetval, habi]

/-- Two results that are read alike are the same. So a reading of the result is as good as the
    register, which gives the converse direction. -/
theorem classifyRetval_inj {v w : BitVec 64}
    (h : @classifyRetval .aarch64 v .aarch64 = @classifyRetval .aarch64 w .aarch64) : v = w := by
  have hv := @classifyRetval_classified .aarch64 v .aarch64
  have hw := @classifyRetval_classified .aarch64 w .aarch64
  rw [signedRetval_aarch64] at hv hw
  rw [h] at hv
  by_cases hzero : (@classifyRetval .aarch64 w .aarch64).2 = 0
  · exact (hv.value hzero).symm.trans (hw.value hzero)
  · have hneg := (hv.error hzero).2.1.symm.trans (hw.error hzero).2.1
    exact BitVec.eq_of_toInt_eq (by omega)

/-! ## What is written, and what else changes -/

/-- What `pink_write_retval` assigns: the value, or the negated error in its place. -/
def writtenRetval (rv : BitVec 64) (e : BitVec 32) : BitVec 64 :=
  if e ≠ 0 then (-e).signExtend 64 else rv

/-- Neither writer, where it succeeds, disturbs what it does not write: not an argument the other
    ones and the result, and not a result the arguments. -/
structure Undisturbed (t : Tracee) (rs : Regset) (i : Nat) (v rv : BitVec 64) (e : BitVec 32) :
    Prop where
  argument : ∀ t', (pinkWriteArgument t rs i v).result = .ok t' →
    pinkReadArgument (pinkWriteArgument t rs i v).regset i = .ok v ∧
    (∀ j, j ≠ i → pinkReadArgument (pinkWriteArgument t rs i v).regset j =
      pinkReadArgument rs j) ∧
    pinkReadRetval (pinkWriteArgument t rs i v).regset = pinkReadRetval rs
  retval : ∀ t', (pinkWriteRetval t rs rv e).result = .ok t' → ∀ j, j < pinkMaxArgs →
    pinkReadArgument (pinkWriteRetval t rs rv e).regset j = pinkReadArgument rs j

theorem regset_writeArgument (habi : rs.abi = .aarch64) {i : Nat} (hi : i < pinkMaxArgs)
    (t : Tracee) (v : BitVec 64) :
    (pinkWriteArgument t rs i v).regset = rs.setAarch64R i v := by
  simp only [pinkWriteArgument, if_pos hi, habi]

theorem regset_writeRetval (habi : rs.abi = .aarch64) (t : Tracee) (rv : BitVec 64)
    (e : BitVec 32) :
    (pinkWriteRetval t rs rv e).regset = rs.setAarch64R 0 (writtenRetval rv e) := by
  simp only [pinkWriteRetval, habi]
  rfl

/-- Writing an argument keeps the others, and the result unless it is the first argument. The last
    part is an equivalence, as the exception has to be exact. -/
theorem read_written_argument (habi : rs.abi = .aarch64) {i : Nat} (hi : i < pinkMaxArgs)
    (v : BitVec 64) :
    pinkReadArgument (rs.setAarch64R i v) i = .ok v ∧
    (∀ j, j ≠ i → pinkReadArgument (rs.setAarch64R i v) j = pinkReadArgument rs j) ∧
    (pinkReadRetval (rs.setAarch64R i v) = pinkReadRetval rs ↔ (i = 0 → v = rs.aarch64R 0)) := by
  have habi' : (rs.setAarch64R i v).abi = .aarch64 := habi
  refine ⟨?_, fun j hj => ?_, ?_⟩
  · rw [pinkReadArgument_aarch64 habi', if_pos hi, aarch64R_set_self]
  · rw [pinkReadArgument_aarch64 habi', pinkReadArgument_aarch64 habi, aarch64R_set_of_ne hj]
  · rw [pinkReadRetval_aarch64 habi', pinkReadRetval_aarch64 habi]
    by_cases h0 : i = 0
    · subst h0
      rw [aarch64R_set_self]
      exact ⟨fun h _ => classifyRetval_inj h, fun h => by rw [h rfl]⟩
    · rw [aarch64R_set_of_ne (Ne.symm h0)]
      exact ⟨fun _ h => absurd h h0, fun _ => rfl⟩

/-- **The accessors of an AArch64 regset leave each other alone exactly as long as `x0` is written
    with what it holds.** It is the first argument and the result at once, in the regset as in the
    tracee. Nothing is asked of a writer that fails. -/
theorem undisturbed_iff (t : Tracee) (rs : Regset) (habi : rs.abi = .aarch64) {i : Nat}
    (hi : i < pinkMaxArgs) (v rv : BitVec 64) (e : BitVec 32) :
    Undisturbed t rs i v rv e ↔
      ((∃ t', (pinkWriteArgument t rs i v).result = .ok t') → i = 0 → v = rs.aarch64R 0) ∧
      ((∃ t', (pinkWriteRetval t rs rv e).result = .ok t') →
        writtenRetval rv e = rs.aarch64R 0) := by
  -- a result is written where the first argument is, so both writers are instances of one
  obtain ⟨hself, hothers, hretval⟩ := read_written_argument habi hi v
  obtain ⟨hfirst, hrest, -⟩ := read_written_argument habi (by decide : 0 < pinkMaxArgs)
    (writtenRetval rv e)
  constructor
  · intro h
    constructor
    · rintro ⟨t', hok⟩
      have hkept := (h.argument t' hok).2.2
      rw [regset_writeArgument habi hi] at hkept
      exact hretval.mp hkept
    · rintro ⟨t', hok⟩
      have hkept := h.retval t' hok 0 (by decide)
      rw [regset_writeRetval habi, hfirst, pinkReadArgument_aarch64 habi,
        if_pos (by decide)] at hkept
      exact Except.ok.inj hkept
  · rintro ⟨harg, hret⟩
    refine ⟨fun t' hok => ?_, fun t' hok j hj => ?_⟩
    · rw [regset_writeArgument habi hi]
      exact ⟨hself, hothers, hretval.mpr (harg ⟨t', hok⟩)⟩
    · rw [regset_writeRetval habi]
      by_cases h0 : j = 0
      · rw [h0, hfirst, hret ⟨t', hok⟩, pinkReadArgument_aarch64 habi, if_pos (by decide)]
      · exact hrest j h0

/-- A tracee in user mode, at a call with all registers zero, and the regset it fills. -/
def zeroTracee : Tracee where
  regs _ := 0
  origX0 := 0
  syscallno := 0
  compat := false
  err := none
  validPstate _ := true
  pokeuserErr := some .eio

def zeroRegset : Regset := ⟨fun _ => 0, sizeofAarch64Regs, .aarch64⟩

/-- A first argument of `5` is also the result, and a result of `7` is also the first argument. -/
theorem first_argument_is_result : ¬ Undisturbed zeroTracee zeroRegset 0 5 7 0 := by
  intro h
  have hkept := (h.argument _ rfl).2.2
  exact absurd hkept (by decide +kernel)

/-- The second argument is nothing else, and a result that is already there changes nothing. -/
theorem second_argument_undisturbed : Undisturbed zeroTracee zeroRegset 1 5 0 0 :=
  (undisturbed_iff zeroTracee zeroRegset rfl (by decide) 5 0 0).mpr
    ⟨fun _ h => absurd h (by decide), fun _ => by decide +kernel⟩

/-! ## System calls -/

/-- The call that `pink_write_syscall` installs has the name of the one that was asked for. By
    name, since two numbers without one are as good as each other. -/
def InstallsCall (t : Tracee) (rs : Regset) (sysnum : BitVec 64) : Prop :=
  ∃ t', (pinkWriteSyscall t rs sysnum).result = .ok t' ∧
    pinkNameSyscall .aarch64 (t'.syscallno.setWidth 64) rs.abi.index =
      pinkNameSyscall .aarch64 sysnum rs.abi.index

/-- What is installed is the lower half of the lower half. From here on it is a question about two
    numbers and a table. -/
theorem installsCall_iff_low (alive : t.err = none) (sysnum : BitVec 64) :
    InstallsCall t rs sysnum ↔
      pinkNameSyscall .aarch64 (BitVec.ofNat 64 (sysnum.toNat % 2 ^ 16)) rs.abi.index =
        pinkNameSyscall .aarch64 sysnum rs.abi.index := by
  have hlow : ((sysnum.setWidth 16).setWidth 32).setWidth 64 =
      BitVec.ofNat 64 (sysnum.toNat % 2 ^ 16) := by
    apply BitVec.eq_of_toNat_eq
    simp only [BitVec.toNat_setWidth, BitVec.toNat_ofNat]
    omega
  rw [← hlow]
  simp only [InstallsCall, pinkWriteSyscall, setSystemCall, alive, Except.ok.injEq,
    exists_eq_left']

/-- **The call asked for is installed exactly if its number has 16 bits, or if neither it nor what
    is left of it in 16 bits names a call.** Calls are compared by their names in the table, so
    two numbers that have none count as the same. -/
theorem installsCall_iff (t : Tracee) (rs : Regset) (alive : t.err = none) (sysnum : BitVec 64) :
    InstallsCall t rs sysnum ↔ sysnum.toNat < 2 ^ 16 ∨
      (pinkNameSyscall .aarch64 sysnum rs.abi.index = some none ∧
        pinkNameSyscall .aarch64 (BitVec.ofNat 64 (sysnum.toNat % 2 ^ 16)) rs.abi.index =
          some none) := by
  have hinverse := syscall_inverse .aarch64 rs.abi.index
  rw [installsCall_iff_low alive]
  constructor
  · intro h
    by_cases hlt : sysnum.toNat < 2 ^ 16
    · exact Or.inl hlt
    · obtain ⟨name, hname⟩ := Option.isSome_iff_exists.mp (hinverse.name_in_range sysnum)
      cases name with
      | none => exact Or.inr ⟨hname, h.trans hname⟩
      | some s =>
        -- a name belongs to one number, and these are two
        have hsame : BitVec.ofNat 64 (sysnum.toNat % 2 ^ 16) = sysnum :=
          hinverse.name_inj (h.trans hname) hname
        have hval := congrArg BitVec.toNat hsame
        rw [BitVec.toNat_ofNat] at hval
        omega
  · rintro (hlt | ⟨hname, hname'⟩)
    · have hself : BitVec.ofNat 64 (sysnum.toNat % 2 ^ 16) = sysnum := by
        rw [Nat.mod_eq_of_lt hlt, BitVec.ofNat_toNat, BitVec.setWidth_eq]
      rw [hself]
    · rw [hname, hname']

/-- The private `breakpoint` of ARM: what is installed is `exit`. -/
theorem breakpoint_installed_as_exit :
    pinkLookupSyscall .aarch64 (some "breakpoint") (Abi.index .arm) = some 0xf0001 ∧
    ¬ InstallsCall zeroTracee { zeroRegset with abi := .arm } 0xf0001 := by
  have hasked : pinkNameSyscall .aarch64 0xf0001 (Abi.index .arm) = some (some "breakpoint") := by
    decide +kernel
  have hexit : pinkNameSyscall .aarch64 1 (Abi.index .arm) = some (some "exit") := by
    decide +kernel
  refine ⟨(syscall_inverse .aarch64 (Abi.index .arm)).lookup_of_name _ _ hasked, ?_⟩
  rintro ⟨t', hok, hname⟩
  obtain rfl := Except.ok.inj hok
  have hsame : some (some "exit") = some (some "breakpoint") :=
    hexit.symm.trans (hname.trans hasked)
  exact absurd hsame (by decide)

theorem read_installed : InstallsCall zeroTracee { zeroRegset with abi := .arm } 3 :=
  (installsCall_iff zeroTracee { zeroRegset with abi := .arm } rfl 3).mpr (Or.inl (by decide))

end Aarch64

end PinkTrace
