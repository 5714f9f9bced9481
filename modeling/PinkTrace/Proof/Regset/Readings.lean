import PinkTrace.Proof.Regset.Fill

/-!
# What the readers return

Everything a tracer can learn from a regset is one value of `Readings`. `readingsOf` computes it
from an ABI and the 64-bit registers alone, and `Shows.readings` says that the readers return
just that. With it the code of the legacy path is equivalent to `PTRACE_GETREGSET`: the two show
the same registers under the same ABI, and bytes no longer matter.

The legacy path as a whole is not. It goes through `pink_trace_get_regs`, which fetches nothing
unless `PINK_HAVE_GETREGS` is set, and no build sets it. So there are two things to say about it,
and what is proved of `LegacyAgrees` says both at once: the overlay in place is right for every
content of the registers, and the macro is the one thing that is missing.
-/

set_option autoImplicit false

namespace PinkTrace

variable {t : X86Tracee} {rs : X86Regset} {abi : Abi .x86_64} {regs : X86Reg → BitVec 64}

/-- The answers of `pink_read_abi`, `pink_read_syscall`, `pink_read_retval` and
    `pink_read_argument`. One record, so that "no reader sees a difference" is an equation. -/
structure Readings where
  abi : Abi .x86_64
  sysnum : BitVec 64
  retval : BitVec 64 × BitVec 32
  argument : Nat → Except Errno (BitVec 64)

def X86Regset.readings (rs : X86Regset) : Readings where
  abi := pinkReadAbi rs
  sysnum := pinkReadSyscall rs
  retval := pinkReadRetval rs
  argument := pinkReadArgument rs

/-! ## …out of an ABI and the registers -/

/-- What an ABI leaves of a register, as a `long`. Sign-extended for i386, since that is how the
    readers widen all but the system call number. -/
def asLong : Abi .x86_64 → BitVec 64 → BitVec 64
  | .i386, v => (v.setWidth 32).signExtend 64
  | .x86_64, v | .x32, v => v

/-- The system call number. For i386 it is zero-extended, unlike everything else. -/
def sysnumOf : Abi .x86_64 → BitVec 64 → BitVec 64
  | .i386, origRax => (origRax.setWidth 32).setWidth 64
  | .x32, origRax => origRax - x32SyscallBit
  | .x86_64, origRax => origRax

/-- The register that carries an argument. Taken from the writers; that the readers use the same
    ones is the next section. -/
def argReg : Abi .x86_64 → Fin pinkMaxArgs → X86Reg
  | .i386 => writeArgI386
  | .x86_64 | .x32 => writeArgX86_64

/-- The answer of `pink_read_argument` for any index, the ones out of range included. -/
def argumentOf (abi : Abi .x86_64) (regs : X86Reg → BitVec 64) (i : Nat) :
    Except Errno (BitVec 64) :=
  if h : i < pinkMaxArgs then .ok (asLong abi (regs (argReg abi ⟨i, h⟩))) else .error .einval

/-- All four answers, out of an ABI and the 64-bit registers alone. -/
def readingsOf (abi : Abi .x86_64) (regs : X86Reg → BitVec 64) : Readings where
  abi := abi
  sysnum := sysnumOf abi (regs .origRax)
  retval := @classifyRetval .x86_64 (asLong abi (regs .rax)) abi
  argument := argumentOf abi regs

/-! ## The readers -/

-- the two switches of the reader against those of the writer
theorem readArgX86_64_eq (i : Fin pinkMaxArgs) : readArgX86_64 i = writeArgX86_64 i := by
  revert i
  decide

/-- The fields a 32-bit argument is read from are among the ten that the legacy path assigns, and
    each is the low half of the register that the writer writes. -/
theorem readArgI386_wide (i : Fin pinkMaxArgs) :
    readArgI386 i ∈ overlaid ∧ (readArgI386 i).wide = writeArgI386 i := by
  revert i
  decide

theorem Shows.readSyscall (h : Shows rs abi regs) :
    pinkReadSyscall rs = sysnumOf abi (regs .origRax) := by
  obtain ⟨rfl, hwide, hnarrow⟩ := h
  unfold pinkReadSyscall
  cases habi : rs.abi with
  | only h => exact absurd h (by decide)
  | i386 => rw [sysnumOf, hnarrow habi .origEax (by decide), I386Reg.wide]
  | x86_64 => rw [sysnumOf, hwide (by rw [habi]; simp)]
  | x32 => rw [sysnumOf, hwide (by rw [habi]; simp)]

theorem Shows.readRetval (h : Shows rs abi regs) :
    pinkReadRetval rs = @classifyRetval .x86_64 (asLong abi (regs .rax)) abi := by
  obtain ⟨rfl, hwide, hnarrow⟩ := h
  unfold pinkReadRetval
  cases habi : rs.abi with
  | only h => exact absurd h (by decide)
  | i386 =>
    simp only [asLong, hnarrow habi .eax (by decide), I386Reg.wide]
    rfl
  | x86_64 | x32 =>
    simp only [asLong, hwide (by rw [habi]; simp)]
    rfl

theorem Shows.readArgument (h : Shows rs abi regs) :
    pinkReadArgument rs = argumentOf abi regs := by
  obtain ⟨rfl, hwide, hnarrow⟩ := h
  funext i
  unfold pinkReadArgument argumentOf
  split
  · rename_i hi
    obtain ⟨hmem, hreg⟩ := readArgI386_wide ⟨i, hi⟩
    cases habi : rs.abi with
    | only h => exact absurd h (by decide)
    | i386 => simp only [asLong, argReg, hnarrow habi _ hmem, hreg]
    | x86_64 => simp only [asLong, argReg, hwide (by rw [habi]; simp), readArgX86_64_eq]
    | x32 => simp only [asLong, argReg, hwide (by rw [habi]; simp), readArgX86_64_eq]
  · rfl

/-- **The readers return what the ABI makes of the registers.** -/
theorem Shows.readings (h : Shows rs abi regs) : rs.readings = readingsOf abi regs := by
  rw [X86Regset.readings, h.readSyscall, h.readRetval, h.readArgument, pinkReadAbi, h.detected,
    readingsOf]

/-! ## The legacy path -/

/-- What the legacy path is for. Both ways to fill a regset yield one, no reader sees a
    difference between the two, and of a 32-bit tracee the legacy path leaves the low half of each
    of its ten registers. -/
def LegacyAgrees (haveGetregs : Bool) (t : X86Tracee) (rs rs' : X86Regset) : Prop :=
  ∃ new old, pinkRegsetFill ⟨true, haveGetregs⟩ t rs = (.ok (), new) ∧
    pinkRegsetFill ⟨false, haveGetregs⟩ t rs' = (.ok (), old) ∧ old.readings = new.readings ∧
    (t.regs .cs = 0x23 → ∀ r ∈ overlaid, old.i386R r = (t.regs r.wide).setWidth 32)

/-- With the macro, by `Shows` for both fills. The premise about the code segment is what makes
    them detect one ABI. -/
theorem legacyAgrees_of_getregs {t : X86Tracee} (alive : t.err = none)
    (hcs : t.compat = true ↔ t.regs .cs = 0x23) (rs rs' : X86Regset) :
    LegacyAgrees true t rs rs' := by
  obtain ⟨new, hnew, hshowsNew⟩ := pinkRegsetFill_shows ⟨true, true⟩ rfl alive rs
  obtain ⟨old, hold, hshowsOld⟩ := pinkRegsetFill_shows ⟨false, true⟩ rfl alive rs'
  have hruns : t.runsI386 ⟨false, true⟩ = t.runsI386 ⟨true, true⟩ := by
    rw [X86Tracee.runsI386, X86Tracee.runsI386, if_pos rfl, if_neg (by decide), Bool.eq_iff_iff,
      decide_eq_true_eq, hcs]
  have habi : t.abi ⟨false, true⟩ = t.abi ⟨true, true⟩ := by
    rw [X86Tracee.abi, X86Tracee.abi, hruns]
  refine ⟨new, old, hnew, hold, ?_, ?_⟩
  · rw [hshowsNew.readings, hshowsOld.readings, habi]
  · intro h32
    exact hshowsOld.narrow (by simp [X86Tracee.abi, X86Tracee.runsI386, h32])

/-- Without the macro there is no second regset to compare: `pink_trace_get_regs` is
    `return -ENOSYS`. -/
theorem not_legacyAgrees (t : X86Tracee) (rs rs' : X86Regset) : ¬ LegacyAgrees false t rs rs' := by
  rintro ⟨new, old, -, hold, -⟩
  exact absurd (pinkRegsetFill_alive hold).2 (by decide)

/-- **The two ways to fill a regset are equivalent exactly if `PINK_HAVE_GETREGS` is set**, for
    every live tracee whose code segment tells 32-bit code apart. Set, the overlay in place gives
    every reader what the kernel's own layout gives it; not set, as in every build that
    `configure` makes, the legacy path fills nothing. -/
theorem legacyAgrees_iff (haveGetregs : Bool) (t : X86Tracee) (alive : t.err = none)
    (hcs : t.compat = true ↔ t.regs .cs = 0x23) (rs rs' : X86Regset) :
    LegacyAgrees haveGetregs t rs rs' ↔ haveGetregs = true := by
  cases haveGetregs with
  | true => exact iff_of_true (legacyAgrees_of_getregs alive hcs rs rs') rfl
  | false => exact iff_of_false (not_legacyAgrees t rs rs') (by decide)

/-- A 32-bit tracee whose registers also have something in their high halves. -/
def compatTracee : X86Tracee where
  regs := fun
    | .cs => 0x23
    | r => BitVec.ofNat 64 (r.index * 0x100000001)
  compat := true
  err := none

/-- Its ten registers come out of the overlay as they should, where there is an overlay. -/
theorem compatTracee_fills_agree : compatTracee.regs .cs = 0x23 ∧
    LegacyAgrees true compatTracee pinkRegsetZero pinkRegsetZero :=
  ⟨rfl, (legacyAgrees_iff true compatTracee rfl (by decide) pinkRegsetZero pinkRegsetZero).mpr
    rfl⟩

/-- The same tracee in a build as `configure` makes it: the fill returns `-ENOSYS`. -/
theorem compatTracee_legacy_refused :
    (pinkRegsetFill ⟨false, false⟩ compatTracee pinkRegsetZero).1 = .error .enosys ∧
      ¬ LegacyAgrees false compatTracee pinkRegsetZero pinkRegsetZero := by
  refine ⟨rfl, ?_⟩
  rintro ⟨new, old, -, hold, -⟩
  cases hold

end PinkTrace
