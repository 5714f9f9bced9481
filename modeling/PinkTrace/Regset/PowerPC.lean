import PinkTrace.Kernel
import PinkTrace.Retval

/-!
# The registers of a PowerPC build (`regset.c`, `read.c`, `write.c`)

There is one layout, `struct pt_regs`, and one register at a time is written through
`PTRACE_POKEUSER`. PowerPC signals a failed call out of band: `r3` holds the positive error
number, and a bit of the condition register, `SO`, says that it is one. `pink_write_retval` writes
both, the second after reading it. `pink_read_retval` negates `r3` if the bit is set, and then
decides as on every other build: in band.

The build is the same for 32-bit and 64-bit longs, so everything here is over an `Arch`.

As on i386, `pink_regset_fill` has nothing but `pink_trace_get_regs` to go by, and with it the
`-ENOSYS` of a build in which `PINK_HAVE_GETREGS` is undefined. Every build that `configure` makes
is one (see `RegsConfig`).
-/

set_option autoImplicit false

namespace PinkTrace

namespace Powerpc

open Abi (pinkAbiDefault)

variable {arch : Arch}

/-! `asm/ptrace.h` numbers the words of `struct pt_regs`; the general registers come first. -/

abbrev ptR0 : Nat := 0
abbrev ptR3 : Nat := 3
abbrev ptOrigR3 : Nat := 34
abbrev ptCcr : Nat := 38

/-- `sizeof(struct pt_regs) / sizeof(long)`. -/
abbrev ptRegsCount : Nat := 44

/-- `struct pt_regs`, by word. The code reaches it by name in a snapshot and by offset in the
    tracee, and the numbers of `asm/ptrace.h` are what the two have in common. -/
abbrev PtRegs (arch : Arch) := Nat → Addr arch

/-- `struct pink_regset`. -/
structure Regset (arch : Arch) where
  ppcRegs : PtRegs arch
  abi : Abi arch

namespace Regset

/-- `ppc_regs.gpr[k]`. -/
def gpr (rs : Regset arch) (k : Nat) : Addr arch := rs.ppcRegs k

def origGpr3 (rs : Regset arch) : Addr arch := rs.ppcRegs ptOrigR3

def ccr (rs : Regset arch) : Addr arch := rs.ppcRegs ptCcr

end Regset

/-! ## The kernel's side -/

/-- A stopped tracee, and what every request to it fails with once it is gone. -/
structure Tracee (arch : Arch) where
  regs : PtRegs arch
  err : Option Errno

/-- The word of `struct pt_regs` at an offset into the user area. -/
def wordAtOffset? (arch : Arch) (off : Nat) : Option Nat :=
  if off % arch.sizeofLong = 0 ∧ off / arch.sizeofLong < ptRegsCount then
    some (off / arch.sizeofLong)
  else none

/-- `pink_read_word_user`. Only PowerPC needs it: no other build has to read a register before it
    can write one. -/
def pinkReadWordUser (t : Tracee arch) (off : Nat) : Except Errno (Addr arch) :=
  match t.err, wordAtOffset? arch off with
  | some e, _ => .error (mapEio e)
  | none, none => .error (mapEio .eio)
  | none, some k => .ok (t.regs k)

/-- `pink_write_word_user`. -/
def pinkWriteWordUser (t : Tracee arch) (off : Nat) (val : Addr arch) :
    Except Errno (Tracee arch) :=
  match t.err, wordAtOffset? arch off with
  | some e, _ => .error (mapEio e)
  | none, none => .error (mapEio .eio)
  | none, some k => .ok { t with regs := fun j => if j = k then val else t.regs j }

/-- `pink_trace_get_regs`. -/
def pinkTraceGetRegs (haveGetregs : Bool) (t : Tracee arch) (rs : Regset arch) :
    Except Errno (Regset arch) :=
  ifHave haveGetregs <|
  match t.err with
  | some e => .error (mapEio e)
  | none => .ok { rs with ppcRegs := t.regs }

/-- `pink_regset_fill`. -/
def pinkRegsetFill (haveGetregs : Bool) (t : Tracee arch) (rs : Regset arch) :
    Except Errno Unit × Regset arch :=
  let rs := { rs with abi := pinkAbiDefault arch }
  match pinkTraceGetRegs haveGetregs t rs with
  | .error e => (.error e, rs)
  | .ok rs => (.ok (), rs)

/-! ## Readers -/

/-- `pink_read_syscall`. -/
def pinkReadSyscall (rs : Regset arch) : Addr arch := rs.gpr 0

/-- `SO_MASK`. -/
def soMask (arch : Arch) : Addr arch := BitVec.ofNat _ 0x10000000

/-- `pink_read_retval`: the value and the error. Negating `r3` turns the out-of-band convention
    into the in-band one; a value that is small and negative by itself is indistinguishable from
    an error after that. -/
def pinkReadRetval (rs : Regset arch) : Addr arch × BitVec 32 :=
  let ppcResult := if rs.ccr &&& soMask arch ≠ 0 then -rs.gpr 3 else rs.gpr 3
  classifyRetval ppcResult rs.abi

/-- `pink_read_argument`. The first one is read from `orig_gpr3`, the others from the registers
    behind `r3`. -/
def pinkReadArgument (rs : Regset arch) (argIndex : Nat) : Except Errno (Addr arch) :=
  if argIndex < pinkMaxArgs then
    .ok (if argIndex = 0 then rs.origGpr3 else rs.gpr (argIndex + 3))
  else .error .einval

/-! ## Writers -/

/-- `pink_write_syscall`. -/
def pinkWriteSyscall (t : Tracee arch) (_ : Regset arch) (sysnum : Addr arch) :
    Except Errno (Tracee arch) :=
  pinkWriteWordUser t (arch.sizeofLong * ptR0) sysnum

/-- `pink_write_retval`. The condition register is read from the tracee and not from the snapshot,
    so bits of it that have changed since the fill survive. -/
def pinkWriteRetval (t : Tracee arch) (_ : Regset arch) (retval : Addr arch)
    (error : BitVec 32) : Except Errno (Tracee arch) := do
  let flags ← pinkReadWordUser t (arch.sizeofLong * ptCcr)
  let retval := if error ≠ 0 then error.signExtend arch.longBits else retval
  let flags := if error ≠ 0 then flags ||| soMask arch else flags &&& ~~~soMask arch
  let t ← pinkWriteWordUser t (arch.sizeofLong * ptR3) retval
  pinkWriteWordUser t (arch.sizeofLong * ptCcr) flags

/-- `pink_write_argument`. The first argument has a word of its own, in which the kernel keeps it
    across the call, because `r3` is where the result goes. -/
def pinkWriteArgument (t : Tracee arch) (_ : Regset arch) (argIndex : Nat)
    (argval : Addr arch) : Except Errno (Tracee arch) :=
  if argIndex < pinkMaxArgs then
    pinkWriteWordUser t
      (if argIndex = 0 then arch.sizeofLong * ptOrigR3 else (argIndex + ptR3) * arch.sizeofLong)
      argval
  else .error .einval

end Powerpc

end PinkTrace
