import PinkTrace.Regset.X86

/-!
# The registers of an i386 build (`regset.c`, `read.c`, `write.c`)

One ABI and one layout, the `struct user_regs_struct` of a 32-bit host. It has the fields that an
`x86_64` build knows as those of a 32-bit tracee.

There is also only one way to fill a regset, and that is the one behind `PINK_HAVE_GETREGS`. The
macro is undefined in every build that `configure` makes (see `RegsConfig` on why), so a fill of
such a build fails. The writers do not depend on it: they reach the tracee all the same.
-/

set_option autoImplicit false

namespace PinkTrace

namespace I386

open Abi (pinkAbiDefault)

/-- `struct pink_regset`. With one layout there is no need to look at it as bytes, so a register
    is a field. -/
structure Regset where
  i386Regs : I386Reg → Addr .i386
  abi : Abi .i386

/-! ## The kernel's side -/

/-- A stopped tracee, and what every request to it fails with once it is gone. Its registers are
    those of the struct: nothing is wider than a word here. -/
structure Tracee where
  regs : I386Reg → Addr .i386
  err : Option Errno

/-- The register at an offset into the user area. -/
def atOffset? (off : Nat) : Option I386Reg := if off % 4 = 0 then I386Reg.all[off / 4]? else none

/-- `pink_write_word_user`. -/
def pinkWriteWordUser (t : Tracee) (off : Nat) (val : Addr .i386) : Except Errno Tracee :=
  match t.err, atOffset? off with
  | some e, _ => .error (mapEio e)
  | none, none => .error (mapEio .eio)
  | none, some r => .ok { t with regs := fun r' => if r' = r then val else t.regs r' }

/-- `pink_trace_get_regs`. -/
def pinkTraceGetRegs (haveGetregs : Bool) (t : Tracee) (rs : Regset) : Except Errno Regset :=
  ifHave haveGetregs <|
  match t.err with
  | some e => .error (mapEio e)
  | none => .ok { rs with i386Regs := t.regs }

/-- `pink_regset_fill`. The ABI is assigned before the request, so also by a fill that fails;
    there is only one it could be. -/
def pinkRegsetFill (haveGetregs : Bool) (t : Tracee) (rs : Regset) :
    Except Errno Unit × Regset :=
  let rs := { rs with abi := pinkAbiDefault .i386 }
  match pinkTraceGetRegs haveGetregs t rs with
  | .error e => (.error e, rs)
  | .ok rs => (.ok (), rs)

/-! ## Readers -/

/-- `pink_read_syscall`. -/
def pinkReadSyscall (rs : Regset) : Addr .i386 := rs.i386Regs .origEax

/-- `pink_read_retval`: the value and the error. -/
def pinkReadRetval (rs : Regset) : Addr .i386 × BitVec 32 :=
  classifyRetval (rs.i386Regs .eax) rs.abi

/-- The fields `pink_read_argument` reads. -/
def readArg : Fin pinkMaxArgs → I386Reg
  | 0 => .ebx | 1 => .ecx | 2 => .edx | 3 => .esi | 4 => .edi | 5 => .ebp

/-- `pink_read_argument`. -/
def pinkReadArgument (rs : Regset) (argIndex : Nat) : Except Errno (Addr .i386) :=
  if h : argIndex < pinkMaxArgs then .ok (rs.i386Regs (readArg ⟨argIndex, h⟩))
  else .error .einval

/-! ## Writers -/

/-- `pink_write_syscall`. -/
def pinkWriteSyscall (t : Tracee) (_ : Regset) (sysnum : Addr .i386) : Except Errno Tracee :=
  pinkWriteWordUser t (4 * I386Reg.origEax.index) sysnum

/-- `pink_write_retval`. An `int` is as wide as a `long` on this host, so the negated error is
    stored as it is. -/
def pinkWriteRetval (t : Tracee) (_ : Regset) (retval : Addr .i386) (error : BitVec 32) :
    Except Errno Tracee :=
  pinkWriteWordUser t (4 * I386Reg.eax.index) (if error ≠ 0 then -error else retval)

/-- The registers `pink_write_argument` writes. -/
def writeArg : Fin pinkMaxArgs → I386Reg
  | 0 => .ebx | 1 => .ecx | 2 => .edx | 3 => .esi | 4 => .edi | 5 => .ebp

/-- `pink_write_argument`. -/
def pinkWriteArgument (t : Tracee) (_ : Regset) (argIndex : Nat) (argval : Addr .i386) :
    Except Errno Tracee :=
  if h : argIndex < pinkMaxArgs then
    pinkWriteWordUser t (4 * (writeArg ⟨argIndex, h⟩).index) argval
  else .error .einval

end I386

end PinkTrace
