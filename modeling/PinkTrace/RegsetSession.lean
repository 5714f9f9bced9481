import Mathlib.Logic.Function.Basic
import PinkTrace.Regset.AArch64
import PinkTrace.Regset.I386
import PinkTrace.Regset.PowerPC
import PinkTrace.Regset.X86

/-!
# Sessions with a tracee's registers

A tracer may have any number of regsets for one tracee: one it filled when the tracee stopped, one
that some other part of it filled later. The writers of `write.c` all take a regset, and what they
do with it is the architecture's business. On i386, PowerPC and `x86_64` the value goes straight
to the tracee, and at most the ABI of the regset matters. On AArch64 they assign to the regset,
and all of it goes to the tracee.

A call in such a session is one of four, by one of the regsets. The readers are not among them:
they cannot change anything.

## Two shapes of one session

The three builds that leave the regset alone have the same session, and `RegBuild` is what it is
parametrised by. AArch64 is kept apart rather than squeezed into that shape: its writers return a
regset as well, and its fill can abort. A common type would need a regset that three builds never
change and a failure that they never have, and the theorems that tell the two shapes apart would
then be about fields that happen to be equal.

That a call is refused is a reply and not an error of the session: the tracer goes on with the
next one. So `RegCall.reply` says of every call what comes back, and the state after it is that of
the library.
-/

set_option autoImplicit false

namespace PinkTrace

variable {ι V T R : Type} [DecidableEq ι]

/-- A call of a tracer, with its `j`-th regset. The index is in every one of them: for a write it
    says whose ABI is asked, and on AArch64 whose registers are written. -/
inductive RegCall (ι V : Type)
  | fill (j : ι)
  | writeSyscall (j : ι) (sysnum : V)
  | writeRetval (j : ι) (retval : V) (error : BitVec 32)
  | writeArgument (j : ι) (argIndex : Nat) (argval : V)

namespace RegCall

omit [DecidableEq ι]

/-- Which calls there are: an argument index has a bound. A call behind it is refused before
    anything is touched. -/
def valid : RegCall ι V → Bool
  | writeArgument _ argIndex _ => argIndex < pinkMaxArgs
  | fill _ | writeSyscall .. | writeRetval .. => true

/-- The reply to a call that can only be refused for that. -/
def answer (c : RegCall ι V) : Except Errno Unit := if c.valid then .ok () else .error .einval

/-- The reply of a library that may have no way to fill a regset. It refuses every fill then, and
    goes on writing. -/
def reply (fills : Bool) : RegCall ι V → Except Errno Unit
  | fill _ => if fills then .ok () else .error .enosys
  | c => c.answer

/-- The argument a call writes. Results about the other arguments exclude a call by this, without
    naming the register. -/
def writesArgument : RegCall ι V → Option Nat
  | writeArgument _ argIndex _ => some argIndex
  | fill _ | writeSyscall .. | writeRetval .. => none

/-- The regset a call is made with. -/
def regset : RegCall ι V → ι
  | fill j | writeSyscall j _ | writeRetval j .. | writeArgument j .. => j

end RegCall

/-- What `pink_write_retval` makes of its two values where an error goes in band. PowerPC is the
    build that does not use it. -/
def retvalWord {w : Nat} (retval : BitVec w) (error : BitVec 32) : BitVec w :=
  if error ≠ 0 then (-error).signExtend w else retval

/-! ## Writers that leave the regset alone -/

/-- The functions of a build, as far as a session needs them. They are the C functions themselves,
    so a fact about `RegCall.on` is one about calls of the library. -/
structure RegBuild (V T R : Type) where
  regsetFill : T → R → Except Errno Unit × R
  writeSyscall : T → R → V → Except Errno T
  writeRetval : T → R → V → BitVec 32 → Except Errno T
  writeArgument : T → R → Nat → V → Except Errno T

/-- A tracee, and the regsets a tracer has for it. The type of the index is left open: nothing
    depends on how many there are. -/
structure RegSession (T R ι : Type) where
  tracee : T
  regset : ι → R

/-- After a write that returned this. -/
def RegSession.written (s : RegSession T R ι) : Except Errno T →
    Except Errno Unit × RegSession T R ι
  | .error e => (.error e, s)
  | .ok tracee => (.ok (), { s with tracee })

def RegCall.on (build : RegBuild V T R) (c : RegCall ι V) (s : RegSession T R ι) :
    Except Errno Unit × RegSession T R ι :=
  match c with
  | fill j =>
    let (result, regset) := build.regsetFill s.tracee (s.regset j)
    (result, { s with regset := Function.update s.regset j regset })
  | writeSyscall j sysnum => s.written (build.writeSyscall s.tracee (s.regset j) sysnum)
  | writeRetval j retval error => s.written (build.writeRetval s.tracee (s.regset j) retval error)
  | writeArgument j argIndex argval =>
    s.written (build.writeArgument s.tracee (s.regset j) argIndex argval)

def x86Build (cfg : RegsConfig) : RegBuild (BitVec 64) X86Tracee X86Regset :=
  ⟨pinkRegsetFill cfg, pinkWriteSyscall, pinkWriteRetval, pinkWriteArgument⟩

def I386.build (haveGetregs : Bool) : RegBuild (Addr .i386) I386.Tracee I386.Regset :=
  ⟨I386.pinkRegsetFill haveGetregs, I386.pinkWriteSyscall, I386.pinkWriteRetval,
    I386.pinkWriteArgument⟩

def Powerpc.build (haveGetregs : Bool) (arch : Arch) :
    RegBuild (Addr arch) (Powerpc.Tracee arch) (Powerpc.Regset arch) :=
  ⟨Powerpc.pinkRegsetFill haveGetregs, Powerpc.pinkWriteSyscall, Powerpc.pinkWriteRetval,
    Powerpc.pinkWriteArgument⟩

/-! ## AArch64 -/

namespace Aarch64

structure Session (ι : Type) where
  tracee : Tracee
  regset : ι → Regset

/-- After a write by the `j`-th regset that left this. -/
def Session.written (s : Session ι) (j : ι) (w : Written) : Except Errno Unit × Session ι :=
  let s := { s with regset := Function.update s.regset j w.regset }
  match w.result with
  | .error e => (.error e, s)
  | .ok tracee => (.ok (), { s with tracee })

end Aarch64

/-- The same on AArch64; `none` is the `abort()` of a fill. -/
def RegCall.aarch64 (haveGetregset : Bool) (c : RegCall ι (BitVec 64)) (s : Aarch64.Session ι) :
    Option (Except Errno Unit × Aarch64.Session ι) :=
  match c with
  | fill j =>
    match Aarch64.pinkRegsetFill haveGetregset s.tracee (s.regset j) with
    | none => none
    | some (result, regset) =>
      some (result, { s with regset := Function.update s.regset j regset })
  | writeSyscall j sysnum =>
    some (s.written j (Aarch64.pinkWriteSyscall s.tracee (s.regset j) sysnum))
  | writeRetval j retval error =>
    some (s.written j (Aarch64.pinkWriteRetval s.tracee (s.regset j) retval error))
  | writeArgument j argIndex argval =>
    some (s.written j (Aarch64.pinkWriteArgument s.tracee (s.regset j) argIndex argval))

end PinkTrace
