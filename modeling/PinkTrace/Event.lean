import PinkTrace.Kernel

/-!
# What `waitpid(2)` reports (`event.c`, `sys/wait.h`)

A tracer learns everything about its tracee from the `int` that `waitpid` fills in. The C library
takes it apart with macros, which look at the low sixteen bits; `pink_event_decide` looks at the
others, where the kernel puts the number of the event that a tracee stopped for.

`Change` is what there is to report, and `Change.status` how the kernel does it.

## Decoding is a function, and has a domain

No two of the macros are true of one `int`, so it does not matter in which order a program asks
them, and `Change.ofStatus` asks them in the usual one. It is partial: an `int` of which none is
true stands for nothing. And it is not injective, as each macro ignores bits that the kernel
leaves zero. That it inverts `Change.status` is what makes the encoding one.
-/

set_option autoImplicit false

namespace PinkTrace

/-- `pink_event_decide`. The shift is of an `unsigned int`, so a status with its highest bit set
    gives no negative event. -/
def pinkEventDecide (status : BitVec 32) : BitVec 32 := status >>> 16

/-! ## The macros -/

/-- `WTERMSIG`. -/
def wtermsig (status : BitVec 32) : BitVec 32 := status &&& 0x7f

/-- `WIFEXITED`. -/
def wifexited (status : BitVec 32) : Bool := wtermsig status == 0

/-- `WEXITSTATUS`, which `WSTOPSIG` is another name of. -/
def wexitstatus (status : BitVec 32) : BitVec 32 := (status &&& 0xff00) >>> 8

/-- `WIFSIGNALED`: `((signed char) ((status & 0x7f) + 1) >> 1) > 0`. Adding one sends 127, which
    means stopped, to a negative `char`, and 0, which means exited, to something the shift makes
    0. -/
def wifsignaled (status : BitVec 32) : Bool :=
  decide (0 < (((wtermsig status + 1).setWidth 8).sshiftRight 1).toInt)

/-- `WCOREDUMP`. -/
def wcoredump (status : BitVec 32) : Bool := status &&& 0x80 != 0

/-- `WIFSTOPPED`. -/
def wifstopped (status : BitVec 32) : Bool := status &&& 0xff == 0x7f

/-- `WIFCONTINUED`. -/
def wifcontinued (status : BitVec 32) : Bool := status == 0xffff

/-! ## The kernel's side -/

/-- What a tracer is told. A process that is killed is killed by one of the signals 1 to 126; the
    two numbers left out are those by which the other changes are recognised. -/
inductive Change
  | exited (code : BitVec 8)
  | killed (sig : { sig : BitVec 7 // sig ≠ 0 ∧ sig ≠ 127 }) (core : Bool)
  | stopped (sig : BitVec 8) (event : BitVec 16)
  | continued
  deriving DecidableEq

namespace Change

/-- As an `int`. The fields are added and not ORed: they do not overlap, and sums are what the
    proofs can compute with. -/
def status : Change → BitVec 32
  | exited code => BitVec.ofNat 32 (code.toNat * 2 ^ 8)
  | killed sig core => BitVec.ofNat 32 (core.toNat * 2 ^ 7 + sig.val.toNat)
  | stopped sig event => BitVec.ofNat 32 (event.toNat * 2 ^ 16 + sig.toNat * 2 ^ 8 + 0x7f)
  | continued => 0xffff

/-- The event of a stop. Everything else has none, and is reported with zeros in the upper half.
    -/
def event : Change → BitVec 32
  | stopped _ event => event.setWidth 32
  | exited _ | killed .. | continued => 0

/-- What the macros and `pink_event_decide` make of an `int`. -/
def ofStatus (status : BitVec 32) : Option Change :=
  if wifexited status then some (exited ((wexitstatus status).setWidth 8))
  else if wifsignaled status then
    if h : (wtermsig status).setWidth 7 ≠ 0 ∧ (wtermsig status).setWidth 7 ≠ 127 then
      some (killed ⟨(wtermsig status).setWidth 7, h⟩ (wcoredump status))
    else none
  else if wifstopped status then
    some (stopped ((wexitstatus status).setWidth 8) ((pinkEventDecide status).setWidth 16))
  else if wifcontinued status then some continued
  else none

end Change

end PinkTrace
