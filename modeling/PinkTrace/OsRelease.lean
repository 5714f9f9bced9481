import PinkTrace.Kernel
import PinkTrace.Lib.Loop

/-!
# The kernel's version (`get_os_release` of `pinktrace-check.c`)

The test driver asks `uname(2)` for the release of the kernel, a text such as
`3.2.9-some-garbage`, and makes one number of it that a test can compare with
`KERNEL_VERSION(3,0,0)`. It reads component by component, each shifted in behind the ones before,
and stops as soon as the number is large enough to have three.

"Large enough" is how the code knows how many components it has read: it keeps no count. That is
right for the releases one meets, whose first component is not zero and whose others are below
256. It is a heuristic for the rest, and the model has the loop as it is, so that what becomes of
them can be asked.
-/

set_option autoImplicit false

namespace PinkTrace

open Lib

/-- `KERNEL_VERSION`. The parts are added, not ORed, and nothing keeps a part above 255 out of its
    neighbour. -/
def kernelVersion (a b c : Nat) : Nat := (a <<< 16) + (b <<< 8) + c

/-- The messages the driver exits with. -/
inductive OsReleaseError
  /-- `uname failed (errno:%d %s)` -/
  | uname (e : Errno)
  /-- `Bad OS release string: '%s'` -/
  | bad (release : List Char)
  deriving DecidableEq

/-- `atoi` of a text that begins with a digit; `none` where the number is no `int`, since the C
    library promises nothing for that. -/
def atoi (p : List Char) : Option (BitVec 32) :=
  let n := Nat.ofDigitChars 10 (p.takeWhile Char.isDigit) 0
  if n < 2 ^ 31 then some (BitVec.ofNat 32 n) else none

/-- The variables of the loop: the number, and what is left of the release. -/
structure OsReleaseVars where
  rel : BitVec 32
  p : List Char

/-- One pass of it. A component that is followed by anything but a dot ends the loop, with a zero
    for the third one if there were two. -/
def osReleaseBody (release : List Char) (v : OsReleaseVars) :
    Next OsReleaseVars (Except OsReleaseError (BitVec 32)) :=
  if v.p.head?.any Char.isDigit then
    match atoi v.p with
    | none => .undef
    | some n =>
      let rel := v.rel <<< 8 ||| n
      if kernelVersion 1 0 0 ≤ rel.toNat then .done (.ok rel)
      else
        match v.p.dropWhile Char.isDigit with
        | '.' :: p => .again ⟨rel, p⟩
        | _ =>
          if kernelVersion 0 1 0 ≤ rel.toNat then .done (.ok (rel <<< 8))
          else .done (.error (.bad release))
  else .done (.error (.bad release))

/-- `get_os_release`, by what `uname` returns. The text is checked for nothing before the loop. -/
def getOsRelease (fuel : Nat) (uname : Except Errno (List Char)) :
    Option (Except OsReleaseError (BitVec 32)) :=
  match uname with
  | .error e => some (.error (.uname e))
  | .ok release => run (osReleaseBody release) fuel ⟨0, release⟩

end PinkTrace
