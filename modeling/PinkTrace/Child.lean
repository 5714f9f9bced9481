import PinkTrace.Strace

/-!
# The child of a tracer

`ptrace(2)` promises more about a traced process than a status shows. A process that is resumed
with `PTRACE_SYSCALL` stops on its way into a system call and on its way out of it, and these two
alternate; what happens in between is that a new program is executed. A signal is reported when
the process is outside of a system call, before it is delivered, and is delivered if it is what
the process is resumed with.

`Stop` is why a process stops, which is what a tracer would like to know. The status only has
`Stop.change` of it.

## Why this is not part of the tracer's model

The tracer sees a status and keeps a flag; whether it is inside of a system call is something it
*believes*. `inside` is whether it is true. Keeping the two apart, one a variable of `StraceVars`
and the other a function of the stops, is what lets a theorem say when they agree and what happens
from the first stop at which they do not.

`Env.Plays` ties a child to a list of stops, and only as long as it is resumed without a signal.
The tracer never does anything else, so nothing is lost by that.
-/

set_option autoImplicit false

namespace PinkTrace

/-- Why a process stops that is traced with the options of `straceOptions`. -/
inductive Stop
  /-- It is about to do a system call. -/
  | enter
  /-- It has done one. -/
  | leave
  /-- The call it does has replaced its program. -/
  | exec
  /-- A signal is there for it. -/
  | signal (sig : BitVec 8)
  deriving DecidableEq, Repr

namespace Stop

/-- `SIGTRAP`, the signal of a stop without one. -/
def sigtrap : BitVec 8 := 5

/-- What of it is reported. `PTRACE_O_TRACESYSGOOD` sets a bit in the signal, so that a tracer who
    looks at it can tell a system call from a signal. An entry and an exit are the same change. -/
def change : Stop → Change
  | enter | leave => .stopped (sigtrap ||| 0x80) 0
  | exec => .stopped sigtrap 4
  | signal sig => .stopped sig 0

/-- Where the process is then, if it was inside of a system call or outside of one before. The
    cases without a value are the ones `ptrace(2)` rules out. -/
def next : Bool → Stop → Option Bool
  | false, enter => some true
  | true, leave => some false
  | true, exec => some true
  | false, signal _ => some false
  | true, enter | true, signal _ | false, leave | false, exec => none

def isSignal : Stop → Bool
  | signal _ => true
  | enter | leave | exec => false

end Stop

/-- Whether a process is inside of a system call after these stops; `none` if they are not the
    stops of a process. A process starts outside. -/
def inside (stops : List Stop) : Option Bool := stops.foldlM Stop.next false

/-- What follows when the child was resumed `n` times without a signal, and is so again. -/
def Env.after (env : Env) (n : Nat) : Reply := env.reply (List.replicate (n + 1) 0)

/-- The child stops for these reasons as long as it is resumed without a signal. What it looks
    like at a stop is not fixed by the reason; a theorem that needs more about the view says so
    itself. -/
def Env.Plays (env : Env) (stops : List Stop) : Prop :=
  ∀ (n : Nat) (stop : Stop), stops[n]? = some stop →
    ∃ view, env.after n = .waited stop.change.status view

end PinkTrace
