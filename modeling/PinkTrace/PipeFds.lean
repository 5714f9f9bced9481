import Mathlib.Logic.Function.Basic
import PinkTrace.Kernel

/-!
# Opening and closing a pipe (`pipe.c`)

`pink_pipe_init` makes the two descriptors of a pipe, and wants both of them closed when the
process executes another program. Where there is `pipe2(2)` that is one system call. Where there
is not, it is up to five: the pipe, and then for each end the flags are read and, if need be,
written. Between these the process has descriptors without the flag, and any of the calls can
fail.

What the kernel does is in `FdKernel`. A descriptor is a number, and an open one has flags, of
which `FD_CLOEXEC` is the one of interest.

## What a failure leaves behind

The code returns from the middle of this without closing anything. So the result of a call has
three parts that are independent of each other: what was returned, whether `pipefd` was assigned
to, and which descriptors are open. A caller who goes by the first alone has two descriptors it
does not know of.
-/

set_option autoImplicit false

namespace PinkTrace

/-- `FD_CLOEXEC`. -/
abbrev fdCloexec : Nat := 1

/-- `EBADF`. -/
def Errno.ebadf : Errno := ⟨9, by decide⟩

/-- `EMFILE`. -/
def Errno.emfile : Errno := ⟨24, by decide⟩

/-! ## The kernel's side -/

/-- The flags of the descriptors that are open; a number without flags is not open. -/
abbrev FdTable := Nat → Option Nat

structure FdKernel where
  /-- What the `n`-th system call fails with, if it does for a reason of its own. -/
  fails : Nat → Option Errno
  /-- The numbers for a new pipe, if there are two. -/
  pick : FdTable → Option (Nat × Nat)
  pick_fresh : ∀ t r w, pick t = some (r, w) → r ≠ w ∧ t r = none ∧ t w = none
  /-- Whether a `close(2)` that fails has closed the descriptor all the same. -/
  closes : Nat → Bool

structure FdState where
  table : FdTable
  calls : Nat

/-- `pipe2(2)`, and `pipe(2)` with no flags. Both ends get the same flags, and a failure gives out
    no descriptor. -/
def sysPipe2 (K : FdKernel) (flags : Nat) (s : FdState) : Except Errno (Nat × Nat) × FdState :=
  match K.fails s.calls, K.pick s.table with
  | some e, _ => (.error e, { s with calls := s.calls + 1 })
  | none, none => (.error .emfile, { s with calls := s.calls + 1 })
  | none, some (r, w) =>
    (.ok (r, w), ⟨Function.update (Function.update s.table r (some flags)) w (some flags),
      s.calls + 1⟩)

/-- `fcntl(fd, F_GETFD)`. -/
def sysGetfd (K : FdKernel) (fd : Nat) (s : FdState) : Except Errno Nat × FdState :=
  match K.fails s.calls, s.table fd with
  | some e, _ => (.error e, { s with calls := s.calls + 1 })
  | none, none => (.error .ebadf, { s with calls := s.calls + 1 })
  | none, some flags => (.ok flags, { s with calls := s.calls + 1 })

/-- `fcntl(fd, F_SETFD, flags)`. -/
def sysSetfd (K : FdKernel) (fd flags : Nat) (s : FdState) : Except Errno Unit × FdState :=
  match K.fails s.calls, s.table fd with
  | some e, _ => (.error e, { s with calls := s.calls + 1 })
  | none, none => (.error .ebadf, { s with calls := s.calls + 1 })
  | none, some _ => (.ok (), ⟨Function.update s.table fd (some flags), s.calls + 1⟩)

/-- `close(2)`. One that fails may have closed the descriptor nevertheless: POSIX leaves that
    open, and Linux does close it. -/
def sysClose (K : FdKernel) (fd : Nat) (s : FdState) : Except Errno Unit × FdState :=
  match K.fails s.calls, s.table fd with
  | some e, _ =>
    (.error e, ⟨if K.closes s.calls then Function.update s.table fd none else s.table,
      s.calls + 1⟩)
  | none, none => (.error .ebadf, { s with calls := s.calls + 1 })
  | none, some _ => (.ok (), ⟨Function.update s.table fd none, s.calls + 1⟩)

/-! ## The library -/

/-- `set_cloexec_flag`. A flag that is set already costs one system call instead of two. -/
def setCloexecFlag (K : FdKernel) (fd : Nat) (s : FdState) : Except Errno Unit × FdState :=
  match sysGetfd K fd s with
  | (.error e, s) => (.error e, s)
  | (.ok flags, s) =>
    let newflags := flags ||| fdCloexec
    if flags = newflags then (.ok (), s) else sysSetfd K fd newflags s

/-- What a call leaves: the value, `pipefd` if it was assigned to, and the descriptors. -/
structure PipeFdRet where
  result : Except Errno Unit
  pipefd : Option (Nat × Nat)
  st : FdState

/-- `pink_pipe_init`, of a library with `pipe2` or without it. In the second the read end comes
    first, and if it fails the write end is left without the flag. -/
def pinkPipeInit (havePipe2 : Bool) (K : FdKernel) (s : FdState) : PipeFdRet :=
  match sysPipe2 K (if havePipe2 then fdCloexec else 0) s with
  | (.error e, s) => ⟨.error e, none, s⟩
  | (.ok (r, w), s) =>
    if havePipe2 then ⟨.ok (), some (r, w), s⟩
    else
      match setCloexecFlag K r s with
      | (.error e, s) => ⟨.error e, some (r, w), s⟩
      | (.ok (), s) =>
        match setCloexecFlag K w s with
        | (.error e, s) => ⟨.error e, some (r, w), s⟩
        | (.ok (), s) => ⟨.ok (), some (r, w), s⟩

/-- `pink_pipe_close`. It takes a descriptor, not a pipe: to close both ends is two calls. -/
def pinkPipeClose (K : FdKernel) (fd : Nat) (s : FdState) : PipeFdRet :=
  let (result, s) := sysClose K fd s
  ⟨result, none, s⟩

/-- A call of a program. -/
inductive FdCall
  | init
  | close (fd : Nat)

def FdCall.on (havePipe2 : Bool) (K : FdKernel) : FdCall → FdState → PipeFdRet
  | init, s => pinkPipeInit havePipe2 K s
  | close fd, s => pinkPipeClose K fd s

end PinkTrace
