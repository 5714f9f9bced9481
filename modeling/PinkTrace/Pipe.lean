import PinkTrace.Kernel
import PinkTrace.Lib.Loop
import PinkTrace.Lib.Overlay
import PinkTrace.Lib.Stream

/-!
# Ints through a pipe (`pipe.c`)

A tracer and the process it forks talk through a pipe, one `int` at a time. The pipe itself is the
kernel's: a queue of bytes that a `write(2)` appends to and a `read(2)` takes from, each as much
as it likes. `atomic_read` and `atomic_write` are the loops that put the pieces together again,
and `pink_pipe_read_int` and `pink_pipe_write_int` call them for `sizeof(int)` bytes.

## The names promise more than the loops do

Nothing here is atomic. A call that is interrupted by a signal fails like any other, and the loop
does not try again: with nothing moved yet it returns `-1`, and in the middle of an `int` the
number of bytes so far. Either way `pink_pipe_read_int` reports an error, and the bytes that were
taken are gone. The kernel is therefore free to let any call fail (`Io.fails`), and whether it
does is a hypothesis of the results that need it not to.

A read from an empty pipe waits, and a model in which one function runs to its end has no waiting.
It is a pass that changes nothing: with a bound on the passes the call is then without a result,
and in `PipeSystem` somebody else has a turn.
-/

set_option autoImplicit false

namespace PinkTrace

open Lib

/-! ## The kernel's side -/

/-- What the kernel does with a system call on the pipe. It is asked once per call, by number, so
    it may do something else every time. -/
inductive Io
  /-- Bytes are moved, about this many of them. -/
  | moves (n : Nat)
  /-- The call fails, as when a signal interrupts it. -/
  | fails (e : Errno)

/-- A pipe: the bytes in it, whether somebody can still write to it, and how many system calls
    were made on it. Its capacity is not modelled; a full pipe is one whose writes move less. -/
structure Pipe where
  fifo : List UInt8
  writeEnd : Bool
  calls : Nat

/-- `read(2)` of at most `count` bytes; `none` while the call waits for a byte to arrive. The
    end of the stream shows as no bytes. -/
def sysRead (K : Nat → Io) (count : Nat) (p : Pipe) :
    Option (Except Errno (List UInt8) × Pipe) :=
  match K p.calls with
  | .fails e => some (.error e, { p with calls := p.calls + 1 })
  | .moves n =>
    if p.fifo = [] ∧ p.writeEnd then none
    else
      let m := moved n (min count p.fifo.length)
      some (.ok (p.fifo.take m), { p with fifo := p.fifo.drop m, calls := p.calls + 1 })

/-- `write(2)` of these bytes: how many were taken. A call that does not fail takes at least one,
    if there is one. -/
def sysWrite (K : Nat → Io) (offered : List UInt8) (p : Pipe) : Except Errno Nat × Pipe :=
  match K p.calls with
  | .fails e => (.error e, { p with calls := p.calls + 1 })
  | .moves n =>
    let m := moved n offered.length
    (.ok m, { p with fifo := p.fifo ++ offered.take m, calls := p.calls + 1 })

/-! ## The loops -/

/-- The variables of `atomic_read`: how far `buf` has moved, `count` and `total`; with them the
    bytes `buf` pointed to, the caller's `errno` and the pipe. `off` and `total` are equal all
    along, and both are kept since the source has both. -/
structure PipeReadVars where
  off : Nat
  count : Nat
  total : Nat
  dest : Bytes
  errno : Option Errno
  pipe : Pipe

structure PipeReadRet where
  ret : Int
  dest : Bytes
  errno : Option Errno
  pipe : Pipe

/-- One pass of `atomic_read`. An error after some bytes is a short count, with `errno` set; the
    end of the stream is one without. -/
def atomicReadBody (K : Nat → Io) (v : PipeReadVars) : Next PipeReadVars PipeReadRet :=
  if v.count = 0 then .done ⟨v.total, v.dest, v.errno, v.pipe⟩
  else
    match sysRead K v.count v.pipe with
    | none => .again v
    | some (.error e, pipe) =>
      .done ⟨if 0 < v.total then v.total else -1, v.dest, some e, pipe⟩
    | some (.ok bytes, pipe) =>
      if bytes.length = 0 then .done ⟨v.total, v.dest, v.errno, pipe⟩
      else .again {
        off := v.off + bytes.length
        count := v.count - bytes.length
        total := v.total + bytes.length
        dest := copy v.dest v.off (bytesOf bytes) bytes.length
        errno := v.errno
        pipe }

/-- `atomic_read`, entered with `errno` zero. -/
def atomicRead (fuel : Nat) (K : Nat → Io) (buf : Bytes) (count : Nat) (p : Pipe) :
    Option PipeReadRet :=
  run (atomicReadBody K) fuel ⟨0, count, 0, buf, none, p⟩

/-- The variables of `atomic_write`. -/
structure PipeWriteVars where
  off : Nat
  count : Nat
  total : Nat
  errno : Option Errno
  pipe : Pipe

structure PipeWriteRet where
  ret : Int
  errno : Option Errno
  pipe : Pipe

/-- One pass of `atomic_write`, the same with the bytes going the other way. -/
def atomicWriteBody (K : Nat → Io) (buf : Bytes) (v : PipeWriteVars) :
    Next PipeWriteVars PipeWriteRet :=
  if v.count = 0 then .done ⟨v.total, v.errno, v.pipe⟩
  else
    match sysWrite K (listOf (fun i => buf (v.off + i)) v.count) v.pipe with
    | (.error e, pipe) => .done ⟨if 0 < v.total then v.total else -1, some e, pipe⟩
    | (.ok m, pipe) =>
      if m = 0 then .done ⟨v.total, v.errno, pipe⟩
      else .again ⟨v.off + m, v.count - m, v.total + m, v.errno, pipe⟩

/-- `atomic_write`, entered with `errno` zero. -/
def atomicWrite (fuel : Nat) (K : Nat → Io) (buf : Bytes) (count : Nat) (p : Pipe) :
    Option PipeWriteRet :=
  run (atomicWriteBody K buf) fuel ⟨0, count, 0, none, p⟩

/-! ## Ints -/

/-- `sizeof(int)`. -/
abbrev sizeofInt : Nat := 4

/-- The bytes of an `int`. Both ends of the pipe are on one host, so either order would do, and
    the code never looks at one. -/
def intBytes (i : BitVec 32) : Bytes := leBytes i.toNat

/-- `errno ? -errno : -EINVAL`. The second is what the end of the stream comes to, as no call has
    failed then. -/
def pipeFailure (errno : Option Errno) : Int := -((errno.getD .einval).code : Int)

structure PipeIntRet where
  ret : Int
  i : BitVec 32
  pipe : Pipe

/-- `pink_pipe_read_int`, into an `int` that holds `i` before. The bytes go straight to the
    caller's variable, so also a call that fails may have changed it. -/
def pinkPipeReadInt (fuel : Nat) (K : Nat → Io) (i : BitVec 32) (p : Pipe) :
    Option PipeIntRet := do
  let r ← atomicRead fuel K (intBytes i) sizeofInt p
  let i := BitVec.ofNat 32 (leLoad r.dest 0 sizeofInt)
  if r.ret ≠ sizeofInt then some ⟨pipeFailure r.errno, i, r.pipe⟩
  else some ⟨0, i, r.pipe⟩

/-- `pink_pipe_write_int`: the value returned, and the pipe. After a failure some of the bytes may
    be in the pipe all the same. -/
def pinkPipeWriteInt (fuel : Nat) (K : Nat → Io) (i : BitVec 32) (p : Pipe) :
    Option (Int × Pipe) := do
  let r ← atomicWrite fuel K (intBytes i) sizeofInt p
  if r.ret ≠ sizeofInt then some (pipeFailure r.errno, r.pipe)
  else some (0, r.pipe)

end PinkTrace
