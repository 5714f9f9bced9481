import PinkTrace.Lib.Schedule
import PinkTrace.Pipe

/-!
# Processes around a pipe (`pipe.c`)

The two ends of a pipe are in different processes, and at the writing end there may be more than
one: everybody who was forked after `pink_pipe_init` has it. Nothing in `pipe.c` keeps a call of
one process together while another makes its own, so a call is not a step. What is one is a pass
of the loop in `atomic_write` or `atomic_read`: it makes one system call, and the rest of it
touches variables of its own process only.

So a process is what it has to do and, inside a call, the variables of that call, and its turn is
one pass of `atomicWriteBody` or `atomicReadBody` on the pipe as it finds it. A writer can also be
gone at any point, in the middle of an `int` as well; the reader sees the end of the stream when
all of them are.

## Who decides whose turn it is

Nobody here does. A schedule is any list of turns, and the results are about all of them;
fairness, where it is needed for something to happen at all, is a hypothesis there. A turn of a
process that has nothing to do, that is gone, or that waits for bytes leaves everything as it was,
so a schedule need not be a sensible one.
-/

set_option autoImplicit false

namespace PinkTrace

open Lib

/-- A process that writes ints with `pink_pipe_write_int`, one call after the other. It goes on
    after a call that failed, as a program that ignores the value would. -/
structure PipeWriter where
  /-- The ints it has not begun to write. -/
  todo : List (BitVec 32)
  /-- The call it is in: the `int`, and the variables of `atomic_write`. -/
  call : Option (BitVec 32 × PipeWriteVars)
  /-- The calls that returned: the `int`, and the value. -/
  returned : List (BitVec 32 × Int)
  /-- It still has the write end. -/
  alive : Bool

/-- A process that calls `pink_pipe_read_int` again and again, with one `int` of its own. The
    variable is the same in all calls, so what one has left of it is what the next begins with. -/
structure PipeReader where
  i : BitVec 32
  /-- The variables of `atomic_read`, of the call it is in. -/
  call : Option PipeReadVars
  /-- The calls that returned: the value, and what the `int` held then. -/
  returned : List (Int × BitVec 32)

structure PipeSystem (n : Nat) where
  writer : Fin n → PipeWriter
  reader : PipeReader
  pipe : Pipe

/-- Whose turn it is. The reader does not exit: what it has not read is not an observation. -/
inductive PipeTurn (n : Nat)
  | write (k : Fin n)
  | read
  /-- A writer exits, or is killed. -/
  | exit (k : Fin n)

/-! ## Turns -/

/-- What `pink_pipe_write_int` makes of a result of `atomic_write`. -/
def PipeWriteRet.retval (r : PipeWriteRet) : Int :=
  if r.ret ≠ sizeofInt then pipeFailure r.errno else 0

/-- What `pink_pipe_read_int` makes of a result of `atomic_read`. -/
def PipeReadRet.retval (r : PipeReadRet) : Int :=
  if r.ret ≠ sizeofInt then pipeFailure r.errno else 0

/-- A writer's turn: it enters its next call, or makes a pass of the one it is in. The variables
    of a call include the pipe, which is replaced by the one of the moment before the pass. -/
def PipeWriter.turn (W : Nat → Io) (w : PipeWriter) (p : Pipe) : PipeWriter × Pipe :=
  if !w.alive then (w, p)
  else
    match w.call with
    | none =>
      match w.todo with
      | [] => (w, p)
      | i :: todo => ({ w with todo, call := some (i, ⟨0, sizeofInt, 0, none, p⟩) }, p)
    | some (i, v) =>
      match atomicWriteBody W (intBytes i) { v with pipe := p } with
      | .again v => ({ w with call := some (i, v) }, v.pipe)
      | .done r => ({ w with call := none, returned := w.returned ++ [(i, r.retval)] }, r.pipe)
      | .undef => (w, p)

/-- The reader's turn. A pass that waits comes back as `again` with everything as it was. -/
def PipeReader.turn (R : Nat → Io) (r : PipeReader) (p : Pipe) : PipeReader × Pipe :=
  match r.call with
  | none => ({ r with call := some ⟨0, sizeofInt, 0, intBytes r.i, none, p⟩ }, p)
  | some v =>
    match atomicReadBody R { v with pipe := p } with
    | .again v => ({ r with call := some v }, v.pipe)
    | .done a =>
      let i := BitVec.ofNat 32 (leLoad a.dest 0 sizeofInt)
      (⟨i, none, r.returned ++ [(a.retval, i)]⟩, a.pipe)
    | .undef => (r, p)

namespace PipeSystem

variable {n : Nat}

def setWriter (s : PipeSystem n) (k : Fin n) (w : PipeWriter) : Fin n → PipeWriter :=
  fun j => if j = k then w else s.writer j

/-- One turn, with `W` and `R` what the kernel does with a `write(2)` and a `read(2)`. -/
def turn (W R : Nat → Io) : PipeTurn n → PipeSystem n → PipeSystem n
  | .write k, s =>
    let (w, pipe) := (s.writer k).turn W s.pipe
    { s with writer := s.setWriter k w, pipe }
  | .read, s =>
    let (reader, pipe) := s.reader.turn R s.pipe
    { s with reader, pipe }
  | .exit k, s =>
    let writer := s.setWriter k { s.writer k with alive := false }
    { s with
      writer
      pipe := { s.pipe with writeEnd := decide (∃ j, (writer j).alive = true) } }

/-- A new pipe, the ints that each of the writers has to write, and what the reader's `int` holds
    at first. Without writers the stream is at its end from the beginning. -/
def start (ints : Fin n → List (BitVec 32)) (i : BitVec 32) : PipeSystem n where
  writer k := ⟨ints k, none, [], true⟩
  reader := ⟨i, none, []⟩
  pipe := ⟨[], decide (0 < n), 0⟩

end PipeSystem

end PinkTrace
