import PinkTrace.PipeSystem
import PinkTrace.Proof.PipeInterrupt

/-!
# The pipe under every interleaving

What the processes around a pipe do to each other goes through bytes only, so the argument is in
two halves that meet in one list of bytes, the *stream*: everything that was ever put into the
pipe.

* The reader (`Reads`) knows nothing of writers. Whatever has been put into the pipe, it has
  returned the ints at the front of the stream, each with zero, and the bytes behind them are in
  the buffer of its call or still in the pipe. Only when the last writer is gone does a call
  fail, and it takes less than an `int` with it.
* A writer knows nothing of the reader. With one writer the stream is the bytes of its ints, in
  whatever pieces they went. With several, a `write(2)` of four bytes that was cut would be torn
  apart by the others; POSIX promises that the kernel does not cut it (it is not longer than
  `PIPE_BUF`, as the comment in `pipe.c` has it), and then the stream is the bytes of a list of
  ints that contains those of each writer in order.

Both halves are step lemmas over relations that say what a turn can do at all (`WriterStep`,
`ReaderStep`), and `runTurns_invariant` carries them through every schedule.
-/

set_option autoImplicit false

namespace PinkTrace

open Lib

/-! ## Ints and bytes -/

/-- An `int` that was assembled from four bytes has these bytes… -/
theorem listOf_intBytes (dest : Bytes) :
    listOf (intBytes (BitVec.ofNat 32 (leLoad dest 0 sizeofInt))) sizeofInt =
      listOf dest sizeofInt := by
  have hlt : leLoad dest 0 sizeofInt < 2 ^ 32 := leLoad_lt dest 0 sizeofInt
  refine List.map_congr_left fun j hj => ?_
  rw [intBytes, BitVec.toNat_ofNat, Nat.mod_eq_of_lt hlt,
    leBytes_leLoad dest (List.mem_range.mp hj)]

/-- …and no other `int` has them. -/
theorem intBytes_inj {i j : BitVec 32}
    (h : listOf (intBytes i) sizeofInt = listOf (intBytes j) sizeofInt) : i = j := by
  have hload : leLoad (intBytes i) 0 sizeofInt = leLoad (intBytes j) 0 sizeofInt := by
    refine leLoad_congr fun k hk => ?_
    have hbyte := congrArg (fun l => bytesOf l k) h
    simp only [bytesOf_listOf _ hk] at hbyte
    rw [Nat.zero_add, hbyte]
  have hi : i.toNat < 256 ^ sizeofInt := i.isLt
  have hj : j.toNat < 256 ^ sizeofInt := j.isLt
  rw [intBytes, intBytes, leLoad_leBytes, leLoad_leBytes, Nat.mod_eq_of_lt hi,
    Nat.mod_eq_of_lt hj] at hload
  exact BitVec.eq_of_toNat_eq hload

theorem queued_append (q q' : List (BitVec 32)) : queued (q ++ q') = queued q ++ queued q' :=
  List.flatMap_append

theorem queued_singleton (i : BitVec 32) : queued [i] = listOf (intBytes i) sizeofInt :=
  List.append_nil _

/-- Two readings of one stream agree as far as both go. Ints have a fixed length, so there is one
    way to read a stream from its beginning. -/
theorem eq_take_of_queued {q q' : List (BitVec 32)} {rest rest' : List UInt8}
    (h : queued q ++ rest = queued q' ++ rest') (hle : q.length ≤ q'.length) :
    q = q'.take q.length := by
  induction q generalizing q' with
  | nil => rfl
  | cons i q ih =>
    cases q' with
    | nil => exact absurd hle (by simp)
    | cons j q' =>
      have hsplit : listOf (intBytes i) sizeofInt ++ (queued q ++ rest) =
          listOf (intBytes j) sizeofInt ++ (queued q' ++ rest') := by
        rw [← List.append_assoc, ← List.append_assoc]
        exact h
      obtain ⟨hint, hrest⟩ := List.append_inj hsplit (by rw [length_listOf, length_listOf])
      have htail := ih hrest (by simpa using hle)
      rw [intBytes_inj hint, List.length_cons, List.take_succ_cons, ← htail]

theorem listOf_copy (dest : Bytes) (off : Nat) (bytes : List UInt8) :
    listOf (copy dest off (bytesOf bytes) bytes.length) (off + bytes.length) =
      listOf dest off ++ bytes := by
  rw [listOf_add]
  congr 1
  · refine List.map_congr_left fun j hj => ?_
    have hj := List.mem_range.mp hj
    exact copy_of_not (by omega)
  · refine List.ext_getElem (by simp) fun j hj hj' => ?_
    simp only [listOf, List.getElem_map, List.getElem_range]
    rw [copy_of_lt (by omega) (by omega), Nat.add_sub_cancel_left, bytesOf]
    simp [hj']

/-! ## What a turn can do -/

/-- Everything a writer's turn can do. The constructors are the branches of the code, with what
    matters of each; the proofs below never look at the code again. -/
inductive WriterStep (W : Nat → Io) (w : PipeWriter) (p : Pipe) : PipeWriter → Pipe → Prop
  /-- It is gone, or has nothing left to write. -/
  | rest : WriterStep W w p w p
  | enter {i : BitVec 32} {todo : List (BitVec 32)} (hcall : w.call = none)
      (htodo : w.todo = i :: todo) :
      WriterStep W w p { w with todo, call := some (i, ⟨0, sizeofInt, 0, none, p⟩) } p
  /-- The kernel takes some of the bytes that are left. -/
  | piece {i : BitVec 32} {v : PipeWriteVars} {c : Nat} {p' : Pipe} (halive : w.alive = true)
      (hcall : w.call = some (i, v)) (hcount : v.count ≠ 0) (hW : W p.calls = .moves c)
      (hp : p' = ⟨p.fifo ++ listOf (fun j => intBytes i (v.off + j)) (moved c v.count),
        p.writeEnd, p.calls + 1⟩) :
      WriterStep W w p { w with call := some (i, ⟨v.off + moved c v.count,
        v.count - moved c v.count, v.total + moved c v.count, v.errno, p'⟩) } p'
  /-- The system call fails, and the call with it. -/
  | fail {i : BitVec 32} {v : PipeWriteVars} {e : Errno} {ret : Int}
      (hcall : w.call = some (i, v)) (hcount : v.count ≠ 0) (hW : W p.calls = .fails e)
      (hret : v.total < sizeofInt → ret < 0) :
      WriterStep W w p { w with call := none, returned := w.returned ++ [(i, ret)] }
        { p with calls := p.calls + 1 }
  /-- All bytes are in the pipe, and the call returns. -/
  | finish {i : BitVec 32} {v : PipeWriteVars} {ret : Int} (hcall : w.call = some (i, v))
      (hcount : v.count = 0) (hret : v.total = sizeofInt → ret = 0) :
      WriterStep W w p { w with call := none, returned := w.returned ++ [(i, ret)] } p

theorem PipeWriter.turn_step (W : Nat → Io) (w : PipeWriter) (p : Pipe) :
    WriterStep W w p (w.turn W p).1 (w.turn W p).2 := by
  obtain ⟨todo, call, returned, alive⟩ := w
  cases alive with
  | false => exact .rest
  | true =>
    cases call with
    | none =>
      cases todo with
      | nil => exact .rest
      | cons i todo => exact .enter rfl rfl
    | some call =>
      obtain ⟨i, v⟩ := call
      by_cases hcount : v.count = 0
      · have hbody : atomicWriteBody W (intBytes i) { v with pipe := p } =
            .done ⟨v.total, v.errno, p⟩ := if_pos hcount
        simp only [PipeWriter.turn, hbody]
        refine .finish rfl hcount fun htotal => ?_
        simp [PipeWriteRet.retval, htotal]
      · cases hW : W p.calls with
        | fails e =>
          have hbody : atomicWriteBody W (intBytes i) { v with pipe := p } =
              .done ⟨if 0 < v.total then v.total else -1, some e,
                { p with calls := p.calls + 1 }⟩ := by
            simp only [atomicWriteBody, if_neg hcount, sysWrite, hW]
          simp only [PipeWriter.turn, hbody]
          refine .fail rfl hcount hW fun htotal => ?_
          -- the count is short or -1, and neither is `sizeof(int)`
          have hshort : (if 0 < v.total then (v.total : Int) else -1) ≠ sizeofInt := by
            split <;> omega
          rw [PipeWriteRet.retval, if_pos hshort]
          exact pipeFailure_neg _
        | moves c =>
          have hpos := moved_pos c (Nat.pos_of_ne_zero hcount)
          have hbody : atomicWriteBody W (intBytes i) { v with pipe := p } =
              .again ⟨v.off + moved c v.count, v.count - moved c v.count,
                v.total + moved c v.count, v.errno,
                ⟨p.fifo ++ listOf (fun j => intBytes i (v.off + j)) (moved c v.count),
                  p.writeEnd, p.calls + 1⟩⟩ := by
            simp only [atomicWriteBody, if_neg hcount, sysWrite, hW, length_listOf,
              take_listOf _ (moved_le c v.count), if_neg (Nat.ne_of_gt hpos)]
          simp only [PipeWriter.turn, hbody]
          exact .piece rfl rfl hcount hW rfl

/-- Everything the reader's turn can do, of a kernel that only cuts. A reader that is interrupted
    is not among them: that is a defect of its own, and has its own file. -/
inductive ReaderStep (sizes : Nat → Nat) (r : PipeReader) (p : Pipe) :
    PipeReader → Pipe → Prop
  | enter (hcall : r.call = none) {v : PipeReadVars}
      (hv : v = ⟨0, sizeofInt, 0, intBytes r.i, none, p⟩) :
      ReaderStep sizes r p { r with call := some v } p
  /-- The pipe is empty, and somebody may still write to it. -/
  | wait {v : PipeReadVars} (hcall : r.call = some v) (hfifo : p.fifo = [])
      (hcount : v.count ≠ 0) (hopen : p.writeEnd = true) :
      ReaderStep sizes r p { r with call := some { v with pipe := p } } p
  | piece {v : PipeReadVars} {m : Nat} {p' : Pipe} (hcall : r.call = some v) (hpos : 0 < m)
      (hm : m ≤ v.count) (hfifo : m ≤ p.fifo.length)
      (hp : p' = ⟨p.fifo.drop m, p.writeEnd, p.calls + 1⟩) :
      ReaderStep sizes r p { r with call := some ⟨v.off + m, v.count - m, v.total + m,
        copy v.dest v.off (bytesOf (p.fifo.take m)) m, v.errno, p'⟩ } p'
  /-- The pipe is empty, and nobody will ever write to it. -/
  | ended {v : PipeReadVars} {ret : Int} (hcall : r.call = some v) (hcount : v.count ≠ 0)
      (hfifo : p.fifo = []) (hclosed : p.writeEnd = false)
      (hret : v.total < sizeofInt → ret = pipeFailure v.errno) {i : BitVec 32}
      (hi : i = BitVec.ofNat 32 (leLoad v.dest 0 sizeofInt)) :
      ReaderStep sizes r p ⟨i, none, r.returned ++ [(ret, i)]⟩ { p with calls := p.calls + 1 }
  | finish {v : PipeReadVars} {ret : Int} (hcall : r.call = some v) (hcount : v.count = 0)
      (hret : v.total = sizeofInt → ret = 0) {i : BitVec 32}
      (hi : i = BitVec.ofNat 32 (leLoad v.dest 0 sizeofInt)) :
      ReaderStep sizes r p ⟨i, none, r.returned ++ [(ret, i)]⟩ p

theorem PipeReader.turn_step (sizes : Nat → Nat) (r : PipeReader) (p : Pipe) :
    ReaderStep sizes r p (r.turn (pieces sizes) p).1 (r.turn (pieces sizes) p).2 := by
  unfold PipeReader.turn
  cases hcall : r.call with
  | none => exact .enter hcall rfl
  | some v =>
    by_cases hcount : v.count = 0
    · have hbody : atomicReadBody (pieces sizes) { v with pipe := p } =
          .done ⟨v.total, v.dest, v.errno, p⟩ := if_pos hcount
      simp only [hbody]
      refine .finish hcall hcount (fun htotal => ?_) rfl
      simp [PipeReadRet.retval, htotal]
    · by_cases hfifo : p.fifo = []
      · cases hopen : p.writeEnd with
        | true =>
          have hbody : atomicReadBody (pieces sizes) { v with pipe := p } =
              .again { v with pipe := p } := by
            simp [atomicReadBody, hcount, sysRead, pieces, hfifo, hopen]
          simp only [hbody]
          exact .wait hcall hfifo hcount hopen
        | false =>
          have hbody : atomicReadBody (pieces sizes) { v with pipe := p } =
              .done ⟨v.total, v.dest, v.errno, { p with calls := p.calls + 1 }⟩ := by
            simp [atomicReadBody, hcount, sysRead, pieces, hfifo, hopen]
          simp only [hbody]
          refine .ended hcall hcount hfifo hopen (fun htotal => ?_) rfl
          have hshort : (v.total : Int) ≠ sizeofInt := by omega
          rw [PipeReadRet.retval, if_pos hshort]
      · have hread := sysRead_moves (show pieces sizes p.calls = .moves (sizes p.calls) from rfl)
          v.count hfifo
        have hlength := List.length_pos_iff.mpr hfifo
        have hpos := moved_pos (sizes p.calls)
          (show 0 < min v.count p.fifo.length by omega)
        have hle := moved_le (sizes p.calls) (min v.count p.fifo.length)
        generalize moved (sizes p.calls) (min v.count p.fifo.length) = m at hread hpos hle
        have hm : (p.fifo.take m).length = m := by
          rw [List.length_take]
          omega
        have hbody := @atomicReadBody_piece (pieces sizes) { v with pipe := p } _ _ hcount hread
          (by omega)
        rw [hm] at hbody
        simp only [hbody]
        exact .piece hcall hpos (by omega) (by omega) rfl

/-! ## The reader's half -/

/-- The bytes a call has taken so far. -/
def PipeReader.taken (r : PipeReader) : List UInt8 :=
  match r.call with
  | none => []
  | some v => listOf v.dest v.off

/-- What the reader has made of a stream: the ints at its front, then the calls that failed and
    the bytes these took. The stream is divided in four, and every byte is in exactly one part. -/
structure Reads (stream : List UInt8) (ints : List (BitVec 32)) (fails : List (Int × BitVec 32))
    (lost : List UInt8) (r : PipeReader) (p : Pipe) : Prop where
  returned : r.returned = ints.map (fun i => (0, i)) ++ fails
  stream_eq : stream = queued ints ++ lost ++ r.taken ++ p.fifo
  inCall : ∀ v, r.call = some v → v.off + v.count = sizeofInt ∧ v.total = v.off ∧ v.errno = none
  failed : ∀ f ∈ fails, f.1 = -(Errno.einval.code : Int)
  ended : fails ≠ [] → p.fifo = [] ∧ p.writeEnd = false ∧ r.taken = []
  nothing_lost : fails = [] → lost = []
  lost_lt : lost.length < sizeofInt

section

variable {stream bytes lost : List UInt8} {ints : List (BitVec 32)}
  {fails : List (Int × BitVec 32)} {r r' : PipeReader} {p p' : Pipe}

theorem ReaderStep.writeEnd {sizes : Nat → Nat} (hstep : ReaderStep sizes r p r' p') :
    p'.writeEnd = p.writeEnd := by
  cases hstep with
  | piece _ _ _ _ hp => rw [hp]
  | enter | wait | ended | finish => rfl

/-- A new pipe, and a reader that has not begun. -/
theorem Reads.start (i : BitVec 32) (opened : Bool) :
    Reads [] [] [] [] ⟨i, none, []⟩ ⟨[], opened, 0⟩ where
  returned := rfl
  stream_eq := rfl
  inCall := fun _ hv => nomatch hv
  failed := fun _ hf => nomatch hf
  ended := fun hne => absurd rfl hne
  nothing_lost := fun _ => rfl
  lost_lt := by decide

/-- Somebody else puts bytes into the pipe. -/
theorem Reads.written (h : Reads stream ints fails lost r p) (hopen : p.writeEnd = true)
    (hfifo : p'.fifo = p.fifo ++ bytes) : Reads (stream ++ bytes) ints fails lost r p' where
  returned := h.returned
  stream_eq := by rw [h.stream_eq, hfifo, List.append_assoc _ p.fifo]
  inCall := h.inCall
  failed := h.failed
  ended := fun hne => by
    rw [(h.ended hne).2.1] at hopen
    exact absurd hopen (by decide)
  nothing_lost := h.nothing_lost
  lost_lt := h.lost_lt

/-- Somebody else does something else to it. The end of the stream is final: once all writers are
    gone none comes back. -/
theorem Reads.of_fifo (h : Reads stream ints fails lost r p) (hfifo : p'.fifo = p.fifo)
    (hclosed : p.writeEnd = false → p'.writeEnd = false) :
    Reads stream ints fails lost r p' where
  returned := h.returned
  stream_eq := by rw [h.stream_eq, hfifo]
  inCall := h.inCall
  failed := h.failed
  ended := fun hne => by
    obtain ⟨hempty, hend, htaken⟩ := h.ended hne
    exact ⟨hfifo.trans hempty, hclosed hend, htaken⟩
  nothing_lost := h.nothing_lost
  lost_lt := h.lost_lt

/-- A call begins. It has taken nothing yet. -/
theorem Reads.enter (h : Reads stream ints fails lost r p) (hcall : r.call = none) :
    Reads stream ints fails lost
      { r with call := some ⟨0, sizeofInt, 0, intBytes r.i, none, p⟩ } p where
  returned := h.returned
  stream_eq := by
    have htaken : r.taken = [] := by rw [PipeReader.taken, hcall]
    rw [h.stream_eq, htaken]
    rfl
  inCall := fun v hv => by
    cases hv
    exact ⟨rfl, rfl, rfl⟩
  failed := h.failed
  ended := fun hne => by
    obtain ⟨hempty, hend, -⟩ := h.ended hne
    exact ⟨hempty, hend, rfl⟩
  nothing_lost := h.nothing_lost
  lost_lt := h.lost_lt

/-- A pass that waits changes nothing that matters. -/
theorem Reads.wait {v : PipeReadVars} (h : Reads stream ints fails lost r p)
    (hcall : r.call = some v) :
    Reads stream ints fails lost { r with call := some { v with pipe := p } } p := by
  have hsame : PipeReader.taken { r with call := some { v with pipe := p } } = r.taken := by
    simp only [PipeReader.taken, hcall]
  refine ⟨h.returned, ?_, ?_, h.failed, ?_, h.nothing_lost, h.lost_lt⟩
  · rw [hsame, h.stream_eq]
  · intro v' hv'
    cases hv'
    exact h.inCall v hcall
  · intro hne
    rw [hsame]
    exact h.ended hne

/-- A piece goes from the front of the pipe to the end of what the call has taken. There is one to
    take, so no call has failed: after the first failure the pipe is empty for good. -/
theorem Reads.piece {v : PipeReadVars} {m : Nat} (h : Reads stream ints fails lost r p)
    (hcall : r.call = some v) (hpos : 0 < m) (hm : m ≤ v.count) (hfifo : m ≤ p.fifo.length)
    (hp : p' = ⟨p.fifo.drop m, p.writeEnd, p.calls + 1⟩) :
    Reads stream ints fails lost { r with call := some ⟨v.off + m, v.count - m, v.total + m,
      copy v.dest v.off (bytesOf (p.fifo.take m)) m, v.errno, p'⟩ } p' := by
  subst hp
  obtain ⟨hleft, htotal, herrno⟩ := h.inCall v hcall
  have hnone : fails = [] := by
    refine Decidable.byContradiction fun hne => ?_
    rw [(h.ended hne).1] at hfifo
    exact absurd hfifo (by simp; omega)
  have hlen : (p.fifo.take m).length = m := by
    rw [List.length_take]
    omega
  have htaken : listOf (copy v.dest v.off (bytesOf (p.fifo.take m)) m) (v.off + m) =
      r.taken ++ p.fifo.take m := by
    have hcopy := listOf_copy v.dest v.off (p.fifo.take m)
    rw [hlen] at hcopy
    rw [hcopy, PipeReader.taken, hcall]
  refine ⟨h.returned, ?_, ?_, h.failed, fun hne => absurd hnone hne, h.nothing_lost, h.lost_lt⟩
  · show stream = queued ints ++ lost ++ listOf _ (v.off + m) ++ p.fifo.drop m
    rw [htaken, h.stream_eq, List.append_assoc, List.append_assoc _ _ (p.fifo.drop m),
      List.append_assoc r.taken, List.take_append_drop]
  · intro v' hv'
    cases hv'
    refine ⟨?_, ?_, herrno⟩
    · show v.off + m + (v.count - m) = sizeofInt
      omega
    · show v.total + m = v.off + m
      rw [htotal]

/-- A call meets the end of the stream. It fails, and what it had taken is lost with it. -/
theorem Reads.fail {v : PipeReadVars} {ret : Int} {i : BitVec 32}
    (h : Reads stream ints fails lost r p) (hcall : r.call = some v) (hcount : v.count ≠ 0)
    (hfifo : p.fifo = []) (hclosed : p.writeEnd = false)
    (hret : v.total < sizeofInt → ret = pipeFailure v.errno) :
    Reads stream ints (fails ++ [(ret, i)]) (lost ++ r.taken)
      ⟨i, none, r.returned ++ [(ret, i)]⟩ { p with calls := p.calls + 1 } := by
  obtain ⟨hleft, htotal, herrno⟩ := h.inCall v hcall
  have htaken : r.taken = listOf v.dest v.off := by rw [PipeReader.taken, hcall]
  have hret : ret = -(Errno.einval.code : Int) := by
    rw [hret (by omega), herrno]
    rfl
  refine ⟨?_, ?_, nofun, ?_, fun _ => ⟨hfifo, hclosed, rfl⟩, fun hnil => absurd hnil (by simp),
    ?_⟩
  · show r.returned ++ [(ret, i)] = _
    rw [h.returned, List.append_assoc]
  · show stream = queued ints ++ (lost ++ r.taken) ++ [] ++ p.fifo
    rw [h.stream_eq, List.append_nil, List.append_assoc (queued ints)]
  · intro f hf
    rcases List.mem_append.mp hf with hold | hnew
    · exact h.failed f hold
    · rw [List.mem_singleton.mp hnew]
      exact hret
  · -- either the first failure, or one with nothing left to lose
    by_cases hnone : fails = []
    · rw [h.nothing_lost hnone, List.nil_append, htaken, length_listOf]
      omega
    · rw [(h.ended hnone).2.2, List.append_nil]
      exact h.lost_lt

/-- A call has its four bytes. A call that gets them cannot come after one that failed. -/
theorem Reads.finish {v : PipeReadVars} {ret : Int} {i : BitVec 32}
    (h : Reads stream ints fails lost r p) (hcall : r.call = some v) (hcount : v.count = 0)
    (hret : v.total = sizeofInt → ret = 0)
    (hi : i = BitVec.ofNat 32 (leLoad v.dest 0 sizeofInt)) :
    Reads stream (ints ++ [i]) [] [] ⟨i, none, r.returned ++ [(ret, i)]⟩ p := by
  obtain ⟨hleft, htotal, herrno⟩ := h.inCall v hcall
  have hoff : v.off = sizeofInt := by omega
  have htaken : r.taken = listOf v.dest sizeofInt := by rw [PipeReader.taken, hcall, ← hoff]
  have hnone : fails = [] := by
    refine Decidable.byContradiction fun hne => ?_
    have hlen := congrArg List.length ((h.ended hne).2.2.symm.trans htaken)
    rw [length_listOf] at hlen
    exact absurd hlen (by decide)
  refine ⟨?_, ?_, nofun, nofun, fun hne => absurd rfl hne, fun _ => rfl, by decide⟩
  · show r.returned ++ [(ret, i)] = _
    rw [h.returned, hnone, hret (by omega)]
    simp
  · show stream = queued (ints ++ [i]) ++ [] ++ [] ++ p.fifo
    rw [h.stream_eq, h.nothing_lost hnone, htaken, queued_append, queued_singleton, hi,
      listOf_intBytes]
    simp

/-- **The reader's turn**: the same stream, read a little further. -/
theorem Reads.step {sizes : Nat → Nat} (h : Reads stream ints fails lost r p)
    (hstep : ReaderStep sizes r p r' p') :
    ∃ ints fails lost, Reads stream ints fails lost r' p' := by
  cases hstep with
  | enter hcall hv =>
    subst hv
    exact ⟨_, _, _, h.enter hcall⟩
  | wait hcall => exact ⟨_, _, _, h.wait hcall⟩
  | piece hcall hpos hm hfifo hp => exact ⟨_, _, _, h.piece hcall hpos hm hfifo hp⟩
  | ended hcall hcount hfifo hclosed hret =>
    exact ⟨_, _, _, h.fail hcall hcount hfifo hclosed hret⟩
  | finish hcall hcount hret hi => exact ⟨_, _, _, h.finish hcall hcount hret hi⟩

/-- What was read of a stream that is ints and less than one more: a beginning of the ints, and
    all of them if a call has failed. Here bytes become ints again. -/
theorem Reads.returned_eq {sent : List (BitVec 32)} {rest : List UInt8}
    (h : Reads (queued sent ++ rest) ints fails lost r p) (hrest : rest.length < sizeofInt) :
    ints.length ≤ sent.length ∧ ints = sent.take ints.length ∧
      (fails ≠ [] → ints.length = sent.length) := by
  have hlen := congrArg List.length h.stream_eq
  simp only [List.length_append, length_queued, sizeofInt] at hlen hrest
  have hle : ints.length ≤ sent.length := by omega
  refine ⟨hle, ?_, ?_⟩
  · have hprefix : queued ints ++ (lost ++ r.taken ++ p.fifo) = queued sent ++ rest := by
      rw [h.stream_eq]
      simp
    exact eq_take_of_queued hprefix hle
  · intro hne
    obtain ⟨hempty, -, htaken⟩ := h.ended hne
    have hlost : lost.length < 4 := h.lost_lt
    rw [hempty, htaken, List.length_nil] at hlen
    omega

end

/-! ## A reader that is left alone -/

variable {n : Nat}

/-- The pipe is empty, and no call has an `int` that it only has to return. A call may still wait
    for one. -/
def PipeSystem.Drained (s : PipeSystem n) : Prop :=
  s.pipe.fifo = [] ∧ ∀ v, s.reader.call = some v → v.count ≠ 0

/-- How far the reader is from an empty pipe: a byte stands for the pass that takes it, for the
    return of that call and for the entry into the next one. -/
def PipeSystem.toDrain (s : PipeSystem n) : Nat :=
  3 * s.pipe.fifo.length +
    match s.reader.call with
    | none => 1
    | some v => if v.count = 0 then 2 else 0

/-- Every turn of the reader brings it closer. A pass that waits does not occur, since the pipe is
    not empty or a call has only to return. -/
theorem PipeSystem.toDrain_read {W : Nat → Io} {sizes : Nat → Nat} {s : PipeSystem n}
    (h : ¬ s.Drained) : (s.turn W (pieces sizes) .read).toDrain < s.toDrain := by
  have hstep := s.reader.turn_step sizes s.pipe
  show PipeSystem.toDrain { s with
    reader := (s.reader.turn (pieces sizes) s.pipe).1
    pipe := (s.reader.turn (pieces sizes) s.pipe).2 } < _
  generalize (s.reader.turn (pieces sizes) s.pipe).1 = r at hstep ⊢
  generalize (s.reader.turn (pieces sizes) s.pipe).2 = p at hstep ⊢
  cases hstep with
  | enter hcall hv => simp [toDrain, hcall, hv, sizeofInt]
  | wait hcall hfifo hcount =>
    refine absurd ⟨hfifo, fun v hv => ?_⟩ h
    cases hcall.symm.trans hv
    exact hcount
  | @piece v m p' hcall hpos hm hfifo hp =>
    subst hp
    simp only [toDrain, List.length_drop]
    split <;> split <;> omega
  | ended hcall hcount hfifo =>
    refine absurd ⟨hfifo, fun v hv => ?_⟩ h
    cases hcall.symm.trans hv
    exact hcount
  | finish hcall hcount => simp [toDrain, hcall, hcount]

/-- **Enough turns of the reader empty the pipe**, whatever is in it, and do not touch the
    writers. -/
theorem exists_drained (W : Nat → Io) (sizes : Nat → Nat) {stream : List UInt8} {s : PipeSystem n}
    (h : ∃ ints fails lost, Reads stream ints fails lost s.reader s.pipe) :
    ∃ k, ∃ s', s' = runTurns (PipeSystem.turn W (pieces sizes)) (.replicate k .read) s ∧
      s'.writer = s.writer ∧ s'.Drained ∧
      ∃ ints fails lost, Reads stream ints fails lost s'.reader s'.pipe := by
  obtain ⟨k, ⟨hw, hr⟩, hd⟩ := exists_turns (PipeSystem.turn W (pieces sizes))
    (fun s' => s'.writer = s.writer ∧
      ∃ ints fails lost, Reads stream ints fails lost s'.reader s'.pipe)
    PipeSystem.Drained .read PipeSystem.toDrain
    (fun s' ⟨hw, ints, fails, lost, hr⟩ hd =>
      ⟨⟨hw, hr.step (s'.reader.turn_step sizes s'.pipe)⟩, PipeSystem.toDrain_read hd⟩)
    ⟨rfl, h⟩
  exact ⟨k, _, rfl, hw, hd, hr⟩

/-- With the pipe empty, the reader has every `int` of the stream. -/
theorem Reads.of_drained {sent : List (BitVec 32)} {rest lost : List UInt8}
    {ints : List (BitVec 32)} {fails : List (Int × BitVec 32)} {s : PipeSystem n}
    (h : Reads (queued sent ++ rest) ints fails lost s.reader s.pipe)
    (hrest : rest.length < sizeofInt) (hd : s.Drained) : ints = sent := by
  obtain ⟨hle, htake, hall⟩ := h.returned_eq hrest
  have hlength : ints.length = sent.length := by
    by_cases hnone : fails = []
    · have hlen := congrArg List.length h.stream_eq
      have htaken : s.reader.taken.length < sizeofInt := by
        unfold PipeReader.taken
        cases hcall : s.reader.call with
        | none => decide
        | some v =>
          have hcount := hd.2 v hcall
          have hleft := (h.inCall v hcall).1
          rw [length_listOf]
          omega
      simp only [List.length_append, length_queued, sizeofInt, h.nothing_lost hnone, hd.1,
        List.length_nil] at hlen hrest htaken
      omega
    · exact hall hnone
  rw [htake, hlength, List.take_length]

/-! ## A call that nobody interrupts

The turns of one process alone are the call as `pipe.c` has it, so whatever is known of
`pink_pipe_write_int` and `pink_pipe_read_int` is known of the system. -/

section

variable {W R : Nat → Io}

/-- The last of two changes to a writer counts. -/
theorem PipeSystem.setWriter_setWriter (s : PipeSystem n) (k : Fin n) (w w' : PipeWriter)
    (p : Pipe) :
    PipeSystem.setWriter { s with writer := s.setWriter k w, pipe := p } k w' =
      s.setWriter k w' := by
  funext j
  by_cases hj : j = k
  · simp [PipeSystem.setWriter, hj]
  · simp [PipeSystem.setWriter, hj]

/-- The rest of a call of a writer, from anywhere in it: the passes of the loop are its turns, one
    for one. -/
theorem write_alone {fuel : Nat} {s : PipeSystem n} {k : Fin n} {i : BitVec 32}
    {v : PipeWriteVars} {r : PipeWriteRet} (halive : (s.writer k).alive = true)
    (hcall : (s.writer k).call = some (i, v))
    (hrun : run (atomicWriteBody W (intBytes i)) fuel { v with pipe := s.pipe } = some r) :
    ∃ turns, runTurns (PipeSystem.turn W R) (.replicate turns (.write k)) s =
      { s with
        writer := s.setWriter k { s.writer k with
          call := none, returned := (s.writer k).returned ++ [(i, r.retval)] }
        pipe := r.pipe } := by
  -- the call may be anywhere in its loop, so the system and the variables are generalised
  induction fuel generalizing s v with
  | zero => cases hrun
  | succ fuel ih =>
    cases hbody : atomicWriteBody W (intBytes i) { v with pipe := s.pipe } with
    | done r' =>
      rw [run_done hbody] at hrun
      cases hrun
      refine ⟨1, ?_⟩
      simp [runTurns, PipeSystem.turn, PipeWriter.turn, halive, hcall, hbody]
    | again v' =>
      rw [run_again hbody] at hrun
      have hturn : s.turn W R (.write k) =
          { s with
            writer := s.setWriter k { s.writer k with call := some (i, v') }
            pipe := v'.pipe } := by
        simp [PipeSystem.turn, PipeWriter.turn, halive, hcall, hbody]
      have hself : (s.turn W R (.write k)).writer k = { s.writer k with call := some (i, v') } := by
        rw [hturn]
        exact if_pos rfl
      obtain ⟨turns, hturns⟩ := @ih (s.turn W R (.write k)) v' (by rw [hself]; exact halive)
        (by rw [hself]) (by rw [hturn]; exact hrun)
      refine ⟨turns + 1, hturns.trans ?_⟩
      rw [hself, hturn, PipeSystem.setWriter_setWriter]
    | undef =>
      rw [run_undef hbody] at hrun
      cases hrun

/-- The same of the reader. A call that waits has no result in either world. -/
theorem read_alone {fuel : Nat} {s : PipeSystem n} {v : PipeReadVars} {a : PipeReadRet}
    (hcall : s.reader.call = some v)
    (hrun : run (atomicReadBody R) fuel { v with pipe := s.pipe } = some a) :
    ∃ turns, runTurns (PipeSystem.turn W R) (.replicate turns .read) s =
      { s with
        reader := ⟨BitVec.ofNat 32 (leLoad a.dest 0 sizeofInt), none,
          s.reader.returned ++ [(a.retval, BitVec.ofNat 32 (leLoad a.dest 0 sizeofInt))]⟩
        pipe := a.pipe } := by
  induction fuel generalizing s v with
  | zero => cases hrun
  | succ fuel ih =>
    cases hbody : atomicReadBody R { v with pipe := s.pipe } with
    | done a' =>
      rw [run_done hbody] at hrun
      cases hrun
      refine ⟨1, ?_⟩
      simp [runTurns, PipeSystem.turn, PipeReader.turn, hcall, hbody]
    | again v' =>
      rw [run_again hbody] at hrun
      have hturn : s.turn W R .read =
          { s with reader := { s.reader with call := some v' }, pipe := v'.pipe } := by
        simp [PipeSystem.turn, PipeReader.turn, hcall, hbody]
      obtain ⟨turns, hturns⟩ := @ih (s.turn W R .read) v' (by rw [hturn])
        (by rw [hturn]; exact hrun)
      refine ⟨turns + 1, hturns.trans ?_⟩
      rw [hturn]
    | undef =>
      rw [run_undef hbody] at hrun
      cases hrun

theorem pinkPipeWriteInt_eq_map (fuel : Nat) (i : BitVec 32) (p : Pipe) :
    pinkPipeWriteInt fuel W i p =
      (atomicWrite fuel W (intBytes i) sizeofInt p).map fun r => (r.retval, r.pipe) := by
  unfold pinkPipeWriteInt
  cases atomicWrite fuel W (intBytes i) sizeofInt p with
  | none => rfl
  | some r =>
    simp only [Option.bind_eq_bind, Option.bind_some, Option.map_some]
    unfold PipeWriteRet.retval
    split <;> rfl

theorem pinkPipeReadInt_eq_map (fuel : Nat) (i : BitVec 32) (p : Pipe) :
    pinkPipeReadInt fuel R i p =
      (atomicRead fuel R (intBytes i) sizeofInt p).map fun r =>
        ⟨r.retval, BitVec.ofNat 32 (leLoad r.dest 0 sizeofInt), r.pipe⟩ := by
  unfold pinkPipeReadInt
  cases atomicRead fuel R (intBytes i) sizeofInt p with
  | none => rfl
  | some r =>
    simp only [Option.bind_eq_bind, Option.bind_some, Option.map_some]
    unfold PipeReadRet.retval
    split <;> rfl

/-- **Left alone, a process makes its call as the function does**: the value, the `int` and the
    pipe are those of `pink_pipe_write_int` and `pink_pipe_read_int` in that state. This holds for
    every kernel, of which calls may fail, and of a system in which others are in the middle of
    theirs. -/
theorem turns_alone_are_calls (W R : Nat → Io) (s : PipeSystem n) :
    (∀ (k : Fin n) (i : BitVec 32) (todo : List (BitVec 32)) (fuel : Nat) (ret : Int) (p : Pipe),
      (s.writer k).alive = true → (s.writer k).call = none → (s.writer k).todo = i :: todo →
      pinkPipeWriteInt fuel W i s.pipe = some (ret, p) →
      ∃ turns, runTurns (PipeSystem.turn W R) (.replicate turns (.write k)) s =
        { s with
          writer := s.setWriter k ⟨todo, none, (s.writer k).returned ++ [(i, ret)], true⟩
          pipe := p }) ∧
    ∀ (fuel : Nat) (a : PipeIntRet), s.reader.call = none →
      pinkPipeReadInt fuel R s.reader.i s.pipe = some a →
      ∃ turns, runTurns (PipeSystem.turn W R) (.replicate turns .read) s =
        { s with
          reader := ⟨a.i, none, s.reader.returned ++ [(a.ret, a.i)]⟩
          pipe := a.pipe } := by
  constructor
  · intro k i todo fuel ret p halive hcall htodo hcalled
    rw [pinkPipeWriteInt_eq_map, Option.map_eq_some_iff] at hcalled
    obtain ⟨r, hrun, hret⟩ := hcalled
    cases hret
    have henter : s.turn W R (.write k) =
        { s with writer := s.setWriter k { s.writer k with
          todo, call := some (i, ⟨0, sizeofInt, 0, none, s.pipe⟩) } } := by
      simp [PipeSystem.turn, PipeWriter.turn, halive, hcall, htodo]
    have hself : (s.turn W R (.write k)).writer k = { s.writer k with
        todo, call := some (i, ⟨0, sizeofInt, 0, none, s.pipe⟩) } := by
      rw [henter]
      exact if_pos rfl
    obtain ⟨turns, hturns⟩ := @write_alone n W R fuel (s.turn W R (.write k)) k i _ r
      (by rw [hself]; exact halive) (by rw [hself]) (by rw [henter]; exact hrun)
    refine ⟨turns + 1, hturns.trans ?_⟩
    rw [hself, henter, PipeSystem.setWriter_setWriter]
    simp only [halive]
  · intro fuel a hcall hcalled
    rw [pinkPipeReadInt_eq_map, Option.map_eq_some_iff] at hcalled
    obtain ⟨r, hrun, hret⟩ := hcalled
    cases hret
    have henter : s.turn W R .read =
        { s with reader := { s.reader with
          call := some ⟨0, sizeofInt, 0, intBytes s.reader.i, none, s.pipe⟩ } } := by
      simp [PipeSystem.turn, PipeReader.turn, hcall]
    obtain ⟨turns, hturns⟩ := @read_alone n W R fuel (s.turn W R .read) _ r (by rw [henter])
      (by rw [henter]; exact hrun)
    refine ⟨turns + 1, hturns.trans ?_⟩
    rw [henter]

/-- A writer with one `int`, a byte at a time. -/
theorem turns_alone_are_calls_seven :
    ∃ turns, (runTurns (PipeSystem.turn (pieces fun _ => 1) (pieces fun _ => 1))
      (.replicate turns (.write 0)) (.start (fun _ : Fin 1 => [7]) 0)).pipe.fifo =
        [7, 0, 0, 0] := by
  obtain ⟨turns, hturns⟩ := (turns_alone_are_calls (pieces fun _ => 1) (pieces fun _ => 1)
    (.start (fun _ : Fin 1 => [7]) 0)).1 0 7 [] 6 0 ⟨[7, 0, 0, 0], true, 4⟩ rfl rfl rfl rfl
  exact ⟨turns, by rw [hturns]⟩

end

end PinkTrace
