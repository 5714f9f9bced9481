import PinkTrace.Pipe

/-!
# The pipe carries every int

The kernel may cut a transfer into pieces wherever it likes, and the two loops of `pipe.c` put
them together again. The step lemmas are `atomicWrite_spec` and `atomicRead_spec`: whatever the
pieces, a write call appends its bytes to the queue and a read call takes its bytes off the front,
nothing else. An `int` is four bytes on both sides, so the queue of bytes is at all times the
queue of the ints not yet read (`queued`), and a session of calls in any order is a session of a
queue of ints.

## What is left out here, and where it is

The kernel of this file cuts and does nothing worse: `pieces` never fails a call. A call that a
signal interrupts is `PipeInterrupt`. And the calls of a session come one after the other, so a
reader never finds an `int` of which only some bytes are there. Processes that take turns within a
call are `PipeSystem`; that file also proves that the calls here are what its turns come to if
nobody interrupts.
-/

set_option autoImplicit false

namespace PinkTrace

open Lib

/-- A kernel that cuts transfers into pieces and does nothing worse. -/
def pieces (sizes : Nat → Nat) : Nat → Io := fun k => .moves (sizes k)

variable (sizes : Nat → Nat) {fuel : Nat}

/-! ## Writing -/

theorem sysWrite_pieces (offered : List UInt8) (p : Pipe) :
    sysWrite (pieces sizes) offered p = (.ok (moved (sizes p.calls) offered.length),
      { p with
        fifo := p.fifo ++ offered.take (moved (sizes p.calls) offered.length)
        calls := p.calls + 1 }) := rfl

/-- At the head of `atomic_write`'s loop: what is behind `buf` is in the pipe, at the end and in
    order. -/
structure AtomicWriteInv (buf : Bytes) (n : Nat) (fifo : List UInt8) (v : PipeWriteVars) :
    Prop where
  left : v.off + v.count = n
  total : v.total = v.off
  fifo : v.pipe.fifo = fifo ++ listOf buf v.off

/-- A pass moves a piece, or all of it is moved. The measure is the bytes left, and a piece has at
    least one. -/
theorem AtomicWriteInv.step {buf : Bytes} {n : Nat} {fifo : List UInt8} {v : PipeWriteVars}
    (hv : AtomicWriteInv buf n fifo v) :
    Advances (AtomicWriteInv buf n fifo) PipeWriteVars.count
      (fun r => r.ret = (n : Int) ∧ r.pipe.fifo = fifo ++ listOf buf n) v
      (atomicWriteBody (pieces sizes) buf v) := by
  have hleft := hv.left
  rw [atomicWriteBody]
  split
  · rename_i h0
    have hoff : v.off = n := by omega
    exact ⟨by rw [hv.total, hoff], by rw [hv.fifo, hoff]⟩
  · rename_i hne
    have hpos := moved_pos (sizes v.pipe.calls) (Nat.pos_of_ne_zero hne)
    have hle := moved_le (sizes v.pipe.calls) v.count
    simp only [sysWrite_pieces, length_listOf, take_listOf _ hle, if_neg (Nat.ne_of_gt hpos)]
    refine ⟨⟨?_, ?_, ?_⟩, ?_⟩
    · show v.off + moved (sizes v.pipe.calls) v.count +
        (v.count - moved (sizes v.pipe.calls) v.count) = n
      omega
    · show v.total + moved (sizes v.pipe.calls) v.count = v.off + _
      rw [hv.total]
    · show v.pipe.fifo ++ listOf (fun i => buf (v.off + i)) (moved (sizes v.pipe.calls) v.count) =
        fifo ++ listOf buf (v.off + moved (sizes v.pipe.calls) v.count)
      rw [hv.fifo, List.append_assoc, ← listOf_add]
    · show v.count - moved (sizes v.pipe.calls) v.count < v.count
      omega

/-- **A write call appends its bytes**, in whatever pieces they are taken. -/
theorem atomicWrite_spec (buf : Bytes) (n : Nat) (p : Pipe) (hf : n < fuel) :
    ∃ r, atomicWrite fuel (pieces sizes) buf n p = some r ∧ r.ret = (n : Int) ∧
      r.pipe.fifo = p.fifo ++ listOf buf n := by
  have hstart : AtomicWriteInv buf n p.fifo ⟨0, n, 0, none, p⟩ :=
    ⟨Nat.zero_add n, rfl, (List.append_nil p.fifo).symm⟩
  exact run_of_invariant (fun v hv => hv.step sizes) hstart hf

/-! ## Reading -/

/-- A read from a pipe with something in it gets at least one byte, and no more than it asked for.
    -/
theorem sysRead_moves {K : Nat → Io} {p : Pipe} {n : Nat} (hK : K p.calls = .moves n)
    (count : Nat) (h : p.fifo ≠ []) :
    sysRead K count p = some (.ok (p.fifo.take (moved n (min count p.fifo.length))),
      { p with
        fifo := p.fifo.drop (moved n (min count p.fifo.length))
        calls := p.calls + 1 }) := by
  simp [sysRead, hK, h]

/-- At the head of `atomic_read`'s loop, when the bytes to be read were at the front of the pipe:
    the first of them are in the buffer, and the pipe still has the others. -/
structure AtomicReadInv (data rest : List UInt8) (buf : Bytes) (v : PipeReadVars) : Prop where
  left : v.off + v.count = data.length
  total : v.total = v.off
  dest : v.dest = copy buf 0 (bytesOf data) v.off
  fifo : v.pipe.fifo = data.drop v.off ++ rest

theorem atomicReadBody_piece {K : Nat → Io} {v : PipeReadVars} {bytes : List UInt8}
    {pipe : Pipe} (h : v.count ≠ 0) (hread : sysRead K v.count v.pipe = some (.ok bytes, pipe))
    (hb : bytes.length ≠ 0) :
    atomicReadBody K v = .again ⟨v.off + bytes.length, v.count - bytes.length,
      v.total + bytes.length, copy v.dest v.off (bytesOf bytes) bytes.length, v.errno, pipe⟩ := by
  simp only [atomicReadBody, if_neg h, hread, if_neg hb]

/-- A piece is taken off the front of the pipe and put behind what is in the buffer. Neither list
    of bytes changes, only where it is divided. -/
theorem AtomicReadInv.next {data rest : List UInt8} {buf : Bytes} {v : PipeReadVars} {m : Nat}
    (hv : AtomicReadInv data rest buf v) (hm : m ≤ v.count) (calls : Nat) :
    AtomicReadInv data rest buf ⟨v.off + m, v.count - m, v.total + m,
      copy v.dest v.off (bytesOf ((data.drop v.off).take m)) m, v.errno,
      ⟨v.pipe.fifo.drop m, v.pipe.writeEnd, calls⟩⟩ := by
  have hleft := hv.left
  refine ⟨?_, ?_, ?_, ?_⟩
  · show v.off + m + (v.count - m) = data.length
    omega
  · show v.total + m = v.off + m
    rw [hv.total]
  · show copy v.dest v.off (bytesOf ((data.drop v.off).take m)) m = _
    rw [hv.dest, copy_congr (fun i hi => bytesOf_take_drop data v.off hi), copy_copy]
  · show v.pipe.fifo.drop m = data.drop (v.off + m) ++ rest
    have hlen : m ≤ (data.drop v.off).length := by
      rw [List.length_drop]
      omega
    rw [hv.fifo, List.drop_append_of_le_length hlen, List.drop_drop]

/-- A pass that gets a piece: it comes out of the bytes to be read, as there are `count` of them
    in front. -/
theorem AtomicReadInv.body_eq {K : Nat → Io} {data rest : List UInt8} {buf : Bytes}
    {v : PipeReadVars} {n : Nat} (hv : AtomicReadInv data rest buf v) (h0 : v.count ≠ 0)
    (hK : K v.pipe.calls = .moves n) :
    atomicReadBody K v = .again ⟨v.off + moved n v.count, v.count - moved n v.count,
      v.total + moved n v.count,
      copy v.dest v.off (bytesOf ((data.drop v.off).take (moved n v.count))) (moved n v.count),
      v.errno,
      ⟨v.pipe.fifo.drop (moved n v.count), v.pipe.writeEnd, v.pipe.calls + 1⟩⟩ := by
  have hleft := hv.left
  have hlen : (data.drop v.off).length = v.count := by
    rw [List.length_drop]
    omega
  have hmin : min v.count v.pipe.fifo.length = v.count := by
    rw [hv.fifo, List.length_append]
    omega
  have hfifo : v.pipe.fifo ≠ [] := fun hnil => by
    rw [hnil, List.length_nil] at hmin
    omega
  have hread := sysRead_moves hK v.count hfifo
  have hpos := moved_pos n (Nat.pos_of_ne_zero h0)
  have hle := moved_le n v.count
  rw [hmin] at hread
  generalize moved n v.count = m at hpos hle hread
  have htake : v.pipe.fifo.take m = (data.drop v.off).take m := by
    rw [hv.fifo, List.take_append_of_le_length (by omega)]
  have hm : (v.pipe.fifo.take m).length = m := by
    rw [htake, List.length_take]
    omega
  rw [atomicReadBody_piece h0 hread (by omega), hm, htake]

theorem AtomicReadInv.step {data rest : List UInt8} {buf : Bytes} {v : PipeReadVars}
    (hv : AtomicReadInv data rest buf v) :
    Advances (AtomicReadInv data rest buf) PipeReadVars.count
      (fun r => r.ret = (data.length : Int) ∧
        r.dest = copy buf 0 (bytesOf data) data.length ∧ r.pipe.fifo = rest) v
      (atomicReadBody (pieces sizes) v) := by
  have hleft := hv.left
  by_cases h0 : v.count = 0
  · have hoff : v.off = data.length := by omega
    rw [atomicReadBody, if_pos h0]
    refine ⟨by rw [hv.total, hoff], by rw [hv.dest, hoff], ?_⟩
    rw [hv.fifo, hoff, List.drop_length, List.nil_append]
  · have hpos := moved_pos (sizes v.pipe.calls) (Nat.pos_of_ne_zero h0)
    rw [hv.body_eq h0 (show pieces sizes v.pipe.calls = .moves (sizes v.pipe.calls) from rfl)]
    refine ⟨hv.next (moved_le _ _) _, ?_⟩
    show v.count - moved (sizes v.pipe.calls) v.count < v.count
    omega

/-- **A read call takes its bytes off the front**, in whatever pieces they come. -/
theorem atomicRead_spec {data rest : List UInt8} (buf : Bytes) (p : Pipe)
    (hp : p.fifo = data ++ rest) (hf : data.length < fuel) :
    ∃ r, atomicRead fuel (pieces sizes) buf data.length p = some r ∧ r.ret = (data.length : Int) ∧
      r.dest = copy buf 0 (bytesOf data) data.length ∧ r.pipe.fifo = rest := by
  have hstart : AtomicReadInv data rest buf ⟨0, data.length, 0, buf, none, p⟩ :=
    ⟨Nat.zero_add _, rfl, (copy_zero ..).symm, hp⟩
  exact run_of_invariant (fun v hv => hv.step sizes) hstart hf

/-! ## Ints -/

theorem pinkPipeWriteInt_spec (i : BitVec 32) (p : Pipe) (hf : sizeofInt < fuel) :
    ∃ p', pinkPipeWriteInt fuel (pieces sizes) i p = some (0, p') ∧
      p'.fifo = p.fifo ++ listOf (intBytes i) sizeofInt := by
  obtain ⟨r, hrun, hret, hfifo⟩ := atomicWrite_spec sizes (intBytes i) sizeofInt p hf
  refine ⟨r.pipe, ?_, hfifo⟩
  simp [pinkPipeWriteInt, hrun, hret]

theorem pinkPipeReadInt_eq {K : Nat → Io} {old : BitVec 32} {p : Pipe} {r : PipeReadRet}
    (h : atomicRead fuel K (intBytes old) sizeofInt p = some r) :
    pinkPipeReadInt fuel K old p = some ⟨if r.ret = sizeofInt then 0 else pipeFailure r.errno,
      BitVec.ofNat 32 (leLoad r.dest 0 sizeofInt), r.pipe⟩ := by
  simp only [pinkPipeReadInt, h, Option.bind_eq_bind, Option.bind_some]
  by_cases hret : r.ret = (sizeofInt : Int)
  · rw [if_neg (not_not_intro hret), if_pos hret]
  · rw [if_pos hret, if_neg hret]

/-- An `int` at the front of the pipe is read, whatever the variable held. -/
theorem pinkPipeReadInt_spec (i old : BitVec 32) (p : Pipe) {rest : List UInt8}
    (hp : p.fifo = listOf (intBytes i) sizeofInt ++ rest) (hf : sizeofInt < fuel) :
    ∃ p', pinkPipeReadInt fuel (pieces sizes) old p = some ⟨0, i, p'⟩ ∧ p'.fifo = rest := by
  obtain ⟨r, hrun, hret, hdest, hfifo⟩ :=
    atomicRead_spec sizes (intBytes old) p hp (by rwa [length_listOf])
  rw [length_listOf] at hrun hret hdest
  have hval : BitVec.ofNat 32 (leLoad r.dest 0 sizeofInt) = i := by
    have hload : leLoad r.dest 0 sizeofInt = leLoad (intBytes i) 0 sizeofInt := by
      refine leLoad_congr fun j hj => ?_
      rw [hdest, Nat.zero_add, copy_of_lt (Nat.zero_le j) (by omega), bytesOf_listOf _ (by omega)]
      rfl
    have hlt : i.toNat < 256 ^ sizeofInt := i.isLt
    rw [hload, intBytes, leLoad_leBytes, Nat.mod_eq_of_lt hlt, BitVec.ofNat_toNat,
      BitVec.setWidth_eq]
  refine ⟨r.pipe, ?_, hfifo⟩
  rw [pinkPipeReadInt_eq hrun, if_pos hret, hval]

/-! ## Sessions -/

/-- A call of the writer, or of the reader, whose `int` holds something before. -/
inductive PipeCall
  | writeInt (i : BitVec 32)
  | readInt (old : BitVec 32)

/-- What a session leaves: the values the writer's calls returned, what the reader's calls
    returned and stored, and the pipe. -/
structure Session where
  wrote : List Int
  got : List (Int × BitVec 32)
  pipe : Pipe

/-- Whole calls, one after the other. -/
def session (fuel : Nat) (K : Nat → Io) : List PipeCall → Pipe → Option Session
  | [], p => some ⟨[], [], p⟩
  | .writeInt i :: calls, p => do
    let (ret, p) ← pinkPipeWriteInt fuel K i p
    let out ← session fuel K calls p
    some { out with wrote := ret :: out.wrote }
  | .readInt old :: calls, p => do
    let r ← pinkPipeReadInt fuel K old p
    let out ← session fuel K calls r.pipe
    some { out with got := (r.ret, r.i) :: out.got }

/-- The ints a session writes, in order. -/
def written : List PipeCall → List (BitVec 32)
  | [] => []
  | .writeInt i :: calls => i :: written calls
  | .readInt _ :: calls => written calls

/-- The number of ints it reads. -/
def reads : List PipeCall → Nat
  | [] => 0
  | .writeInt _ :: calls => reads calls
  | .readInt _ :: calls => reads calls + 1

/-- No reader's call comes before the bytes it waits for, with `n` ints in the pipe at first. A
    call that does would wait for ever in a session without other processes. -/
def Available : Nat → List PipeCall → Prop
  | _, [] => True
  | n, .writeInt _ :: calls => Available (n + 1) calls
  | n, .readInt _ :: calls => 0 < n ∧ Available (n - 1) calls

/-- The bytes of a queue of ints. The abstraction function of this file, and of the three that
    build on it. -/
def queued (q : List (BitVec 32)) : List UInt8 := q.flatMap fun i => listOf (intBytes i) sizeofInt

/-- **A session on the pipe is a session on a queue of ints.** The induction is on the calls; the
    queue is generalised, because each call changes it. -/
theorem session_spec (calls : List PipeCall) (q : List (BitVec 32)) (p : Pipe)
    (hp : p.fifo = queued q) (ha : Available q.length calls) (hf : sizeofInt < fuel) :
    ∃ out, session fuel (pieces sizes) calls p = some out ∧
      out.wrote = (written calls).map (fun _ => 0) ∧
      out.got = ((q ++ written calls).take (reads calls)).map (fun i => (0, i)) ∧
      out.pipe.fifo = queued ((q ++ written calls).drop (reads calls)) := by
  induction calls generalizing q p with
  | nil => exact ⟨_, rfl, rfl, rfl, by simp [written, reads, hp]⟩
  | cons call calls ih =>
    cases call with
    | writeInt i =>
      obtain ⟨p', hrun, hfifo⟩ := pinkPipeWriteInt_spec sizes i p hf
      have hp' : p'.fifo = queued (q ++ [i]) := by
        rw [hfifo, hp]
        simp [queued]
      obtain ⟨out, hout, hwrote, hgot, hend⟩ := ih (q ++ [i]) p' hp'
        (by rw [List.length_append]; exact ha)
      refine ⟨_, by simp [session, hrun, hout]; rfl, ?_, ?_, ?_⟩
      · simp [written, hwrote]
      · simpa [written, reads] using hgot
      · simpa [written, reads] using hend
    | readInt old =>
      obtain ⟨hpos, ha⟩ := ha
      -- the reader does not come too early, so there is an `int` at the front
      obtain ⟨i, q, rfl⟩ := List.exists_cons_of_length_pos hpos
      have hfront : p.fifo = listOf (intBytes i) sizeofInt ++ queued q := by
        rw [hp]
        simp [queued]
      obtain ⟨p', hrun, hfifo⟩ := pinkPipeReadInt_spec sizes i old p hfront hf
      obtain ⟨out, hout, hwrote, hgot, hend⟩ := ih q p' hfifo (by simpa using ha)
      refine ⟨_, by simp [session, hrun, hout]; rfl, ?_, ?_, ?_⟩
      · simpa [written] using hwrote
      · simp [written, reads, hgot]
      · simpa [written, reads] using hend

/-- **The pipe is lossless**: the reader's calls return zero and yield the written ints, each once
    and in order, and what they have not yet read is what the pipe still holds. The kernel may cut
    each transfer as it likes. What is assumed is that nobody reads an `int` before it is written,
    as that call would not return. -/
theorem pipe_lossless (calls : List PipeCall) (p : Pipe) (hp : p.fifo = [])
    (ha : Available 0 calls) (hf : sizeofInt < fuel) :
    ∃ out, session fuel (pieces sizes) calls p = some out ∧
      out.wrote = (written calls).map (fun _ => 0) ∧
      out.got = ((written calls).take (reads calls)).map (fun i => (0, i)) ∧
      out.pipe.fifo = queued ((written calls).drop (reads calls)) :=
  session_spec sizes calls [] p hp ha hf

/-- Two ints and a read between them, every byte a piece of its own. -/
theorem byte_by_byte_session :
    ∃ out, session 5 (pieces fun _ => 1) [.writeInt 7, .readInt 0, .writeInt (-1), .readInt 0]
        ⟨[], true, 0⟩ = some out ∧ out.wrote = [0, 0] ∧ out.got = [(0, 7), (0, -1)] ∧
      out.pipe.fifo = [] :=
  pipe_lossless (fun _ => 1) [.writeInt 7, .readInt 0, .writeInt (-1), .readInt 0] ⟨[], true, 0⟩
    rfl ⟨Nat.one_pos, Nat.one_pos, trivial⟩ (by decide)

end PinkTrace
