import PinkTrace.Proof.Pipe

/-!
# A read of the pipe that is interrupted

`atomic_read` returns what it has when a `read(2)` fails, and `pink_pipe_read_int` makes an error
of every count that is not `sizeof(int)`: the bytes of the `int` that were read before the signal
are out of the pipe and nobody has them. So the pipe keeps its frame exactly when the signal comes
between two ints, and whether it does depends on the pieces as well as on the call that fails
(`taken`).

The way there has two halves. What the interrupted call leaves is the invariant of the
uninterrupted loop together with a count of the calls made so far (`InterruptedReadInv`). That a
broken frame is not mended later is a count of bytes alone: whatever the kernel does, a call that
returns zero takes four bytes off the pipe (`pinkPipeReadInt_length`), and there are too few left.

The second half is the reason why the result can be an equivalence. One might think that later
pieces could put the frame right again by chance, with other ints than were written. They cannot:
as many calls as there were ints need four times as many bytes.
-/

set_option autoImplicit false

namespace PinkTrace

open Lib

/-- A kernel that cuts transfers into pieces, and where a signal interrupts one system call: the
    one with this number, whoever makes it. -/
def interrupted (sizes : Nat → Nat) (point : Nat) : Nat → Io :=
  fun k => if k = point then .fails .eintr else .moves (sizes k)

/-- How many bytes of an `int` are read in `j` calls, the first of which is call `calls`. The
    pieces are capped by what is left, so this never exceeds four. -/
def taken (sizes : Nat → Nat) (calls : Nat) : Nat → Nat
  | 0 => 0
  | j + 1 => taken sizes calls j + moved (sizes (calls + j)) (sizeofInt - taken sizes calls j)

variable {sizes : Nat → Nat} {point fuel : Nat}

theorem taken_le (sizes : Nat → Nat) (start j : Nat) : taken sizes start j ≤ sizeofInt := by
  induction j with
  | zero => exact Nat.zero_le _
  | succ j ih =>
    have hle := moved_le (sizes (start + j)) (sizeofInt - taken sizes start j)
    rw [taken]
    omega

theorem taken_mono (sizes : Nat → Nat) (start : Nat) {i j : Nat} (h : i ≤ j) :
    taken sizes start i ≤ taken sizes start j := by
  induction h with
  | refl => exact Nat.le_refl _
  | step _ ih => exact Nat.le_trans ih (Nat.le_add_right ..)

/-! ## The call that is interrupted -/

/-- At the head of the loop, with `start` the number of the first call: as without the signal,
    which has not come yet (or came before). -/
structure InterruptedReadInv (sizes : Nat → Nat) (point start : Nat) (data rest : List UInt8)
    (buf : Bytes) (v : PipeReadVars) : Prop where
  read : AtomicReadInv data rest buf v
  passes : ∃ j, v.pipe.calls = start + j ∧ v.off = taken sizes start j
  quiet : point < start ∨ v.pipe.calls ≤ point

/-- How the call ends: whole, or with the bytes taken before the signal gone. -/
def InterruptedReadPost (sizes : Nat → Nat) (point start : Nat) (data rest : List UInt8)
    (r : PipeReadRet) : Prop :=
  r.ret = sizeofInt ∧ (point < start ∨ taken sizes start (point - start) = sizeofInt) ∨
    r.ret ≠ sizeofInt ∧ taken sizes start (point - start) < sizeofInt ∧
      r.pipe.fifo = data.drop (taken sizes start (point - start)) ++ rest

theorem interrupted_of_ne {k : Nat} (h : k ≠ point) :
    interrupted sizes point k = .moves (sizes k) := if_neg h

theorem atomicReadBody_interrupted {v : PipeReadVars} (h0 : v.count ≠ 0)
    (hpoint : v.pipe.calls = point) :
    atomicReadBody (interrupted sizes point) v =
      .done ⟨if 0 < v.total then v.total else -1, v.dest, some .eintr,
        { v.pipe with calls := v.pipe.calls + 1 }⟩ := by
  have hK : interrupted sizes point v.pipe.calls = .fails .eintr := if_pos hpoint
  simp only [atomicReadBody, if_neg h0, sysRead, hK]

/-- A pass before the signal is one of the uninterrupted loop; the pass of the signal ends it. -/
theorem InterruptedReadInv.step {start : Nat} {data rest : List UInt8} {buf : Bytes}
    {v : PipeReadVars} (hdata : data.length = sizeofInt)
    (hv : InterruptedReadInv sizes point start data rest buf v) :
    Advances (InterruptedReadInv sizes point start data rest buf) PipeReadVars.count
      (InterruptedReadPost sizes point start data rest) v
      (atomicReadBody (interrupted sizes point) v) := by
  obtain ⟨j, hcalls, hoff⟩ := hv.passes
  have hleft := hv.read.left
  have htotal := hv.read.total
  by_cases h0 : v.count = 0
  · -- the `int` is whole, and the signal can only come later
    rw [atomicReadBody, if_pos h0]
    refine .inl ⟨by show (v.total : Int) = _; omega, hv.quiet.imp_right fun hle => ?_⟩
    have hmono := taken_mono sizes start (show j ≤ point - start by omega)
    have hle := taken_le sizes start (point - start)
    omega
  · by_cases hpoint : v.pipe.calls = point
    · -- the signal: the call returns short, and what it took before is gone
      have hj : point - start = j := by omega
      rw [atomicReadBody_interrupted h0 hpoint]
      refine .inr ⟨?_, by rw [hj]; omega, by rw [hj, ← hoff]; exact hv.read.fifo⟩
      show (if 0 < v.total then (v.total : Int) else -1) ≠ sizeofInt
      split <;> omega
    · have hpos := moved_pos (sizes v.pipe.calls) (Nat.pos_of_ne_zero h0)
      have hcount : v.count = sizeofInt - taken sizes start j := by omega
      have hquiet := hv.quiet
      rw [hv.read.body_eq h0 (interrupted_of_ne hpoint)]
      refine ⟨⟨hv.read.next (moved_le _ _) _, ⟨j + 1, ?_, ?_⟩, ?_⟩, ?_⟩
      · show v.pipe.calls + 1 = start + (j + 1)
        omega
      · show v.off + moved (sizes v.pipe.calls) v.count = taken sizes start (j + 1)
        rw [taken, ← hoff, ← hcalls, hoff, ← hcount]
      · show point < start ∨ v.pipe.calls + 1 ≤ point
        omega
      · show v.count - moved (sizes v.pipe.calls) v.count < v.count
        omega

theorem pipeFailure_neg (errno : Option Errno) : pipeFailure errno < 0 := by
  have hpos := (errno.getD .einval).pos
  unfold pipeFailure
  omega

/-- **What an interrupted call leaves.** Either the signal did not come while the `int` was read,
    or the call fails and the bytes read before it are lost. -/
theorem pinkPipeReadInt_interrupted (old : BitVec 32) {p : Pipe} {data rest : List UInt8}
    (hdata : data.length = sizeofInt) (hp : p.fifo = data ++ rest) (hf : sizeofInt < fuel) :
    ∃ r, pinkPipeReadInt fuel (interrupted sizes point) old p = some r ∧
      (r.ret = 0 ∧
          (point < p.calls ∨ taken sizes p.calls (point - p.calls) = sizeofInt) ∨
        r.ret < 0 ∧ taken sizes p.calls (point - p.calls) < sizeofInt ∧
          r.pipe.fifo = data.drop (taken sizes p.calls (point - p.calls)) ++ rest) := by
  have hstart : InterruptedReadInv sizes point p.calls data rest (intBytes old)
      ⟨0, sizeofInt, 0, intBytes old, none, p⟩ :=
    ⟨⟨by rw [hdata, Nat.zero_add], rfl, (copy_zero ..).symm, hp⟩, ⟨0, rfl, rfl⟩,
      Nat.lt_or_ge point p.calls⟩
  obtain ⟨a, hrun, hpost⟩ := run_of_invariant (fun v hv => hv.step hdata) hstart hf
  have hread : atomicRead fuel (interrupted sizes point) (intBytes old) sizeofInt p = some a := hrun
  refine ⟨_, pinkPipeReadInt_eq hread, ?_⟩
  rcases hpost with ⟨hret, hpast⟩ | ⟨hret, hlt, hfifo⟩
  · exact .inl ⟨if_pos hret, hpast⟩
  · rw [if_neg hret]
    exact .inr ⟨pipeFailure_neg a.errno, hlt, hfifo⟩

/-! ## A call that succeeds takes four bytes -/

section

variable {K : Nat → Io}

theorem sysRead_ok_length {count : Nat} {p p' : Pipe} {bytes : List UInt8}
    (h : sysRead K count p = some (.ok bytes, p')) :
    bytes.length + p'.fifo.length = p.fifo.length := by
  unfold sysRead at h
  split at h
  · simp at h
  · rename_i n _
    split at h
    · simp at h
    · have hle := moved_le n (min count p.fifo.length)
      simp only [Option.some.injEq, Prod.mk.injEq, Except.ok.injEq] at h
      obtain ⟨rfl, rfl⟩ := h
      simp only [List.length_take, List.length_drop]
      omega

theorem sysRead_error_fifo {count : Nat} {p p' : Pipe} {e : Errno}
    (h : sysRead K count p = some (.error e, p')) : p'.fifo = p.fifo := by
  unfold sysRead at h
  split at h
  · simp only [Option.some.injEq, Prod.mk.injEq] at h
    rw [← h.2]
  · split at h <;> simp at h

/-- Whatever the kernel does, a pass that goes on has moved what it counts. -/
theorem atomicReadBody_again {v v' : PipeReadVars} (h : atomicReadBody K v = .again v') :
    v'.total + v'.pipe.fifo.length = v.total + v.pipe.fifo.length := by
  unfold atomicReadBody at h
  split at h
  · cases h
  · split at h
    · -- the call waits
      cases h
      rfl
    · cases h
    · rename_i bytes pipe hread
      have hlen := sysRead_ok_length hread
      split at h
      · cases h
      · cases h
        show v.total + bytes.length + pipe.fifo.length = v.total + v.pipe.fifo.length
        omega

/-- And one that ends the loop moves nothing, and returns the count or an error. -/
theorem atomicReadBody_done {v : PipeReadVars} {r : PipeReadRet}
    (h : atomicReadBody K v = .done r) :
    (r.ret = v.total ∨ r.ret = -1) ∧ r.pipe.fifo.length = v.pipe.fifo.length := by
  unfold atomicReadBody at h
  split at h
  · cases h
    exact ⟨.inl rfl, rfl⟩
  · split at h
    · cases h
    · rename_i e pipe hread
      cases h
      refine ⟨?_, congrArg List.length (sysRead_error_fifo hread)⟩
      show (if 0 < v.total then (v.total : Int) else -1) = v.total ∨ _
      by_cases htotal : 0 < v.total
      · exact .inl (if_pos htotal)
      · exact .inr (if_neg htotal)
    · rename_i bytes pipe hread
      have hlen := sysRead_ok_length hread
      split at h
      · rename_i hnone
        cases h
        refine ⟨.inl rfl, ?_⟩
        show pipe.fifo.length = v.pipe.fifo.length
        omega
      · cases h

/-- So a call that returns zero has taken four bytes, no more and no fewer, whichever kernel it
    was. -/
theorem pinkPipeReadInt_length {old : BitVec 32} {p : Pipe} {r : PipeIntRet}
    (h : pinkPipeReadInt fuel K old p = some r) (hret : r.ret = 0) :
    sizeofInt + r.pipe.fifo.length = p.fifo.length := by
  obtain ⟨a, hread, -⟩ := Option.bind_eq_some_iff.mp h
  have hpost := run_of_reached (fun v => v.total + v.pipe.fifo.length = p.fifo.length)
    (fun a => a.ret = (sizeofInt : Int) → sizeofInt + a.pipe.fifo.length = p.fifo.length)
    (fun _ _ hv h => (atomicReadBody_again h).trans hv)
    (fun v a hv h hret => by
      obtain ⟨htotal, hlen⟩ := atomicReadBody_done h
      omega)
    (Nat.zero_add _) hread
  rw [pinkPipeReadInt_eq hread] at h
  cases h
  -- a short count is an error, whatever `errno` is
  have hneg := pipeFailure_neg a.errno
  refine hpost (Decidable.byContradiction fun hshort => ?_)
  have hret : (if a.ret = (sizeofInt : Int) then 0 else pipeFailure a.errno) = 0 := hret
  rw [if_neg hshort] at hret
  omega

/-- Calls that all return zero find four bytes each. -/
theorem session_reads_length {olds q : List (BitVec 32)} {p : Pipe} {out : Session}
    (h : session fuel K (olds.map .readInt) p = some out)
    (hgot : out.got = q.map fun i => (0, i)) : sizeofInt * q.length ≤ p.fifo.length := by
  induction olds generalizing q p out with
  | nil =>
    cases h
    have hnil : q = [] := List.map_eq_nil_iff.mp hgot.symm
    rw [hnil]
    exact Nat.zero_le _
  | cons old olds ih =>
    obtain ⟨r, hread, h⟩ := Option.bind_eq_some_iff.mp h
    obtain ⟨out', hrest, h⟩ := Option.bind_eq_some_iff.mp h
    cases h
    cases q with
    | nil => cases hgot
    | cons i q =>
      simp only [List.map_cons, List.cons.injEq, Prod.mk.injEq] at hgot
      have htook := pinkPipeReadInt_length hread hgot.1.1
      have hmore := ih hrest hgot.2
      rw [List.length_cons, Nat.mul_succ]
      omega

end

/-! ## Whether the frame is kept -/

theorem available_reads (olds : List (BitVec 32)) :
    Available olds.length (olds.map .readInt) := by
  induction olds with
  | nil => trivial
  | cons old olds ih => exact ⟨Nat.succ_pos _, ih⟩

theorem written_reads (olds : List (BitVec 32)) : written (olds.map .readInt) = [] := by
  induction olds with
  | nil => rfl
  | cons old olds ih => exact ih

theorem reads_reads (olds : List (BitVec 32)) : reads (olds.map .readInt) = olds.length := by
  induction olds with
  | nil => rfl
  | cons old olds ih => exact congrArg (· + 1) ih

theorem length_queued (q : List (BitVec 32)) : (queued q).length = sizeofInt * q.length := by
  induction q with
  | nil => rfl
  | cons i q ih =>
    show (listOf (intBytes i) sizeofInt ++ queued q).length = _
    rw [List.length_append, length_listOf, ih, List.length_cons, Nat.mul_succ, Nat.add_comm]

/-- A call that fails does no harm to the ints `q` in the pipe: as many calls, without a failure
    this time, return zero and yield them, the one the failed call was reading first. A call that
    does not fail is not asked about. -/
def StaysFramed (fuel : Nat) (sizes : Nat → Nat) (point : Nat) (q : List (BitVec 32))
    (old : BitVec 32) (p : Pipe) : Prop :=
  ∀ r, pinkPipeReadInt fuel (interrupted sizes point) old p = some r → r.ret < 0 →
    ∀ olds : List (BitVec 32), olds.length = q.length →
      ∃ out, session fuel (pieces sizes) (olds.map .readInt) r.pipe = some out ∧
        out.got = q.map fun i => (0, i)

/-- **The frame is kept exactly when the signal comes between two ints**: when there is none in
    the pipe, or the calls before the one that fails took nothing of this one, or all of it. In
    the last case the call has returned before the signal comes. -/
theorem staysFramed_iff (sizes : Nat → Nat) (point : Nat) (q : List (BitVec 32))
    (old : BitVec 32) (p : Pipe) (hp : p.fifo = queued q) (hf : sizeofInt < fuel) :
    StaysFramed fuel sizes point q old p ↔
      q = [] ∨ taken sizes p.calls (point - p.calls) = 0 ∨
        taken sizes p.calls (point - p.calls) = sizeofInt := by
  cases q with
  | nil =>
    refine ⟨fun _ => .inl rfl, fun _ r _ _ olds hlen => ?_⟩
    rw [List.eq_nil_of_length_eq_zero hlen]
    exact ⟨_, rfl, rfl⟩
  | cons i q =>
    have hlen := length_queued (i :: q)
    obtain ⟨r, hrun, hr⟩ := @pinkPipeReadInt_interrupted sizes point fuel old p
      (listOf (intBytes i) sizeofInt) (queued q) (length_listOf ..) hp hf
    generalize hc : taken sizes p.calls (point - p.calls) = c at hr
    constructor
    · intro hframed
      refine .inr (Decidable.byContradiction fun hmid => ?_)
      rcases hr with ⟨-, hbefore | hwhole⟩ | ⟨hneg, hlt, hfifo⟩
      · have hj : point - p.calls = 0 := by omega
        rw [hj, taken] at hc
        omega
      · omega
      · -- the ints need four bytes each, and `c` of the first one's are gone
        obtain ⟨out, hout, hgot⟩ := hframed r hrun hneg (i :: q) rfl
        have hneed := session_reads_length hout hgot
        have hleft : r.pipe.fifo.length + c = (queued (i :: q)).length := by
          show _ = (listOf (intBytes i) sizeofInt ++ queued q).length
          rw [hfifo, List.length_append, List.length_append, List.length_drop, length_listOf]
          omega
        omega
    · intro hbound r' hrun' hneg olds holds
      cases hrun.symm.trans hrun'
      rcases hr with ⟨hret, -⟩ | ⟨-, hlt, hfifo⟩
      · omega
      · -- the call failed, so it had not taken all of the `int`; by assumption it had taken nothing
        have h0 : c = 0 := by
          rcases hbound with hnil | h0 | hwhole
          · cases hnil
          · exact h0
          · omega
        have hsame : r.pipe.fifo = queued (i :: q) := by
          rw [hfifo, h0]
          rfl
        obtain ⟨out, hout, -, hgot, -⟩ := session_spec sizes (olds.map .readInt) (i :: q) r.pipe
          hsame (holds ▸ available_reads olds) hf
        refine ⟨out, hout, ?_⟩
        rw [hgot, written_reads, reads_reads, holds, List.append_nil, List.take_length]

/-- A signal before the first byte: the call returns `-EINTR`, and the two ints are read later as
    if nothing had happened. -/
theorem interrupted_before_first_byte :
    (pinkPipeReadInt 5 (interrupted (fun _ => 1) 0) 0 ⟨queued [1, 2], true, 0⟩).map
        PipeIntRet.ret = some (-4) ∧
      StaysFramed 5 (fun _ => 1) 0 [1, 2] 0 ⟨queued [1, 2], true, 0⟩ := by
  refine ⟨by decide +kernel, ?_⟩
  exact (staysFramed_iff (fun _ => 1) 0 [1, 2] 0 ⟨queued [1, 2], true, 0⟩ rfl (by decide)).mpr
    (.inr (.inl rfl))

/-- A signal after the first byte: the call returns `-EINTR`, and the next one returns zero and
    yields `0x02000000` where `1` was written, three bytes of one `int` and the first of the
    other. -/
theorem interrupted_after_first_byte :
    ¬ StaysFramed 5 (fun _ => 1) 1 [1, 2] 0 ⟨queued [1, 2], true, 0⟩ ∧
      ((pinkPipeReadInt 5 (interrupted (fun _ => 1) 1) 0 ⟨queued [1, 2], true, 0⟩).map
        fun r => (r.ret, (pinkPipeReadInt 5 (pieces fun _ => 1) 0 r.pipe).map
          fun r => (r.ret, r.i))) = some (-4, some (0, 0x02000000)) := by
  refine ⟨fun hframed => ?_, by decide +kernel⟩
  obtain ⟨r, hrun, ⟨-, h⟩ | ⟨hneg, -, hfifo⟩⟩ :=
    @pinkPipeReadInt_interrupted (fun _ => 1) 1 5 0 ⟨queued [1, 2], true, 0⟩
      (listOf (intBytes 1) sizeofInt) (queued [2]) rfl rfl (by decide)
  · exact absurd h (by decide)
  · obtain ⟨out, hout, hgot⟩ := hframed r hrun hneg [0, 0] rfl
    have hneed := session_reads_length hout hgot
    rw [hfifo] at hneed
    exact absurd hneed (by decide)

end PinkTrace
