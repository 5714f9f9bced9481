import PinkTrace.Proof.PipeSystem

/-!
# One writer, and several

The reader's half knows a stream of bytes. Here is where the stream comes from, and what that
makes of the ints the reader returns.

* **Several writers** need a kernel that does not cut their `write(2)` (`WritesWhole`). Then the
  stream is the bytes of one list of everybody's ints, `Sends` says so of a state, and every turn
  of everybody keeps it.
* **One writer** needs nothing: its ints go into the stream in order and in whatever pieces, and
  `SendsPieces` says what is there of an `int` that is not finished, and may never be.

In both cases the result has the two parts a maintainer asks for: the reader never returns
anything but the ints that were sent, in order, and a reader that is left alone returns all of
them.

## Why the assumption on several writers cannot be dropped

Further down is an example of two writers whose ints go in halves: the reader returns, with zero,
an `int` that neither of them wrote. Nothing in `pipe.c` would notice. So the comment there, that
data no longer than `PIPE_BUF` is written at once, is what the code relies on, and `WritesWhole`
is that comment as a hypothesis. It allows a write to fail: a writer whose call fails has put
nothing into the pipe, and the others are not concerned.

The order in which everybody's ints stand in the stream is chosen by the schedule, and the
theorems only claim that there is one. Each writer's own order is fixed, and that is `sentBy`.
-/

set_option autoImplicit false

namespace PinkTrace

open Lib

/-! ## What a writer has sent -/

variable {n : Nat}

/-- The ints of a writer that are in the pipe, or were: those whose calls returned zero, and that
    of a call which has nothing left to do but return. The second part is there because a byte in
    the pipe can be read before the call that put it there returns. -/
def PipeWriter.sent (w : PipeWriter) : List (BitVec 32) :=
  (w.returned.filter (fun x => x.2 = 0)).map (fun x => x.1) ++
    match w.call with
    | some (i, v) => if v.count = 0 then [i] else []
    | none => []

/-- The ints of one writer in a list of everybody's. -/
def sentBy (k : Fin n) (sent : List (Fin n × BitVec 32)) : List (BitVec 32) :=
  (sent.filter fun x => x.1 = k).map fun x => x.2

theorem sentBy_append (k : Fin n) (sent sent' : List (Fin n × BitVec 32)) :
    sentBy k (sent ++ sent') = sentBy k sent ++ sentBy k sent' := by
  simp [sentBy]

theorem sentBy_self (k : Fin n) (ints : List (BitVec 32)) :
    sentBy k (ints.map fun i => (k, i)) = ints := by
  induction ints with
  | nil => rfl
  | cons i ints ih => simpa [sentBy] using ih

theorem sentBy_other {j k : Fin n} (h : j ≠ k) (ints : List (BitVec 32)) :
    sentBy j (ints.map fun i => (k, i)) = [] := by
  simp [sentBy, Ne.symm h]

/-- The kernel does not cut a `write(2)` of four bytes; it may still refuse one. -/
def WritesWhole (W : Nat → Io) : Prop :=
  ∀ k, (∃ c, sizeofInt ≤ c ∧ W k = .moves c) ∨ ∃ e, W k = .fails e

/-- The writers' half: a list of everybody's ints that has those of each in order, and whose bytes
    are the stream. Between its entry and its return a call has moved nothing or everything, as it
    is not cut. -/
structure Sends (sent : List (Fin n × BitVec 32)) (s : PipeSystem n) : Prop where
  own : ∀ k, sentBy k sent = (s.writer k).sent
  inCall : ∀ k i v, (s.writer k).call = some (i, v) →
    v.off = 0 ∧ v.count = sizeofInt ∧ v.total = 0 ∨
      v.off = sizeofInt ∧ v.count = 0 ∧ v.total = sizeofInt
  opened : s.pipe.writeEnd = decide (∃ k, (s.writer k).alive = true)
  reads : ∃ ints fails lost, Reads (queued (sent.map fun x => x.2)) ints fails lost s.reader s.pipe

theorem moved_whole {c : Nat} (h : sizeofInt ≤ c) : moved c sizeofInt = sizeofInt := by
  unfold moved
  omega

section

variable {W : Nat → Io} {sizes : Nat → Nat} {sent : List (Fin n × BitVec 32)} {s : PipeSystem n}

/-- One writer has moved, and put the ints `extra` into the pipe. The common part of all turns of
    a writer: what differs is the list, which is empty or has one element. -/
theorem Sends.replace {k : Fin n} {w : PipeWriter} {p : Pipe} {extra : List (BitVec 32)}
    (h : Sends sent s) (hsent : w.sent = (s.writer k).sent ++ extra)
    (hcall : ∀ i v, w.call = some (i, v) → v.off = 0 ∧ v.count = sizeofInt ∧ v.total = 0 ∨
      v.off = sizeofInt ∧ v.count = 0 ∧ v.total = sizeofInt)
    (halive : w.alive = (s.writer k).alive) (hend : p.writeEnd = s.pipe.writeEnd)
    (hreads : ∀ ints fails lost,
      Reads (queued (sent.map fun x => x.2)) ints fails lost s.reader s.pipe →
      Reads (queued (sent.map fun x => x.2) ++ queued extra) ints fails lost s.reader p) :
    Sends (sent ++ extra.map fun i => (k, i))
      { s with writer := s.setWriter k w, pipe := p } where
  own := fun j => by
    rw [sentBy_append, h.own]
    by_cases hj : j = k
    · subst hj
      rw [sentBy_self, ← hsent]
      simp [PipeSystem.setWriter]
    · rw [sentBy_other hj, List.append_nil]
      simp [PipeSystem.setWriter, hj]
  inCall := fun j i v hv => by
    by_cases hj : j = k
    · exact hcall i v (by simpa [PipeSystem.setWriter, hj] using hv)
    · exact h.inCall j i v (by simpa [PipeSystem.setWriter, hj] using hv)
  opened := by
    have hsame : ∀ j, (s.setWriter k w j).alive = (s.writer j).alive := fun j => by
      by_cases hj : j = k
      · simp [PipeSystem.setWriter, hj, halive]
      · simp [PipeSystem.setWriter, hj]
    simp only [hsame, hend, h.opened]
  reads := by
    obtain ⟨ints, fails, lost, hr⟩ := h.reads
    refine ⟨ints, fails, lost, ?_⟩
    rw [List.map_append, List.map_map, queued_append]
    have hextra : extra.map ((fun x : Fin n × BitVec 32 => x.2) ∘ fun i => (k, i)) = extra := by
      simp [Function.comp_def]
    rw [hextra]
    exact hreads ints fails lost hr

/-- The pass that moves the bytes. It moves all four of them, so the list of ints grows by one and
    the stream by its bytes. -/
theorem Sends.piece {k : Fin n} {i : BitVec 32} {v : PipeWriteVars} {c : Nat} {p : Pipe}
    (h : Sends sent s) (halive : (s.writer k).alive = true)
    (hcall : (s.writer k).call = some (i, v)) (hcount : v.count ≠ 0) (hc : sizeofInt ≤ c)
    (hp : p = ⟨s.pipe.fifo ++ listOf (fun j => intBytes i (v.off + j)) (moved c v.count),
      s.pipe.writeEnd, s.pipe.calls + 1⟩) :
    Sends (sent ++ [(k, i)])
      { s with
        writer := s.setWriter k { s.writer k with call := some (i, ⟨v.off + moved c v.count,
          v.count - moved c v.count, v.total + moved c v.count, v.errno, p⟩) }
        pipe := p } := by
  subst hp
  obtain ⟨hoff, hfull, htotal⟩ : v.off = 0 ∧ v.count = sizeofInt ∧ v.total = 0 := by
    rcases h.inCall k i v hcall with hbegin | ⟨-, hzero, -⟩
    · exact hbegin
    · exact absurd hzero hcount
  have hm := moved_whole hc
  have hopen : s.pipe.writeEnd = true := by
    rw [h.opened]
    exact decide_eq_true ⟨k, halive⟩
  refine h.replace (show _ = _ ++ [i] from ?_) ?_ rfl rfl ?_
  · simp [PipeWriter.sent, hcall, hm, hfull]
  · intro i' v' hv'
    cases hv'
    right
    simp only [hfull, hm, hoff, htotal]
    exact ⟨Nat.zero_add _, Nat.sub_self _, Nat.zero_add _⟩
  · intro ints fails lost hr
    refine hr.written hopen ?_
    simp only [hfull, hm, hoff, Nat.zero_add, queued_singleton]

/-- A writer's turn. Only the one that moves the bytes adds to the list, at its end. -/
theorem Sends.write (hW : WritesWhole W) (h : Sends sent s) (k : Fin n) :
    ∃ extra, Sends (sent ++ extra) (s.turn W (pieces sizes) (.write k)) := by
  have hstep := (s.writer k).turn_step W s.pipe
  show ∃ extra, Sends (sent ++ extra) { s with
    writer := s.setWriter k ((s.writer k).turn W s.pipe).1
    pipe := ((s.writer k).turn W s.pipe).2 }
  generalize ((s.writer k).turn W s.pipe).1 = w at hstep ⊢
  generalize ((s.writer k).turn W s.pipe).2 = p at hstep ⊢
  -- all turns but one leave the bytes in the pipe as they are
  have hsame : ∀ {p' : Pipe}, p'.fifo = s.pipe.fifo → p'.writeEnd = s.pipe.writeEnd →
      ∀ ints fails lost,
        Reads (queued (sent.map fun x => x.2)) ints fails lost s.reader s.pipe →
        Reads (queued (sent.map fun x => x.2) ++ queued []) ints fails lost s.reader p' := by
    intro p' hfifo hend ints fails lost hr
    rw [show queued [] = [] from rfl, List.append_nil]
    exact hr.of_fifo hfifo fun hclosed => hend.trans hclosed
  cases hstep with
  | rest =>
    exact ⟨_, h.replace (List.append_nil _).symm (h.inCall k) rfl rfl (hsame rfl rfl)⟩
  | enter hcall htodo =>
    refine ⟨_, h.replace ?_ ?_ rfl rfl (hsame rfl rfl)⟩
    · simp [PipeWriter.sent, hcall]
    · intro i v hv
      cases hv
      exact .inl ⟨rfl, rfl, rfl⟩
  | @piece i v c p' halive hcall hcount hWc hp =>
    rcases hW s.pipe.calls with ⟨c', hc, hWc'⟩ | ⟨e, hWe⟩
    · cases hWc.symm.trans hWc'
      exact ⟨_, h.piece halive hcall hcount hc hp⟩
    · cases hWc.symm.trans hWe
  | @fail i v e ret hcall hcount hWe hret =>
    rcases h.inCall k i v hcall with ⟨-, -, htotal⟩ | ⟨-, hzero, -⟩
    · -- nothing was moved before, so this call is an error and its `int` is not sent
      have hneg := hret (by rw [htotal]; decide)
      refine ⟨_, h.replace ?_ ?_ rfl rfl (hsame rfl rfl)⟩
      · have hne : ret ≠ 0 := by omega
        simp [PipeWriter.sent, hcall, hcount, hne]
      · intro i' v' hv'
        cases hv'
    · exact absurd hzero hcount
  | @finish i v ret hcall hcount hret =>
    rcases h.inCall k i v hcall with ⟨-, hfull, -⟩ | ⟨-, -, htotal⟩
    · rw [hcount] at hfull
      exact absurd hfull (by decide)
    · -- the `int` was counted as sent already; now it is among the calls that returned zero
      refine ⟨_, h.replace ?_ ?_ rfl rfl (hsame rfl rfl)⟩
      · simp [PipeWriter.sent, hcall, hcount, hret htotal]
      · intro i' v' hv'
        cases hv'

theorem Sends.read (h : Sends sent s) : Sends sent (s.turn W (pieces sizes) .read) := by
  have hstep := s.reader.turn_step sizes s.pipe
  show Sends sent { s with
    reader := (s.reader.turn (pieces sizes) s.pipe).1
    pipe := (s.reader.turn (pieces sizes) s.pipe).2 }
  generalize (s.reader.turn (pieces sizes) s.pipe).1 = r at hstep ⊢
  generalize (s.reader.turn (pieces sizes) s.pipe).2 = p at hstep ⊢
  obtain ⟨ints, fails, lost, hr⟩ := h.reads
  exact ⟨h.own, h.inCall, hstep.writeEnd.trans h.opened, hr.step hstep⟩

/-- A writer that goes leaves what it has sent. One in the middle of a call has sent all of that
    `int` or nothing. -/
theorem Sends.exit (h : Sends sent s) (k : Fin n) :
    Sends sent (s.turn W (pieces sizes) (.exit k)) where
  own := fun j => by
    rw [h.own]
    by_cases hj : j = k
    · subst hj
      simp [PipeSystem.turn, PipeSystem.setWriter, PipeWriter.sent]
    · simp [PipeSystem.turn, PipeSystem.setWriter, hj]
  inCall := fun j i v hv => by
    refine h.inCall j i v ?_
    by_cases hj : j = k
    · subst hj
      simpa [PipeSystem.turn, PipeSystem.setWriter] using hv
    · simpa [PipeSystem.turn, PipeSystem.setWriter, hj] using hv
  opened := rfl
  reads := by
    obtain ⟨ints, fails, lost, hr⟩ := h.reads
    refine ⟨ints, fails, lost, hr.of_fifo rfl fun hclosed => ?_⟩
    rw [h.opened] at hclosed
    refine decide_eq_false ?_
    rintro ⟨j, hj⟩
    refine of_decide_eq_false hclosed ⟨j, ?_⟩
    by_cases hjk : j = k
    · simp [PipeSystem.setWriter, hjk] at hj
    · simpa [PipeSystem.setWriter, hjk] using hj

theorem Sends.start (ints : Fin n → List (BitVec 32)) (i : BitVec 32) :
    Sends [] (PipeSystem.start ints i) where
  own := fun _ => rfl
  inCall := fun _ _ _ hv => nomatch hv
  opened := by
    refine decide_eq_decide.mpr ⟨fun hn => ⟨⟨0, hn⟩, rfl⟩, ?_⟩
    rintro ⟨k, -⟩
    exact Nat.lt_of_le_of_lt (Nat.zero_le _) k.isLt
  reads := ⟨[], [], [], .start _ _⟩

/-- The writers' half survives every turn. -/
theorem Sends.turn (hW : WritesWhole W) (h : ∃ sent, Sends sent s) (a : PipeTurn n) :
    ∃ sent, Sends sent (s.turn W (pieces sizes) a) := by
  obtain ⟨sent, h⟩ := h
  cases a with
  | write k =>
    obtain ⟨extra, h'⟩ := h.write hW k
    exact ⟨_, h'⟩
  | read => exact ⟨sent, h.read⟩
  | exit k => exact ⟨sent, h.exit k⟩

end

theorem Sends.runTurns {W : Nat → Io} (hW : WritesWhole W) (sizes : Nat → Nat)
    (ints : Fin n → List (BitVec 32)) (i : BitVec 32) (schedule : List (PipeTurn n)) :
    ∃ sent, Sends sent
      (Lib.runTurns (PipeSystem.turn W (pieces sizes)) schedule (.start ints i)) :=
  runTurns_invariant (fun s => ∃ sent, Sends sent s) (fun a _ hs => Sends.turn hW hs a) schedule
    ⟨[], Sends.start ints i⟩

/-! ## What a writer has to do

It works off its list from the front, whatever becomes of the single calls. -/

/-- The ints a writer was given, in order: those of the calls that returned, that of the call it
    is in, and the rest. A turn moves an `int` along and never changes this list. -/
def PipeWriter.agenda (w : PipeWriter) : List (BitVec 32) :=
  w.returned.map (fun x => x.1) ++ (w.call.map Prod.fst).toList ++ w.todo

theorem PipeWriter.agenda_turn (W : Nat → Io) (w : PipeWriter) (p : Pipe) :
    (w.turn W p).1.agenda = w.agenda := by
  have hstep := w.turn_step W p
  generalize (w.turn W p).1 = w' at hstep ⊢
  generalize (w.turn W p).2 = p' at hstep
  cases hstep with
  | rest => rfl
  | enter hcall htodo => simp [agenda, hcall, htodo]
  | piece _ hcall => simp [agenda, hcall]
  | fail hcall => simp [agenda, hcall]
  | finish hcall => simp [agenda, hcall]

theorem agenda_runTurns {W R : Nat → Io} (ints : Fin n → List (BitVec 32)) (i : BitVec 32)
    (schedule : List (PipeTurn n)) (k : Fin n) :
    ((runTurns (PipeSystem.turn W R) schedule (.start ints i)).writer k).agenda = ints k := by
  refine runTurns_invariant (fun s : PipeSystem n => (s.writer k).agenda = ints k) ?_ schedule rfl
  intro a s hs
  rw [← hs]
  cases a with
  | write j =>
    by_cases hj : k = j
    · subst hj
      simpa [PipeSystem.turn, PipeSystem.setWriter] using (s.writer k).agenda_turn W s.pipe
    · simp [PipeSystem.turn, PipeSystem.setWriter, hj]
  | read => rfl
  | exit j =>
    by_cases hj : k = j
    · subst hj
      simp [PipeSystem.turn, PipeSystem.setWriter, PipeWriter.agenda]
    · simp [PipeSystem.turn, PipeSystem.setWriter, hj]

/-- What was sent is part of what was to be sent: calls that failed are missing, nothing is out of
    order. -/
theorem PipeWriter.sent_sublist (w : PipeWriter) : w.sent.Sublist w.agenda := by
  have hreturned : ((w.returned.filter (fun x => x.2 = 0)).map fun x => x.1).Sublist
      (w.returned.map fun x => x.1) := List.filter_sublist.map _
  have hcall : (match w.call with
      | some (i, v) => if v.count = 0 then [i] else []
      | none => []).Sublist (w.call.map Prod.fst).toList := by
    cases w.call with
    | none => exact .slnil
    | some call =>
      obtain ⟨i, v⟩ := call
      by_cases hcount : v.count = 0
      · simp [hcount]
      · simp [hcount]
  exact (hreturned.append hcall).trans (List.sublist_append_left ..)

/-! ## Safety -/

/-- **No int is torn, lost, read twice or read out of turn**, whoever moves when. There is one
    order of all ints that were sent, in which each writer's stand as in its list. The reader has
    read a beginning of it. Its calls fail only after every writer is gone, and then it has read
    everything. -/
theorem writers_never_tear {W : Nat → Io} (hW : WritesWhole W) (sizes : Nat → Nat)
    (ints : Fin n → List (BitVec 32)) (i : BitVec 32) (schedule : List (PipeTurn n)) :
    let s := runTurns (PipeSystem.turn W (pieces sizes)) schedule (.start ints i)
    ∃ (sent : List (Fin n × BitVec 32)) (m : Nat) (fails : List (Int × BitVec 32)),
      (∀ k, sentBy k sent = (s.writer k).sent ∧ (s.writer k).sent.Sublist (ints k)) ∧
      s.reader.returned = ((sent.take m).map fun x => (0, x.2)) ++ fails ∧
      (∀ f ∈ fails, f.1 = -(Errno.einval.code : Int)) ∧
      (fails ≠ [] → m = sent.length ∧ ∀ k, (s.writer k).alive = false) := by
  intro s
  obtain ⟨sent, h⟩ := Sends.runTurns hW sizes ints i schedule
  obtain ⟨got, fails, lost, hr⟩ := h.reads
  rw [← List.append_nil (queued _)] at hr
  obtain ⟨hle, htake, hall⟩ := hr.returned_eq (by decide)
  rw [List.length_map] at hle hall
  refine ⟨sent, got.length, fails, ?_, ?_, hr.failed, ?_⟩
  · intro k
    refine ⟨h.own k, ?_⟩
    have hsub := (s.writer k).sent_sublist
    rwa [agenda_runTurns] at hsub
  · have hmap : (sent.take got.length).map (fun x => x.2) = got := by rw [List.map_take, ← htake]
    rw [hr.returned]
    conv => lhs; rw [← hmap, List.map_map]
    rfl
  · intro hne
    obtain ⟨-, hclosed, -⟩ := hr.ended hne
    rw [h.opened] at hclosed
    have hnone := of_decide_eq_false hclosed
    exact ⟨hall hne, fun k => Bool.eq_false_iff.mpr fun halive => hnone ⟨k, halive⟩⟩

/-- Two writers whose calls overlap, and a reader that gets one byte at a time. -/
theorem writers_never_tear_two :
    let s := runTurns (PipeSystem.turn (fun _ => .moves sizeofInt) (pieces fun _ => 1))
      ([.write 0, .write 1, .write 1, .read, .read, .write 0] ++ .replicate 4 .read)
      (.start (fun k : Fin 2 => if k = 0 then [7] else [9]) 0)
    s.reader.returned = [(0, 9)] ∧
      ∃ sent : List (Fin 2 × BitVec 32), sentBy 0 sent = [7] ∧ sentBy 1 sent = [9] := by
  obtain ⟨sent, m, fails, hsent, -⟩ := writers_never_tear
    (fun _ => .inl ⟨sizeofInt, Nat.le_refl _, rfl⟩) (fun _ => 1)
    (fun k : Fin 2 => if k = 0 then [7] else [9]) 0
    ([.write 0, .write 1, .write 1, .read, .read, .write 0] ++ .replicate 4 .read)
  refine ⟨by decide +kernel, sent, ?_, ?_⟩
  · rw [(hsent 0).1]
    decide +kernel
  · rw [(hsent 1).1]
    decide +kernel

-- a kernel that cuts a write of four bytes lets two writers tear each other's ints
example :
    (runTurns (PipeSystem.turn (pieces fun _ => 2) (pieces fun _ => 4))
      [.write 0, .write 1, .write 0, .write 1, .write 0, .write 1, .read, .read, .read]
      (.start (fun k : Fin 2 => if k = 0 then [0x11111111] else [0x22222222]) 0)).reader.returned =
    [(0, 0x22221111)] := by decide +kernel

/-- **Everything that was sent arrives.** Whatever has happened so far, it takes only turns of
    the reader until it has read all ints that are in the pipe, in an order in which each
    writer's stand as in its list. -/
theorem sent_ints_arrive {W : Nat → Io} (hW : WritesWhole W) (sizes : Nat → Nat)
    (ints : Fin n → List (BitVec 32)) (i : BitVec 32) (schedule : List (PipeTurn n)) :
    let run := fun schedule => runTurns (PipeSystem.turn W (pieces sizes)) schedule (.start ints i)
    ∃ (turns : Nat) (sent : List (Fin n × BitVec 32)) (fails : List (Int × BitVec 32)),
      (∀ k, sentBy k sent = ((run schedule).writer k).sent) ∧
      (run (schedule ++ .replicate turns .read)).reader.returned =
        (sent.map fun x => (0, x.2)) ++ fails ∧
      ∀ f ∈ fails, f.1 = -(Errno.einval.code : Int) := by
  intro run
  obtain ⟨sent, h⟩ := Sends.runTurns hW sizes ints i schedule
  have hreads := h.reads
  rw [← List.append_nil (queued _)] at hreads
  obtain ⟨turns, s', hs', -, hd, got, fails, lost, hr⟩ := exists_drained W sizes hreads
  refine ⟨turns, sent, fails, h.own, ?_, hr.failed⟩
  have hrun : run (schedule ++ .replicate turns .read) = s' := by
    rw [hs', ← runTurns_append]
  rw [hrun, hr.returned, hr.of_drained (by decide) hd, List.map_map]
  rfl

/-- A writer that is killed when its second call begins. -/
theorem sent_ints_arrive_killed :
    let run := fun schedule =>
      runTurns (PipeSystem.turn (fun _ => .moves sizeofInt) (pieces fun _ => 3)) schedule
        (.start (fun _ : Fin 1 => [7, 9]) 0)
    ∃ turns fails, (run ([.write 0, .write 0, .write 0, .write 0, .exit 0] ++
        .replicate turns .read)).reader.returned = (0, 7) :: fails := by
  intro run
  obtain ⟨turns, sent, fails, hsent, hreturned, -⟩ := sent_ints_arrive
    (fun _ => .inl ⟨sizeofInt, Nat.le_refl _, rfl⟩) (fun _ => 3) (fun _ : Fin 1 => [7, 9]) 0
    [.write 0, .write 0, .write 0, .write 0, .exit 0]
  have hown : sentBy 0 sent = [7] := by
    rw [hsent 0]
    decide +kernel
  have hone : sent.filter (fun x => x.1 = 0) = sent :=
    List.filter_eq_self.mpr fun x _ => decide_eq_true (Subsingleton.elim x.1 0)
  have hall : sent.map (fun x => ((0 : Int), x.2)) = (sentBy 0 sent).map fun i => (0, i) := by
    rw [sentBy, hone, List.map_map]
    rfl
  refine ⟨turns, fails, hreturned.trans ?_⟩
  rw [hall, hown]
  rfl

/-! ## One writer

Nobody else's bytes can come between two pieces of an `int`, so here the kernel may cut as it
likes, and the writer may be gone with an `int` half written. -/

/-- The bytes of the `int` a writer is in the middle of. -/
def PipeWriter.begun (w : PipeWriter) : List UInt8 :=
  match w.call with
  | some (i, v) => if v.count = 0 then [] else listOf (intBytes i) v.off
  | none => []

/-- What one writer has put into the pipe, in whatever pieces. -/
structure SendsPieces (w : PipeWriter) (r : PipeReader) (p : Pipe) : Prop where
  inCall : ∀ i v, w.call = some (i, v) → v.off + v.count = sizeofInt ∧ v.total = v.off
  succeeded : ∀ x ∈ w.returned, x.2 = 0
  opened : p.writeEnd = w.alive
  reads : ∃ ints fails lost, Reads (queued w.sent ++ w.begun) ints fails lost r p

section

variable {wsizes sizes : Nat → Nat} {w w' : PipeWriter} {r r' : PipeReader} {p p' : Pipe}

/-- They are fewer than four, so they are no `int` that a reader could return. -/
theorem SendsPieces.length_begun (h : SendsPieces w r p) : w.begun.length < sizeofInt := by
  unfold PipeWriter.begun
  cases hcall : w.call with
  | none => decide
  | some call =>
    obtain ⟨i, v⟩ := call
    have hleft := (h.inCall i v hcall).1
    by_cases hcount : v.count = 0
    · simp [hcount]
    · simp only [hcount, if_false, length_listOf]
      omega

/-- A piece goes to the end of the stream, be it the last of its `int` or not. With the last one
    the bytes that were begun become one that was sent. -/
theorem PipeWriter.stream_piece {i : BitVec 32} {v v' : PipeWriteVars} {m : Nat}
    (hcall : w.call = some (i, v)) (hcount : v.count ≠ 0) (hleft : v.off + v.count = sizeofInt)
    (hm : m ≤ v.count) (hoff : v'.off = v.off + m) (hcount' : v'.count = v.count - m) :
    queued (PipeWriter.sent { w with call := some (i, v') }) ++
        PipeWriter.begun { w with call := some (i, v') } =
      queued w.sent ++ w.begun ++ listOf (fun j => intBytes i (v.off + j)) m := by
  have hbegun : w.begun = listOf (intBytes i) v.off := by
    simp [PipeWriter.begun, hcall, hcount]
  have hsent : queued w.sent =
      queued ((w.returned.filter fun x => x.2 = 0).map fun x => x.1) := by
    simp [PipeWriter.sent, hcall, hcount]
  rw [hbegun, hsent, List.append_assoc, ← listOf_add]
  by_cases hlast : v.count - m = 0
  · have hend : v.off + m = sizeofInt := by omega
    simp [PipeWriter.sent, PipeWriter.begun, hcount', hlast, hend, queued_append,
      queued_singleton]
  · simp [PipeWriter.sent, PipeWriter.begun, hcount', hlast, hoff]

theorem SendsPieces.write (h : SendsPieces w r p)
    (hstep : WriterStep (pieces wsizes) w p w' p') : SendsPieces w' r p' := by
  obtain ⟨ints, fails, lost, hr⟩ := h.reads
  cases hstep with
  | rest => exact h
  | enter hcall htodo =>
    refine ⟨?_, h.succeeded, h.opened, ints, fails, lost, ?_⟩
    · intro i v hv
      cases hv
      exact ⟨rfl, rfl⟩
    · simpa [PipeWriter.sent, PipeWriter.begun, hcall, listOf] using hr
  | @piece i v c p' halive hcall hcount hW hp =>
    subst hp
    obtain ⟨hleft, htotal⟩ := h.inCall i v hcall
    have hle := moved_le c v.count
    refine ⟨?_, h.succeeded, h.opened, ints, fails, lost, ?_⟩
    · intro i' v' hv'
      cases hv'
      constructor
      · show v.off + moved c v.count + (v.count - moved c v.count) = sizeofInt
        omega
      · show v.total + moved c v.count = v.off + moved c v.count
        rw [htotal]
    · rw [PipeWriter.stream_piece hcall hcount hleft hle rfl rfl]
      exact hr.written (h.opened.trans halive) rfl
  | fail hcall hcount hW => cases hW
  | @finish i v ret hcall hcount hret =>
    obtain ⟨hleft, htotal⟩ := h.inCall i v hcall
    have hzero := hret (by omega)
    refine ⟨?_, ?_, h.opened, ints, fails, lost, ?_⟩
    · intro i' v' hv'
      cases hv'
    · intro x hx
      rcases List.mem_append.mp hx with hold | hnew
      · exact h.succeeded x hold
      · rw [List.mem_singleton.mp hnew]
        exact hzero
    · simpa [PipeWriter.sent, PipeWriter.begun, hcall, hcount, hzero] using hr

theorem SendsPieces.read (h : SendsPieces w r p) (hstep : ReaderStep sizes r p r' p') :
    SendsPieces w r' p' := by
  obtain ⟨ints, fails, lost, hr⟩ := h.reads
  exact ⟨h.inCall, h.succeeded, hstep.writeEnd.trans h.opened, hr.step hstep⟩

theorem SendsPieces.exit (h : SendsPieces w r p) :
    SendsPieces { w with alive := false } r { p with writeEnd := false } := by
  obtain ⟨ints, fails, lost, hr⟩ := h.reads
  exact ⟨h.inCall, h.succeeded, rfl, ints, fails, lost, hr.of_fifo rfl fun _ => rfl⟩

end

theorem SendsPieces.runTurns (wsizes sizes : Nat → Nat) (ints : List (BitVec 32)) (i : BitVec 32)
    (schedule : List (PipeTurn 1)) :
    let s := Lib.runTurns (PipeSystem.turn (pieces wsizes) (pieces sizes)) schedule
      (.start (fun _ => ints) i)
    SendsPieces (s.writer 0) s.reader s.pipe := by
  refine runTurns_invariant
    (fun s : PipeSystem 1 => SendsPieces (s.writer 0) s.reader s.pipe) ?_ schedule ?_
  · intro a s h
    cases a with
    | write k =>
      rw [Subsingleton.elim k 0]
      exact h.write ((s.writer 0).turn_step (pieces wsizes) s.pipe)
    | read => exact h.read (s.reader.turn_step sizes s.pipe)
    | exit k =>
      rw [Subsingleton.elim k 0]
      exact h.exit
  · exact ⟨fun _ _ hv => (nomatch hv), fun _ hx => (nomatch hx), rfl, [], [], [], .start _ _⟩

/-- A writer none of whose calls failed has sent a beginning of its list. With one writer no call
    fails here, so it is more than the sublist of several. -/
theorem PipeWriter.sent_isPrefix {w : PipeWriter} (h : ∀ x ∈ w.returned, x.2 = 0) :
    w.sent <+: w.agenda := by
  have hall : w.returned.filter (fun x => x.2 = 0) = w.returned :=
    List.filter_eq_self.mpr fun x hx => decide_eq_true (h x hx)
  unfold PipeWriter.sent PipeWriter.agenda
  rw [hall]
  cases w.call with
  | none => simp
  | some call =>
    obtain ⟨i, v⟩ := call
    by_cases hcount : v.count = 0
    · simp [hcount]
    · simp [hcount]

/-- **One writer may be cut anywhere, and killed anywhere.** The reader never gets an `int` that
    is not the next one of the writer's list, complete. Its calls fail only after the writer is
    gone, and then it has every `int` that went into the pipe whole. If it is left alone, it gets
    all of these. -/
theorem killed_writer_sends_whole_ints (wsizes sizes : Nat → Nat) (ints : List (BitVec 32))
    (i : BitVec 32) (schedule : List (PipeTurn 1)) :
    let run := fun schedule => runTurns (PipeSystem.turn (pieces wsizes) (pieces sizes)) schedule
      (.start (fun _ => ints) i)
    let w := (run schedule).writer 0
    w.sent <+: ints ∧
    (∃ m fails, (run schedule).reader.returned =
        ((w.sent.take m).map fun i => (0, i)) ++ fails ∧
      (∀ f ∈ fails, f.1 = -(Errno.einval.code : Int)) ∧
      (fails ≠ [] → m = w.sent.length ∧ w.alive = false)) ∧
    ∃ turns fails, (run (schedule ++ .replicate turns .read)).reader.returned =
        (w.sent.map fun i => (0, i)) ++ fails ∧
      ∀ f ∈ fails, f.1 = -(Errno.einval.code : Int) := by
  intro run w
  have h := SendsPieces.runTurns wsizes sizes ints i schedule
  have hbegun := h.length_begun
  refine ⟨?_, ?_, ?_⟩
  · have hprefix := PipeWriter.sent_isPrefix h.succeeded
    rwa [agenda_runTurns] at hprefix
  · obtain ⟨got, fails, lost, hr⟩ := h.reads
    obtain ⟨-, htake, hall⟩ := hr.returned_eq hbegun
    refine ⟨got.length, fails, ?_, hr.failed, fun hne => ⟨hall hne, ?_⟩⟩
    · rw [← htake]
      exact hr.returned
    · exact h.opened.symm.trans (hr.ended hne).2.1
  · obtain ⟨turns, s', hs', -, hd, got, fails, lost, hr⟩ :=
      exists_drained (pieces wsizes) sizes h.reads
    refine ⟨turns, fails, ?_, hr.failed⟩
    have hrun : run (schedule ++ .replicate turns .read) = s' := by
      rw [hs', ← runTurns_append]
    rw [hrun, hr.returned, hr.of_drained hbegun hd]

end PinkTrace
