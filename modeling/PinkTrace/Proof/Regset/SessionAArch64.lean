import PinkTrace.Lib.Copies
import PinkTrace.Lib.Session
import PinkTrace.Proof.Regset.AArch64
import PinkTrace.RegsetSession

/-!
# Updates are lost on AArch64

The writers of an AArch64 build write the whole regset **back**, with everything it has held since
it was filled: the other arguments, the stack pointer, the program counter. So a regset that is
older than a change undoes it, whatever it is used to write. Nothing in `write.h` says so.

What a tracer can do about it is fill a regset each time before it writes, also one that it has
just filled with another regset in between. Then the architectures agree.

## What is restricted, and why

The session is with a 64-bit tracee. For a 32-bit one the writers do not even agree among
themselves: the result goes through `PTRACE_POKEUSER`, past the regset. The library has
`PTRACE_GETREGSET`; without it no fill succeeds and no regset is ever good for a write.

`pstate` is an invariant of its own. A regset is written back whole, and the kernel looks whether
the `pstate` in it is that of a user process. So it has to be remembered that every copy has one,
also one that is out of date. It does, since none of the writers writes that word.
-/

set_option autoImplicit false

namespace PinkTrace

namespace Aarch64

open Lib

variable {ι : Type} [DecidableEq ι]

/-! ## Calls as operations on a register file -/

/-- What a call does to the words of `user_pt_regs`. The system call number is not one of them, so
    writing it is no operation at all. -/
def callOp : RegCall ι (BitVec 64) → Option (CopyOp ι (Fin userPtRegs) (BitVec 64))
  | .fill j => some (.fetch j)
  | .writeSyscall .. => none
  | .writeRetval j retval error => some (.put j 0 (retvalWord retval error))
  | .writeArgument j argIndex argval =>
    if h : argIndex < pinkMaxArgs then
      some (.put j ⟨argIndex, Nat.lt_of_lt_of_le h (by decide)⟩ argval)
    else none

/-! ## What holds between two calls -/

/-- A 64-bit tracee with the registers of the file, and regsets that hold their copies. All of
    them have the state of a user process in `pstate`, so the kernel takes them back. -/
structure Holds (valid : BitVec 64 → Bool) (s : Session ι)
    (st : Copies ι (Fin userPtRegs) (BitVec 64)) : Prop where
  alive : s.tracee.err = none
  wide : s.tracee.compat = false
  accepts : s.tracee.validPstate = valid
  file : ∀ k : Fin userPtRegs, s.tracee.regs k = st.file k
  copy : ∀ j (k : Fin userPtRegs), (s.regset j).aarch64R k = st.copy j k
  layout : ∀ j, (s.regset j).abi = .aarch64 ∧ (s.regset j).iovLen = sizeofAarch64Regs
  filePstate : valid (st.file 33) = true
  copyPstate : ∀ j, valid (st.copy j 33) = true

variable {valid : BitVec 64 → Bool} {s : Session ι} {st : Copies ι (Fin userPtRegs) (BitVec 64)}

/-- A filled regset holds the registers: all thirty-four words of them. -/
theorem pinkRegsetFill_wide {t : Tracee} (alive : t.err = none) (wide : t.compat = false)
    (rs : Regset) :
    ∃ rs', pinkRegsetFill true t rs = some (.ok (), rs') ∧ rs'.abi = .aarch64 ∧
      rs'.iovLen = sizeofAarch64Regs ∧ ∀ k : Fin userPtRegs, rs'.aarch64R k = t.regs k := by
  have hfill : pinkRegsetFill true t rs = some (.ok (),
      ⟨copy rs.union 0 t.image64 sizeofAarch64Regs, sizeofAarch64Regs, .aarch64⟩) := by
    simp [pinkRegsetFill, pinkTraceGetRegset, alive, wide]
  refine ⟨_, hfill, rfl, rfl, fun k => ?_⟩
  have hk := k.isLt
  have hlt := (t.regs k).isLt
  have hfield : leLoad (copy rs.union 0 t.image64 sizeofAarch64Regs) (8 * k.val) 8 =
      (t.regs k).toNat := by
    rw [leLoad_copy (Nat.zero_le _) (by unfold sizeofAarch64Regs; omega), Nat.sub_zero,
      Tracee.image64, leLoad_leArray (by decide)]
    exact Nat.mod_eq_of_lt hlt
  rw [Regset.aarch64R, hfield, BitVec.ofNat_toNat, BitVec.setWidth_eq]

/-- One regset is replaced by another, with words `c`. Filling does only this, and writing back does
    it together with the tracee. -/
theorem Holds.replace (h : Holds valid s st) (j : ι) {rs : Regset} {c : Fin userPtRegs → BitVec 64}
    (habi : rs.abi = .aarch64) (hlen : rs.iovLen = sizeofAarch64Regs)
    (hword : ∀ k : Fin userPtRegs, rs.aarch64R k = c k) (hpstate : valid (c 33) = true) :
    Holds valid { s with regset := Function.update s.regset j rs }
      { st with copy := Function.update st.copy j c } where
  alive := h.alive
  wide := h.wide
  accepts := h.accepts
  file := h.file
  copy := fun i k => by
    by_cases hi : i = j
    · subst hi
      simp only [Function.update_self]
      exact hword k
    · simp only [Function.update_of_ne hi]
      exact h.copy i k
  layout := fun i => by
    by_cases hi : i = j
    · subst hi
      simp only [Function.update_self]
      exact ⟨habi, hlen⟩
    · simp only [Function.update_of_ne hi]
      exact h.layout i
  filePstate := h.filePstate
  copyPstate := fun i => by
    by_cases hi : i = j
    · subst hi
      simp only [Function.update_self]
      exact hpstate
    · simp only [Function.update_of_ne hi]
      exact h.copyPstate i

/-- A fill is a fetch. The copy is the file then, and inherits its `pstate`. -/
theorem Holds.fill (h : Holds valid s st) (j : ι) :
    ∃ s', RegCall.aarch64 true (.fill j) s = some (.ok (), s') ∧
      Holds valid s' (Copies.back (.fetch j) st) := by
  obtain ⟨rs, hfill, habi, hlen, hregs⟩ := pinkRegsetFill_wide h.alive h.wide (s.regset j)
  have hcall : RegCall.aarch64 true (.fill j) s =
      some (.ok (), { s with regset := Function.update s.regset j rs }) := by
    simp only [RegCall.aarch64, hfill]
  exact ⟨_, hcall, h.replace j habi hlen (fun k => (hregs k).trans (h.file k)) h.filePstate⟩

/-- A regset with a good `pstate` is accepted, and replaces all words. -/
theorem pinkTraceSetRegset_wide {t : Tracee} {rs : Regset} (alive : t.err = none)
    (wide : t.compat = false) (hlen : rs.iovLen = sizeofAarch64Regs)
    (hpstate : t.validPstate (rs.aarch64R 33) = true) :
    pinkTraceSetRegset t rs = .ok (t.setWords userPtRegs rs.aarch64R) := by
  have hwords : sizeofAarch64Regs / 8 = userPtRegs := rfl
  have hwhole : ¬ sizeofAarch64Regs % 8 ≠ 0 := by decide
  have hnew : (t.setWords userPtRegs rs.aarch64R).regs 33 = rs.aarch64R 33 := rfl
  simp only [pinkTraceSetRegset, alive, wide, hlen, Bool.false_eq_true, if_false, if_neg hwhole,
    hwords, hnew, hpstate, if_true]

/-- A regset that differs from a copy in one word, other than `pstate`, is written back. Stated
    for any such regset, as a result and an argument come about differently. -/
theorem Holds.writeBack (h : Holds valid s st) (j : ι) {r : Fin userPtRegs} (hr : 33 ≠ r)
    {v : BitVec 64} {rs : Regset} (habi : rs.abi = .aarch64)
    (hlen : rs.iovLen = sizeofAarch64Regs)
    (hword : ∀ k : Fin userPtRegs, rs.aarch64R k = Function.update (st.copy j) r v k) :
    ∃ s', s.written j ⟨pinkTraceSetRegset s.tracee rs, rs⟩ = (.ok (), s') ∧
      Holds valid s' (Copies.back (.put j r v) st) := by
  have hnew : valid (Function.update (st.copy j) r v 33) = true := by
    rw [Function.update_of_ne hr]
    exact h.copyPstate j
  have hset := @pinkTraceSetRegset_wide s.tracee rs h.alive h.wide hlen
    (by rw [h.accepts]; exact (congrArg valid (hword 33)).trans hnew)
  have hcall : s.written j ⟨pinkTraceSetRegset s.tracee rs, rs⟩ =
      (.ok (), ⟨s.tracee.setWords userPtRegs rs.aarch64R, Function.update s.regset j rs⟩) := by
    simp only [Session.written, hset]
  have hcopies := h.replace j habi hlen hword hnew
  exact ⟨_, hcall, { hcopies with file := fun k => (if_pos k.isLt).trans (hword k)
                                  filePstate := hnew }⟩

theorem Holds.write (h : Holds valid s st) (j : ι) {r : Fin userPtRegs} (hr : 33 ≠ r)
    (v : BitVec 64) :
    ∃ s', s.written j ⟨pinkTraceSetRegset s.tracee ((s.regset j).setAarch64R r v),
        (s.regset j).setAarch64R r v⟩ = (.ok (), s') ∧
      Holds valid s' (Copies.back (.put j r v) st) := by
  refine h.writeBack j hr (h.layout j).1 (h.layout j).2 fun k => ?_
  by_cases hk : k = r
  · subst hk
    rw [Function.update_self, aarch64R_set_self]
  · rw [Function.update_of_ne hk, ← h.copy j k,
      aarch64R_set_of_ne fun heq => hk (Fin.ext heq)]

/-- **One call.** The same shape as on `x86_64`, with `back` for `through`. -/
theorem Holds.call (h : Holds valid s st) (c : RegCall ι (BitVec 64)) :
    ∃ s', c.aarch64 true s = some (c.answer, s') ∧
      Holds valid s' (((callOp c).map Copies.back).getD id st) := by
  cases c with
  | fill j => exact h.fill j
  | writeSyscall j sysnum =>
    -- the number is kept outside of `user_pt_regs`, and the regset is not touched
    have hself : Function.update s.regset j (s.regset j) = s.regset := Function.update_eq_self ..
    refine ⟨⟨{ s.tracee with syscallno := (sysnum.setWidth 16).setWidth 32 }, s.regset⟩, ?_, ?_⟩
    · simp only [RegCall.aarch64, pinkWriteSyscall, setSystemCall, h.alive, Session.written, hself]
      rfl
    · exact ⟨h.alive, h.wide, h.accepts, h.file, h.copy, h.layout, h.filePstate, h.copyPstate⟩
  | writeRetval j retval error =>
    obtain ⟨s', hcall, hs'⟩ := h.write j (r := 0) (by decide) (retvalWord retval error)
    refine ⟨s', ?_, hs'⟩
    rw [RegCall.aarch64, pinkWriteRetval, (h.layout j).1]
    exact congrArg some hcall
  | writeArgument j argIndex argval =>
    by_cases hi : argIndex < pinkMaxArgs
    · have hin : argIndex < userPtRegs := Nat.lt_of_lt_of_le hi (by decide)
      have hne : (33 : Fin userPtRegs) ≠ ⟨argIndex, hin⟩ := by
        intro heq
        have hval : 33 = argIndex := congrArg Fin.val heq
        rw [← hval] at hi
        exact absurd hi (by decide)
      obtain ⟨s', hcall, hs'⟩ := h.write j hne argval
      refine ⟨s', ?_, by simpa [callOp, hi] using hs'⟩
      rw [RegCall.answer, RegCall.valid, if_pos (decide_eq_true hi), RegCall.aarch64,
        pinkWriteArgument, if_pos hi, (h.layout j).1]
      exact congrArg some hcall
    · refine ⟨s, ?_, by simpa [callOp, hi] using h⟩
      simp [RegCall.aarch64, pinkWriteArgument, Session.written, RegCall.answer, RegCall.valid, hi]

/-! ## Whole sessions -/

/-- The words of `user_pt_regs`. -/
def Tracee.words (t : Tracee) (k : Fin userPtRegs) : BitVec 64 := t.regs k

/-- A 64-bit tracee in user mode, with all regsets of a tracer just filled. Four assumptions that
    all results share. -/
structure Filled (s : Session ι) : Prop where
  alive : s.tracee.err = none
  wide : s.tracee.compat = false
  user : s.tracee.validPstate (s.tracee.regs 33) = true
  filled : ∀ j, ∃ old, pinkRegsetFill true s.tracee old = some (.ok (), s.regset j)

/-- The register file, and what each regset holds of it, after a session. -/
def copiesAfter (t : Tracee) (calls : List (RegCall ι (BitVec 64))) :
    Copies ι (Fin userPtRegs) (BitVec 64) :=
  runTurns Copies.back (calls.filterMap callOp) ⟨t.words, fun _ => t.words⟩

theorem Holds.session (h : Filled s) (calls : List (RegCall ι (BitVec 64))) :
    ∃ s', runSession (RegCall.aarch64 true) calls s = some (calls.map RegCall.answer, s') ∧
      Holds s.tracee.validPstate s' (copiesAfter s.tracee calls) := by
  have hstart : Holds s.tracee.validPstate s ⟨s.tracee.words, fun _ => s.tracee.words⟩ := by
    have hregs : ∀ j, (s.regset j).abi = .aarch64 ∧ (s.regset j).iovLen = sizeofAarch64Regs ∧
        ∀ k : Fin userPtRegs, (s.regset j).aarch64R k = s.tracee.regs k := by
      intro j
      obtain ⟨old, hfill⟩ := h.filled j
      obtain ⟨rs, hfill', hrs⟩ := pinkRegsetFill_wide h.alive h.wide old
      cases hfill.symm.trans hfill'
      exact hrs
    exact ⟨h.alive, h.wide, rfl, fun _ => rfl, fun j => (hregs j).2.2,
      fun j => ⟨(hregs j).1, (hregs j).2.1⟩, h.user, fun _ => h.user⟩
  exact session_turns _ (fun c s st (hs : Holds _ s st) => hs.call c) calls hstart

/-- **The writers write the regset back.** In every session, the tracee has the registers of the
    file, and every regset holds its copy of it, assignments of its own included. -/
theorem aarch64_session_writes_back (s : Session ι) (h : Filled s)
    (calls : List (RegCall ι (BitVec 64))) :
    ∃ s', runSession (RegCall.aarch64 true) calls s = some (calls.map RegCall.answer, s') ∧
      s'.tracee.words = (copiesAfter s.tracee calls).file ∧
      ∀ j (k : Fin userPtRegs), (s'.regset j).aarch64R k =
        (copiesAfter s.tracee calls).copy j k := by
  obtain ⟨s', hsession, hs'⟩ := Holds.session h calls
  exact ⟨s', hsession, funext hs'.file, hs'.copy⟩

/-- Two regsets of a tracee with all registers zero. -/
def zeroSession : Session (Fin 2) :=
  ⟨zeroTracee, fun _ => ⟨copy (fun _ => 0) 0 zeroTracee.image64 sizeofAarch64Regs,
    sizeofAarch64Regs, .aarch64⟩⟩

theorem zeroSession_filled : Filled zeroSession := ⟨rfl, rfl, rfl, fun _ => ⟨zeroRegset, rfl⟩⟩

theorem zeroSession_writes_back :
    ∃ s', runSession (RegCall.aarch64 true) [.writeArgument 1 0 7, .writeRetval 0 0 2] zeroSession =
        some ([.ok (), .ok ()], s') ∧ s'.tracee.words 0 = -2 := by
  obtain ⟨s', hsession, hfile, -⟩ := aarch64_session_writes_back zeroSession zeroSession_filled
    [.writeArgument 1 0 7, .writeRetval 0 0 2]
  refine ⟨s', hsession, ?_⟩
  rw [hfile]
  decide +kernel

/-- The word that carries an argument: the one of its number. The result shares that of the first.
    -/
def argWord (i : Fin pinkMaxArgs) : Fin userPtRegs := i.castLE (by decide)

theorem argWord_ne {i i' : Fin pinkMaxArgs} (h : i ≠ i') : argWord i ≠ argWord i' :=
  fun heq => h (Fin.ext (congrArg (fun k : Fin userPtRegs => k.val) heq))

omit [DecidableEq ι] in
theorem callOp_writeArgument (j : ι) (i : Fin pinkMaxArgs) (v : BitVec 64) :
    callOp (.writeArgument j i v) = some (.put j (argWord i) v) := dif_pos i.isLt

omit [DecidableEq ι] in
theorem Holds.readArgument (h : Holds valid s st) (j : ι) (i : Fin pinkMaxArgs) :
    pinkReadArgument (s.regset j) i = .ok (st.copy j (argWord i)) := by
  rw [pinkReadArgument_aarch64 (h.layout j).1, if_pos i.isLt]
  exact congrArg Except.ok (h.copy j (argWord i))

/-- A fill is the last thing that happened to a regset, so it holds the file. -/
theorem copy_copiesAfter_fill (t : Tracee) (calls : List (RegCall ι (BitVec 64))) (j : ι) :
    (copiesAfter t (calls ++ [.fill j])).copy j = (copiesAfter t calls).file := by
  rw [copiesAfter, List.filterMap_append, runTurns_append]
  exact Function.update_self ..

omit [DecidableEq ι] in
/-- A call by another regset is an operation by another client. -/
theorem callOp_notBy {j : ι} {c : RegCall ι (BitVec 64)} (hc : c.regset ≠ j)
    {op : CopyOp ι (Fin userPtRegs) (BitVec 64)} (hop : callOp c = some op) : op.NotBy j := by
  cases c with
  | fill k =>
    cases hop
    exact hc
  | writeSyscall k sysnum => cases hop
  | writeRetval k retval error =>
    cases hop
    exact hc
  | writeArgument k i v =>
    by_cases hi : i < pinkMaxArgs
    · rw [callOp, dif_pos hi] at hop
      cases hop
      exact hc
    · rw [callOp, dif_neg hi] at hop
      cases hop

/-- **A write with an old regset undoes what happened since.** Whatever others did to an argument
    after a regset was filled, a write of another argument with that regset puts it back to what
    it was at the fill, and that is what everybody sees next. -/
theorem aarch64_stale_write_undoes (s : Session ι) (h : Filled s)
    (before between : List (RegCall ι (BitVec 64))) (j k : ι) (i i' : Fin pinkMaxArgs)
    (hne : i ≠ i') (v : BitVec 64) (hbetween : ∀ c ∈ between, c.regset ≠ j) :
    ∃ replies filled replies' s',
      runSession (RegCall.aarch64 true) (before ++ [.fill j]) s = some (replies, filled) ∧
      runSession (RegCall.aarch64 true)
        (before ++ .fill j :: (between ++ [.writeArgument j i' v]) ++ [.fill k]) s =
        some (replies', s') ∧
      pinkReadArgument (s'.regset k) i = pinkReadArgument (filled.regset j) i := by
  obtain ⟨filled, hsession, hfilled⟩ := Holds.session h (before ++ [.fill j])
  obtain ⟨s', hsession', hs'⟩ := Holds.session h
    (before ++ .fill j :: (between ++ [.writeArgument j i' v]) ++ [.fill k])
  refine ⟨_, filled, _, s', hsession, hsession', ?_⟩
  rw [hs'.readArgument, hfilled.readArgument, copy_copiesAfter_fill, copy_copiesAfter_fill]
  have hword : argWord i ≠ argWord i' := argWord_ne hne
  have hfill : callOp (.fill j : RegCall ι (BitVec 64)) = some (.fetch j) := rfl
  rw [copiesAfter, List.filterMap_append, List.filterMap_cons_some hfill, List.filterMap_append,
    List.filterMap_cons_some (callOp_writeArgument j i' v), List.filterMap_nil, runTurns_append,
    ← List.cons_append, file_back_stale v _ hword]
  · rfl
  · intro op hop
    obtain ⟨c, hc, hcop⟩ := List.mem_filterMap.mp hop
    exact callOp_notBy (hbetween c hc) hcop

/-- The second regset sets the first argument, and the first one, which is older, the second. -/
theorem zeroSession_stale_write_undoes :
    ∃ replies s', runSession (RegCall.aarch64 true) ([] ++ .fill 0 ::
        ([.writeArgument 1 0 7] ++ [.writeArgument 0 1 5]) ++ [.fill 1]) zeroSession =
        some (replies, s') ∧ pinkReadArgument (s'.regset 1) 0 = .ok 0 := by
  obtain ⟨replies, filled, replies', s', hfilled, hsession, hread⟩ :=
    aarch64_stale_write_undoes zeroSession zeroSession_filled [] [.writeArgument 1 0 7] 0 1
      0 1 (by decide) 5 (by decide)
  refine ⟨replies', s', hsession, hread.trans ?_⟩
  cases hfilled
  decide +kernel

/-- Writes of arguments, each right after a fill of the regset it is made with. This is the
    discipline a tracer has to keep to. -/
def freshWrites (l : List (ι × Fin pinkMaxArgs × BitVec 64)) : List (RegCall ι (BitVec 64)) :=
  l.flatMap fun (j, i, v) => [.fill j, .writeArgument j i v]

omit [DecidableEq ι] in
/-- Such calls are edits, and of edits `Lib.Copies` knows that the two disciplines agree. -/
theorem filterMap_freshWrites (l : List (ι × Fin pinkMaxArgs × BitVec 64)) :
    (freshWrites l).filterMap callOp = edits (l.map fun (j, i, v) => (j, argWord i, v)) := by
  induction l with
  | nil => rfl
  | cons e l ih =>
    obtain ⟨j, i, v⟩ := e
    show List.filterMap callOp (.fill j :: .writeArgument j i v :: freshWrites l) = _
    have hfill : callOp (.fill j : RegCall ι (BitVec 64)) = some (.fetch j) := rfl
    rw [List.filterMap_cons_some hfill, List.filterMap_cons_some (callOp_writeArgument j i v), ih]
    rfl

/-- **Nothing is lost to writers that fill their regset first.** The first write need not be
    fresh: what it undoes is what was there before. The others are, each right before it writes;
    that is all of the discipline that is needed. -/
theorem aarch64_fresh_update_survives (s : Session ι) (h : Filled s)
    (before : List (RegCall ι (BitVec 64))) (j k : ι) (i : Fin pinkMaxArgs) (v : BitVec 64)
    (l : List (ι × Fin pinkMaxArgs × BitVec 64)) (hl : ∀ e ∈ l, e.2.1 ≠ i) :
    ∃ replies s', runSession (RegCall.aarch64 true)
        (before ++ .writeArgument j i v :: freshWrites l ++ [.fill k]) s = some (replies, s') ∧
      pinkReadArgument (s'.regset k) i = .ok v := by
  obtain ⟨s', hsession, hs'⟩ := Holds.session h
    (before ++ .writeArgument j i v :: freshWrites l ++ [.fill k])
  refine ⟨_, s', hsession, ?_⟩
  rw [hs'.readArgument, copy_copiesAfter_fill, copiesAfter, List.filterMap_append,
    List.filterMap_cons_some (callOp_writeArgument j i v), filterMap_freshWrites, runTurns_append,
    runTurns, file_edits_back, file_through_of_spares]
  · exact congrArg Except.ok (file_back_put ..)
  · intro op hop
    refine edits_spares ?_ hop
    intro e he
    obtain ⟨⟨k', i', v'⟩, he', rfl⟩ := List.mem_map.mp he
    exact argWord_ne (hl _ he')

/-- The same two writes, with a fill before the second. -/
theorem zeroSession_fresh_update_survives :
    ∃ replies s', runSession (RegCall.aarch64 true)
        ([.fill 0] ++ .writeArgument 1 0 7 :: freshWrites [(0, 1, 5)] ++ [.fill 1]) zeroSession =
        some (replies, s') ∧ pinkReadArgument (s'.regset 1) 0 = .ok 7 := by
  refine aarch64_fresh_update_survives zeroSession zeroSession_filled [.fill 0] 1 1 0 7 [(0, 1, 5)]
    fun e he => ?_
  rw [List.mem_singleton.mp he]
  decide

end Aarch64

end PinkTrace
