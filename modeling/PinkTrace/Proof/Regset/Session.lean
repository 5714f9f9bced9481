import PinkTrace.Lib.Copies
import PinkTrace.Lib.Session
import PinkTrace.Proof.Regset.Accessors
import PinkTrace.RegsetSession

/-!
# No update is lost on `x86_64`

Any number of regsets of one tracee, used in any order: the writers go **through** them. A regset
shows the registers as they were at its last fill, a write changes one register of the tracee and
nothing that anybody has seen. So a value stays until somebody writes the same register, however
old the regset they write it with.

What makes this true is that the one thing a writer takes from its regset, whether the tracee is
a 32-bit one, does not change between two fills.

## Why the regsets start filled

A regset that was never filled says nothing about the tracee, and a writer given one may take the
wrong registers for the arguments. So both results ask that each regset of the session comes from
a fill that succeeded. That is also where the library's configuration enters: where neither
`PTRACE_GETREGSET` nor `PTRACE_GETREGS` was found, there is no such regset, and with it no session
to speak of. A session that has one regset is in a library that can fill the others
(`X86Holds.fills`).
-/

set_option autoImplicit false

namespace PinkTrace

open Lib

variable {ι : Type} [DecidableEq ι] {cfg : RegsConfig}

/-! ## Calls as operations on a register file -/

/-- The ABI that decides which registers carry the arguments. Of the three only i386 has its own.
    -/
def argAbi (narrow : Bool) : Abi .x86_64 := if narrow then .i386 else .x86_64

/-- What a call does to the registers, of a tracee that is a 32-bit one or not; nothing, if it is
    refused. Which regset it was made with does not show in what is written. -/
def RegCall.x86Op (narrow : Bool) : RegCall ι (BitVec 64) → Option (CopyOp ι X86Reg (BitVec 64))
  | fill j => some (.fetch j)
  | writeSyscall j sysnum => some (.put j .origRax sysnum)
  | writeRetval j retval error => some (.put j .rax (retvalWord retval error))
  | writeArgument j argIndex argval =>
    if h : argIndex < pinkMaxArgs then some (.put j (argReg (argAbi narrow) ⟨argIndex, h⟩) argval)
    else none

/-! ## What holds between two calls -/

/-- A tracee with other registers: the one a regset was filled from, as far as a regset can tell.
    -/
def X86Tracee.withRegs (t : X86Tracee) (regs : X86Reg → BitVec 64) : X86Tracee := { t with regs }

/-- The tracee has the registers of the file, and each regset shows those of its copy. Which half
    of the registers carries the arguments is `narrow`, for the tracee and for every copy: that is
    what lets a writer work with a regset that is out of date. -/
structure X86Holds (cfg : RegsConfig) (narrow : Bool) (s : RegSession X86Tracee X86Regset ι)
    (st : Copies ι X86Reg (BitVec 64)) : Prop where
  alive : s.tracee.err = none
  fills : ι → cfg.fills = true
  file : s.tracee.regs = st.file
  runs : s.tracee.runsI386 cfg = narrow
  copyRuns : ∀ j, (s.tracee.withRegs (st.copy j)).runsI386 cfg = narrow
  shows : ∀ j, Shows (s.regset j) ((s.tracee.withRegs (st.copy j)).abi cfg) (st.copy j)

variable {narrow : Bool} {s : RegSession X86Tracee X86Regset ι} {st : Copies ι X86Reg (BitVec 64)}

/-- The registers of the arguments do not depend on the number of the system call, although the
    ABI does. -/
theorem argReg_abi {t : X86Tracee} (h : t.runsI386 cfg = narrow) (i : Fin pinkMaxArgs) :
    argReg (t.abi cfg) i = argReg (argAbi narrow) i := by
  rw [X86Tracee.abi, h]
  cases narrow with
  | true => rfl
  | false =>
    rw [if_neg (by decide)]
    split <;> rfl

theorem pinkWriteArgument_eq (t : X86Tracee) (rs : X86Regset) (i : Nat) (v : BitVec 64) :
    pinkWriteArgument t rs i v =
      if h : i < pinkMaxArgs then pinkWriteWordUser t (8 * (argReg rs.abi ⟨i, h⟩).index) v
      else .error .einval := by
  unfold pinkWriteArgument
  split
  · cases habi : rs.abi with
    | only h => exact absurd h (by decide)
    | i386 | x86_64 | x32 => rfl
  · rfl

/-- A fill is a fetch… -/
theorem X86Holds.fill (h : X86Holds cfg narrow s st) (j : ι) :
    ∃ s', RegCall.on (x86Build cfg) (.fill j) s = (.ok (), s') ∧
      X86Holds cfg narrow s' (Copies.through (.fetch j) st) := by
  obtain ⟨rs, hfill, hshows⟩ := pinkRegsetFill_shows cfg (h.fills j) h.alive (s.regset j)
  have hcall : RegCall.on (x86Build cfg) (.fill j) s =
      (.ok (), { s with regset := Function.update s.regset j rs }) := by
    simp only [RegCall.on, x86Build, hfill]
  refine ⟨_, hcall, h.alive, h.fills, h.file, h.runs, fun k => ?_, fun k => ?_⟩
  · by_cases hk : k = j
    · subst hk
      simp only [Copies.through, Function.update_self, ← h.file]
      exact h.runs
    · simp only [Copies.through, Function.update_of_ne hk]
      exact h.copyRuns k
  · by_cases hk : k = j
    · subst hk
      simp only [Copies.through, Function.update_self, ← h.file]
      exact hshows
    · simp only [Copies.through, Function.update_of_ne hk]
      exact h.shows k

/-- One register of the tracee is written, other than the code segment. -/
theorem X86Holds.put (h : X86Holds cfg narrow s st) (j : ι) {r : X86Reg} (v : BitVec 64)
    (hcs : X86Reg.cs ≠ r) :
    X86Holds cfg narrow { s with tracee := s.tracee.set r v }
      (Copies.through (.put j r v) st) where
  alive := h.alive
  fills := h.fills
  file := by
    funext r'
    show (s.tracee.set r v).regs r' = Function.update st.file r v r'
    rw [← h.file]
    by_cases hr : r' = r
    · subst hr
      rw [regs_set_self, Function.update_self]
    · rw [regs_set_of_ne v hr, Function.update_of_ne hr]
  runs := by
    rw [← h.runs, X86Tracee.runsI386, X86Tracee.runsI386, regs_set_of_ne v hcs]
    rfl
  copyRuns := h.copyRuns
  shows := h.shows

/-- …and a write a put, whichever regset it is made with. -/
theorem X86Holds.write (h : X86Holds cfg narrow s st) (j : ι) {r : X86Reg} {v : BitVec 64}
    (hcs : X86Reg.cs ≠ r) :
    ∃ s', s.written (pinkWriteWordUser s.tracee (8 * r.index) v) = (.ok (), s') ∧
      X86Holds cfg narrow s' (Copies.through (.put j r v) st) :=
  ⟨_, by rw [pinkWriteWordUser_reg h.alive]; rfl, h.put j v hcs⟩

/-- **One call.** A call that is refused is no operation, and `getD id` says that nothing happens.
    -/
theorem X86Holds.call (h : X86Holds cfg narrow s st) (c : RegCall ι (BitVec 64)) :
    ∃ s', c.on (x86Build cfg) s = (c.answer, s') ∧
      X86Holds cfg narrow s' (((c.x86Op narrow).map Copies.through).getD id st) := by
  cases c with
  | fill j => exact h.fill j
  | writeSyscall j sysnum => exact h.write j (show X86Reg.cs ≠ .origRax by decide)
  | writeRetval j retval error => exact h.write j (show X86Reg.cs ≠ .rax by decide)
  | writeArgument j argIndex argval =>
    by_cases hi : argIndex < pinkMaxArgs
    · have hreg : argReg (s.regset j).abi ⟨argIndex, hi⟩ =
          argReg (argAbi narrow) ⟨argIndex, hi⟩ := by
        rw [(h.shows j).detected]
        exact argReg_abi (h.copyRuns j) _
      have hcs := (argReg_ne (argAbi narrow) ⟨argIndex, hi⟩).1
      obtain ⟨s', hcall, hs'⟩ := h.write j (v := argval) hcs
      refine ⟨s', ?_, by simpa [RegCall.x86Op, hi] using hs'⟩
      rw [RegCall.answer, RegCall.valid, if_pos (decide_eq_true hi), ← hcall, ← hreg]
      exact congrArg s.written ((pinkWriteArgument_eq ..).trans (dif_pos hi))
    · refine ⟨s, ?_, by simpa [RegCall.x86Op, hi] using h⟩
      rw [RegCall.answer, RegCall.valid, if_neg (by simpa using hi)]
      exact congrArg s.written (dif_neg hi)

/-! ## Whole sessions -/

/-- The register file, and what each regset has seen of it, after a session that started with all
    regsets filled. No tracee and no regset is in it any more: it is computed from the calls. -/
def x86Copies (cfg : RegsConfig) (t : X86Tracee) (calls : List (RegCall ι (BitVec 64))) :
    Copies ι X86Reg (BitVec 64) :=
  runTurns Copies.through (calls.filterMap (RegCall.x86Op (t.runsI386 cfg)))
    ⟨t.regs, fun _ => t.regs⟩

theorem X86Holds.session (alive : s.tracee.err = none)
    (filled : ∀ j, ∃ old, pinkRegsetFill cfg s.tracee old = (.ok (), s.regset j))
    (calls : List (RegCall ι (BitVec 64))) :
    ∃ s', runSession (fun c s => some (c.on (x86Build cfg) s)) calls s =
        some (calls.map RegCall.answer, s') ∧
      X86Holds cfg (s.tracee.runsI386 cfg) s'
        (x86Copies cfg s.tracee calls) := by
  have hstart : X86Holds cfg (s.tracee.runsI386 cfg) s
      ⟨s.tracee.regs, fun _ => s.tracee.regs⟩ := by
    refine ⟨alive, fun j => ?_, rfl, rfl, fun _ => rfl, fun j => ?_⟩
    · obtain ⟨old, hfill⟩ := filled j
      exact (pinkRegsetFill_alive hfill).2
    · obtain ⟨old, hfill⟩ := filled j
      exact shows_of_fill hfill
  refine session_turns _ (fun c s st (hs : X86Holds cfg _ s st) => ?_) calls hstart
  obtain ⟨s', hcall, hs'⟩ := hs.call c
  exact ⟨s', congrArg some hcall, hs'⟩

/-- **The writers go through the regsets.** In every session, the tracee has the registers of the
    file, every regset shows the tracee as it was when it was filled last, and no call fails but
    for an argument there is none of. -/
theorem x86_session_writes_through (cfg : RegsConfig) (s : RegSession X86Tracee X86Regset ι)
    (alive : s.tracee.err = none)
    (filled : ∀ j, ∃ old, pinkRegsetFill cfg s.tracee old = (.ok (), s.regset j))
    (calls : List (RegCall ι (BitVec 64))) :
    ∃ s', runSession (fun c s => some (c.on (x86Build cfg) s)) calls s =
        some (calls.map RegCall.answer, s') ∧
      s'.tracee.regs = (x86Copies cfg s.tracee calls).file ∧
      ∀ j, let seen := (x86Copies cfg s.tracee calls).copy j
        (s'.regset j).readings =
          readingsOf ((s'.tracee.withRegs seen).abi cfg) seen := by
  obtain ⟨s', hsession, hs'⟩ := X86Holds.session alive filled calls
  exact ⟨s', hsession, hs'.file, fun j => (hs'.shows j).readings⟩

/-- Two regsets of a 32-bit tracee, just filled. -/
def compatSession : RegSession X86Tracee X86Regset (Fin 2) := ⟨compatTracee, fun _ => compatRegset⟩

theorem compatSession_writes_through :
    ∃ s', runSession (fun c s => some (RegCall.on (x86Build ⟨true, false⟩) c s))
        [.writeArgument 0 2 7, .writeArgument 1 6 0, .writeRetval 1 0 2] compatSession =
        some ([.ok (), .error .einval, .ok ()], s') ∧
      s'.tracee.regs .rdx = 7 ∧ s'.tracee.regs .rax = -2 := by
  obtain ⟨s', hsession, hfile, -⟩ := x86_session_writes_through ⟨true, false⟩ compatSession rfl
    (fun _ => ⟨pinkRegsetZero, rfl⟩)
    [.writeArgument 0 2 7, .writeArgument 1 6 0, .writeRetval 1 0 2]
  refine ⟨s', hsession, ?_, ?_⟩
  · rw [hfile]
    decide +kernel
  · rw [hfile]
    decide +kernel

omit [DecidableEq ι] in
/-- A call that does not write an argument does not write its register. This is where the
    injectivity of `argReg` is used. -/
theorem x86Op_spares {i : Nat} (hi : i < pinkMaxArgs) {c : RegCall ι (BitVec 64)}
    (hc : c.writesArgument ≠ some i) {op : CopyOp ι X86Reg (BitVec 64)}
    (hop : c.x86Op narrow = some op) : op.Spares (argReg (argAbi narrow) ⟨i, hi⟩) := by
  obtain ⟨-, horig, hrax⟩ := argReg_ne (argAbi narrow) ⟨i, hi⟩
  cases c with
  | fill j =>
    cases hop
    trivial
  | writeSyscall j sysnum =>
    cases hop
    exact horig
  | writeRetval j retval error =>
    cases hop
    exact hrax
  | writeArgument j i' v =>
    by_cases hi' : i' < pinkMaxArgs
    · rw [RegCall.x86Op, dif_pos hi'] at hop
      cases hop
      intro hreg
      exact hc (congrArg (fun x : Fin pinkMaxArgs => some x.val) (argReg_inj _ hreg))
    · rw [RegCall.x86Op, dif_neg hi'] at hop
      cases hop

/-- **No update is lost.** An argument that was written, with whatever regset, is what every
    regset shows after its next fill, unless somebody has written that argument again. When the
    regset used for it was filled does not matter, since a write changes one register. -/
theorem x86_update_survives (cfg : RegsConfig) (s : RegSession X86Tracee X86Regset ι)
    (alive : s.tracee.err = none)
    (filled : ∀ j, ∃ old, pinkRegsetFill cfg s.tracee old = (.ok (), s.regset j))
    (before after : List (RegCall ι (BitVec 64))) (k j : ι) {i : Nat} (hi : i < pinkMaxArgs)
    (v : BitVec 64) (hafter : ∀ c ∈ after, c.writesArgument ≠ some i) :
    ∃ replies s', runSession (fun c s => some (c.on (x86Build cfg) s))
        (before ++ .writeArgument k i v :: (after ++ [.fill j])) s = some (replies, s') ∧
      pinkReadArgument (s'.regset j) i = .ok (asLong (pinkReadAbi (s'.regset j)) v) := by
  obtain ⟨s', hsession, hs'⟩ := X86Holds.session alive filled
    (before ++ .writeArgument k i v :: (after ++ [.fill j]))
  refine ⟨_, s', hsession, ?_⟩
  have hshows := hs'.shows j
  generalize hnarrow : s.tracee.runsI386 cfg = narrow at hs'
  have hcell : (x86Copies cfg s.tracee
      (before ++ .writeArgument k i v :: (after ++ [.fill j]))).copy j
        (argReg (argAbi narrow) ⟨i, hi⟩) = v := by
    have hwrite : RegCall.x86Op narrow (.writeArgument k i v) =
        some (.put k (argReg (argAbi narrow) ⟨i, hi⟩) v) := dif_pos hi
    have hfill : RegCall.x86Op narrow (.fill j) = some (.fetch j) := rfl
    rw [x86Copies, hnarrow, List.filterMap_append, List.filterMap_cons_some hwrite,
      List.filterMap_append, List.filterMap_cons_some hfill, List.filterMap_nil, runTurns_append,
      runTurns, runTurns_append]
    show (Copies.through (.fetch j) _).copy j _ = v
    rw [copy_through_fetch, file_through_of_spares]
    · exact file_through_put ..
    · intro op hop
      obtain ⟨c, hc, hcop⟩ := List.mem_filterMap.mp hop
      exact x86Op_spares hi (hafter c hc) hcop
  rw [hshows.readArgument, pinkReadAbi, hshows.detected, argumentOf, dif_pos hi,
    argReg_abi (hs'.copyRuns j), hcell]

/-- The second regset writes a result, and it is older than the argument that was written with
    the first. -/
theorem compatSession_update_survives :
    ∃ replies s', runSession (fun c s => some (RegCall.on (x86Build ⟨true, false⟩) c s))
        ([.fill 1] ++ .writeArgument 0 2 7 :: ([.writeRetval 1 0 2] ++ [.fill 1])) compatSession =
        some (replies, s') ∧
      pinkReadArgument (s'.regset 1) 2 = .ok (asLong (pinkReadAbi (s'.regset 1)) 7) :=
  x86_update_survives ⟨true, false⟩ compatSession rfl (fun _ => ⟨pinkRegsetZero, rfl⟩) [.fill 1]
    [.writeRetval 1 0 2] 0 1 (by decide) 7 (by decide)

end PinkTrace
