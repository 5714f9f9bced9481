import PinkTrace.Lib.Copies
import PinkTrace.Lib.Session
import PinkTrace.Proof.Regset.PowerPC
import PinkTrace.RegsetSession

/-!
# What a tracer can observe of the registers, on i386 and PowerPC

Through the readers and writers a tracee is a record: the number of its system call, six
arguments, and a result. Which registers these are is hidden, and on PowerPC the result is even
spread over two of them, one of which is read before it is written. So there is something to
prove: that each writer changes its own cell of the record and no other, whatever the session, and
that a regset shows the record as it was when it was filled last.

`Plain` is what a build has to do for that, a call at a time; `Plain.session` is the session. The
`x86_64` build is not plain. There the arguments of a tracee are where its ABI has them, and the
number that was written is not the one that is read in the x32 ABI.

## Builds that cannot fill a regset

Both builds fill a regset through `pink_trace_get_regs` alone, and in what `configure` makes of
them that function is `return -ENOSYS`. The sessions are therefore over a build that may or may
not have `PINK_HAVE_GETREGS`, with the difference confined to one operation: a fill that is refused
is no fetch. Without the macro the two halves of the story fall apart. The writers still change the
record of the tracee, a cell each, and no regset ever gets to see it: it reads what it held when
the session began.
-/

set_option autoImplicit false

namespace PinkTrace

open Lib

variable {ι V T R : Type} [DecidableEq ι]

/-! ## Records -/

/-- A cell of the record. There are eight, and through the readers and writers a tracer sees and
    changes nothing else. -/
inductive Observable
  | sysnum
  | arg (i : Fin pinkMaxArgs)
  | result
  deriving DecidableEq

/-- To tell eight cells apart it is enough to tell the arguments apart, and these from the other
    two. -/
theorem Observable.injective {α : Type} {f : Observable → α}
    (hargs : ∀ i i', f (.arg i) = f (.arg i') → i = i')
    (hother : ∀ i, f (.arg i) ≠ f .sysnum ∧ f (.arg i) ≠ f .result)
    (hne : f .sysnum ≠ f .result) : Function.Injective f := by
  intro x y h
  cases x with
  | sysnum =>
    cases y with
    | sysnum => rfl
    | arg i => exact absurd h.symm (hother i).1
    | result => exact absurd h hne
  | arg i =>
    cases y with
    | sysnum => exact absurd h (hother i).1
    | arg i' => exact congrArg Observable.arg (hargs i i' h)
    | result => exact absurd h (hother i).2
  | result =>
    cases y with
    | sysnum => exact absurd h.symm hne
    | arg i => exact absurd h.symm (hother i).2
    | result => rfl

omit [DecidableEq ι] in
/-- What a call does to the record; `word` is what is to be read of a result that was written. A
    fill of a build that cannot do one does nothing. -/
def RegCall.observed (fills : Bool) (word : V → BitVec 32 → V) :
    RegCall ι V → Option (CopyOp ι Observable V)
  | fill j => if fills then some (.fetch j) else none
  | writeSyscall j sysnum => some (.put j .sysnum sysnum)
  | writeRetval j retval error => some (.put j .result (word retval error))
  | writeArgument j argIndex argval =>
    if h : argIndex < pinkMaxArgs then some (.put j (.arg ⟨argIndex, h⟩) argval) else none

/-- The functions of a build, as operations on the record of a tracee that is there and the ones
    its regsets show. `Alive` and the two views are parameters, because a build knows best where
    its record is. -/
structure Plain (build : RegBuild V T R) (fills : Bool) (word : V → BitVec 32 → V)
    (Alive : T → Prop) (file : T → Observable → V) (shown : R → Observable → V) : Prop where
  fill : ∀ t rs, Alive t → ∃ rs',
    build.regsetFill t rs = (if fills then .ok () else .error .enosys, rs') ∧
      shown rs' = if fills then file t else shown rs
  writeSyscall : ∀ t rs sysnum, Alive t → ∃ t', build.writeSyscall t rs sysnum = .ok t' ∧
    Alive t' ∧ file t' = Function.update (file t) .sysnum sysnum
  writeRetval : ∀ t rs retval error, Alive t → ∃ t', build.writeRetval t rs retval error = .ok t' ∧
    Alive t' ∧ file t' = Function.update (file t) .result (word retval error)
  writeArgument : ∀ t rs (i : Fin pinkMaxArgs) argval, Alive t →
    ∃ t', build.writeArgument t rs i argval = .ok t' ∧ Alive t' ∧
      file t' = Function.update (file t) (.arg i) argval
  noArgument : ∀ t rs argIndex argval, ¬ argIndex < pinkMaxArgs →
    build.writeArgument t rs argIndex argval = .error .einval

section

variable {build : RegBuild V T R} {fills : Bool} {word : V → BitVec 32 → V} {Alive : T → Prop}
  {file : T → Observable → V} {shown : R → Observable → V}

/-- The records of a tracee and its regsets, as a file and its copies. -/
def RegSession.copies (file : T → Observable → V) (shown : R → Observable → V)
    (s : RegSession T R ι) : Copies ι Observable V :=
  ⟨file s.tracee, fun j => shown (s.regset j)⟩

/-- **One call.** It is one operation on the record, or none if it is refused, and the build is
    used through its fields alone. -/
theorem Plain.call (h : Plain build fills word Alive file shown) (c : RegCall ι V)
    (s : RegSession T R ι) (alive : Alive s.tracee) :
    ∃ s', c.on build s = (c.reply fills, s') ∧ Alive s'.tracee ∧
      s'.copies file shown =
        ((c.observed fills word).map Copies.through).getD id (s.copies file shown) := by
  -- a writer leaves the regsets as they are
  have hput : ∀ {t' : T} (j : ι) (x : Observable) (v : V),
      file t' = Function.update (file s.tracee) x v →
        ({ s with tracee := t' } : RegSession T R ι).copies file shown =
          Copies.through (.put j x v) (s.copies file shown) := by
    intro t' j x v hfile
    rw [RegSession.copies, hfile]
    rfl
  cases c with
  | fill j =>
    obtain ⟨rs', hfill, hshown⟩ := h.fill s.tracee (s.regset j) alive
    refine ⟨{ s with regset := Function.update s.regset j rs' }, ?_, alive, ?_⟩
    · rw [RegCall.on, hfill]
      rfl
    · have hcopy : (fun k => shown (Function.update s.regset j rs' k)) =
          Function.update (fun k => shown (s.regset k)) j (shown rs') :=
        Function.comp_update shown s.regset j rs'
      rw [RegSession.copies, hcopy, hshown]
      cases fills with
      | true => rfl
      | false =>
        -- the regset shows what it did, so putting it back changes nothing
        rw [if_neg (by decide), Function.update_eq_self]
        rfl
  | writeSyscall j sysnum =>
    obtain ⟨t', hwrite, alive', hfile⟩ := h.writeSyscall s.tracee (s.regset j) sysnum alive
    refine ⟨{ s with tracee := t' }, ?_, alive', hput j _ _ hfile⟩
    rw [RegCall.on, hwrite]
    rfl
  | writeRetval j retval error =>
    obtain ⟨t', hwrite, alive', hfile⟩ := h.writeRetval s.tracee (s.regset j) retval error alive
    refine ⟨{ s with tracee := t' }, ?_, alive', hput j _ _ hfile⟩
    rw [RegCall.on, hwrite]
    rfl
  | writeArgument j argIndex argval =>
    by_cases hi : argIndex < pinkMaxArgs
    · obtain ⟨t', hwrite, alive', hfile⟩ :=
        h.writeArgument s.tracee (s.regset j) ⟨argIndex, hi⟩ argval alive
      refine ⟨{ s with tracee := t' }, ?_, alive', ?_⟩
      · rw [RegCall.on, hwrite]
        simp [RegSession.written, RegCall.reply, RegCall.answer, RegCall.valid, hi]
      · rw [hput j _ _ hfile, RegCall.observed, dif_pos hi]
        rfl
    · refine ⟨s, ?_, alive, ?_⟩
      · rw [RegCall.on, h.noArgument _ _ _ _ hi]
        simp [RegSession.written, RegCall.reply, RegCall.answer, RegCall.valid, hi]
      · rw [RegCall.observed, dif_neg hi]
        rfl

/-- The records after a session. By `Lib.session_turns` from one call, with the refused calls left
    out on the right. -/
theorem Plain.session (h : Plain build fills word Alive file shown) (calls : List (RegCall ι V))
    (s : RegSession T R ι) (alive : Alive s.tracee) :
    ∃ s', runSession (fun c s => some (c.on build s)) calls s =
        some (calls.map (RegCall.reply fills), s') ∧
      s'.copies file shown =
        runTurns Copies.through (calls.filterMap (RegCall.observed fills word))
          (s.copies file shown) := by
  have hcall : ∀ (c : RegCall ι V) (s : RegSession T R ι) (st : Copies ι Observable V),
      Alive s.tracee ∧ s.copies file shown = st →
        ∃ s', some (c.on build s) = some (c.reply fills, s') ∧ Alive s'.tracee ∧
          s'.copies file shown = ((c.observed fills word).map Copies.through).getD id st := by
    rintro c s _ ⟨alive, rfl⟩
    obtain ⟨s', hcall, hs'⟩ := h.call c s alive
    exact ⟨s', congrArg some hcall, hs'⟩
  obtain ⟨s', hsession, -, hs'⟩ := session_turns
    (fun (s : RegSession T R ι) st => Alive s.tracee ∧ s.copies file shown = st) hcall calls
    ⟨alive, rfl⟩
  exact ⟨s', hsession, hs'⟩

omit [DecidableEq ι] in
/-- Without a fill there is no fetch among the operations of a session. -/
theorem observed_ne_fetch (calls : List (RegCall ι V)) (j : ι) :
    ∀ op ∈ calls.filterMap (RegCall.observed false word), op ≠ .fetch j := by
  intro op hop
  obtain ⟨c, -, hc⟩ := List.mem_filterMap.mp hop
  cases c with
  | fill k => cases hc
  | writeSyscall k sysnum | writeRetval k retval error =>
    cases hc
    simp
  | writeArgument k argIndex argval =>
    rw [RegCall.observed] at hc
    split at hc
    · cases hc
      simp
    · cases hc

end

/-! ## i386 -/

namespace I386

/-- The register of a cell. -/
def cellReg : Observable → I386Reg
  | .sysnum => .origEax
  | .arg i => readArg i
  | .result => .eax

theorem cellReg_injective : Function.Injective cellReg :=
  Observable.injective (by decide) (by decide) (by decide)

/-- The record in a register file. -/
def record (regs : I386Reg → Addr .i386) (x : Observable) : Addr .i386 := regs (cellReg x)

theorem pinkWriteWordUser_cell {t : Tracee} (alive : t.err = none) (x : Observable)
    (v : Addr .i386) :
    ∃ t', pinkWriteWordUser t (4 * (cellReg x).index) v = .ok t' ∧ t'.err = none ∧
      record t'.regs = Function.update (record t.regs) x v := by
  have hoff : atOffset? (4 * (cellReg x).index) = some (cellReg x) := by
    generalize cellReg x = r
    cases r <;> rfl
  refine ⟨{ t with regs := fun r => if r = cellReg x then v else t.regs r }, ?_, alive, ?_⟩
  · rw [pinkWriteWordUser, alive, hoff]
  · funext y
    by_cases hy : y = x
    · rw [hy, Function.update_self]
      exact if_pos rfl
    · rw [Function.update_of_ne hy]
      exact if_neg fun h => hy (cellReg_injective h)

theorem build_plain (haveGetregs : Bool) : Plain (build haveGetregs) haveGetregs retvalWord
    (fun t => t.err = none) (fun t => record t.regs) (fun rs => record rs.i386Regs) where
  fill t rs alive := by
    cases haveGetregs with
    | true =>
      refine ⟨⟨t.regs, Abi.pinkAbiDefault .i386⟩, ?_, rfl⟩
      simp only [build, pinkRegsetFill, pinkTraceGetRegs, ifHave, alive, if_true]
    | false => exact ⟨{ rs with abi := Abi.pinkAbiDefault .i386 }, rfl, rfl⟩
  writeSyscall t rs sysnum alive := pinkWriteWordUser_cell alive .sysnum sysnum
  writeRetval t rs retval error alive := by
    have hword : retvalWord retval error = if error ≠ 0 then -error else retval := by
      rw [retvalWord]
      exact congrArg (fun w => if error ≠ 0 then w else retval) (BitVec.signExtend_eq _)
    rw [hword]
    exact pinkWriteWordUser_cell alive .result _
  writeArgument t rs i argval alive := by
    have hreg : writeArg i = cellReg (.arg i) := by
      revert i
      decide
    have hcall : (build haveGetregs).writeArgument t rs i argval =
        pinkWriteWordUser t (4 * (writeArg i).index) argval := dif_pos i.isLt
    rw [hcall, hreg]
    exact pinkWriteWordUser_cell alive (.arg i) argval
  noArgument t rs argIndex argval h := dif_neg h

/-- The readers, on a regset that shows a record. -/
structure Reads (rs : Regset) (r : Observable → Addr .i386) : Prop where
  syscall : pinkReadSyscall rs = r .sysnum
  argument : ∀ i : Fin pinkMaxArgs, pinkReadArgument rs i = .ok (r (.arg i))
  retval : pinkReadRetval rs = classifyRetval (r .result) rs.abi

theorem reads_record (rs : Regset) : Reads rs (record rs.i386Regs) where
  syscall := rfl
  argument i := dif_pos i.isLt
  retval := rfl

/-- **An i386 tracee is a record.** In every session, each writer has changed one cell of it and no
    other, and what is read with a regset is the record at its last fill. A build without
    `PINK_HAVE_GETREGS` has refused every fill, and each regset reads what it held at the
    start. -/
theorem i386_session_is_record (haveGetregs : Bool) (s : RegSession Tracee Regset ι)
    (alive : s.tracee.err = none) (calls : List (RegCall ι (Addr .i386))) :
    let st := runTurns Copies.through (calls.filterMap (RegCall.observed haveGetregs retvalWord))
      ⟨record s.tracee.regs, fun j => record (s.regset j).i386Regs⟩
    ∃ s', runSession (fun c s => some (c.on (build haveGetregs) s)) calls s =
        some (calls.map (RegCall.reply haveGetregs), s') ∧
      record s'.tracee.regs = st.file ∧ (∀ j, Reads (s'.regset j) (st.copy j)) ∧
      (haveGetregs = false → ∀ j, Reads (s'.regset j) (record (s.regset j).i386Regs)) := by
  intro st
  obtain ⟨s', hsession, hcopies⟩ := (build_plain haveGetregs).session calls s alive
  have hfile : record s'.tracee.regs = st.file := congrArg Copies.file hcopies
  have hcopy : ∀ j, record (s'.regset j).i386Regs = st.copy j :=
    congrFun (congrArg Copies.copy hcopies)
  have hreads : ∀ j, Reads (s'.regset j) (st.copy j) :=
    fun j => hcopy j ▸ reads_record (s'.regset j)
  refine ⟨s', hsession, hfile, hreads, ?_⟩
  rintro rfl j
  have hsame : st.copy j = record (s.regset j).i386Regs :=
    copy_through_of_not_fetched (observed_ne_fetch calls j)
  exact hsame ▸ hreads j

/-- Two regsets of a tracee with all registers zero. -/
def zeroSession : RegSession Tracee Regset (Fin 2) :=
  ⟨⟨fun _ => 0, none⟩, fun _ => ⟨fun _ => 0, Abi.pinkAbiDefault .i386⟩⟩

/-- The argument that was written is read with the first regset, filled after it, and not with the
    second; and with neither where no fill can be had. -/
theorem zeroSession_is_record :
    (∃ s', runSession (fun c s => some (RegCall.on (build true) c s))
      [.writeRetval 0 0 2, .fill 1, .writeArgument 1 3 7, .writeArgument 0 6 0, .fill 0]
        zeroSession = some ([.ok (), .ok (), .ok (), .error .einval, .ok ()], s') ∧
      pinkReadRetval (s'.regset 0) = classifyRetval (-2) (s'.regset 0).abi ∧
      pinkReadArgument (s'.regset 0) 3 = .ok 7 ∧ pinkReadArgument (s'.regset 1) 3 = .ok 0) ∧
    ∃ s', runSession (fun c s => some (RegCall.on (build false) c s))
      [.writeArgument 1 3 7, .fill 0] zeroSession = some ([.ok (), .error .enosys], s') ∧
      pinkReadArgument (s'.regset 0) 3 = .ok 0 := by
  obtain ⟨s', hsession, -, hreads, -⟩ := i386_session_is_record true zeroSession rfl
    [.writeRetval 0 0 2, .fill 1, .writeArgument 1 3 7, .writeArgument 0 6 0, .fill 0]
  obtain ⟨s'', hrefused, -, -, hold⟩ := i386_session_is_record false zeroSession rfl
    [.writeArgument 1 3 7, .fill 0]
  exact ⟨⟨s', hsession, (hreads 0).retval, (hreads 0).argument 3, (hreads 1).argument 3⟩,
    s'', hrefused, (hold rfl 0).argument 3⟩

end I386

/-! ## PowerPC -/

namespace Powerpc

variable {arch : Arch}

/-- The word of a cell that is in one. The result is in two, and this is the one with the number.
    -/
def cellWord : Observable → Nat
  | .sysnum => ptR0
  | .arg i => if i.val = 0 then ptOrigR3 else i.val + ptR3
  | .result => ptR3

theorem cellWord_injective : Function.Injective cellWord :=
  Observable.injective (by decide) (by decide) (by decide)

/-- None of these words is the condition register, so no other writer can disturb the flag. -/
theorem cellWord_lt (x : Observable) : cellWord x < ptRegsCount ∧ cellWord x ≠ ptCcr := by
  have hargs : ∀ i : Fin pinkMaxArgs, cellWord (.arg i) < ptRegsCount ∧
      cellWord (.arg i) ≠ ptCcr := by decide
  cases x with
  | sysnum | result => decide
  | arg i => exact hargs i

/-- The record in a register file. The result is the number in `r3`, or its negation if the flag
    is set. -/
def record (regs : PtRegs arch) : Observable → Addr arch
  | .result => if regs ptCcr &&& soMask arch ≠ 0 then -regs ptR3 else regs ptR3
  | x => regs (cellWord x)

/-- What is read of a result that was written. An error is stored positive with the flag set, and
    read negated. -/
def resultWord (retval : Addr arch) (error : BitVec 32) : Addr arch :=
  if error ≠ 0 then -error.signExtend arch.longBits else retval

theorem pinkWriteWordUser_cell {t : Tracee arch} (alive : t.err = none) {x : Observable}
    (hx : x ≠ .result) (v : Addr arch) :
    ∃ t', pinkWriteWordUser t (arch.sizeofLong * cellWord x) v = .ok t' ∧ t'.err = none ∧
      record t'.regs = Function.update (record t.regs) x v := by
  obtain ⟨hlt, hccr⟩ := cellWord_lt x
  refine ⟨_, pinkWriteWordUser_reg alive hlt v, alive, ?_⟩
  funext y
  by_cases hy : y = x
  · rw [hy, Function.update_self]
    cases x with
    | sysnum | arg _ => simp only [record, if_true]
    | result => exact absurd rfl hx
  · have hword : cellWord y ≠ cellWord x := fun h => hy (cellWord_injective h)
    rw [Function.update_of_ne hy]
    cases y with
    | sysnum | arg _ => exact if_neg hword
    | result =>
      have hr3 : ptR3 ≠ cellWord x := hword
      simp only [record, if_neg hccr.symm, if_neg hr3]

/-- Both words of a result are written, and no other. The flag is read from the tracee first, and
    its other bits survive. -/
theorem pinkWriteRetval_record {t : Tracee arch} (alive : t.err = none) (rs : Regset arch)
    (retval : Addr arch) (error : BitVec 32) :
    ∃ t', pinkWriteRetval t rs retval error = .ok t' ∧ t'.err = none ∧
      record t'.regs = Function.update (record t.regs) .result (resultWord retval error) := by
  let value := if error ≠ 0 then error.signExtend arch.longBits else retval
  let flags := if error ≠ 0 then t.regs ptCcr ||| soMask arch
    else t.regs ptCcr &&& ~~~soMask arch
  let regs₁ : PtRegs arch := fun j => if j = ptR3 then value else t.regs j
  let regs : PtRegs arch := fun j => if j = ptCcr then flags else regs₁ j
  have hcall : pinkWriteRetval t rs retval error = .ok ⟨regs, t.err⟩ := by
    rw [pinkWriteRetval, pinkReadWordUser_reg alive (by decide)]
    simp only [bind, Except.bind]
    rw [pinkWriteWordUser_reg alive (by decide)]
    exact pinkWriteWordUser_reg (t := ⟨regs₁, t.err⟩) alive (by decide) flags
  refine ⟨_, hcall, alive, ?_⟩
  funext y
  by_cases hy : y = .result
  · have hresult : record regs .result =
        if flags &&& soMask arch ≠ 0 then -value else value := rfl
    rw [hy, Function.update_self, hresult]
    by_cases he : error = 0
    · simp only [flags, value, resultWord, he, ne_eq, not_true_eq_false, if_false,
        and_not_and_self]
    · simp only [flags, value, resultWord, he, ne_eq, not_false_eq_true, if_true, or_and_self,
        soMask_ne_zero]
  · have hr3 : cellWord y ≠ ptR3 := fun h => hy (cellWord_injective h)
    rw [Function.update_of_ne hy]
    cases y with
    | sysnum | arg _ => simp only [record, regs, regs₁, if_neg (cellWord_lt _).2, if_neg hr3]
    | result => exact absurd rfl hy

theorem build_plain (haveGetregs : Bool) : Plain (build haveGetregs arch) haveGetregs resultWord
    (fun t => t.err = none) (fun t => record t.regs) (fun rs => record rs.ppcRegs) where
  fill t rs alive := by
    cases haveGetregs with
    | true =>
      refine ⟨⟨t.regs, Abi.pinkAbiDefault arch⟩, ?_, rfl⟩
      simp only [build, pinkRegsetFill, pinkTraceGetRegs, ifHave, alive, if_true]
    | false => exact ⟨{ rs with abi := Abi.pinkAbiDefault arch }, rfl, rfl⟩
  writeSyscall t rs sysnum alive := pinkWriteWordUser_cell alive (x := .sysnum) (by simp) sysnum
  writeRetval t rs retval error alive := pinkWriteRetval_record alive rs retval error
  writeArgument t rs i argval alive := by
    have hcall : (build haveGetregs arch).writeArgument t rs i argval =
        pinkWriteWordUser t (arch.sizeofLong * cellWord (.arg i)) argval := by
      refine (if_pos i.isLt).trans ?_
      rw [cellWord]
      split
      · rfl
      · rw [Nat.mul_comm]
    rw [hcall]
    exact pinkWriteWordUser_cell alive (x := .arg i) (by simp) argval
  noArgument t rs argIndex argval h := if_neg h

/-- The readers, on a regset that shows a record. -/
structure Reads (rs : Regset arch) (r : Observable → Addr arch) : Prop where
  syscall : pinkReadSyscall rs = r .sysnum
  argument : ∀ i : Fin pinkMaxArgs, pinkReadArgument rs i = .ok (r (.arg i))
  retval : pinkReadRetval rs = classifyRetval (r .result) rs.abi

theorem reads_record (rs : Regset arch) : Reads rs (record rs.ppcRegs) where
  syscall := rfl
  argument i := by
    refine (if_pos i.isLt).trans (congrArg Except.ok ?_)
    simp only [record, cellWord]
    split <;> rfl
  retval := rfl

/-- **A PowerPC tracee is a record.** As on i386, with longs of either width, and although a
    result takes two registers of which one is read first. In a build without `PTRACE_GETREGS`
    every regset goes on showing what it did, while the writers work. -/
theorem powerpc_session_is_record (haveGetregs : Bool)
    (s : RegSession (Tracee arch) (Regset arch) ι) (alive : s.tracee.err = none)
    (calls : List (RegCall ι (Addr arch))) :
    let st := runTurns Copies.through (calls.filterMap (RegCall.observed haveGetregs resultWord))
      ⟨record s.tracee.regs, fun j => record (s.regset j).ppcRegs⟩
    ∃ s', runSession (fun c s => some (c.on (build haveGetregs arch) s)) calls s =
        some (calls.map (RegCall.reply haveGetregs), s') ∧
      record s'.tracee.regs = st.file ∧ (∀ j, Reads (s'.regset j) (st.copy j)) ∧
      (haveGetregs = false → ∀ j, Reads (s'.regset j) (record (s.regset j).ppcRegs)) := by
  intro st
  obtain ⟨s', hsession, hcopies⟩ := (build_plain haveGetregs).session calls s alive
  have hfile : record s'.tracee.regs = st.file := congrArg Copies.file hcopies
  have hcopy : ∀ j, record (s'.regset j).ppcRegs = st.copy j :=
    congrFun (congrArg Copies.copy hcopies)
  have hreads : ∀ j, Reads (s'.regset j) (st.copy j) :=
    fun j => hcopy j ▸ reads_record (s'.regset j)
  refine ⟨s', hsession, hfile, hreads, ?_⟩
  rintro rfl j
  have hsame : st.copy j = record (s.regset j).ppcRegs :=
    copy_through_of_not_fetched (observed_ne_fetch calls j)
  exact hsame ▸ hreads j

/-- One regset of a 64-bit tracee with all registers zero. -/
def zeroSession : RegSession (Tracee .powerpc64) (Regset .powerpc64) Unit :=
  ⟨⟨fun _ => 0, none⟩, fun _ => ⟨fun _ => 0, Abi.pinkAbiDefault .powerpc64⟩⟩

/-- The last result is the one that is read, also where an error was written before it. In a build
    as `configure` makes it, it is still the one from before the session. -/
theorem zeroSession_result_last :
    (∃ s', runSession (fun c s => some (RegCall.on (build true .powerpc64) c s))
      [.writeRetval () 0 2, .writeArgument () 0 9, .writeRetval () 5 0, .fill ()] zeroSession =
        some ([.ok (), .ok (), .ok (), .ok ()], s') ∧
      pinkReadRetval (s'.regset ()) = classifyRetval 5 (s'.regset ()).abi ∧
      pinkReadArgument (s'.regset ()) 0 = .ok 9) ∧
    ∃ s', runSession (fun c s => some (RegCall.on (build false .powerpc64) c s))
      [.writeRetval () 5 0, .fill ()] zeroSession = some ([.ok (), .error .enosys], s') ∧
      pinkReadRetval (s'.regset ()) = classifyRetval 0 (s'.regset ()).abi := by
  obtain ⟨s', hsession, -, hreads, -⟩ := powerpc_session_is_record true zeroSession rfl
    [.writeRetval () 0 2, .writeArgument () 0 9, .writeRetval () 5 0, .fill ()]
  obtain ⟨s'', hrefused, -, -, hold⟩ := powerpc_session_is_record false zeroSession rfl
    [.writeRetval () 5 0, .fill ()]
  exact ⟨⟨s', hsession, (hreads ()).retval, (hreads ()).argument 0⟩, s'', hrefused,
    (hold rfl ()).retval⟩

end Powerpc

end PinkTrace
