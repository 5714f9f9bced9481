import PinkTrace.Lib.Session
import PinkTrace.PipeFds

/-!
# What an executed program inherits

A program that is executed finds the descriptors open that are open without `FD_CLOEXEC`. With
`pipe2` it never finds one of a pipe. Without it, it does not either, unless a `pink_pipe_init`
has failed: that call does not close what it had opened (`InitStep.leaked`).

## What one call can do

`InitStep` is the specification of `pink_pipe_init` as a relation with three cases, and
`pinkPipeInit_step` is the one place where the code is opened. Sessions are then about chains of
such steps. The leak is a case of its own because nothing about the result tells it from a
refusal: the value is an error in both, and only `pipefd` and the table differ.

What happens between the system calls of one `pink_pipe_init` is not covered. Another thread that
executes a program just then would find the descriptors without the flag; the model has one
process, and calls that run to their end.
-/

set_option autoImplicit false

namespace PinkTrace

open Lib

variable {K : FdKernel} {s : FdState}

/-! ## One call -/

/-- Open, and closed by `execve(2)`. -/
def Cloexec (t : FdTable) (fd : Nat) : Prop :=
  ∃ flags, t fd = some flags ∧ flags &&& fdCloexec ≠ 0

/-- Open, and left open. -/
def Inherited (t : FdTable) (fd : Nat) : Prop :=
  ∃ flags, t fd = some flags ∧ flags &&& fdCloexec = 0

theorem or_fdCloexec (flags : Nat) : (flags ||| fdCloexec) &&& fdCloexec ≠ 0 := by
  rw [Nat.and_or_distrib_right, Nat.and_self]
  simp

/-- Everything `set_cloexec_flag` can do to an open descriptor: nothing, with an error, or what it
    is for. It may succeed without a second system call, if the flag was there. -/
inductive SetStep (t : FdTable) (fd : Nat) : Except Errno Unit → FdTable → Prop
  | failed (e : Errno) : SetStep t fd (.error e) t
  | set {t' : FdTable} (hfd : Cloexec t' fd) (hother : ∀ fd', fd' ≠ fd → t' fd' = t fd') :
      SetStep t fd (.ok ()) t'

theorem setCloexecFlag_step (K : FdKernel) {fd flags : Nat} (hfd : s.table fd = some flags) :
    SetStep s.table fd (setCloexecFlag K fd s).1 (setCloexecFlag K fd s).2.table := by
  cases hget : K.fails s.calls with
  | some e =>
    have hcall : setCloexecFlag K fd s = (.error e, { s with calls := s.calls + 1 }) := by
      simp only [setCloexecFlag, sysGetfd, hget]
    rw [hcall]
    exact .failed e
  | none =>
    by_cases hflags : flags = flags ||| fdCloexec
    · have hcall : setCloexecFlag K fd s = (.ok (), { s with calls := s.calls + 1 }) := by
        simp only [setCloexecFlag, sysGetfd, hget, hfd]
        exact if_pos hflags
      rw [hcall]
      exact .set ⟨flags, hfd, hflags ▸ or_fdCloexec flags⟩ fun _ _ => rfl
    · have hcall : setCloexecFlag K fd s =
          sysSetfd K fd (flags ||| fdCloexec) { s with calls := s.calls + 1 } := by
        simp only [setCloexecFlag, sysGetfd, hget, hfd]
        exact if_neg hflags
      rw [hcall, sysSetfd, hfd]
      cases K.fails (s.calls + 1) with
      | some e => exact .failed e
      | none =>
        refine .set ⟨flags ||| fdCloexec, Function.update_self .., or_fdCloexec flags⟩ ?_
        exact fun fd' hne => Function.update_of_ne hne ..

/-- Everything `pink_pipe_init` can do. In all cases the descriptors that were there before are
    left alone. -/
inductive InitStep (havePipe2 : Bool) (t : FdTable) :
    Except Errno Unit → Option (Nat × Nat) → FdTable → Prop
  | refused (e : Errno) : InitStep havePipe2 t (.error e) none t
  | opened {r w : Nat} {t' : FdTable} (hfresh : r ≠ w ∧ t r = none ∧ t w = none)
      (hr : Cloexec t' r) (hw : Cloexec t' w) (hother : ∀ fd, fd ≠ r → fd ≠ w → t' fd = t fd) :
      InitStep havePipe2 t (.ok ()) (some (r, w)) t'
  /-- The call fails, and both ends stay open. -/
  | leaked {r w : Nat} {t' : FdTable} (e : Errno) (hbuild : havePipe2 = false)
      (hfresh : r ≠ w ∧ t r = none ∧ t w = none) (hr : (t' r).isSome = true)
      (hw : (t' w).isSome = true) (hother : ∀ fd, fd ≠ r → fd ≠ w → t' fd = t fd) :
      InitStep havePipe2 t (.error e) (some (r, w)) t'

theorem Cloexec.isSome {t : FdTable} {fd : Nat} (h : Cloexec t fd) : (t fd).isSome = true := by
  obtain ⟨flags, hflags, -⟩ := h
  exact Option.isSome_of_eq_some hflags

/-- A new pipe has two fresh descriptors, or there is none. -/
theorem sysPipe2_cases (K : FdKernel) (flags : Nat) (s : FdState) :
    (∃ e, sysPipe2 K flags s = (.error e, { s with calls := s.calls + 1 })) ∨
    ∃ r w t', sysPipe2 K flags s = (.ok (r, w), ⟨t', s.calls + 1⟩) ∧
      (r ≠ w ∧ s.table r = none ∧ s.table w = none) ∧ t' r = some flags ∧ t' w = some flags ∧
      ∀ fd, fd ≠ r → fd ≠ w → t' fd = s.table fd := by
  cases hfails : K.fails s.calls with
  | some e => exact Or.inl ⟨e, by simp only [sysPipe2, hfails]⟩
  | none =>
    cases hpick : K.pick s.table with
    | none => exact Or.inl ⟨.emfile, by simp only [sysPipe2, hfails, hpick]⟩
    | some ends =>
      obtain ⟨r, w⟩ := ends
      have hfresh := K.pick_fresh s.table r w hpick
      refine Or.inr ⟨r, w, Function.update (Function.update s.table r (some flags)) w (some flags),
        by simp only [sysPipe2, hfails, hpick], hfresh, ?_, Function.update_self ..,
        fun fd hr hw => ?_⟩
      · rw [Function.update_of_ne hfresh.1, Function.update_self]
      · rw [Function.update_of_ne hw, Function.update_of_ne hr]

theorem pinkPipeInit_step (havePipe2 : Bool) (K : FdKernel) (s : FdState) :
    InitStep havePipe2 s.table (pinkPipeInit havePipe2 K s).result
      (pinkPipeInit havePipe2 K s).pipefd (pinkPipeInit havePipe2 K s).st.table := by
  unfold pinkPipeInit
  rcases sysPipe2_cases K (if havePipe2 then fdCloexec else 0) s with
    ⟨e, hpipe⟩ | ⟨r, w, t, hpipe, hfresh, hr, hw, hother⟩
  · rw [hpipe]
    exact .refused e
  · rw [hpipe]
    cases havePipe2 with
    | true => exact .opened hfresh ⟨_, hr, by decide⟩ ⟨_, hw, by decide⟩ hother
    | false =>
      have hread := setCloexecFlag_step K (s := ⟨t, s.calls + 1⟩) hr
      simp only [Bool.false_eq_true, if_false]
      -- the read end, then the write end
      generalize setCloexecFlag K r ⟨t, s.calls + 1⟩ = out at hread ⊢
      obtain ⟨result₁, t₁, n₁⟩ := out
      cases hread with
      | failed e =>
        exact .leaked e rfl hfresh (Option.isSome_of_eq_some hr) (Option.isSome_of_eq_some hw)
          hother
      | set hr₁ hother₁ =>
        have hw₁ : t₁ w = some 0 := (hother₁ w hfresh.1.symm).trans hw
        have hwrite := setCloexecFlag_step K (s := ⟨t₁, n₁⟩) hw₁
        dsimp only
        generalize setCloexecFlag K w ⟨t₁, n₁⟩ = out at hwrite ⊢
        obtain ⟨result₂, t₂, n₂⟩ := out
        cases hwrite with
        | failed e =>
          refine .leaked e rfl hfresh hr₁.isSome (Option.isSome_of_eq_some hw₁) fun fd hfr hfw => ?_
          exact (hother₁ fd hfr).trans (hother fd hfr hfw)
        | set hw₂ hother₂ =>
          obtain ⟨flags, hflags, hset⟩ := hr₁
          refine .opened hfresh ⟨flags, (hother₂ r hfresh.1).trans hflags, hset⟩ hw₂ ?_
          exact fun fd hfr hfw =>
            (hother₂ fd hfw).trans ((hother₁ fd hfr).trans (hother fd hfr hfw))

/-- **A `pink_pipe_init` that fails with its descriptors assigned has leaked both.** They are
    fresh and open; the caller has been given an error and nothing that would tell this from a
    call that opened none. -/
theorem failed_init_leaks (K : FdKernel) (s : FdState) {e : Errno} {r w : Nat}
    (hresult : (pinkPipeInit false K s).result = .error e)
    (hpipefd : (pinkPipeInit false K s).pipefd = some (r, w)) :
    (r ≠ w ∧ s.table r = none ∧ s.table w = none) ∧
      ((pinkPipeInit false K s).st.table r).isSome = true ∧
      ((pinkPipeInit false K s).st.table w).isSome = true := by
  have hstep := pinkPipeInit_step false K s
  rw [hresult, hpipefd] at hstep
  cases hstep with
  | leaked _ _ hfresh hr hw _ => exact ⟨hfresh, hr, hw⟩

/-- The second system call of the process is interrupted. -/
def interruptedKernel : FdKernel where
  fails n := if n = 1 then some .eintr else none
  pick t := if t 3 = none ∧ t 4 = none then some (3, 4) else none
  pick_fresh := by
    intro t r w h
    split at h
    · rename_i hfree
      cases h
      exact ⟨by decide, hfree⟩
    · cases h
  closes _ := true

theorem interruptedKernel_leaks :
    (pinkPipeInit false interruptedKernel ⟨fun _ => none, 0⟩).result = .error .eintr ∧
    ((pinkPipeInit false interruptedKernel ⟨fun _ => none, 0⟩).st.table 3).isSome = true ∧
    ((pinkPipeInit false interruptedKernel ⟨fun _ => none, 0⟩).st.table 4).isSome = true :=
  ⟨rfl, (failed_init_leaks interruptedKernel ⟨fun _ => none, 0⟩ rfl rfl).2⟩

/-! ## Sessions -/

/-- The descriptors that a call has left behind without a word: assigned to `pipefd`, by a call
    that failed. -/
def PipeFdRet.Leaks (reply : PipeFdRet) (fd : Nat) : Prop :=
  (∃ e, reply.result = .error e) ∧ ∃ r w, reply.pipefd = some (r, w) ∧ (fd = r ∨ fd = w)

/-- A descriptor that is inherited after the call was so before, or is one of a leak. A leaked one
    need not be inherited: the flag may have been set on the first end. -/
theorem InitStep.inherited {havePipe2 : Bool} {t t' : FdTable} {result : Except Errno Unit}
    {pipefd : Option (Nat × Nat)} (h : InitStep havePipe2 t result pipefd t') {fd : Nat}
    (hfd : Inherited t' fd) :
    Inherited t fd ∨ havePipe2 = false ∧ (∃ e, result = .error e) ∧
      ∃ r w, pipefd = some (r, w) ∧ (fd = r ∨ fd = w) := by
  obtain ⟨flags, hflags, hclear⟩ := hfd
  -- a descriptor that is closed by `execve` is not inherited
  have hnot : ¬ Cloexec t' fd := by
    rintro ⟨flags', hflags', hset⟩
    rw [hflags] at hflags'
    cases hflags'
    exact hset hclear
  cases h with
  | refused e => exact Or.inl ⟨flags, hflags, hclear⟩
  | @opened r w _ _ hr hw hother =>
    have hfr : fd ≠ r := fun heq => hnot (heq ▸ hr)
    have hfw : fd ≠ w := fun heq => hnot (heq ▸ hw)
    exact Or.inl ⟨flags, (hother fd hfr hfw).symm.trans hflags, hclear⟩
  | @leaked r w _ e hbuild _ _ _ hother =>
    by_cases hend : fd = r ∨ fd = w
    · exact Or.inr ⟨hbuild, ⟨e, rfl⟩, r, w, rfl, hend⟩
    · rw [not_or] at hend
      exact Or.inl ⟨flags, (hother fd hend.1 hend.2).symm.trans hflags, hclear⟩

theorem inherited_of_update {t : FdTable} {fd fd' : Nat}
    (h : Inherited (Function.update t fd' none) fd) : Inherited t fd := by
  obtain ⟨flags, hflags, hclear⟩ := h
  by_cases heq : fd = fd'
  · rw [heq, Function.update_self] at hflags
    cases hflags
  · rw [Function.update_of_ne heq] at hflags
    exact ⟨flags, hflags, hclear⟩

theorem pinkPipeClose_inherited (K : FdKernel) (fd' : Nat) (s : FdState) {fd : Nat}
    (h : Inherited (pinkPipeClose K fd' s).st.table fd) : Inherited s.table fd := by
  unfold pinkPipeClose sysClose at h
  cases hfails : K.fails s.calls with
  | some e =>
    simp only [hfails] at h
    split at h
    · exact inherited_of_update h
    · exact h
  | none =>
    cases hopen : s.table fd' with
    | none =>
      simp only [hfails, hopen] at h
      exact h
    | some flags =>
      simp only [hfails, hopen] at h
      exact inherited_of_update h

/-- A call adds no descriptor to those that are inherited, but the ones it leaks. The relation of
    which a session is a chain. -/
def Adds (havePipe2 : Bool) (_ : FdCall) (reply : PipeFdRet) (t t' : FdTable) : Prop :=
  ∀ fd, Inherited t' fd → Inherited t fd ∨ havePipe2 = false ∧ reply.Leaks fd

theorem FdCall.adds (havePipe2 : Bool) (K : FdKernel) (c : FdCall) (s : FdState) :
    Adds havePipe2 c (c.on havePipe2 K s) s.table (c.on havePipe2 K s).st.table := by
  intro fd h
  cases c with
  | init => exact (pinkPipeInit_step havePipe2 K s).inherited h
  | close fd' => exact Or.inl (pinkPipeClose_inherited K fd' s h)

/-- The induction over a session: a descriptor at its end was there at the beginning, or was
    leaked by some call on the way. -/
theorem inherited_of_chain {havePipe2 : Bool} {calls : List FdCall} {replies : List PipeFdRet}
    {t t' : FdTable} (h : Chain (Adds havePipe2) calls replies t t') {fd : Nat}
    (hfd : Inherited t' fd) :
    Inherited t fd ∨ havePipe2 = false ∧ ∃ reply ∈ replies, reply.Leaks fd := by
  induction h with
  | nil => exact Or.inl hfd
  | cons head _ ih =>
    rcases ih hfd with hafter | ⟨hbuild, reply, hmem, hleaks⟩
    · rcases head fd hafter with hbefore | ⟨hbuild, hleaks⟩
      · exact Or.inl hbefore
      · exact Or.inr ⟨hbuild, _, List.mem_cons_self, hleaks⟩
    · exact Or.inr ⟨hbuild, reply, List.mem_cons_of_mem _ hmem, hleaks⟩

/-- **No pipe is inherited, but what a failed call left.** Whatever pipes were opened and closed,
    the descriptors that an executed program finds are among those it would have found before, as
    long as there is `pipe2`; and without it, as long as no `pink_pipe_init` has failed after it
    had its descriptors. -/
theorem pipes_not_inherited (havePipe2 : Bool) (K : FdKernel) (calls : List FdCall)
    (s : FdState) :
    ∃ replies s', runSession (fun c s => let reply := FdCall.on havePipe2 K c s
        some (reply, reply.st)) calls s = some (replies, s') ∧
      ∀ fd, Inherited s'.table fd → Inherited s.table fd ∨
        havePipe2 = false ∧ ∃ reply ∈ replies, reply.Leaks fd := by
  have hstep : ∀ c ∈ calls, ∀ (s : FdState) (t : FdTable), s.table = t →
      ∃ reply s' t', some (FdCall.on havePipe2 K c s, (FdCall.on havePipe2 K c s).st) =
        some (reply, s') ∧ Adds havePipe2 c reply t t' ∧ s'.table = t' := by
    rintro c - s _ rfl
    exact ⟨_, _, _, rfl, c.adds havePipe2 K s, rfl⟩
  obtain ⟨replies, s', _, hsession, hchain, rfl⟩ := session_chain _ hstep rfl
  exact ⟨replies, s', hsession, fun fd hfd => inherited_of_chain hchain hfd⟩

end PinkTrace
