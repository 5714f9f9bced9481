import PinkTrace.Child
import PinkTrace.Proof.Event

/-!
# The tracer's flag

The loop of the tracer turns its flag over at every stop without an event. The stops of a system
call have none, and a signal has none either, so each signal puts the tracer out of step with its
child, and the next one puts it back.

`straceBody_again` says once what a pass can do that is not the last; everything about the flag
comes from it. The flag does not depend on what is printed, on the child's registers or on whether
the library could read them, so nothing is assumed about these here. What is assumed is the order
in which `ptrace(2)` makes a process stop (`Env.Plays`, `inside`), and only as far as the run has
come.

## The invariant

`InStep` compares the flag with where the child is, by the parity of the signals so far. It holds
of every state a run reaches and not only of those in which the tracer is right: after an odd
number of signals it says that the tracer is wrong. An invariant that only spoke of the states in
step would not survive the first signal.
-/

set_option autoImplicit false

namespace PinkTrace

open Lib

variable {fuel : Nat} {env : Env} {v v' : StraceVars}

/-! ## One pass -/

/-- Filling the regset does not touch the flag, whether it succeeds or not. -/
theorem processUpdate_insyscall (regsConfig : RegsConfig) (t : X86Tracee) (proc : Process) :
    (processUpdate regsConfig t proc).1.insyscall = proc.insyscall := by
  unfold processUpdate
  split <;> rfl

/-- Handling a stop turns the flag over and changes nothing else of the process, on all of its
    paths. -/
theorem handleSyscall_proc {K : Kernel .x86_64} {junk : Junk} {proc proc' : Process}
    {s st : State .x86_64} {out : List Out}
    (h : handleSyscall fuel K junk proc s = some (proc', out, st)) :
    proc' = { proc with insyscall := !proc.insyscall } := by
  unfold handleSyscall at h
  split at h
  · rename_i hin
    cases h
    simp [hin]
  · rename_i hout
    dsimp only at h
    split at h
    · cases h
    · cases h
      simp [hout]
    · obtain ⟨q, -, h⟩ := Option.map_eq_some_iff.mp h
      cases h
      simp [hout]

/-- Everything a pass can do that leads to another one. The signal to resume with is zero in all
    three cases. -/
theorem straceBody_again (h : straceBody fuel env v = .again v') :
    ∃ status view, env.reply (v.resumed ++ [v.sig]) = .waited status view ∧
      let u := processUpdate env.regsConfig view.tracee v.proc
      (pinkEventDecide status = 0 ∧ ∃ proc out st,
        handleSyscall fuel view.kernel view.junk u.1 { v.st with mem := view.mem } =
          some (proc, out, st) ∧
        v' = ⟨proc, 0, v.resumed ++ [v.sig], st, v.out ++ u.2 ++ out⟩) ∨
      (pinkEventDecide status = 4 ∧ v' = ⟨u.1, 0, v.resumed ++ [v.sig], v.st, v.out ++ u.2⟩) ∨
      (pinkEventDecide status ≠ 0 ∧ v' = ⟨v.proc, 0, v.resumed ++ [v.sig], v.st, v.out⟩) := by
  -- along the branches of the loop's body: those that end the run are not `again`
  unfold straceBody at h
  dsimp only at h
  split at h
  · cases h
  · cases h
  · rename_i status view hreply
    refine ⟨status, view, hreply, ?_⟩
    split at h
    · cases h
    split at h
    · cases h
    split at h
    · rename_i hzero
      split at h
      · cases h
      · rename_i proc out st hhandle
        cases h
        exact Or.inl ⟨hzero, proc, out, st, hhandle, rfl⟩
    split at h
    · rename_i hfour
      cases h
      exact Or.inr (Or.inl ⟨hfour, rfl⟩)
    · rename_i hzero _
      cases h
      exact Or.inr (Or.inr ⟨hzero, rfl⟩)

/-- What of that concerns the flag and the resumes. -/
theorem straceBody_flag (h : straceBody fuel env v = .again v') :
    v'.sig = 0 ∧ v'.resumed = v.resumed ++ [v.sig] ∧
    ∃ status view, env.reply (v.resumed ++ [v.sig]) = .waited status view ∧
      v'.proc.insyscall =
        if pinkEventDecide status = 0 then !v.proc.insyscall else v.proc.insyscall := by
  obtain ⟨status, view, hreply, ⟨hevent, proc, out, st, hhandle, rfl⟩ | ⟨hevent, rfl⟩ |
    ⟨hevent, rfl⟩⟩ := straceBody_again h
  · refine ⟨rfl, rfl, status, view, hreply, ?_⟩
    rw [if_pos hevent, handleSyscall_proc hhandle, processUpdate_insyscall]
  · refine ⟨rfl, rfl, status, view, hreply, ?_⟩
    rw [if_neg (by rw [hevent]; decide), processUpdate_insyscall]
  · exact ⟨rfl, rfl, status, view, hreply, by rw [if_neg hevent]⟩

/-! ## Stops -/

/-- Of the stops only an `exec` has an event, so it is the only one at which the flag stays. -/
theorem Stop.event_eq_zero_iff (stop : Stop) :
    pinkEventDecide stop.change.status = 0 ↔ stop ≠ .exec := by
  rw [pinkEventDecide_status]
  cases stop <;> simp [Stop.change, Change.event]

/-- How a stop moves the child and the flag: they stay together or apart, unless it is a signal.
    An `exec` moves neither, an entry and an exit both, and a signal the flag alone. -/
theorem Stop.next_flag {stop : Stop} {b b' flag : Bool} {n : Nat} (h : stop.next b = some b')
    (hflag : flag = (b != decide (n % 2 = 1))) :
    (if stop ≠ .exec then !flag else flag) =
      (b' != decide ((n + if stop.isSignal then 1 else 0) % 2 = 1)) := by
  have hturn : decide ((n + 1) % 2 = 1) = !decide (n % 2 = 1) := by
    rw [← decide_not, decide_eq_decide]
    omega
  subst hflag
  cases stop with
  | enter | exec | leave =>
    cases b <;> cases h
    simp [isSignal]
  | signal sig =>
    cases b <;> cases h
    simp [isSignal, hturn]

theorem Stop.eq_of_next_enter {b b' : Bool} (h : Stop.enter.next b = some b') : b = false := by
  cases b with
  | false => rfl
  | true => cases h

theorem Stop.eq_of_next_leave {b b' : Bool} (h : Stop.leave.next b = some b') : b = true := by
  cases b with
  | false => cases h
  | true => rfl

theorem Stop.eq_of_next_exec {b b' : Bool} (h : Stop.exec.next b = some b') : b = true := by
  cases b with
  | false => cases h
  | true => rfl

theorem inside_append (stops stops' : List Stop) :
    inside (stops ++ stops') = (inside stops).bind fun b => stops'.foldlM Stop.next b := by
  simp [inside]

/-- One more stop, from where the others have left the process. -/
theorem inside_concat (stops : List Stop) (stop : Stop) :
    inside (stops ++ [stop]) = (inside stops).bind fun b => stop.next b := by
  simp [inside]

/-! ## Runs -/

/-- The flag after `n` stops: where the child is, but turned over by every signal. Behind the
    last stop that is known of, nothing is said. -/
def InStep (stops : List Stop) (v : StraceVars) : Prop :=
  v.sig = 0 ∧ ∃ n, v.resumed = List.replicate n 0 ∧
    (n ≤ stops.length → ∀ b, inside (stops.take n) = some b →
      v.proc.insyscall = (b != decide ((stops.take n).countP Stop.isSignal % 2 = 1)))

theorem straceStart_inStep (env : Env) (start : Start) (stops : List Stop) :
    InStep stops (straceStart env start) := by
  refine ⟨rfl, 0, rfl, fun _ b hb => ?_⟩
  cases hb
  rfl

/-- A tracer that has resumed the child `n` times does it once more, without a signal. -/
theorem InStep.reply {stops : List Stop} (hv : InStep stops v) :
    env.reply (v.resumed ++ [v.sig]) = env.after v.resumed.length := by
  obtain ⟨hsig, n, hresumed, -⟩ := hv
  rw [Env.after, hsig, hresumed, List.length_replicate, List.replicate_succ']

/-- The step lemma. A pass is one more stop, and `Stop.next_flag` is what it does to the two. -/
theorem InStep.again {stops : List Stop} (hplays : env.Plays stops) (hv : InStep stops v)
    (h : straceBody fuel env v = .again v') : InStep stops v' := by
  obtain ⟨hsig, n, hresumed, hflag⟩ := hv
  obtain ⟨hsig', hresumed', status, view, hreply, hflag'⟩ := straceBody_flag h
  have hlist : v.resumed ++ [v.sig] = List.replicate (n + 1) 0 := by
    rw [hresumed, hsig, List.replicate_succ']
  refine ⟨hsig', n + 1, hresumed'.trans hlist, fun hn b' hb' => ?_⟩
  obtain ⟨stop, hstop⟩ : ∃ stop, stops[n]? = some stop :=
    ⟨stops[n], List.getElem?_eq_getElem hn⟩
  obtain ⟨view', hplayed⟩ := hplays n stop hstop
  rw [hlist, ← Env.after, hplayed] at hreply
  cases hreply
  have htake : stops.take (n + 1) = stops.take n ++ [stop] := by
    rw [List.take_add_one, hstop, Option.toList_some]
  rw [htake, inside_concat] at hb'
  obtain ⟨b, hb, hnext⟩ := Option.bind_eq_some_iff.mp hb'
  rw [hflag', htake, List.countP_append, List.countP_singleton]
  simp only [Stop.event_eq_zero_iff]
  exact Stop.next_flag hnext (hflag (by omega) b hb)

end PinkTrace
