/-!
# Processes that take turns

Several parties share a state, and each of them has one thing it does next. Which of them moves is
nobody's decision: a *schedule* is any list of parties, and a run lets them take their turns in
that order. A property of every interleaving is then a property of every list, and the two rules
below are all the induction there is about it.

* `runTurns_invariant`: what every turn of everybody preserves holds after every schedule.
* `exists_turns`: a party that gets closer to a goal with each of its turns reaches it, if it is
  left alone for long enough.

A turn is a function, not a relation. Where a real system has a choice in one turn (how many bytes
a call transfers, say), the choice is part of the party that moves, so that a list of parties
still determines the run. That costs a larger type of parties and saves every proof from saying
"for some outcome".

Fairness is not among the assumptions. A schedule may starve anybody, and a result that needs
somebody to move says so by giving the turns itself.
-/

set_option autoImplicit false

namespace Lib

universe u v w

variable {α : Type u} {σ : Type v}

/-- The state after the turns of a schedule. Nothing is recorded of the way there: what has to be
    remembered is part of the state. -/
def runTurns (turn : α → σ → σ) : List α → σ → σ
  | [], s => s
  | a :: schedule, s => runTurns turn schedule (turn a s)

/-- A schedule can be cut anywhere. A proof about a moment in the middle of a run cuts it there.
    -/
theorem runTurns_append (turn : α → σ → σ) (before after : List α) (s : σ) :
    runTurns turn (before ++ after) s = runTurns turn after (runTurns turn before s) := by
  induction before generalizing s with
  | nil => rfl
  | cons a before ih => exact ih (turn a s)

/-- Turns of parties that may have nothing to do. A schedule of calls, some of which do nothing to
    the abstract state, is thereby a schedule of the operations they stand for. -/
theorem runTurns_filterMap {β : Type w} (turn : α → σ → σ) (f : β → Option α) (schedule : List β)
    (s : σ) :
    runTurns turn (schedule.filterMap f) s =
      runTurns (fun b => ((f b).map turn).getD id) schedule s := by
  induction schedule generalizing s with
  | nil => rfl
  | cons b schedule ih =>
    cases hb : f b with
    | none =>
      rw [List.filterMap_cons_none hb, ih, runTurns, hb]
      rfl
    | some a =>
      rw [List.filterMap_cons_some hb, runTurns, ih, runTurns, hb]
      rfl

/-- What no turn of a schedule destroys holds after it. The parties of the schedule are the only
    ones asked about, so this is also the frame rule for runs in which somebody never moves. -/
theorem runTurns_invariant_of_mem {turn : α → σ → σ} (Inv : σ → Prop) {schedule : List α}
    (h : ∀ a ∈ schedule, ∀ s, Inv s → Inv (turn a s)) {s : σ} (hs : Inv s) :
    Inv (runTurns turn schedule s) := by
  induction schedule generalizing s with
  | nil => exact hs
  | cons a schedule ih =>
    exact ih (fun b hb => h b (List.mem_cons_of_mem a hb)) (h a List.mem_cons_self s hs)

/-- **Safety.** What no turn at all destroys holds after every schedule. -/
theorem runTurns_invariant {turn : α → σ → σ} (Inv : σ → Prop)
    (h : ∀ a s, Inv s → Inv (turn a s)) (schedule : List α) {s : σ} (hs : Inv s) :
    Inv (runTurns turn schedule s) :=
  runTurns_invariant_of_mem Inv (fun a _ => h a) hs

/-- **Progress.** If each turn of one party keeps the invariant and decreases a measure until the
    goal is reached, then some number of its turns reaches the goal. Nothing is said about
    schedules in which others move as well; an invariant of the others' turns has to bring the
    state here first. -/
theorem exists_turns (turn : α → σ → σ) (Inv Goal : σ → Prop) (a : α) (μ : σ → Nat)
    (h : ∀ s, Inv s → ¬ Goal s → Inv (turn a s) ∧ μ (turn a s) < μ s) {s : σ} (hs : Inv s) :
    ∃ k, Inv (runTurns turn (List.replicate k a) s) ∧
      Goal (runTurns turn (List.replicate k a) s) := by
  induction hm : μ s using Nat.strongRecOn generalizing s with
  | ind m ih =>
    by_cases hgoal : Goal s
    · exact ⟨0, hs, hgoal⟩
    · obtain ⟨hinv, hlt⟩ := h s hs hgoal
      obtain ⟨k, hk⟩ := ih (μ (turn a s)) (by omega) hinv rfl
      exact ⟨k + 1, hk⟩

end Lib
