/-!
# While loops as step functions

A `while` loop of an imperative language is a function from the loop's variables to what one pass
does with them: leave with a result, go round again, or run into something the language leaves
undefined. `run` iterates such a function under a bound on the number of passes, so a loop that
never leaves is a loop whose `run` is `none` at every bound.

Two rules are enough for the result of every loop here.

* `run_rounds` is for a loop whose variables are known in closed form after `k` passes: it
  fast-forwards the run by `j` passes at once. No measure is needed, the count is the measure.
* `run_of_invariant` is the inductive-assertion rule, for a loop that makes progress at a speed
  somebody else decides. It is a *total* correctness rule: the measure bounds the number of
  passes, so the conclusion is a result and not "if there is one".

What has to hold in the middle of a run, whether or not it ever ends, is said of the states it
reaches (`Reaches`).

## Why undefined is not an error

A pass may have no meaning in C: a signed overflow, a null pointer that is followed, a read behind
the end of an object. `Next.undef` is none of the loop's results, so no postcondition can be
proved of it by accident, and `Advances` refuses it outright. A theorem that gives a result has
thereby shown that the pass was defined.

The price is that `run … = none` has two meanings, out of passes and undefined. Wherever the
difference matters a result says which: by holding for every bound, or by naming the state in
which the pass is undefined.
-/

set_option autoImplicit false

namespace Lib

universe u v

/-- What one pass through a loop's body does. -/
inductive Next (σ : Type u) (β : Type v)
  /-- The loop is left with this result. -/
  | done (b : β)
  /-- Control returns to the head of the loop with these variables. -/
  | again (s : σ)
  /-- The pass has no defined meaning. -/
  | undef

variable {σ : Type u} {β : Type v}

/-- At most `n` passes; `none` if the loop is still running then, or had an undefined pass.
    Structural in the bound, so a run on concrete variables can be evaluated. -/
def run (body : σ → Next σ β) : Nat → σ → Option β
  | 0, _ => none
  | n + 1, s =>
    match body s with
    | .done b => some b
    | .again s' => run body n s'
    | .undef => none

@[simp] theorem run_zero {body : σ → Next σ β} {s : σ} : run body 0 s = none := rfl

/-- The pass that leaves. Together with `run_again` this is the operational meaning of `run`, and
    all that a proof by hand about a single run unfolds. -/
theorem run_done {body : σ → Next σ β} {s : σ} {b : β} (h : body s = .done b) (n : Nat) :
    run body (n + 1) s = some b := by
  simp only [run, h]

theorem run_again {body : σ → Next σ β} {s s' : σ} (h : body s = .again s') (n : Nat) :
    run body (n + 1) s = run body n s' := by
  simp only [run, h]

/-- An undefined pass is the end of everything, under any bound. The bound need not be positive
    here: out of passes is `none` as well. -/
theorem run_undef {body : σ → Next σ β} {s : σ} (h : body s = .undef) (n : Nat) :
    run body n s = none := by
  cases n with
  | zero => rfl
  | succ n => simp only [run, h]

/-- What every way out establishes holds of the result, whatever the loop did before it left.
    There is no invariant in this rule, so it is for facts about the `return` statements alone,
    such as the range of a value. -/
theorem run_post {body : σ → Next σ β} (Post : β → Prop)
    (h : ∀ s b, body s = .done b → Post b) {n : Nat} {s : σ} {b : β}
    (hr : run body n s = some b) : Post b := by
  induction n generalizing s with
  | zero => exact absurd hr (by simp)
  | succ n ih =>
    rw [run] at hr
    split at hr
    · rename_i b' hb
      obtain rfl := Option.some.inj hr
      exact h s _ hb
    · exact ih hr
    · exact absurd hr (by simp)

/-! ## Closed-form runs -/

/-- **Fast-forward.** If `S k` are the variables after `k` passes, then `j` passes are spent
    getting from `S 0` to `S j`, and nothing else happened. -/
theorem run_rounds {body : σ → Next σ β} (S : Nat → σ) {j : Nat}
    (h : ∀ k, k < j → body (S k) = .again (S (k + 1))) (n : Nat) :
    run body (n + j) (S 0) = run body n (S j) := by
  induction j generalizing n with
  | zero => rfl
  | succ j ih =>
    calc run body (n + (j + 1)) (S 0)
        = run body (n + 1 + j) (S 0) := by rw [Nat.add_right_comm, Nat.add_assoc]
      _ = run body (n + 1) (S j) := ih (fun k hk => h k (Nat.lt_succ_of_lt hk)) (n + 1)
      _ = run body n (S (j + 1)) := run_again (h j (Nat.lt_succ_self j)) n

/-- The usual end of such a run: `j` passes, then the one that leaves. The bound only has to be
    large enough. -/
theorem run_rounds_done {body : σ → Next σ β} (S : Nat → σ) {j : Nat} {b : β}
    (h : ∀ k, k < j → body (S k) = .again (S (k + 1))) (hd : body (S j) = .done b) {n : Nat}
    (hn : j < n) : run body n (S 0) = some b := by
  obtain ⟨d, rfl⟩ : ∃ d, n = (d + 1) + j := ⟨n - j - 1, by omega⟩
  rw [run_rounds S h, run_done hd]

/-! ## Invariants -/

/-- What a pass from a state the invariant holds of must do: leave with a result the
    postcondition accepts, or reach the head again with the invariant intact and a smaller
    measure. An undefined pass is refused. -/
def Advances (Inv : σ → Prop) (μ : σ → Nat) (Post : β → Prop) (s : σ) : Next σ β → Prop
  | .done b => Post b
  | .again s' => Inv s' ∧ μ s' < μ s
  | .undef => False

/-- **Total correctness.** From a state an advancing invariant holds of, the loop leaves
    within `μ s + 1` passes, with a result the postcondition accepts. -/
theorem run_of_invariant {body : σ → Next σ β} {Inv : σ → Prop} {μ : σ → Nat}
    {Post : β → Prop} (h : ∀ s, Inv s → Advances Inv μ Post s (body s)) {n : Nat} {s : σ}
    (hs : Inv s) (hn : μ s < n) : ∃ b, run body n s = some b ∧ Post b := by
  induction n generalizing s with
  | zero => exact absurd hn (Nat.not_lt_zero _)
  | succ n ih =>
    have hadv := h s hs
    cases hb : body s with
    | done b =>
      rw [hb] at hadv
      exact ⟨b, run_done hb n, hadv⟩
    | again s' =>
      rw [hb] at hadv
      obtain ⟨b, hrun, hpost⟩ := ih hadv.1 (by have := hadv.2; omega)
      exact ⟨b, by rw [run_again hb, hrun], hpost⟩
    | undef =>
      rw [hb] at hadv
      exact hadv.elim

/-! ## The states a run passes -/

/-- The states in which a run from `s` is at the head of the loop. -/
inductive Reaches (body : σ → Next σ β) (s : σ) : σ → Prop
  /-- The state it starts in. -/
  | start : Reaches body s s
  /-- The state the next pass leads back to the head with. -/
  | again {v v' : σ} (h : Reaches body s v) (hb : body v = .again v') : Reaches body s v'

/-- Reachability composes at the front as well. The constructor adds a pass at the end; an
    induction over `run` needs it here. -/
theorem Reaches.after_again {body : σ → Next σ β} {s s' v : σ} (hb : body s = .again s')
    (h : Reaches body s' v) : Reaches body s v := by
  induction h with
  | start => exact .again .start hb
  | again _ hv ih => exact .again ih hv

/-- A loop that leaves on its first pass reaches no other state. -/
theorem Reaches.eq_of_done {body : σ → Next σ β} {s v : σ} {b : β} (h : Reaches body s v)
    (hb : body s = .done b) : v = s := by
  induction h with
  | start => rfl
  | again _ hv ih =>
    rw [ih, hb] at hv
    exact absurd hv (by simp)

/-- What holds at first and survives a pass holds whenever the head is reached. Neither a measure
    nor a result is involved: this is the rule for runs that may never end. -/
theorem Reaches.invariant {body : σ → Next σ β} {Inv : σ → Prop} {s v : σ}
    (h : Reaches body s v) (hs : Inv s)
    (hstep : ∀ v v', Inv v → body v = .again v' → Inv v') : Inv v := by
  induction h with
  | start => exact hs
  | again _ hv ih => exact hstep _ _ ih hv

/-- A result comes out of a pass from a state the run reached. It turns a statement about `run`
    into one about `Reaches`, where the invariant is. -/
theorem exists_last_pass {body : σ → Next σ β} {n : Nat} {s : σ} {b : β}
    (h : run body n s = some b) : ∃ v, Reaches body s v ∧ body v = .done b := by
  induction n generalizing s with
  | zero => exact absurd h (by simp)
  | succ n ih =>
    cases hb : body s with
    | done b' =>
      rw [run_done hb] at h
      obtain rfl := Option.some.inj h
      exact ⟨s, .start, hb⟩
    | again s' =>
      rw [run_again hb] at h
      obtain ⟨v, hv, hd⟩ := ih h
      exact ⟨v, hv.after_again hb, hd⟩
    | undef =>
      rw [run_undef hb] at h
      exact absurd h (by simp)

/-- **Partial correctness.** A result satisfies what every pass out of the invariant leaves with.
    With a postcondition that nothing satisfies it says that there is no result. -/
theorem run_of_reached {body : σ → Next σ β} (Inv : σ → Prop) (Post : β → Prop)
    (hagain : ∀ v v', Inv v → body v = .again v' → Inv v')
    (hdone : ∀ v b, Inv v → body v = .done b → Post b) {n : Nat} {s : σ} {b : β} (hs : Inv s)
    (h : run body n s = some b) : Post b := by
  obtain ⟨v, hv, hd⟩ := exists_last_pass h
  exact hdone v b (hv.invariant hs hagain) hd

/-- A run that goes round and gets closer to a target, as long as it is not there, gets there. The
    target is a state and not a result, so this also finds the place at which a loop goes wrong.
    -/
theorem reaches_of_progress {body : σ → Next σ β} {Inv Target : σ → Prop} (μ : σ → Nat)
    (h : ∀ v, Inv v → ¬ Target v → ∃ v', body v = .again v' ∧ Inv v' ∧ μ v' < μ v) {s : σ}
    (hs : Inv s) : ∃ v, Reaches body s v ∧ Inv v ∧ Target v := by
  induction hm : μ s using Nat.strongRecOn generalizing s with
  | ind m ih =>
    by_cases ht : Target s
    · exact ⟨s, .start, hs, ht⟩
    · obtain ⟨s', hb, hs', hlt⟩ := h s hs ht
      obtain ⟨v, hv, hinv, hvt⟩ := ih (μ s') (by omega) hs' rfl
      exact ⟨v, hv.after_again hb, hinv, hvt⟩

end Lib
