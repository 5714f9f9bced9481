import PinkTrace.Lib.Schedule

/-!
# Sessions

A client makes calls one after the other, each in the state the one before it left. What the calls
mean is said one call at a time, by a relation between the reply and an abstract state before and
after it; `Chain` strings these together, and `session_chain` is the induction: if a single call
of the implementation is a call of the abstract machine, in every pair of states that belong
together, then so is every session. Where the reply to a call and what it does depend on nothing
but the call, the abstract machine takes turns (`session_turns`).

## Simulation, with results

This is a forward simulation, and the direction in which results are produced matters. The
hypothesis *gives* a reply of the implementation and a step of the abstract machine that goes with
it, so the conclusion is that every session has a result. A rule that took the implementation's
run for granted would be satisfied by an implementation that never returns.

The relation `R` is between one state of each side. What the abstract side does not have (a log,
an `errno`, a buffer of the last call) is simply not mentioned in `R`, and no frame condition is
needed for it.
-/

set_option autoImplicit false

namespace Lib

universe u v w x y

variable {α : Type u} {β : Type v} {σ : Type w} {τ : Type x}

/-- The replies to the calls of a client, and the state they leave; `none` as soon as a call has
    no result, since a call that does not return has no next one. -/
def runSession (call : α → σ → Option (β × σ)) : List α → σ → Option (List β × σ)
  | [], s => some ([], s)
  | a :: calls, s =>
    match call a s with
    | none => none
    | some (b, s') => (runSession call calls s').map fun (bs, s'') => (b :: bs, s'')

/-- Calls of an abstract machine, one after the other. A relation and not a function: a
    specification may leave a reply open. -/
inductive Chain (step : α → β → τ → τ → Prop) : List α → List β → τ → τ → Prop
  | nil {t : τ} : Chain step [] [] t t
  | cons {a : α} {b : β} {calls : List α} {bs : List β} {t t' t'' : τ} (head : step a b t t')
      (tail : Chain step calls bs t' t'') : Chain step (a :: calls) (b :: bs) t t''

/-- **What holds of one call holds of a session.** The step is asked for only of the calls that
    are made, so a session may be restricted by a condition on its calls. -/
theorem session_chain {call : α → σ → Option (β × σ)} {step : α → β → τ → τ → Prop}
    (R : σ → τ → Prop) {calls : List α}
    (h : ∀ a ∈ calls, ∀ s t, R s t → ∃ b s' t', call a s = some (b, s') ∧ step a b t t' ∧ R s' t')
    {s : σ} {t : τ} (hs : R s t) :
    ∃ bs s' t', runSession call calls s = some (bs, s') ∧ Chain step calls bs t t' ∧ R s' t' := by
  induction calls generalizing s t with
  | nil => exact ⟨[], s, t, rfl, .nil, hs⟩
  | cons a calls ih =>
    obtain ⟨b, s', t', hcall, hstep, hs'⟩ := h a List.mem_cons_self s t hs
    obtain ⟨bs, s'', t'', hsession, hchain, hs''⟩ :=
      ih (fun a ha => h a (List.mem_cons_of_mem _ ha)) hs'
    refine ⟨b :: bs, s'', t'', ?_, .cons hstep hchain, hs''⟩
    simp only [runSession, hcall, hsession, Option.map_some]

/-- **A session of calls with one answer and one effect each.** The abstract state is then a
    function of the list of calls, and can be computed. -/
theorem session_turns {γ : Type y} {call : α → σ → Option (β × σ)} {answer : α → β}
    {turn : γ → τ → τ} {op : α → Option γ} (R : σ → τ → Prop)
    (h : ∀ a s t, R s t → ∃ s', call a s = some (answer a, s') ∧
      R s' (((op a).map turn).getD id t))
    (calls : List α) {s : σ} {t : τ} (hs : R s t) :
    ∃ s', runSession call calls s = some (calls.map answer, s') ∧
      R s' (runTurns turn (calls.filterMap op) t) := by
  rw [runTurns_filterMap]
  induction calls generalizing s t with
  | nil => exact ⟨s, rfl, hs⟩
  | cons a calls ih =>
    obtain ⟨s', hcall, hs'⟩ := h a s t hs
    obtain ⟨s'', hsession, hs''⟩ := ih hs'
    refine ⟨s'', ?_, hs''⟩
    simp only [runSession, hcall, hsession, Option.map_some, List.map_cons]

end Lib
