import Mathlib.Logic.Function.Basic
import PinkTrace.Lib.Schedule

/-!
# Copies of a shared register file

A file of cells is shared by clients, and each of them looks at it through a copy of its own: it
*fetches* the file, and from then on reads its copy. What a client *puts* can reach the file in
two ways.

* **Through** the copy: the cell is written in the file, and the copy stays what it was.
* **Back** from the copy: the cell is written in the copy, and then all of the copy replaces the
  file.

Reading is the same for both. The difference shows when a put meets another one: a put that goes
through the copy overwrites its own cell and no other, while one that writes the copy back also
undoes everything that happened to the file since the fetch. As long as every client fetches right
before it puts, nobody can tell the two apart (`file_edits_back`).

## What this says about lost updates

"No update is lost" is a property of the first discipline and not of the second, and both halves
of that are theorems: `file_through_of_spares` for the one, `file_back_stale` for the other. The
second is stated with an arbitrary list of operations of other clients in the middle, because the
loss does not depend on what they did. It is enough that the client did not look again.

Worth stating what is not here: there is no notion of time and no clock. A copy is stale relative
to a list of operations, never by itself.
-/

set_option autoImplicit false

namespace Lib

universe u v w

variable {ι : Type u} {ρ : Type v} {V : Type w}

/-- The file, and what each client has seen of it. Nothing ties a copy to the file: that it once
    was the file is what a fetch establishes, and nothing else. -/
structure Copies (ι : Type u) (ρ : Type v) (V : Type w) where
  file : ρ → V
  copy : ι → ρ → V

/-- What a client can do. A put names the client although the cell is in the file, since written
    *back* it is the client's copy that decides about all the other cells. -/
inductive CopyOp (ι : Type u) (ρ : Type v) (V : Type w)
  | fetch (j : ι)
  | put (j : ι) (r : ρ) (v : V)

variable [DecidableEq ι] [DecidableEq ρ]

namespace Copies

def through : CopyOp ι ρ V → Copies ι ρ V → Copies ι ρ V
  | .fetch j, s => { s with copy := Function.update s.copy j s.file }
  | .put _ r v, s => { s with file := Function.update s.file r v }

def back : CopyOp ι ρ V → Copies ι ρ V → Copies ι ρ V
  | .fetch j, s => { s with copy := Function.update s.copy j s.file }
  | .put j r v, s =>
    let c := Function.update (s.copy j) r v
    ⟨c, Function.update s.copy j c⟩

end Copies

/-- A client's put to a cell other than `r`, or a fetch: the operations that leave the cell `r` of
    the file alone if they are written through. -/
def CopyOp.Spares (r : ρ) : CopyOp ι ρ V → Prop
  | .fetch _ => True
  | .put _ r' _ => r' ≠ r

/-- The operation of another client. Such a one may change the file in any cell, and leaves the
    copy of `j` alone in either discipline. -/
def CopyOp.NotBy (j : ι) : CopyOp ι ρ V → Prop
  | .fetch k => k ≠ j
  | .put k _ _ => k ≠ j

variable {ops : List (CopyOp ι ρ V)} {s : Copies ι ρ V}

/-! ## Through -/

theorem copy_through_fetch (j : ι) : (Copies.through (.fetch j) s).copy j = s.file :=
  Function.update_self ..

theorem file_through_put (j : ι) (r : ρ) (v : V) : (Copies.through (.put j r v) s).file r = v :=
  Function.update_self ..

/-- **Written through, a cell keeps its value until the next put to it.** -/
theorem file_through_of_spares {r : ρ} (h : ∀ op ∈ ops, op.Spares r) :
    (runTurns Copies.through ops s).file r = s.file r := by
  refine runTurns_invariant_of_mem (fun s' : Copies ι ρ V => s'.file r = s.file r) ?_ rfl
  intro op hop s' hs'
  rw [← hs']
  cases op with
  | fetch j => rfl
  | put j r' v => exact Function.update_of_ne (h _ hop).symm v s'.file

/-- **Written through, nothing reaches a copy but a fetch.** A client that never fetches goes on
    seeing what it has seen, however much everybody puts, itself included. -/
theorem copy_through_of_not_fetched {j : ι} (h : ∀ op ∈ ops, op ≠ .fetch j) :
    (runTurns Copies.through ops s).copy j = s.copy j := by
  refine runTurns_invariant_of_mem (fun s' : Copies ι ρ V => s'.copy j = s.copy j) ?_ rfl
  intro op hop s' hs'
  rw [← hs']
  cases op with
  | fetch k =>
    have hk : j ≠ k := fun hjk => h _ hop (congrArg CopyOp.fetch hjk.symm)
    exact Function.update_of_ne hk _ s'.copy
  | put k r v => rfl

/-! ## Back -/

theorem file_back_put (j : ι) (r : ρ) (v : V) : (Copies.back (.put j r v) s).file r = v :=
  Function.update_self ..

/-- A client's copy is its own. That is what makes the discipline dangerous: the copy does not
    take notice of what happens to the file. -/
theorem copy_back_of_notBy {j : ι} (h : ∀ op ∈ ops, op.NotBy j) :
    (runTurns Copies.back ops s).copy j = s.copy j := by
  refine runTurns_invariant_of_mem (fun s' : Copies ι ρ V => s'.copy j = s.copy j) ?_ rfl
  intro op hop s' hs'
  rw [← hs']
  cases op with
  | fetch k => exact Function.update_of_ne (h _ hop).symm _ s'.copy
  | put k r v => exact Function.update_of_ne (h _ hop).symm _ s'.copy

/-- **Written back, a put undoes all that others did to the other cells since the fetch.** -/
theorem file_back_stale {j : ι} {r r' : ρ} (v : V) (h : ∀ op ∈ ops, op.NotBy j) (hr : r ≠ r') :
    (runTurns Copies.back (.fetch j :: ops ++ [.put j r' v]) s).file r = s.file r := by
  rw [runTurns_append]
  show Function.update ((runTurns Copies.back ops (Copies.back (.fetch j) s)).copy j) r' v r = _
  rw [Function.update_of_ne hr, copy_back_of_notBy h]
  exact congrFun (Function.update_self j s.file s.copy) r

/-! ## Edits -/

/-- Each put right after a fetch by the same client, with nobody in between. The one way of using
    copies in which the two disciplines agree. -/
def edits (l : List (ι × ρ × V)) : List (CopyOp ι ρ V) :=
  l.flatMap fun (j, r, v) => [.fetch j, .put j r v]

omit [DecidableEq ι] [DecidableEq ρ] in
/-- Edits of other cells are operations that spare this one, so that `file_through_of_spares`
    applies to a list of edits. -/
theorem edits_spares {l : List (ι × ρ × V)} {r : ρ} (h : ∀ e ∈ l, e.2.1 ≠ r)
    {op : CopyOp ι ρ V} (hop : op ∈ edits l) : op.Spares r := by
  obtain ⟨⟨j, r', v⟩, he, hop⟩ := List.mem_flatMap.mp hop
  rcases List.mem_cons.mp hop with rfl | hop
  · trivial
  · rw [List.mem_singleton.mp hop]
    exact h _ he

/-- Edits written through are plain updates of the file, in order. The fetches do not matter here;
    they are in the list for the other discipline. -/
theorem file_edits_through (l : List (ι × ρ × V)) :
    (runTurns Copies.through (edits l) s).file =
      l.foldl (fun file (_, r, v) => Function.update file r v) s.file := by
  induction l generalizing s with
  | nil => rfl
  | cons e l ih => exact ih

/-- **Whoever fetches before they put loses nothing, either way.** -/
theorem file_edits_back (l : List (ι × ρ × V)) :
    (runTurns Copies.back (edits l) s).file = (runTurns Copies.through (edits l) s).file := by
  rw [file_edits_through]
  induction l generalizing s with
  | nil => rfl
  | cons e l ih =>
    obtain ⟨j, r, v⟩ := e
    have hput : (Copies.back (.put j r v) (Copies.back (.fetch j) s)).file =
        Function.update s.file r v := by
      show Function.update (Function.update s.copy j s.file j) r v = _
      rw [Function.update_self]
    exact ih.trans (by rw [hput]; rfl)

end Lib
