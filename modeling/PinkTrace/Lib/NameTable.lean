import PinkTrace.Lib.Loop

/-!
# Tables of names

An array of strings indexed by number, with holes, is read in two directions: a bounds-checked
access from number to name, and a linear search from name to number. The two are inverse to each
other exactly when no name stands twice (`Distinct`); holes may repeat.

The tables that occur are hundreds of rows long, and comparing all pairs of rows is what a
decision procedure must not do. `fresh` decides distinctness in one pass over numeric keys, with
the set of keys seen so far held as the bits of one number. Keys need not be injective: distinct
keys are enough for distinct names.

Two tables are compared in one pass as well (`rowwise`), past the end of the shorter one.

A table that is written as the initialiser of an array has its rows where the commas put them
(`rowsOf`), whatever the comments beside them say.

## Accesses out of range are kept apart from holes

`table[i]` for an `i` behind the end is undefined in C, a row without a name is `NULL`. Both would
be `none` if the access were a plain lookup, and then a missing bounds check could not be seen. So
`nameOf` and `search` answer an `Option (Option α)`, and that the outer one is never `none` is
something to prove (`nameOf_isSome`, `search_answers`), once, for every table.
-/

set_option autoImplicit false

namespace Lib

/-- Names by number; `none` is a number without one. -/
abbrev NameTable (α : Type) := List (Option α)

namespace NameTable

variable {α : Type}

/-- `table[i]` behind its bounds check. The outer `none` is an access out of range. -/
def nameOf (tab : NameTable α) (i : Int) : Option (Option α) :=
  if i < 0 ∨ (tab.length : Int) ≤ i then some none else tab[i.toNat]?

/-- The bounds check is enough: there is no number for which the access is out of range. -/
theorem nameOf_isSome (tab : NameTable α) (i : Int) : ∃ e, tab.nameOf i = some e := by
  unfold nameOf
  split
  · exact ⟨none, rfl⟩
  · rename_i h
    exact ⟨_, List.getElem?_eq_getElem (by omega)⟩

/-- A number has a name exactly if it is a row and the row has one. Negative numbers are in the
    statement because the number of the C function is signed. -/
theorem nameOf_eq_some {tab : NameTable α} {i : Int} {s : α} :
    tab.nameOf i = some (some s) ↔ ∃ k : Nat, i = k ∧ tab[k]? = some (some s) := by
  unfold nameOf
  constructor
  · intro h
    split at h
    · exact absurd h (by simp)
    · rename_i hin
      exact ⟨i.toNat, by omega, h⟩
  · rintro ⟨k, rfl, hk⟩
    obtain ⟨hlt, -⟩ := List.getElem?_eq_some_iff.mp hk
    rw [if_neg (by omega), Int.toNat_natCast]
    exact hk

/-- No name stands in two rows. Holes do not count, and nothing is said about names that differ
    only in case or in a prefix: names are values here. -/
def Distinct (tab : NameTable α) : Prop :=
  ∀ {i j : Nat} {s : α}, tab[i]? = some (some s) → tab[j]? = some (some s) → i = j

/-! ## Searching -/

section

variable [DecidableEq α]

/-- One pass of `for (i = 0; i < n; i++) if (table[i] && !strcmp(table[i], s)) return i;`. The row
    is fetched by an access that may fail, so that an index behind the end would be an undefined
    pass and not a row without a name. -/
def searchBody (tab : NameTable α) (s : α) (i : Nat) : Next Nat (Option Nat) :=
  if i < tab.length then
    match tab[i]? with
    | none => .undef
    | some e => if e = some s then .done (some i) else .again (i + 1)
  else .done none

/-- The first number with this name. -/
def search (tab : NameTable α) (s : α) : Option (Option Nat) :=
  run (tab.searchBody s) (tab.length + 1) 0

/-- What the search is to answer. -/
def Answers (tab : NameTable α) (s : α) : Option Nat → Prop
  | some i => tab[i]? = some (some s)
  | none => ∀ i : Nat, tab[i]? ≠ some (some s)

/-- **The search answers**, and on the way makes no access out of range. -/
theorem search_answers (tab : NameTable α) (s : α) :
    ∃ r, tab.search s = some r ∧ tab.Answers s r := by
  let Inv : Nat → Prop := fun i => i ≤ tab.length ∧ ∀ j, j < i → tab[j]? ≠ some (some s)
  have hstep : ∀ i, Inv i → Advances Inv (fun i => tab.length - i) (tab.Answers s) i
      (tab.searchBody s i) := by
    rintro i ⟨hle, hbefore⟩
    unfold searchBody
    split
    · rename_i hlt
      rw [List.getElem?_eq_getElem hlt]
      simp only
      split
      · rename_i heq
        show tab[i]? = some (some s)
        rw [List.getElem?_eq_getElem hlt, heq]
      · rename_i hne
        refine ⟨⟨hlt, fun j hj => ?_⟩, (by omega : tab.length - (i + 1) < tab.length - i)⟩
        rcases Nat.lt_or_eq_of_le (Nat.le_of_lt_succ hj) with hlt' | rfl
        · exact hbefore j hlt'
        · rw [List.getElem?_eq_getElem hlt]
          exact fun h => hne (Option.some.inj h)
    · rename_i hge
      intro j hj
      obtain ⟨hlt, -⟩ := List.getElem?_eq_some_iff.mp hj
      exact hbefore j (by omega) hj
  exact run_of_invariant hstep ⟨Nat.zero_le _, fun j hj => absurd hj (Nat.not_lt_zero j)⟩
    (Nat.lt_succ_self _)

/-- Where no name stands twice, the search finds the row it was given the name of. Without
    `Distinct` it would still find *a* row, the first. -/
theorem search_of_distinct {tab : NameTable α} (hd : tab.Distinct) {i : Nat} {s : α}
    (h : tab[i]? = some (some s)) : tab.search s = some (some i) := by
  obtain ⟨r, hr, hans⟩ := search_answers tab s
  cases r with
  | none => exact absurd h (hans i)
  | some j => rw [hr, hd h hans]

end

/-! ## Deciding distinctness -/

/-- No key repeats, and none is a bit of `seen`. One number is the whole set of keys seen so far,
    so that the kernel evaluates a row at the price of a shift and a test. -/
def fresh (seen : Nat) : List Nat → Bool
  | [] => true
  | k :: ks => !seen.testBit k && fresh (seen ||| 1 <<< k) ks

/-- The pass decides what it should. The second half is the invariant that the induction carries:
    what is in `seen` at the start must not occur either. -/
theorem fresh_nodup {seen : Nat} {ks : List Nat} (h : fresh seen ks = true) :
    ks.Nodup ∧ ∀ k ∈ ks, seen.testBit k = false := by
  induction ks generalizing seen with
  | nil => exact ⟨List.nodup_nil, by simp⟩
  | cons k ks ih =>
    simp only [fresh, Bool.and_eq_true, Bool.not_eq_true'] at h
    obtain ⟨hk, hrest⟩ := h
    obtain ⟨hnodup, hseen⟩ := ih hrest
    have hbits : ∀ j ∈ ks, seen.testBit j = false ∧ j ≠ k := by
      intro j hj
      have hj' := hseen j hj
      rw [Nat.testBit_or, Bool.or_eq_false_iff] at hj'
      refine ⟨hj'.1, ?_⟩
      rintro rfl
      rw [Nat.one_shiftLeft, Nat.testBit_two_pow_self] at hj'
      exact absurd hj'.2 (by simp)
    refine ⟨List.nodup_cons.mpr ⟨fun hmem => (hbits k hmem).2 rfl, hnodup⟩, ?_⟩
    intro j hj
    rcases List.mem_cons.mp hj with rfl | hmem
    · exact hk
    · exact (hbits j hmem).1

/-- Distinct names, as a property of the list of them without the holes. -/
theorem distinct_of_nodup {tab : NameTable α} (h : (tab.filterMap id).Nodup) : tab.Distinct := by
  intro i j s hi hj
  induction tab generalizing i j with
  | nil => exact absurd hi (by simp)
  | cons e tab ih =>
    -- a row that is the head's name stands among the names of the rest, which the head does not
    have hrest : ∀ {k : Nat}, tab[k]? = some (some s) → s ∈ tab.filterMap id := fun hk =>
      List.mem_filterMap.mpr ⟨some s, List.mem_of_getElem? hk, rfl⟩
    have htail : (tab.filterMap id).Nodup := by
      cases e with
      | none => exact h
      | some s' => exact (List.nodup_cons.mp h).2
    have hhead : e = some s → s ∉ tab.filterMap id := by
      rintro rfl
      exact (List.nodup_cons.mp h).1
    cases i with
    | zero =>
      cases j with
      | zero => rfl
      | succ j => exact absurd (hrest hj) (hhead (Option.some.inj hi))
    | succ i =>
      cases j with
      | zero => exact absurd (hrest hi) (hhead (Option.some.inj hj))
      | succ j => exact congrArg (· + 1) (ih htail hi hj)

/-- **One pass over the keys settles it**, and keeps out every name whose key was marked before
    it started. -/
theorem distinct_of_fresh {tab : NameTable α} {seen : Nat} (key : α → Nat)
    (h : fresh seen ((tab.filterMap id).map key) = true) :
    tab.Distinct ∧ ∀ s, some s ∈ tab → seen.testBit (key s) = false := by
  obtain ⟨hnodup, hseen⟩ := fresh_nodup h
  refine ⟨distinct_of_nodup (List.Pairwise.of_map key ?_ hnodup), ?_⟩
  · intro _ _ hne heq
    exact hne (congrArg key heq)
  · intro s hs
    exact hseen (key s) (List.mem_map_of_mem (List.mem_filterMap.mpr ⟨some s, hs, rfl⟩))

/-! ## Two tables side by side -/

/-- `p` holds of the first `n` rows of both tables, numbered from `k`. A row past the end of a
    table has no name. -/
def rowwise (p : Nat → Option α → Option α → Bool) : Nat → Nat → NameTable α → NameTable α → Bool
  | 0, _, _, _ => true
  | n + 1, k, tab, tab' =>
    p k tab.head?.join tab'.head?.join && rowwise p n (k + 1) tab.tail tab'.tail

/-- What was checked of all rows at once holds of each. The rows are numbered from `k` so that the
    induction can take the first row off. -/
theorem rowwise_row {p : Nat → Option α → Option α → Bool} {n k i : Nat} {tab tab' : NameTable α}
    (h : rowwise p n k tab tab' = true) (hi : i < n) :
    p (k + i) tab[i]?.join tab'[i]?.join = true := by
  induction n generalizing k i tab tab' with
  | zero => exact absurd hi (Nat.not_lt_zero i)
  | succ n ih =>
    simp only [rowwise, Bool.and_eq_true] at h
    obtain ⟨hrow, hrest⟩ := h
    cases i with
    | zero =>
      rw [← List.head?_eq_getElem?, ← List.head?_eq_getElem?]
      exact hrow
    | succ i =>
      have := ih hrest (Nat.lt_of_succ_lt_succ hi)
      rwa [List.getElem?_tail, List.getElem?_tail, Nat.add_assoc, Nat.add_comm 1 i] at this

/-! ## Tables as they are written -/

/-- A line of an initialiser: a string literal, the number that the comment behind it gives, and
    whether a comma ends it. -/
structure Line where
  literal : String
  annotation : Nat
  comma : Bool
  deriving DecidableEq

/-- The rows of an initialiser, behind the literals in `pending`: literals that no comma separates
    are one string. This is translation phase 6 of C, which nobody who forgets a comma asks for.
    -/
def rowsOf (pending : String) : List Line → NameTable String
  | [] => if pending = "" then [] else [some pending]
  | l :: ls =>
    if l.comma then some (pending ++ l.literal) :: rowsOf "" ls
    else rowsOf (pending ++ l.literal) ls

/-- As long as every line has its comma, the rows are the lines. A table without a mistake needs
    no other lemma. -/
theorem rowsOf_append {ls : List Line} (h : ∀ l ∈ ls, l.comma = true) (rest : List Line) :
    rowsOf "" (ls ++ rest) = ls.map (fun l => some l.literal) ++ rowsOf "" rest := by
  induction ls with
  | nil => rfl
  | cons l ls ih =>
    have hl := h l List.mem_cons_self
    simp only [List.cons_append, rowsOf, hl, if_true, String.empty_append, List.map_cons]
    rw [ih fun l' hl' => h l' (List.mem_cons_of_mem l hl')]

/-- A line without one is joined to the next, and from there on every row stands one number before
    its line. -/
theorem rowsOf_joined {l next : Line} (hl : l.comma = false) (hnext : next.comma = true)
    (rest : List Line) :
    rowsOf "" (l :: next :: rest) = some (l.literal ++ next.literal) :: rowsOf "" rest := by
  simp [rowsOf, hl, hnext]

end NameTable

end Lib
