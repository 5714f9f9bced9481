/-!
# Tables of pairs

A table of pairs that is searched from the front in both directions, for a key and for a value.
Looking up the key of a value finds the value again as soon as no key stands twice. The other way
round the table may have several keys for one value, and it is the first of them that the value is
called.

## Why the two directions are not one lemma

A C table of names and numbers is written by hand, and it is the *names* its authors keep apart:
two constants of a system header may well have the same number. So neither "no key twice" nor "no
value twice" is assumed throughout. Each result asks for the one it needs, and what is left when
values repeat is not a failure but an order: `keyOf_defined_eq_iff` says which of the keys wins.

The second half is about tables of which a part is compiled in and a part is not. Whether a row is
there depends on whether a function defines its key, and the rest of the file never needs to know
which rows those are.
-/

set_option autoImplicit false

namespace Lib

universe u v

variable {κ : Type u} {β : Type v}

/-- The key of the first entry with this value. The order matters only where a value stands twice,
    and then it is all that matters. -/
def keyOf [DecidableEq β] (t : List (κ × β)) (b : β) : Option κ :=
  (t.find? fun e => e.2 = b).map Prod.fst

/-- The value of the first entry with this key. -/
def valueOf [DecidableEq κ] (t : List (κ × β)) (k : κ) : Option β :=
  (t.find? fun e => e.1 = k).map Prod.snd

/-- What it means to be found: the entry is there, and nothing in front of it has the value. All
    the other facts about `keyOf` are read off this one. -/
theorem keyOf_eq_some_iff [DecidableEq β] {t : List (κ × β)} {b : β} {k : κ} :
    keyOf t b = some k ↔
      ∃ before after, t = before ++ (k, b) :: after ∧ ∀ e ∈ before, e.2 ≠ b := by
  simp only [keyOf, Option.map_eq_some_iff, List.find?_eq_some_iff_append, decide_eq_true_eq]
  constructor
  · rintro ⟨⟨k', b'⟩, ⟨rfl, before, after, rfl, hbefore⟩, rfl⟩
    exact ⟨before, after, rfl, by simpa using hbefore⟩
  · rintro ⟨before, after, rfl, hbefore⟩
    exact ⟨(k, b), ⟨rfl, before, after, rfl, by simpa using hbefore⟩, rfl⟩

theorem mem_of_keyOf [DecidableEq β] {t : List (κ × β)} {b : β} {k : κ} (h : keyOf t b = some k) :
    (k, b) ∈ t := by
  obtain ⟨before, after, rfl, -⟩ := keyOf_eq_some_iff.mp h
  simp

/-- Some entry is found exactly if the value stands in the table, in whichever rows. -/
theorem exists_keyOf_iff [DecidableEq β] {t : List (κ × β)} {b : β} :
    (∃ k, keyOf t b = some k) ↔ b ∈ t.map Prod.snd := by
  rw [← Option.isSome_iff_exists, keyOf, Option.isSome_map, List.find?_isSome]
  simp

/-- Where no value stands twice, an entry is found by its value: then "the first" is "the one". -/
theorem keyOf_eq_of_mem [DecidableEq β] {t : List (κ × β)} (hd : (t.map Prod.snd).Nodup) {k : κ}
    {b : β} (h : (k, b) ∈ t) : keyOf t b = some k := by
  obtain ⟨before, after, rfl⟩ := List.append_of_mem h
  refine keyOf_eq_some_iff.mpr ⟨before, after, rfl, ?_⟩
  intro e he heq
  rw [List.map_append, List.map_cons, List.nodup_append] at hd
  exact hd.2.2 e.2 (List.mem_map_of_mem he) b List.mem_cons_self heq

theorem mem_of_valueOf [DecidableEq κ] {t : List (κ × β)} {k : κ} {b : β}
    (h : valueOf t k = some b) : (k, b) ∈ t := by
  obtain ⟨⟨k', b'⟩, hfind, rfl⟩ := Option.map_eq_some_iff.mp h
  have hk : k' = k := by simpa using List.find?_some hfind
  rw [← hk]
  exact List.mem_of_find?_eq_some hfind

/-- Where no key stands twice, an entry is found by its key. The mirror image of
    `keyOf_eq_of_mem`, with the roles of the two columns exchanged. -/
theorem valueOf_eq_of_mem [DecidableEq κ] {t : List (κ × β)} (hd : (t.map Prod.fst).Nodup)
    {k : κ} {b : β} (h : (k, b) ∈ t) : valueOf t k = some b := by
  obtain ⟨before, after, rfl⟩ := List.append_of_mem h
  have hfresh : ∀ e ∈ before, e.1 ≠ k := by
    intro e he heq
    rw [List.map_append, List.map_cons, List.nodup_append] at hd
    exact hd.2.2 e.1 (List.mem_map_of_mem he) k List.mem_cons_self heq
  have hfind : (before ++ (k, b) :: after).find? (fun e => e.1 = k) = some (k, b) :=
    List.find?_eq_some_iff_append.mpr
      ⟨decide_eq_true rfl, before, after, rfl, by simpa using hfresh⟩
  rw [valueOf, hfind, Option.map_some]

/-! ## The part of a list of keys that is defined -/

/-- Each key that `f` defines, with its value, in the order of the keys. The model of a table
    whose rows stand between `#ifdef` and `#endif`. -/
def defined (keys : List κ) (f : κ → Option β) : List (κ × β) :=
  keys.filterMap fun k => (f k).map fun b => (k, b)

section Defined

variable {keys : List κ} {f : κ → Option β}

theorem defined_cons (k : κ) :
    defined (k :: keys) f = ((f k).map fun b => (k, b)).toList ++ defined keys f := by
  cases hk : f k <;> simp [defined, hk]

theorem mem_defined {k : κ} {b : β} : (k, b) ∈ defined keys f ↔ k ∈ keys ∧ f k = some b := by
  simp only [defined, List.mem_filterMap, Option.map_eq_some_iff, Prod.mk.injEq]
  constructor
  · rintro ⟨k', hmem, b', hf, rfl, rfl⟩
    exact ⟨hmem, hf⟩
  · rintro ⟨hmem, hf⟩
    exact ⟨k, hmem, b, hf, rfl, rfl⟩

/-- Leaving rows out keeps the order of the others, and with it whatever is known of the whole
    list of keys: in particular that none of them repeats. -/
theorem defined_keys_sublist : ((defined keys f).map Prod.fst).Sublist keys := by
  induction keys with
  | nil => exact List.Sublist.slnil
  | cons k keys ih =>
    rw [defined_cons]
    cases f k with
    | none => exact ih.cons k
    | some b => exact ih.cons_cons k

/-- A value is called by the first key that is defined as that value. The table has disappeared
    from the right-hand side, so this is where a statement about rows becomes one about keys. -/
theorem keyOf_defined [DecidableEq β] (b : β) :
    keyOf (defined keys f) b = keys.find? fun k => f k = some b := by
  induction keys with
  | nil => rfl
  | cons k keys ih =>
    rw [defined_cons]
    cases hk : f k with
    | none => simpa [List.find?_cons, hk] using ih
    | some b' =>
      by_cases hb : b' = b
      · simp [keyOf, hk, hb]
      · simpa [keyOf, List.find?_cons, hk, hb] using ih

/-- So a key is what its own value is called when no key before it has that value. For a key that
    fails this, an earlier one is an alias that hides it. -/
theorem keyOf_defined_eq_iff [DecidableEq β] {before after : List κ} {k : κ} {b : β}
    (hd : (before ++ k :: after).Nodup) (hk : f k = some b) :
    keyOf (defined (before ++ k :: after) f) b = some k ↔ ∀ k' ∈ before, f k' ≠ some b := by
  rw [keyOf_defined, List.find?_append]
  constructor
  · intro hfind k' hk' hf
    cases hbefore : before.find? fun k => f k = some b with
    | none => exact List.find?_eq_none.mp hbefore k' hk' (decide_eq_true hf)
    | some k'' =>
      rw [hbefore] at hfind
      cases hfind
      exact (List.nodup_append.mp hd).2.2 k (List.mem_of_find?_eq_some hbefore) k
        List.mem_cons_self rfl
  · intro hbefore
    have hnone : before.find? (fun k => f k = some b) = none :=
      List.find?_eq_none.mpr fun k' hk' => by simpa using hbefore k' hk'
    rw [hnone, Option.none_or]
    exact List.find?_cons_of_pos (decide_eq_true hk)

end Defined

end Lib
