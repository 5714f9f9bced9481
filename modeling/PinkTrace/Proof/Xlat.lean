import PinkTrace.Xlat

/-!
# Names of constants, and constants of names

`pink_lookup_*` undoes `pink_name_*` for all three tables, because no name stands twice in them.
The other direction has two kinds of exceptions. A constant may have no name: `PINK_EVENT_NONE`,
and `PINK_SOCKET_SUBCALL_SOCKET`, which the table does not list. And of the names that a C library
has for one family, the table's first is the only one that `pink_name_socket_family` ever returns.

The first section is about any table with distinct names, and the two fixed tables are instances
of it by evaluation. The families cannot be: their table depends on the C library, so what is
known of it is what is known of every selection of its rows.
-/

set_option autoImplicit false

namespace PinkTrace

open Lib

variable {xlat : Xlat}

/-! ## Any table -/

/-- No name stands twice, and none is empty. Both are properties of the first column alone, so
    they survive leaving rows out. -/
structure Xlat.Named (xlat : Xlat) : Prop where
  distinct : (xlat.map Prod.fst).Nodup
  nonempty : "" ∉ xlat.map Prod.fst

/-- A row is found by its name. Where the number is `-1` this is no news, and `xname_iff` has to
    exclude it. -/
theorem Xlat.Named.xlookup_of_mem (h : Xlat.Named xlat) {str : String} {val : Int}
    (hmem : (str, val) ∈ xlat) : xlookup xlat (some str) = val := by
  have hne : str ≠ "" := fun heq => h.nonempty (heq ▸ List.mem_map_of_mem hmem)
  rw [xlookup, if_neg hne, valueOf_eq_of_mem h.distinct hmem, Option.getD_some]

theorem Xlat.Named.xlookup_xname (h : Xlat.Named xlat) {val : Int} {str : String}
    (hname : xname xlat val = some str) : xlookup xlat (some str) = val :=
  h.xlookup_of_mem (mem_of_keyOf hname)

theorem xlookup_of_not_mem {str : String} (h : str ∉ xlat.map Prod.fst) :
    xlookup xlat (some str) = -1 := by
  rw [xlookup]
  split
  · rfl
  · cases hvalue : valueOf xlat str with
    | none => rfl
    | some val => exact absurd (List.mem_map_of_mem (mem_of_valueOf hvalue)) h

/-- A table in which no number stands twice either, and `-1` not at all, is read both ways. -/
theorem Xlat.Named.xname_iff (h : Xlat.Named xlat) (hvals : (xlat.map Prod.snd).Nodup)
    (hneg : -1 ∉ xlat.map Prod.snd) {val : Int} {str : String} :
    xname xlat val = some str ↔ xlookup xlat (some str) = val ∧ val ≠ -1 := by
  constructor
  · intro hname
    refine ⟨h.xlookup_xname hname, ?_⟩
    rintro rfl
    exact hneg (List.mem_map_of_mem (mem_of_keyOf hname))
  · rintro ⟨hlookup, hne⟩
    by_cases hempty : str = ""
    · rw [xlookup, if_pos hempty] at hlookup
      exact absurd hlookup.symm hne
    · rw [xlookup, if_neg hempty] at hlookup
      cases hvalue : valueOf xlat str with
      | none =>
        rw [hvalue, Option.getD_none] at hlookup
        exact absurd hlookup.symm hne
      | some v =>
        rw [hvalue, Option.getD_some] at hlookup
        subst hlookup
        exact keyOf_eq_of_mem hvals (mem_of_valueOf hvalue)

/-! ## Events and subcalls -/

theorem events_named : Xlat.Named events := ⟨by decide, by decide⟩

theorem socketSubcalls_named : Xlat.Named socketSubcalls := ⟨by decide, by decide⟩

/-- The events that have a name. `PINK_EVENT_STOP` stands apart from the others, at 128. -/
theorem named_event_iff (event : Int) :
    (∃ str, pinkNameEvent event = some str) ↔ 1 ≤ event ∧ event ≤ 7 ∨ event = 128 := by
  have hvals : events.map Prod.snd = [1, 2, 3, 4, 5, 6, 7, 128] := by decide
  rw [pinkNameEvent, xname, exists_keyOf_iff, hvals]
  simp only [List.mem_cons, List.not_mem_nil, or_false]
  omega

/-- The subcalls that have one: all but the first. -/
theorem named_subcall_iff (subcall : Int) :
    (∃ str, pinkNameSocketSubcall subcall = some str) ↔ 2 ≤ subcall ∧ subcall ≤ 18 := by
  have hvals : socketSubcalls.map Prod.snd =
      [2, 3, 4, 5, 6, 7, 8, 9, 10, 11, 12, 13, 14, 15, 16, 17, 18] := by decide
  rw [pinkNameSocketSubcall, xname, exists_keyOf_iff, hvals]
  simp only [List.mem_cons, List.not_mem_nil, or_false]
  omega

/-- **Events and subcalls are told from their names and back**, and these are the ones that have a
    name. The table of subcalls begins with the second: `socket` is not in it. -/
theorem event_and_subcall_names :
    (∀ event, (∃ str, pinkNameEvent event = some str) ↔ 1 ≤ event ∧ event ≤ 7 ∨ event = 128) ∧
    (∀ event str, pinkNameEvent event = some str ↔
      pinkLookupEvent (some str) = event ∧ event ≠ -1) ∧
    (∀ subcall, (∃ str, pinkNameSocketSubcall subcall = some str) ↔ 2 ≤ subcall ∧ subcall ≤ 18) ∧
    (∀ subcall str, pinkNameSocketSubcall subcall = some str ↔
      pinkLookupSocketSubcall (some str) = subcall ∧ subcall ≠ -1) := by
  refine ⟨named_event_iff, fun event str => ?_, named_subcall_iff, fun subcall str => ?_⟩
  · exact events_named.xname_iff (by decide) (by decide)
  · exact socketSubcalls_named.xname_iff (by decide) (by decide)

/-! ## Address families -/

section Families

variable (af : String → Option Int)

/-- Whatever the C library defines: the names of the source are distinct, and a selection of them
    is. -/
theorem addrfams_named : Xlat.Named (addrfams af) where
  distinct := by
    have hnames : addrfamNames.Nodup := by decide +kernel
    exact hnames.sublist defined_keys_sublist
  nonempty := by
    have hnames : "" ∉ addrfamNames := by decide +kernel
    exact fun hmem => hnames (defined_keys_sublist.mem hmem)

/-- **A family is told from its name and back, by the first of its names.** Whatever families a C
    library defines and however it numbers them, looking up the name of a family gives the family.
    A name that is looked up comes back exactly when no name before it in the table is another
    name of the same family. A name that the C library does not define is not found. -/
theorem socket_family_names :
    (∀ family str, pinkNameSocketFamily af family = some str →
      pinkLookupSocketFamily af (some str) = family) ∧
    (∀ before str after family, addrfamNames = before ++ str :: after → af str = some family →
      (pinkNameSocketFamily af (pinkLookupSocketFamily af (some str)) = some str ↔
        ∀ other ∈ before, af other ≠ some family)) ∧
    ∀ str, af str = none → pinkLookupSocketFamily af (some str) = -1 := by
  refine ⟨fun family str => (addrfams_named af).xlookup_xname, ?_, ?_⟩
  · intro before str after family hnames haf
    have hmem : (str, family) ∈ addrfams af := mem_defined.mpr ⟨by simp [hnames], haf⟩
    have hd : (before ++ str :: after).Nodup := hnames ▸ by decide +kernel
    rw [pinkLookupSocketFamily, (addrfams_named af).xlookup_of_mem hmem, pinkNameSocketFamily,
      xname, addrfams, hnames, keyOf_defined_eq_iff hd haf]
  · intro str haf
    refine xlookup_of_not_mem fun hmem => ?_
    obtain ⟨⟨str', family⟩, he, rfl⟩ := List.mem_map.mp hmem
    rw [(mem_defined.mp he).2] at haf
    cases haf

/-- Where `AF_FILE` and `AF_LOCAL` are other names of `AF_UNIX`, its name is `AF_FILE`. -/
example :
    pinkNameSocketFamily
      (fun name => if name ∈ ["AF_FILE", "AF_LOCAL", "AF_UNIX"] then some 1 else none) 1 =
      some "AF_FILE" := by decide +kernel

end Families

end PinkTrace
