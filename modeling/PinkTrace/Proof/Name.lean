import PinkTrace.Proof.Shuffle

/-!
# Names and numbers are inverse to each other

Three facts carry this. `shuffle_scno` is an involution, so it does not matter that one direction
applies it before the table and the other after. No name stands twice in any table, which is
decided row by row. And a search and an indexed access of one table are inverse to each other when
no name stands twice (`Lib.NameTable`).

That the 64-bit table of an AArch64 build was not laid out for the shuffle does no harm: the rows
that are exchanged there are looked up under the exchanged number in both directions.

## How the tables are checked

Comparing every name with every other would be tens of thousands of string comparisons per table,
in the kernel. Instead each name is given a number (`nameKey`), and one pass marks the numbers it
has seen in the bits of a single natural number: `soundTableB`. Two names with one key would fail
the check although they differ; the modulus is chosen so that no two names of one table collide.
If a table is ever extended and the check fails, the modulus is the first thing to look at.
-/

set_option autoImplicit false

namespace PinkTrace

open Lib

variable {arch : Arch}

/-! ## What the tables have to be

One boolean pass over each table, evaluated once per table; everything after it is about any
table that passes. -/

/-- What the proofs need of a table: distinct names, none of them empty, and few enough rows for
    an `int`. The second is because an empty name is not looked up. -/
structure SoundTable (tab : NameTable String) : Prop where
  distinct : tab.Distinct
  nonempty : some "" ∉ tab
  small : tab.length < 2 ^ 31

/-- A number for a name: its bytes as digits, cut off where the tables' names stay apart. That
    they do is nothing to prove: it is part of what the check finds out. -/
def nameKey (s : String) : Nat :=
  s.toByteArray.data.toList.foldl (fun n c => n * 256 + c.toNat) 0 % 28987

-- the key of the empty name is 0, and bit 0 is set from the start
def soundTableB (tab : NameTable String) : Bool :=
  NameTable.fresh 1 ((tab.filterMap id).map nameKey) && decide (tab.length < 2 ^ 31)

/-- Distinct keys come from distinct names. -/
theorem soundTableB_sound {tab : NameTable String} (h : soundTableB tab = true) :
    SoundTable tab := by
  simp only [soundTableB, Bool.and_eq_true, decide_eq_true_eq] at h
  obtain ⟨hdistinct, hmarked⟩ := NameTable.distinct_of_fresh nameKey h.1
  exact ⟨hdistinct, fun hmem => absurd (hmarked "" hmem) (by decide +kernel), h.2⟩

set_option maxRecDepth 100000

theorem errnoent_sound (powerpc : Bool) : SoundTable (errnoent powerpc) := by
  cases powerpc
  · exact soundTableB_sound (by decide +kernel)
  · exact soundTableB_sound (by decide +kernel)

theorem signalent_sound : SoundTable signalent := soundTableB_sound (by decide +kernel)

theorem syscallentX86_64_sound : SoundTable syscallentX86_64 :=
  soundTableB_sound (by decide +kernel)

theorem syscallentI386_sound : SoundTable syscallentI386 :=
  soundTableB_sound (by decide +kernel)

theorem syscallentX32_sound : SoundTable syscallentX32 :=
  soundTableB_sound (by decide +kernel)

theorem syscallentAarch64_sound : SoundTable syscallentAarch64 :=
  soundTableB_sound (by decide +kernel)

theorem syscallentArm_sound : SoundTable syscallentArm :=
  soundTableB_sound (by decide +kernel)

theorem syscallentPowerpc_sound : SoundTable syscallentPowerpc :=
  soundTableB_sound (by decide +kernel)

theorem sysentVec_sound (abi : Abi arch) : SoundTable (sysentVec abi) := by
  cases abi with
  | aarch64 => exact syscallentAarch64_sound
  | arm => exact syscallentArm_sound
  | x86_64 => exact syscallentX86_64_sound
  | i386 => exact syscallentI386_sound
  | x32 => exact syscallentX32_sound
  | only h =>
    cases arch with
    | arm => exact syscallentArm_sound
    | powerpc | powerpc64 => exact syscallentPowerpc_sound
    | i386 | aarch64 | x86_64 => exact syscallentI386_sound

/-! ## The two directions

Both directions meet at the row: a number names what stands there, a name is searched to it. -/

theorem Abi.length_all (arch : Arch) : (Abi.all arch).length = arch.pinkAbisSupported := by
  cases arch <;> rfl

/-- Whatever `short` is given, it is refused or selects an ABI. -/
theorem abiRow_cases (arch : Arch) (abi : Int) :
    abiRow arch abi = some none ∨ ∃ a, abiRow arch abi = some (some a) := by
  unfold abiRow
  split
  · exact .inl rfl
  · have hlt : abi.toNat < (Abi.all arch).length := by
      rw [Abi.length_all]
      omega
    exact .inr ⟨_, by rw [List.getElem?_eq_getElem hlt, Option.map_some]⟩

/-- …and the number that `abi.h` gives an ABI selects that one. -/
theorem abiRow_index (abi : Abi arch) : abiRow arch abi.index = some (some abi) := by
  have hlt := abi.index_lt
  rw [abiRow, if_neg (by omega), Int.toNat_natCast]
  cases abi with
  | only h => cases arch <;> first | rfl | exact absurd h (by decide)
  | _ => rfl

section

variable {vec : Abi arch → NameTable String} {abi : Int}

theorem nameIn_isSome (i : Int) : (nameIn vec i abi).isSome := by
  rcases abiRow_cases arch abi with h | ⟨a, h⟩
  · rw [nameIn, h]
    rfl
  · obtain ⟨e, he⟩ := NameTable.nameOf_isSome (vec a) i
    simp only [nameIn, h, he, Option.isSome_some]

theorem nameIn_eq_some {i : Int} {s : String} : nameIn vec i abi = some (some s) ↔
    ∃ a, abiRow arch abi = some (some a) ∧ ∃ k : Nat, i = k ∧ (vec a)[k]? = some (some s) := by
  rcases abiRow_cases arch abi with h | ⟨a, h⟩
  · simp [nameIn, h]
  · simp only [nameIn, h, NameTable.nameOf_eq_some, Option.some.injEq, exists_eq_left']

theorem lookupIn_isSome (name : Option String) : (lookupIn vec name abi).isSome := by
  unfold lookupIn
  split
  · rfl
  · rename_i s
    split
    · rfl
    · rcases abiRow_cases arch abi with h | ⟨a, h⟩
      · rw [h]
        rfl
      · obtain ⟨r, hr, -⟩ := NameTable.search_answers (vec a) s
        simp only [h, hr, Option.isSome_some]

/-- A search finds the row of a name. Here the tables have to be sound; an indexed access works
    for any. -/
theorem lookupIn_eq_some (hvec : ∀ a, SoundTable (vec a)) {s : String} {k : Nat} :
    lookupIn vec (some s) abi = some (some k) ↔
      ∃ a, abiRow arch abi = some (some a) ∧ (vec a)[k]? = some (some s) := by
  unfold lookupIn
  rcases abiRow_cases arch abi with hrow | ⟨a, hrow⟩
  · simp [hrow]
  · simp only [hrow, Option.some.injEq, exists_eq_left']
    constructor
    · intro h
      split at h
      · exact absurd h (by simp)
      · obtain ⟨r, hr, hans⟩ := NameTable.search_answers (vec a) s
        rw [hr, Option.some.injEq] at h
        rw [h] at hans
        exact hans
    · intro h
      rw [if_neg, NameTable.search_of_distinct (hvec a).distinct h]
      rintro rfl
      exact (hvec a).nonempty (List.mem_of_getElem? h)

end

/-- Two functions between names and numbers that undo each other, where `absent` is the answer for
    a name without a number, and neither of which reads past the end of a table. A number without
    a name is no exception: `lookup_of_name` says nothing of it. -/
structure Inverse {N : Type} (absent : N) (name : N → Option (Option String))
    (lookup : Option String → Option N) : Prop where
  name_in_range : ∀ n, (name n).isSome
  lookup_in_range : ∀ s, (lookup s).isSome
  name_of_lookup : ∀ n s, lookup (some s) = some n → n ≠ absent → name n = some (some s)
  lookup_of_name : ∀ n s, name n = some (some s) → lookup (some s) = some n

section

variable {N : Type} {absent : N} {name : N → Option (Option String)}
  {lookup : Option String → Option N} {n m : N} {s : String}

theorem Inverse.lookup_eq_some_iff (h : Inverse absent name lookup) (hn : n ≠ absent) :
    lookup (some s) = some n ↔ name n = some (some s) :=
  ⟨fun hfound => h.name_of_lookup n s hfound hn, h.lookup_of_name n s⟩

/-- A name belongs to one number. -/
theorem Inverse.name_inj (h : Inverse absent name lookup) (hn : name n = some (some s))
    (hm : name m = some (some s)) : n = m :=
  Option.some.inj ((h.lookup_of_name n s hn).symm.trans (h.lookup_of_name m s hm))

end

/-- Errors and signals, whose number is the row. One proof for four functions. -/
theorem numberOf_inverse {vec : Abi arch → NameTable String} (hvec : ∀ a, SoundTable (vec a))
    (abi : Int) :
    Inverse (-1) (fun n => nameIn vec n abi) (fun s => numberOf (lookupIn vec s abi)) where
  name_in_range := nameIn_isSome
  lookup_in_range := by
    intro s
    rw [numberOf, Option.isSome_map]
    exact lookupIn_isSome s
  name_of_lookup := by
    intro n s h hn
    obtain ⟨r, hr, rfl⟩ := Option.map_eq_some_iff.mp h
    cases r with
    | none => exact absurd rfl hn
    | some k =>
      obtain ⟨a, ha, hrow⟩ := (lookupIn_eq_some hvec).mp hr
      exact nameIn_eq_some.mpr ⟨a, ha, k, rfl, hrow⟩
  lookup_of_name := by
    intro n s h
    obtain ⟨a, ha, k, rfl, hrow⟩ := nameIn_eq_some.mp h
    simp only [(lookupIn_eq_some hvec).mpr ⟨a, ha, hrow⟩, numberOf, Option.map_some]

theorem toInt_ofNat_of_lt {k : Nat} (h : k < 2 ^ 31) :
    (BitVec.ofNat arch.longBits k).toInt = k := by
  have hk := arch.lt_long_max h
  have hM := arch.two_mul_long_max
  have htoNat : (BitVec.ofNat arch.longBits k).toNat = k := by
    rw [BitVec.toNat_ofNat, Nat.mod_eq_of_lt (by omega)]
  rw [BitVec.toInt_eq_toNat_of_lt (by omega), htoNat]

/-- System calls, whose number is the shuffled row. The involution is used once in each direction.
    -/
theorem syscall_inverse (arch : Arch) (abi : Int) :
    Inverse (-1) (fun n => pinkNameSyscall arch n abi)
      (fun s => pinkLookupSyscall arch s abi) where
  name_in_range := fun n => nameIn_isSome _
  lookup_in_range := by
    intro s
    rw [pinkLookupSyscall, Option.isSome_map]
    exact lookupIn_isSome s
  name_of_lookup := by
    intro n s h hn
    obtain ⟨r, hr, rfl⟩ := Option.map_eq_some_iff.mp h
    cases r with
    | none => exact absurd rfl hn
    | some k =>
      obtain ⟨a, ha, hrow⟩ := (lookupIn_eq_some sysentVec_sound).mp hr
      obtain ⟨hlt, -⟩ := List.getElem?_eq_some_iff.mp hrow
      refine nameIn_eq_some.mpr ⟨a, ha, k, ?_, hrow⟩
      rw [shuffleScno_shuffleScno]
      exact toInt_ofNat_of_lt (Nat.lt_trans hlt (sysentVec_sound a).small)
  lookup_of_name := by
    intro n s h
    obtain ⟨a, ha, k, hk, hrow⟩ := nameIn_eq_some.mp h
    obtain ⟨hlt, -⟩ := List.getElem?_eq_some_iff.mp hrow
    -- the name stands in the row of the shuffled number; the search finds that row
    have hrowNumber : shuffleScno arch n = BitVec.ofNat _ k := by
      apply BitVec.eq_of_toInt_eq
      rw [hk, toInt_ofNat_of_lt (Nat.lt_trans hlt (sysentVec_sound a).small)]
    simp only [pinkLookupSyscall, (lookupIn_eq_some sysentVec_sound).mpr ⟨a, ha, hrow⟩,
      Option.map_some]
    rw [← hrowNumber, shuffleScno_shuffleScno]

section

variable {abi : Abi arch} {n : Addr arch} {s : String}

/-- A number that is not negative is found for a name exactly if it has that name. The sign
    excludes `-1`, which would be found for every name there is not. -/
theorem pinkLookupSyscall_eq_some (hn : 0 ≤ n.toInt) :
    pinkLookupSyscall arch (some s) abi.index = some n ↔
      pinkNameSyscall arch n abi.index = some (some s) := by
  refine (syscall_inverse arch abi.index).lookup_eq_some_iff ?_
  rintro rfl
  cases arch <;> exact absurd hn (by decide)

theorem pinkNameSyscall_eq_some (harch : ¬ (arch = .arm ∨ arch = .aarch64)) :
    pinkNameSyscall arch n abi.index = some (some s) ↔
      ∃ k : Nat, n.toInt = k ∧ (sysentVec abi)[k]?.join = some s := by
  simp only [pinkNameSyscall, shuffleScno, if_neg harch, nameIn_eq_some, abiRow_index,
    Option.some.injEq, exists_eq_left', Option.join_eq_some_iff]

/-- Without a shuffle the name of a number is what stands in its row. -/
theorem pinkNameSyscall_row (harch : ¬ (arch = .arm ∨ arch = .aarch64)) {k : Nat}
    (hk : n.toInt = k) (s : String) :
    pinkNameSyscall arch n abi.index = some (some s) ↔ (sysentVec abi)[k]?.join = some s := by
  rw [pinkNameSyscall_eq_some harch]
  constructor
  · rintro ⟨k', hk', h⟩
    obtain rfl : k' = k := by omega
    exact h
  · exact fun h => ⟨k, hk, h⟩

end

/-- **Names and numbers are inverse to each other**, on every build and for every `short` that is
    given as an ABI. That no table is read past its end is part of the notion, so no number, name
    or ABI is undefined here. -/
theorem names_inverse (arch : Arch) (abi : Int) :
    Inverse (-1) (fun n => pinkNameSyscall arch n abi) (fun s => pinkLookupSyscall arch s abi) ∧
      Inverse (-1) (fun n => pinkNameErrno arch n abi) (fun s => pinkLookupErrno arch s abi) ∧
      Inverse (-1) (fun n => pinkNameSignal arch n abi) (fun s => pinkLookupSignal arch s abi) :=
  ⟨syscall_inverse arch abi, numberOf_inverse (fun _ => errnoent_sound _) abi,
    numberOf_inverse (fun _ => signalent_sound) abi⟩

end PinkTrace
