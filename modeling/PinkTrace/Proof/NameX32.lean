import PinkTrace.Proof.Name

/-!
# The system calls that x32 shares with `x86_64`

An x32 process numbers the calls below 512 as a 64-bit one does; the table marks with a `#64`
those that also have an entry point of their own. The two tables ought to agree there row by row,
and up to row 243 they do.

In row 244 they do not. A comma is missing in `linux/x32/syscallent.h`, the compiler joins
`"mq_notify#64"` with the string in the next line, and every later row has moved up by one. The
joined row and the moved ones are wrong in both directions: a number is given the name of its
successor (`Misnamed`), a name the number of its predecessor (`Misplaced`). The two sets differ at
the ends of a block of moved rows, which begins and ends one row early.

Both sets are given as intervals and not by what makes a row wrong, so a theorem about them cannot
be true by definition. One pass over the two tables side by side checks all 512 rows against them
(`rows_classified`); what follows from a row for the two functions is then proved for a row in
general.
-/

set_option autoImplicit false

namespace PinkTrace

open Lib

/-! ## Names with a mark -/

/-- A name with any `#64` at its end removed. A name that is nothing but the mark would become
    empty; no table has one. -/
def unsuffixed (s : String) : String :=
  if "#64".toList <:+ s.toList then String.ofList (s.toList.take (s.toList.length - 3)) else s

theorem unsuffixed_append (u : String) : unsuffixed (u ++ "#64") = u := by
  have hlen : (u ++ "#64").toList.length - 3 = u.toList.length := by
    simp [String.toList_append]
  rw [unsuffixed, if_pos (by simp [String.toList_append]), hlen, String.toList_append,
    List.take_left, String.ofList_toList]

theorem unsuffixed_of_ne {s : String} (h : ∀ u, s ≠ u ++ "#64") : unsuffixed s = s := by
  refine if_neg ?_
  rintro ⟨t, ht⟩
  apply h (String.ofList t)
  apply String.toList_injective
  rw [String.toList_append, String.toList_ofList, ht]

/-- No byte of it is a `#`. On bytes, because the check evaluates it. -/
def hashless (s : String) : Bool := s.toByteArray.data.toList.all (· != 35)

theorem unsuffixed_of_hashless {s : String} (h : hashless s = true) : unsuffixed s = s := by
  apply unsuffixed_of_ne
  rintro u rfl
  rw [hashless, String.toByteArray_append, ByteArray.data_append, Array.toList_append,
    List.all_append, Bool.and_eq_true] at h
  exact absurd h.2 (by decide +kernel)

/-- The names that a name without a mark is left of. -/
theorem unsuffixed_eq_iff {u s : String} (hu : hashless u = true) :
    unsuffixed s = u ↔ s = u ∨ s = u ++ "#64" := by
  constructor
  · rintro rfl
    by_cases h : ∃ v, s = v ++ "#64"
    · obtain ⟨v, rfl⟩ := h
      rw [unsuffixed_append]
      exact .inr rfl
    · exact .inl (unsuffixed_of_ne (fun v hv => h ⟨v, hv⟩)).symm
  · rintro (rfl | rfl)
    · exact unsuffixed_of_hashless hu
    · exact unsuffixed_append u

/-! ## The two tables, row by row -/

/-- The numbers below 512 whose name in the x32 table is another one. -/
def Misnamed (k : Int) : Prop := 244 ≤ k ∧ k ≤ 334 ∨ 424 ≤ k ∧ k ≤ 441

/-- The numbers below 512 of a row of the x32 table whose name has another number. -/
def Misplaced (k : Int) : Prop := 244 ≤ k ∧ k ≤ 333 ∨ 423 ≤ k ∧ k ≤ 440 ∨ k = 511

instance (k : Int) : Decidable (Misnamed k) := inferInstanceAs (Decidable (_ ∨ _))

instance (k : Int) : Decidable (Misplaced k) := inferInstanceAs (Decidable (_ ∨ _))

/-- What the two sets say about row `k` of the tables. A row with two names is in neither set or
    in both; one that only the `x86_64` table names has lost its name, and one that only the x32
    table names took it from another. -/
def classifiedRow (k : Nat) (r64 r32 : Option String) : Bool :=
  match r64, r32 with
  | some u, some s =>
    let shared := decide (s = u) || decide (s = u ++ "#64")
    hashless u && shared == !decide (Misnamed k) && shared == !decide (Misplaced k)
  | some _, none => decide (Misnamed k)
  | none, some _ => !decide (Misnamed k) && decide (Misplaced k)
  | none, none => !decide (Misnamed k)

set_option maxRecDepth 100000 in
theorem rows_classified :
    NameTable.rowwise classifiedRow 512 0 syscallentX86_64 syscallentX32 = true := by
  decide +kernel

/-- The same of any row below 512, with the mark removed where the check compares with it. From
    here on the tables are not evaluated again. -/
theorem row_classified {k : Nat} (hk : k < 512) :
    match syscallentX86_64[k]?.join, syscallentX32[k]?.join with
    | some u, some s =>
      ((s = u ∨ s = u ++ "#64") ↔ ¬Misnamed k) ∧ (unsuffixed s = u ↔ ¬Misplaced k)
    | some _, none => Misnamed k
    | none, some _ => ¬Misnamed k ∧ Misplaced k
    | none, none => ¬Misnamed k := by
  have hrow := NameTable.rowwise_row rows_classified hk
  rw [Nat.zero_add] at hrow
  cases h64 : syscallentX86_64[k]?.join with
  | none =>
    cases h32 : syscallentX32[k]?.join with
    | none => simpa [classifiedRow, h64, h32] using hrow
    | some s => simpa [classifiedRow, h64, h32] using hrow
  | some u =>
    cases h32 : syscallentX32[k]?.join with
    | none => simpa [classifiedRow, h64, h32] using hrow
    | some s =>
      simp only [classifiedRow, h64, h32, Bool.and_eq_true, beq_iff_eq, ← Bool.decide_or,
        ← decide_not, decide_eq_decide] at hrow
      obtain ⟨⟨hu, hnamed⟩, hplaced⟩ := hrow
      exact ⟨hnamed, (unsuffixed_eq_iff hu).trans hplaced⟩

/-! ## The two functions -/

/-- What `pink_name_syscall` has to say about a number for the two ABIs to agree on it. A number
    without a name on `x86_64` is not held against x32. -/
def NamedAlike (n : Addr .x86_64) : Prop :=
  ∀ s, n.toInt < 512 → pinkNameSyscall .x86_64 n Abi.x86_64.index = some (some s) →
    pinkNameSyscall .x86_64 n Abi.x32.index = some (some s) ∨
      pinkNameSyscall .x86_64 n Abi.x32.index = some (some (s ++ "#64"))

/-- What `pink_lookup_syscall` has to say about a name. Only names that x32 knows, with a number
    in the shared range. -/
def FoundAlike (s : String) : Prop :=
  ∀ n, pinkLookupSyscall .x86_64 (some s) Abi.x32.index = some n → 0 ≤ n.toInt → n.toInt < 512 →
    pinkLookupSyscall .x86_64 (some (unsuffixed s)) Abi.x86_64.index = some n

theorem namedAlike_iff (n : Addr .x86_64) : NamedAlike n ↔ ¬Misnamed n.toInt := by
  by_cases hn : 0 ≤ n.toInt ∧ n.toInt < 512
  · obtain ⟨k, hk⟩ := Int.eq_ofNat_of_zero_le hn.1
    have hrow := row_classified (k := k) (by omega)
    simp only [NamedAlike, hn.2, pinkNameSyscall_row (by decide) hk, sysentVec, true_implies]
    rw [hk]
    cases h64 : syscallentX86_64[k]?.join with
    | none =>
      rw [h64] at hrow
      refine ⟨fun _ => ?_, fun _ s h => absurd h (by simp)⟩
      cases h32 : syscallentX32[k]?.join <;> rw [h32] at hrow
      · exact hrow
      · exact hrow.1
    | some u =>
      cases h32 : syscallentX32[k]?.join with
      | none => simpa [h64, h32] using hrow
      | some s =>
        rw [h64, h32] at hrow
        simpa using hrow.1
  · -- outside of the shared range there is nothing to compare, and no row is misnamed
    refine ⟨fun _ h => hn ?_, fun _ s hlt h => ?_⟩
    · rcases h with h | h <;> omega
    · obtain ⟨k, hk, -⟩ := (pinkNameSyscall_eq_some (by decide)).mp h
      exact absurd ⟨by omega, hlt⟩ hn

theorem foundAlike_iff (s : String) : FoundAlike s ↔
    ∀ n, pinkLookupSyscall .x86_64 (some s) Abi.x32.index = some n → ¬Misplaced n.toInt := by
  -- one number at a time; outside of the rows both sides hold
  refine forall_congr' fun n => imp_congr_right fun hfound => ?_
  by_cases hn : 0 ≤ n.toInt ∧ n.toInt < 512
  · obtain ⟨k, hk⟩ := Int.eq_ofNat_of_zero_le hn.1
    have hrow := row_classified (k := k) (by omega)
    have h32 := (pinkNameSyscall_row (by decide) hk s).mp
      ((pinkLookupSyscall_eq_some hn.1).mp hfound)
    simp only [sysentVec] at h32
    simp only [hn, true_implies, pinkLookupSyscall_eq_some hn.1,
      pinkNameSyscall_row (by decide) hk, sysentVec]
    rw [hk]
    cases h64 : syscallentX86_64[k]?.join with
    | none =>
      rw [h64, h32] at hrow
      simpa using hrow.2
    | some u =>
      rw [h64, h32] at hrow
      rw [Option.some.injEq, eq_comm]
      exact hrow.2
  · refine ⟨fun _ h => hn ?_, fun _ h0 hlt => absurd ⟨h0, hlt⟩ hn⟩
    rcases h with h | h | h <;> omega

/-- **Where x32 and `x86_64` number the shared calls alike**: everywhere but in the rows behind
    the missing comma. There are two parts, since a row out of place spoils a number and a name,
    and these are not the same rows. -/
theorem numberedAlike_iff (n : Addr .x86_64) (s : String) :
    (NamedAlike n ↔ ¬Misnamed n.toInt) ∧
      (FoundAlike s ↔ ∀ m, pinkLookupSyscall .x86_64 (some s) Abi.x32.index = some m →
        ¬Misplaced m.toInt) :=
  ⟨namedAlike_iff n, foundAlike_iff s⟩

/-- Call 244 is `mq_notify`, but x32 names it by the joined string; call 248 is `add_key`, but
    x32 finds that at 247. -/
theorem mq_notify_joined :
    pinkNameSyscall .x86_64 244 Abi.x86_64.index = some (some "mq_notify") ∧
      pinkNameSyscall .x86_64 244 Abi.x32.index = some (some "mq_notify#64mq_getsetattr") ∧
      ¬NamedAlike 244 ∧
      pinkLookupSyscall .x86_64 (some "add_key") Abi.x32.index = some 247 ∧
      pinkLookupSyscall .x86_64 (some "add_key") Abi.x86_64.index = some 248 ∧
      ¬FoundAlike "add_key" := by
  have h64 : pinkNameSyscall .x86_64 244 Abi.x86_64.index = some (some "mq_notify") := by
    decide +kernel
  have h32 : pinkNameSyscall .x86_64 244 Abi.x32.index =
      some (some "mq_notify#64mq_getsetattr") := by
    decide +kernel
  have hfound32 : pinkLookupSyscall .x86_64 (some "add_key") Abi.x32.index = some 247 :=
    (pinkLookupSyscall_eq_some (by decide)).mpr (by decide +kernel)
  have hfound64 : pinkLookupSyscall .x86_64 (some "add_key") Abi.x86_64.index = some 248 :=
    (pinkLookupSyscall_eq_some (by decide)).mpr (by decide +kernel)
  refine ⟨h64, h32, fun h => ?_, hfound32, hfound64, fun h => ?_⟩
  · have hnamed := h "mq_notify" (by decide) h64
    rw [h32] at hnamed
    exact absurd hnamed (by decide +kernel)
  · have hfound := h 247 hfound32 (by decide) (by decide)
    rw [unsuffixed_of_hashless (by decide +kernel), hfound64] at hfound
    exact absurd hfound (by decide)

end PinkTrace
