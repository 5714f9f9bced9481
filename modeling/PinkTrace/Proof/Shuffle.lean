import Mathlib.Data.Set.Function
import PinkTrace.Name

/-!
# The shuffle of system call numbers (`shuffle_scno`)

ARM has seven calls whose numbers lie far behind all others, and its table has their names in
the seven rows behind the ordinary calls. `shuffle_scno` exchanges the numbers with the rows. It
is applied to a number before it is looked up and to a row after it was found, which is why the
comment over it asks for an involution.

Four tests in a row decide what a number is, and the bounds of two of them come from the table's
file. What has to be seen is that no number passes two of them, and that what one test sends
away another sends back; `shuffled` is the same case distinction on natural numbers, where
nothing wraps around, and there it is seen.
-/

set_option autoImplicit false

namespace PinkTrace

variable {arch : Arch}

/-- What `shuffle_scno` does to a number on an ARM build. The same tests in the same order,
    without the width. -/
def shuffled (n : Nat) : Nat :=
  if n < armFirstShuffledSyscall then n
  else if n = armFirstShuffledSyscall then 0x000ffff0
  else if n = 0x000ffff0 then armFirstShuffledSyscall
  else if 0x000f0000 ≤ n ∧ n ≤ 0x000f0000 + armLastSpecialSyscall then
    n - 0x000f0000 + armSecondShuffledSyscall
  else if n ≤ armSecondShuffledSyscall + armLastSpecialSyscall then
    n + 0x000f0000 - armSecondShuffledSyscall
  else n

/-- Here the involution is a matter of cases: each of the five sends a number to where another one
    sends it back. -/
theorem shuffled_shuffled (n : Nat) : shuffled (shuffled n) = n := by
  simp only [shuffled, armFirstShuffledSyscall, armSecondShuffledSyscall, armLastSpecialSyscall]
  grind

section

variable {n : Nat}

/-- The rows go to numbers… -/
theorem shuffled_of_row (hlo : armFirstShuffledSyscall ≤ n)
    (hhi : n ≤ armFirstShuffledSyscall + 1 + armLastSpecialSyscall) :
    shuffled n = 0x000ffff0 ∨
      0x000f0000 ≤ shuffled n ∧ shuffled n ≤ 0x000f0000 + armLastSpecialSyscall := by
  simp only [shuffled, armFirstShuffledSyscall, armSecondShuffledSyscall,
    armLastSpecialSyscall] at hlo hhi ⊢
  grind

/-- …the numbers to rows… -/
theorem shuffled_of_number (h : n = 0x000ffff0 ∨
    0x000f0000 ≤ n ∧ n ≤ 0x000f0000 + armLastSpecialSyscall) :
    armFirstShuffledSyscall ≤ shuffled n ∧
      shuffled n ≤ armFirstShuffledSyscall + 1 + armLastSpecialSyscall := by
  simp only [shuffled, armFirstShuffledSyscall, armSecondShuffledSyscall,
    armLastSpecialSyscall] at h ⊢
  grind

/-- …and everything else stays. -/
theorem shuffled_of_neither
    (hrow : ¬ (armFirstShuffledSyscall ≤ n ∧
      n ≤ armFirstShuffledSyscall + 1 + armLastSpecialSyscall))
    (hnumber : ¬ (n = 0x000ffff0 ∨
      0x000f0000 ≤ n ∧ n ≤ 0x000f0000 + armLastSpecialSyscall)) : shuffled n = n := by
  simp only [shuffled, armFirstShuffledSyscall, armSecondShuffledSyscall,
    armLastSpecialSyscall] at hrow hnumber ⊢
  grind

end

/-- Nothing wraps around: all of the constants are far below `2^32`, and a number that is moved is
    one of fourteen. -/
theorem toNat_shuffleScno (h : arch = .arm ∨ arch = .aarch64) (scno : Addr arch) :
    (shuffleScno arch scno).toNat = shuffled scno.toNat := by
  have hlt := scno.isLt
  have hM : 2 ^ 32 ≤ 2 ^ arch.longBits := by
    rcases arch.sizes with ⟨-, hM⟩ | ⟨-, hM⟩ <;> omega
  rw [shuffleScno, if_pos h, shuffled]
  -- the tests of the source, in its order
  by_cases h1 : scno.toNat < armFirstShuffledSyscall
  · rw [if_pos h1, if_pos h1]
  rw [if_neg h1, if_neg h1]
  by_cases h2 : scno.toNat = armFirstShuffledSyscall
  · rw [if_pos h2, if_pos h2, BitVec.toNat_ofNat, Nat.mod_eq_of_lt (by omega)]
  rw [if_neg h2, if_neg h2]
  by_cases h3 : scno.toNat = 0x000ffff0
  · rw [if_pos h3, if_pos h3, BitVec.toNat_ofNat, Nat.mod_eq_of_lt (by omega)]
  rw [if_neg h3, if_neg h3]
  by_cases h4 : 0x000f0000 ≤ scno.toNat ∧ scno.toNat ≤ 0x000f0000 + armLastSpecialSyscall
  · rw [if_pos h4, if_pos h4]
    simp only [BitVec.toNat_add, BitVec.toNat_sub, BitVec.toNat_ofNat, armFirstShuffledSyscall,
      armSecondShuffledSyscall, armLastSpecialSyscall] at h4 ⊢
    rcases arch.sizes with ⟨-, hM⟩ | ⟨-, hM⟩ <;> rw [hM] <;> omega
  rw [if_neg h4, if_neg h4]
  by_cases h5 : scno.toNat ≤ armSecondShuffledSyscall + armLastSpecialSyscall
  · rw [if_pos h5, if_pos h5]
    simp only [BitVec.toNat_add, BitVec.toNat_sub, BitVec.toNat_ofNat, armFirstShuffledSyscall,
      armSecondShuffledSyscall, armLastSpecialSyscall] at h1 h2 h5 ⊢
    rcases arch.sizes with ⟨-, hM⟩ | ⟨-, hM⟩ <;> rw [hM] <;> omega
  rw [if_neg h5, if_neg h5]

/-- **The shuffle is an involution.** -/
theorem shuffleScno_shuffleScno (arch : Arch) (scno : Addr arch) :
    shuffleScno arch (shuffleScno arch scno) = scno := by
  by_cases h : arch = .arm ∨ arch = .aarch64
  · apply BitVec.eq_of_toNat_eq
    rw [toNat_shuffleScno h, toNat_shuffleScno h, shuffled_shuffled]
  · simp only [shuffleScno, if_neg h]

/-! ## Rows and numbers -/

/-- The rows of the ARM table behind the ordinary calls: `cmpxchg`, and the calls `0` to
    `ARM_LAST_SPECIAL_SYSCALL` that are ARM's own. -/
def shuffledRows (arch : Arch) : Set (Addr arch) :=
  {n | armFirstShuffledSyscall ≤ n.toNat ∧
    n.toNat ≤ armFirstShuffledSyscall + 1 + armLastSpecialSyscall}

/-- The numbers of these calls. -/
def privateNumbers (arch : Arch) : Set (Addr arch) :=
  {n | n.toNat = 0x000ffff0 ∨
    0x000f0000 ≤ n.toNat ∧ n.toNat ≤ 0x000f0000 + armLastSpecialSyscall}

/-- `f` exchanges `s` with `t`, and moves nothing else. Involutive alone would not do: a function
    that moves other pairs as well is that, too. -/
structure Exchanges {α : Type} (f : α → α) (s t : Set α) : Prop where
  involutive : Function.Involutive f
  bijOn : Set.BijOn f s t
  fixed : ∀ x, x ∉ s → x ∉ t → f x = x

theorem shuffleScno_mapsTo_numbers (h : arch = .arm ∨ arch = .aarch64) :
    Set.MapsTo (shuffleScno arch) (shuffledRows arch) (privateNumbers arch) := by
  rintro n ⟨hlo, hhi⟩
  show (shuffleScno arch n).toNat = _ ∨ _ ≤ (shuffleScno arch n).toNat ∧ _
  rw [toNat_shuffleScno h]
  exact shuffled_of_row hlo hhi

theorem shuffleScno_mapsTo_rows (h : arch = .arm ∨ arch = .aarch64) :
    Set.MapsTo (shuffleScno arch) (privateNumbers arch) (shuffledRows arch) := by
  intro n hn
  show _ ≤ (shuffleScno arch n).toNat ∧ _
  rw [toNat_shuffleScno h]
  exact shuffled_of_number hn

theorem shuffleScno_of_notMem (h : arch = .arm ∨ arch = .aarch64) {n : Addr arch}
    (hrow : n ∉ shuffledRows arch) (hnumber : n ∉ privateNumbers arch) :
    shuffleScno arch n = n := by
  apply BitVec.eq_of_toNat_eq
  rw [toNat_shuffleScno h]
  exact shuffled_of_neither hrow hnumber

/-- On either ARM build. The direction from rows to numbers is a bijection because the way back is
    its inverse. -/
theorem shuffleScno_exchanges (h : arch = .arm ∨ arch = .aarch64) :
    Exchanges (shuffleScno arch) (shuffledRows arch) (privateNumbers arch) where
  involutive := shuffleScno_shuffleScno arch
  bijOn := by
    refine Set.InvOn.bijOn ⟨?_, ?_⟩ (shuffleScno_mapsTo_numbers h) (shuffleScno_mapsTo_rows h)
    · exact fun n _ => shuffleScno_shuffleScno arch n
    · exact fun n _ => shuffleScno_shuffleScno arch n
  fixed := fun _ hrow hnumber => shuffleScno_of_notMem h hrow hnumber

/-- **The shuffle exchanges the seven rows with the seven numbers**, one for one, and nothing
    else: for the 64-bit numbers of an AArch64 build and for the 32-bit ones of an ARM build. So
    one function serves in both directions, and the code uses it so. -/
theorem rows_and_numbers_exchanged :
    Exchanges (shuffleScno .aarch64) (shuffledRows .aarch64) (privateNumbers .aarch64) ∧
      Exchanges (shuffleScno .arm) (shuffledRows .arm) (privateNumbers .arm) :=
  ⟨shuffleScno_exchanges (Or.inr rfl), shuffleScno_exchanges (Or.inl rfl)⟩

end PinkTrace
