import PinkTrace.Vm

/-!
# Where a word-wise loop stands after `k` passes

The three `pink_vm_l*` loops move the same cursor, so what it holds after `k` passes is settled
here, once. Measured from the aligned word the address lies in, the `k`-th pass handles the word
at distance `k * sizeof(long)`, and has behind it everything below that distance less the bytes
before the address. Truncated subtraction says the first pass apart for free:

    off after k passes = min (sizeof(long) * k - skew) len

`Cursor.after` is that closed form, `after_next` is the step lemma (one pass of the source's
updates takes it from `k` to `k + 1`) and `lt_rounds_iff` says for how long there is a next pass.

## Why a closed form and not an invariant

An invariant relates the variables to each other; here each of them is a function of the number of
passes, whatever the kernel does. So no proof about these loops has to carry the five variables
through an induction. It asks what they are after `k` passes and is told. The kernel's part, which
words could be peeked, is then the only thing left to case on. (The chunked reader is different in
exactly this: see `CreadNul`.)

Everything is measured from `wordBase` and not from the address, because a word is handled as a
whole. The difference is `skew`.
-/

set_option autoImplicit false

namespace PinkTrace

open Lib

variable {arch : Arch}

/-- The aligned word an address lies in: where the first peek or poke goes. -/
def wordBase (addr : Addr arch) : Addr arch := addr &&& -BitVec.ofNat _ arch.sizeofLong

/-- How far into that word it lies. The source computes it once, as `residue`, and this is its
    value then. -/
def skew (addr : Addr arch) : Nat := addr.toNat % arch.sizeofLong

theorem skew_lt (addr : Addr arch) : skew addr < arch.sizeofLong :=
  Nat.mod_lt _ arch.sizeofLong_pos

theorem toNat_wordBase (addr : Addr arch) : (wordBase addr).toNat = addr.toNat - skew addr := by
  obtain ⟨e, he, hw⟩ := arch.sizeofLong_eq_two_pow
  simp only [wordBase, skew, hw]
  exact toNat_and_neg addr he

theorem start_residue (addr : Addr arch) (len : Nat) :
    (Cursor.start addr len).residue = skew addr := by
  obtain ⟨e, he, hw⟩ := arch.sizeofLong_eq_two_pow
  simp only [Cursor.start, skew, hw]
  exact toNat_and_mask addr he

/-- The two parts make up the address again. A simp lemma, since distances from the base turn up
    wherever a word is opened. -/
@[simp] theorem ahead_wordBase (addr : Addr arch) : ahead (wordBase addr) (skew addr) = addr := by
  obtain ⟨e, he, hw⟩ := arch.sizeofLong_eq_two_pow
  have hsplit := and_neg_add_and_mask e addr
  have hmask : addr &&& BitVec.ofNat _ (2 ^ e - 1) = BitVec.ofNat _ (addr.toNat % 2 ^ e) := by
    apply BitVec.eq_of_toNat_eq
    have hlt : addr.toNat % 2 ^ e < 2 ^ arch.longBits :=
      Nat.lt_of_le_of_lt (Nat.mod_le _ _) addr.isLt
    rw [toNat_and_mask addr he, BitVec.toNat_ofNat, Nat.mod_eq_of_lt hlt]
  simp only [ahead, wordBase, skew, hw]
  rwa [hmask] at hsplit

theorem ahead_wordBase_add (addr : Addr arch) (i : Nat) :
    ahead (wordBase addr) (skew addr + i) = ahead addr i := by
  rw [← ahead_ahead, ahead_wordBase]

/-- The cursor stays aligned: `addr &= -sizeof(long)` changes nothing from the second pass on. -/
theorem wordBase_ahead (addr : Addr arch) (k : Nat) :
    wordBase (ahead (wordBase addr) (arch.sizeofLong * k))
      = ahead (wordBase addr) (arch.sizeofLong * k) := by
  have hzero : skew (ahead (wordBase addr) (arch.sizeofLong * k)) = 0 := by
    have hbase := toNat_wordBase addr
    have hskew : skew addr = addr.toNat % arch.sizeofLong := rfl
    simp only [skew, ahead, BitVec.toNat_add, BitVec.toNat_ofNat, hbase]
    rcases arch.sizes with ⟨hw, hM⟩ | ⟨hw, hM⟩ <;>
      · rw [hM]; rw [hw] at hskew ⊢; omega
  have hsplit := ahead_wordBase (ahead (wordBase addr) (arch.sizeofLong * k))
  rwa [hzero, ahead_zero] at hsplit

/-- The `k`-th aligned word from the one an address lies in. It may be past the end of the address
    space, and is then one at its beginning. -/
def wordAt (addr : Addr arch) (k : Nat) : Addr arch :=
  ahead (wordBase addr) (arch.sizeofLong * k)

theorem wordBase_of_lt {b : Addr arch} (hb : wordBase b = b) {j : Nat}
    (hj : j < arch.sizeofLong) : wordBase (ahead b j) = b := by
  have hskew : b.toNat % arch.sizeofLong = 0 := by
    have := toNat_wordBase b
    have hle := Nat.mod_le b.toNat arch.sizeofLong
    rw [hb] at this
    unfold skew at this
    omega
  have hfit : b.toNat + j < 2 ^ arch.longBits := by
    have := b.isLt
    rcases arch.sizes with ⟨hw, hM⟩ | ⟨hw, hM⟩ <;>
      · rw [hw] at hskew hj; omega
  apply BitVec.eq_of_toNat_eq
  rw [toNat_wordBase, skew, toNat_ahead b hfit, Nat.add_mod, hskew, Nat.zero_add, Nat.mod_mod,
    Nat.mod_eq_of_lt hj, Nat.add_sub_cancel]

/-- Which word the `i`-th byte of a range lies in. This is how a statement about bytes becomes one
    about passes. -/
theorem wordBase_ahead_eq (addr : Addr arch) (i : Nat) :
    wordBase (ahead addr i) = wordAt addr ((skew addr + i) / arch.sizeofLong) := by
  rw [← ahead_wordBase_add addr i, ← Nat.div_add_mod (skew addr + i) arch.sizeofLong,
    ← ahead_ahead]
  rw [wordBase_of_lt (wordBase_ahead addr _) (Nat.mod_lt _ arch.sizeofLong_pos), wordAt]
  congr 2
  rw [Nat.div_add_mod]

/-! ## The closed form -/

namespace Cursor

/-- How many bytes are behind the cursor after `k` passes: those of `k` words, less the ones in
    front of the address, and never more than were asked for. -/
def doneAfter (addr : Addr arch) (len k : Nat) : Nat :=
  min (arch.sizeofLong * k - skew addr) len

/-- The cursor after `k` passes. The address is the caller's at first and aligned from then on;
    all other fields are uniform in `k`. -/
def after (addr : Addr arch) (len k : Nat) : Cursor arch where
  addr := if k = 0 then addr else wordAt addr k
  off := doneAfter addr len k
  len := len - doneAfter addr len k
  residue := skew addr - arch.sizeofLong * k
  count := doneAfter addr len k % 2 ^ 32

/-- How many passes there are: the words overlapping `[addr, addr + len)`. Rounding up is right
    only if there is a byte at all, hence the case. -/
def rounds (addr : Addr arch) (len : Nat) : Nat :=
  if len = 0 then 0 else (skew addr + len + arch.sizeofLong - 1) / arch.sizeofLong

theorem after_zero (addr : Addr arch) (len : Nat) : after addr len 0 = start addr len := by
  have hres := start_residue addr len
  apply Cursor.ext
  · rfl
  · simp [after, doneAfter, start]
  · simp [after, doneAfter, start]
  · simp [after, hres]
  · simp [after, doneAfter, start]

theorem aligned_after (addr : Addr arch) (len k : Nat) :
    (after addr len k).aligned = wordAt addr k := by
  by_cases hk : k = 0
  · subst hk
    simp only [aligned, after, if_true, wordAt, Nat.mul_zero, ahead_zero]
    rfl
  · simp only [aligned, after, if_neg hk]
    exact wordBase_ahead addr k

/-- There is a next pass exactly while bytes are left, so the number of rounds can be used in
    place of the loop's condition. -/
theorem lt_rounds_iff {addr : Addr arch} {len k : Nat} :
    k < rounds addr len ↔ (after addr len k).len ≠ 0 := by
  have hskew := skew_lt addr
  simp only [rounds, after, doneAfter]
  rcases arch.sizes with ⟨hw, -⟩ | ⟨hw, -⟩ <;>
    · simp only [hw] at hskew ⊢; split <;> omega

/-- No pass is without a byte. It bounds the fuel by the length, which is what the results ask
    for. -/
theorem rounds_le (addr : Addr arch) (len : Nat) : rounds addr len ≤ len := by
  have hskew := skew_lt addr
  simp only [rounds]
  rcases arch.sizes with ⟨hw, -⟩ | ⟨hw, -⟩ <;>
    · simp only [hw] at hskew ⊢; split <;> omega

theorem rounds_mono (addr : Addr arch) {len len' : Nat} (h : len ≤ len') :
    rounds addr len ≤ rounds addr len' := by
  simp only [rounds]
  rcases arch.sizes with ⟨hw, -⟩ | ⟨hw, -⟩ <;>
    · simp only [hw]; split <;> split <;> omega

theorem mul_rounds {len : Nat} (addr : Addr arch) (h : 0 < len) :
    skew addr + len ≤ arch.sizeofLong * rounds addr len ∧
      arch.sizeofLong * rounds addr len < skew addr + len + arch.sizeofLong := by
  rw [rounds, if_neg (by omega)]
  rcases arch.sizes with ⟨hw, -⟩ | ⟨hw, -⟩ <;>
    · simp only [hw]; omega

/-- The words of a range do not lap the address space. Without this the last pass might meet a
    word that the first has already written. -/
theorem mul_rounds_le {len : Nat} (addr : Addr arch) (h : len < 2 ^ (arch.longBits - 1)) :
    arch.sizeofLong * rounds addr len ≤ 2 ^ arch.longBits := by
  have hmax := arch.two_mul_long_max
  have hskew := skew_lt addr
  rcases Nat.eq_zero_or_pos len with h0 | hpos
  · rw [rounds, if_pos h0]
    exact Nat.zero_le _
  · have hend := (mul_rounds addr hpos).2
    rcases arch.sizes with ⟨hw, hM⟩ | ⟨hw, hM⟩ <;>
      · simp only [hw] at hskew hend ⊢; omega

theorem len_after_rounds (addr : Addr arch) (len : Nat) :
    (after addr len (rounds addr len)).len = 0 :=
  Classical.not_not.mp (mt lt_rounds_iff.mpr (Nat.lt_irrefl _))

theorem doneAfter_rounds (addr : Addr arch) (len : Nat) :
    doneAfter addr len (rounds addr len) = len := by
  have hend := len_after_rounds addr len
  have hle : doneAfter addr len (rounds addr len) ≤ len := Nat.min_le_right ..
  simp only [after] at hend
  omega

/-- While a pass is to come, the bytes behind are not capped by `len`, and the pass starts in
    its word where the bytes behind end. -/
theorem word_position {addr : Addr arch} {len k : Nat} (hk : k < rounds addr len) :
    arch.sizeofLong * k + (after addr len k).residue = skew addr + (after addr len k).off := by
  have hlen := lt_rounds_iff.mp hk
  have hskew := skew_lt addr
  simp only [after, doneAfter] at hlen ⊢
  rcases arch.sizes with ⟨hw, -⟩ | ⟨hw, -⟩ <;>
    · simp only [hw] at hskew hlen ⊢
      omega

/-- What a pass hands over is what the next one has behind it. The arithmetic of the step lemma is
    all here. -/
theorem off_add_m {addr : Addr arch} {len k : Nat} (hk : k < rounds addr len) :
    (after addr len k).off + (after addr len k).m = doneAfter addr len (k + 1) := by
  have hlen := lt_rounds_iff.mp hk
  have hskew := skew_lt addr
  simp only [after, m, doneAfter] at hlen ⊢
  rcases arch.sizes with ⟨hw, -⟩ | ⟨hw, -⟩ <;>
    · simp only [hw] at hskew hlen ⊢
      omega

/-- A pass stays inside of its word. -/
theorem residue_add_m_le (addr : Addr arch) (len k : Nat) :
    (after addr len k).residue + (after addr len k).m ≤ arch.sizeofLong := by
  have hskew := skew_lt addr
  simp only [after, m]
  omega

/-- **The step lemma**: the updates at the end of a pass take the closed form from `k` to
    `k + 1`. -/
theorem after_next {addr : Addr arch} {len k : Nat} (hk : k < rounds addr len) :
    (after addr len k).next = after addr len (k + 1) := by
  have hadd := off_add_m hk
  have hskew := skew_lt addr
  apply Cursor.ext
  · show ahead (after addr len k).aligned arch.sizeofLong = (after addr len (k + 1)).addr
    rw [aligned_after, wordAt, ahead_ahead, after, if_neg (Nat.succ_ne_zero k), wordAt,
      Nat.mul_succ]
  · exact hadd
  · show len - doneAfter addr len k - (after addr len k).m = len - doneAfter addr len (k + 1)
    rw [← hadd, after, Nat.sub_add_eq]
  · show 0 = skew addr - arch.sizeofLong * (k + 1)
    rw [Nat.mul_succ]
    omega
  · show (doneAfter addr len k % 2 ^ 32 + (after addr len k).m) % 2 ^ 32 = _
    rw [Nat.mod_add_mod]
    exact congrArg (· % 2 ^ 32) hadd

end Cursor

end PinkTrace
