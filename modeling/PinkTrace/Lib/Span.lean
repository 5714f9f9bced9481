import Mathlib.Algebra.Group.Int.Defs
import Mathlib.Algebra.Group.Nat.Defs

/-!
# Spans of a wrapping address space

Addresses are `BitVec n`, and the bytes `[a, a + len)` of a memory are the `len` addresses met by
walking up from `a`, wrapping at `2 ^ n`. Everything here is phrased through the two maps between
an address and its distance from a base:

* `ahead a i` is the address `i` bytes above `a`;
* `gap b a` is how far above `a` the address `b` lies, always below `2 ^ n`.

They are inverse to each other up to the wrap (`ahead_gap`, `gap_ahead`), and that is the whole
arithmetic a proof about word-by-word copying needs: an address inside a span is a number below
its length, so the bookkeeping of a copying loop becomes linear arithmetic over `Nat`.

## Why the wrap is kept

Assuming that a range does not reach the end of the address space would make `ahead` a plain sum
and most of this file superfluous. But code that copies does not check for it, and a pointer that
comes from another process may be anything. So a span may wrap, its bytes are still the ones the
loop visits, and only a theorem that compares addresses by size (`toNat_ahead`) has to ask that it
does not.

Buffers on the other side of a transfer are `Bytes`, functions on offsets: they have no addresses,
cannot wrap, and have no end but the one the caller gave.
-/

set_option autoImplicit false

namespace Lib

variable {n : Nat}

/-- The address `i` bytes above `a`. -/
def ahead (a : BitVec n) (i : Nat) : BitVec n := a + BitVec.ofNat n i

/-- How many bytes above `a` the address `b` lies. -/
def gap (b a : BitVec n) : Nat := (b - a).toNat

@[simp] theorem ahead_zero (a : BitVec n) : ahead a 0 = a := by
  simp [ahead]

theorem ahead_ahead (a : BitVec n) (i j : Nat) : ahead (ahead a i) j = ahead a (i + j) := by
  simp only [ahead, BitVec.ofNat_add, BitVec.add_assoc]

theorem gap_lt (b a : BitVec n) : gap b a < 2 ^ n := (b - a).isLt

@[simp] theorem ahead_gap (b a : BitVec n) : ahead a (gap b a) = b := by
  simp only [ahead, gap, BitVec.ofNat_toNat, BitVec.setWidth_eq]
  rw [BitVec.add_comm, BitVec.sub_add_cancel]

theorem gap_ahead (a : BitVec n) {i : Nat} (hi : i < 2 ^ n) : gap (ahead a i) a = i := by
  simp only [gap, ahead]
  rw [BitVec.add_comm, BitVec.add_sub_cancel, BitVec.toNat_ofNat, Nat.mod_eq_of_lt hi]

/-- Rebasing: a span's address, measured from a point inside the span. -/
theorem gap_ahead_ahead (a : BitVec n) {i j : Nat} (hji : j ≤ i) (hi : i - j < 2 ^ n) :
    gap (ahead a i) (ahead a j) = i - j := by
  rw [show i = j + (i - j) by omega, ← ahead_ahead, gap_ahead _ (by omega)]
  omega

/-- …and measured from a point above it, where the walk has to wrap. -/
theorem gap_ahead_ahead_of_lt (a : BitVec n) {i j : Nat} (hij : i < j) (hj : j - i < 2 ^ n) :
    gap (ahead a i) (ahead a j) = 2 ^ n - (j - i) := by
  have hwrap : ahead a i = ahead (ahead a j) (2 ^ n - (j - i)) := by
    have hfull : BitVec.ofNat n (2 ^ n) = 0#n := by
      apply BitVec.eq_of_toNat_eq
      rw [BitVec.toNat_ofNat, BitVec.toNat_ofNat, Nat.mod_self, Nat.zero_mod]
    rw [ahead_ahead, show j + (2 ^ n - (j - i)) = i + 2 ^ n by omega, ← ahead_ahead]
    simp only [ahead, hfull, BitVec.add_zero]
  rw [hwrap, gap_ahead _ (by omega)]

/-- The same with the address given and not its offset: rebasing at a point that is not above it…
    -/
theorem gap_ahead_right {a b : BitVec n} {j : Nat} (h : j ≤ gap b a) :
    gap b (ahead a j) = gap b a - j := by
  have hlt := gap_lt b a
  have hrebase := gap_ahead_ahead a h (by omega)
  rwa [ahead_gap] at hrebase

/-- …and at one that is. The two together compute a gap from any base inside a span, which is how
    a byte is located in the word that was stored over it. -/
theorem gap_ahead_right_of_lt {a b : BitVec n} {j : Nat} (h : gap b a < j)
    (hj : j - gap b a < 2 ^ n) : gap b (ahead a j) = 2 ^ n - (j - gap b a) := by
  have hrebase := gap_ahead_ahead_of_lt a h hj
  rwa [ahead_gap] at hrebase

/-- Addresses compare like numbers as long as nothing wraps. -/
theorem toNat_ahead (a : BitVec n) {i : Nat} (h : a.toNat + i < 2 ^ n) :
    (ahead a i).toNat = a.toNat + i := by
  have hi : i < 2 ^ n := by omega
  simp only [ahead, BitVec.toNat_add, BitVec.toNat_ofNat, Nat.mod_eq_of_lt hi,
    Nat.mod_eq_of_lt h]

/-! ## Alignment -/

/-- `a & (2^e - 1)` is a remainder. Masks are how C code aligns, remainders are what `omega`
    understands. -/
theorem toNat_and_mask {e : Nat} (a : BitVec n) (he : e ≤ n) :
    (a &&& BitVec.ofNat n (2 ^ e - 1)).toNat = a.toNat % 2 ^ e := by
  have hlt : 2 ^ e - 1 < 2 ^ n := by
    have := Nat.pow_le_pow_right (by decide : 0 < 2) he
    have := Nat.two_pow_pos e
    omega
  rw [BitVec.toNat_and, BitVec.toNat_ofNat, Nat.mod_eq_of_lt hlt,
    Nat.and_two_pow_sub_one_eq_mod]

/-- `a & -2^e` and `a & (2^e - 1)` split an address into its aligned part and its residue. -/
theorem and_neg_add_and_mask (e : Nat) (a : BitVec n) :
    (a &&& -BitVec.ofNat n (2 ^ e)) + (a &&& BitVec.ofNat n (2 ^ e - 1)) = a := by
  have hneg : -BitVec.ofNat n (2 ^ e) = ~~~BitVec.ofNat n (2 ^ e - 1) := by
    have hpos := Nat.two_pow_pos e
    rw [BitVec.not_eq_neg_add, ← BitVec.neg_add, ← BitVec.ofNat_add]
    congr 2
    omega
  rw [hneg, BitVec.add_eq_or_of_and_eq_zero]
  · ext i hi
    simp only [BitVec.getElem_or, BitVec.getElem_and, BitVec.getElem_not]
    cases a[i] <;> simp
  · ext i hi
    simp only [BitVec.getElem_and, BitVec.getElem_not, BitVec.getElem_zero]
    cases a[i] <;> simp

/-- The aligned part as a number: what is left without the remainder. No wrap can have happened,
    since both parts are at most the address. -/
theorem toNat_and_neg {e : Nat} (a : BitVec n) (he : e ≤ n) :
    (a &&& -BitVec.ofNat n (2 ^ e)).toNat = a.toNat - a.toNat % 2 ^ e := by
  have hle : (a &&& -BitVec.ofNat n (2 ^ e)).toNat ≤ a.toNat := by
    rw [BitVec.toNat_and]
    exact Nat.and_le_left
  have hsum := congrArg BitVec.toNat (and_neg_add_and_mask e a)
  rw [BitVec.toNat_add, toNat_and_mask a he] at hsum
  have hmod := Nat.mod_le a.toNat (2 ^ e)
  have := a.isLt
  -- the two parts add up to `a` modulo `2 ^ n`, and each is at most `a`: no wrap happened
  rcases Nat.lt_or_ge ((a &&& -BitVec.ofNat n (2 ^ e)).toNat + a.toNat % 2 ^ e) (2 ^ n) with h | h
  · rw [Nat.mod_eq_of_lt h] at hsum
    omega
  · rw [Nat.mod_eq_sub_mod h, Nat.mod_eq_of_lt (by omega)] at hsum
    omega

/-! ## Bytes behind a pointer -/

/-- The bytes found from a pointer on. -/
abbrev Bytes := Nat → UInt8

/-- `memcpy(dst + off, src, m)`. -/
def copy (dst : Bytes) (off : Nat) (src : Bytes) (m : Nat) : Bytes :=
  fun i => if off ≤ i ∧ i < off + m then src (i - off) else dst i

theorem copy_of_lt {dst src : Bytes} {off m i : Nat} (h₁ : off ≤ i) (h₂ : i < off + m) :
    copy dst off src m i = src (i - off) := if_pos ⟨h₁, h₂⟩

theorem copy_of_not {dst src : Bytes} {off m i : Nat} (h : ¬ (off ≤ i ∧ i < off + m)) :
    copy dst off src m i = dst i := if_neg h

@[simp] theorem copy_zero (dst : Bytes) (off : Nat) (src : Bytes) : copy dst off src 0 = dst := by
  funext i
  exact copy_of_not (by omega)

/-- Two copies that meet are one. This is the step of every loop that copies from the front: what
    it has copied so far is a copy of a longer piece. -/
theorem copy_copy (dst src : Bytes) (c m : Nat) :
    copy (copy dst 0 src c) c (fun i => src (c + i)) m = copy dst 0 src (c + m) := by
  funext i
  rcases Nat.lt_or_ge i c with hi | hi
  · rw [copy_of_not (by omega), copy_of_lt (Nat.zero_le i) (by omega),
      copy_of_lt (Nat.zero_le i) (by omega)]
  · rcases Nat.lt_or_ge i (c + m) with hi' | hi'
    · rw [copy_of_lt hi hi', copy_of_lt (Nat.zero_le i) (by omega)]
      congr 1
      omega
    · rw [copy_of_not (by omega), copy_of_not (by omega), copy_of_not (by omega)]

/-! ## Memory -/

/-- A byte-addressed memory with `n`-bit addresses. -/
abbrev Memory (n : Nat) := BitVec n → UInt8

/-- The bytes of a memory from an address on: the view a transfer has of it. -/
def Memory.from (mem : Memory n) (a : BitVec n) : Bytes := fun i => mem (ahead a i)

/-- Store the first `m` bytes behind a pointer at `a`. Stated through `gap`, so that it is right
    for a range that wraps. -/
def Memory.store (mem : Memory n) (a : BitVec n) (v : Bytes) (m : Nat) : Memory n :=
  fun b => if gap b a < m then v (gap b a) else mem b

theorem Memory.store_ahead (mem : Memory n) (a : BitVec n) (v : Bytes) {m i : Nat}
    (hi : i < m) (hn : i < 2 ^ n) : mem.store a v m (ahead a i) = v i := by
  simp only [Memory.store, gap_ahead a hn, if_pos hi]

theorem Memory.store_of_le (mem : Memory n) {a b : BitVec n} (v : Bytes) {m : Nat}
    (h : m ≤ gap b a) : mem.store a v m b = mem b := if_neg (by omega)

/-! ## Leading runs -/

/-- How many of `p 0, …, p (m - 1)` hold before the first that does not. How far a request into
    another address space gets is this, with `p` for "the page is there". -/
def leading (p : Nat → Bool) : Nat → Nat
  | 0 => 0
  | m + 1 => if p 0 then leading (fun i => p (i + 1)) m + 1 else 0

theorem leading_le (p : Nat → Bool) (m : Nat) : leading p m ≤ m := by
  induction m generalizing p with
  | zero => exact Nat.le_refl 0
  | succ m ih =>
    rw [leading]
    split
    · exact Nat.succ_le_succ (ih _)
    · exact Nat.zero_le _

theorem leading_holds {p : Nat → Bool} {m i : Nat} (hi : i < leading p m) : p i = true := by
  induction m generalizing p i with
  | zero => exact absurd hi (Nat.not_lt_zero i)
  | succ m ih =>
    rw [leading] at hi
    split at hi
    · rename_i h0
      cases i with
      | zero => exact h0
      | succ i => exact ih (p := fun i => p (i + 1)) (by omega)
    · exact absurd hi (Nat.not_lt_zero i)

theorem leading_stops {p : Nat → Bool} {m : Nat} (h : leading p m < m) :
    p (leading p m) = false := by
  induction m generalizing p with
  | zero => exact absurd h (Nat.not_lt_zero _)
  | succ m ih =>
    rw [leading] at h ⊢
    split at h
    · rename_i h0
      rw [if_pos h0]
      exact ih (p := fun i => p (i + 1)) (by omega)
    · rename_i h0
      rw [if_neg h0]
      exact Bool.eq_false_iff.mpr h0

theorem le_leading {p : Nat → Bool} {m k : Nat} (hk : k ≤ m) (hp : ∀ i, i < k → p i = true) :
    k ≤ leading p m := by
  refine Nat.le_of_not_lt fun h => ?_
  have hfalse := leading_stops (Nat.lt_of_lt_of_le h hk)
  rw [hp _ h] at hfalse
  exact absurd hfalse (by simp)

/-- The number is known as soon as all before it hold and, if it is not the end, it does not. -/
theorem leading_unique {p : Nat → Bool} {m k : Nat} (hk : k ≤ m) (hp : ∀ i, i < k → p i = true)
    (hs : k < m → p k = false) : leading p m = k := by
  refine Nat.le_antisymm (Nat.le_of_not_lt fun h => ?_) (le_leading hk hp)
  have htrue := leading_holds h
  rw [hs (Nat.lt_of_lt_of_le h (leading_le p m))] at htrue
  exact absurd htrue (by simp)

theorem leading_eq_of_forall {p : Nat → Bool} {m : Nat} (h : ∀ i, i < m → p i = true) :
    leading p m = m :=
  leading_unique (Nat.le_refl m) h (fun hm => absurd hm (Nat.lt_irrefl m))

/-- A shorter request gets as far, up to its own length. -/
theorem leading_of_le {p : Nat → Bool} {m k : Nat} (hk : k ≤ m) :
    leading p k = min (leading p m) k := by
  refine leading_unique (Nat.min_le_right ..) (fun i hi => leading_holds (m := m) (by omega))
    (fun hlt => ?_)
  rw [Nat.min_eq_left (by omega)]
  exact leading_stops (by omega)

/-- Either none of the first `m` fails, or there is a first one that does. -/
theorem forall_none_or_first {α : Type} (f : Nat → Option α) (m : Nat) :
    (∀ k, k < m → f k = none) ∨
      ∃ j e, j < m ∧ (∀ k, k < j → f k = none) ∧ f j = some e := by
  induction m with
  | zero => exact Or.inl fun k hk => absurd hk (Nat.not_lt_zero k)
  | succ m ih =>
    rcases ih with hall | ⟨j, e, hj, hbefore, he⟩
    · cases he : f m with
      | none =>
        refine Or.inl fun k hk => ?_
        rcases Nat.lt_succ_iff_lt_or_eq.mp hk with hlt | rfl
        · exact hall k hlt
        · exact he
      | some e => exact Or.inr ⟨m, e, Nat.lt_succ_self m, hall, he⟩
    · exact Or.inr ⟨j, e, Nat.lt_succ_of_lt hj, hbefore, he⟩

end Lib
