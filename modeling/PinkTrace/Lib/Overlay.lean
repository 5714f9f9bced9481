import PinkTrace.Lib.Span

/-!
# Records overlaid in memory

A C `union` of two structs is one array of bytes that both read their fields from, so an
assignment through one of them may change what the other holds. This library has the two
operations such code is made of, little-endian loads and stores of a field at an offset, and the
one theorem that converting a record into another *in place* needs.

The conversion is a list of assignments, run in order: the field at `dst` becomes the low bytes of
the field at `src`. It is right if no assignment destroys what a later one still needs, and
`overlay_load` says that this condition on the offsets alone (`Apart`, decidable) is enough,
whatever the bytes are.

## Fields are numbers, and offsets are not checked

A field is read as a natural number and stored as one, so that a theorem about registers never has
to mention bytes: `leLoad` of what `leStore` stored is the number, cut to the size of the field.
The union has no end here. That an offset lies inside the object is a fact about the two records,
and belongs to whoever lays them out.

Only the little-endian order occurs in overlaid records, so it is the only one here. A big-endian
field of a single object is a reversed one, and needs no library.
-/

set_option autoImplicit false

namespace Lib

/-! ## Little-endian fields -/

/-- The `n`-byte field at `off`, as a number. -/
def leLoad (u : Bytes) (off : Nat) : Nat → Nat
  | 0 => 0
  | n + 1 => (u off).toNat + 256 * leLoad u (off + 1) n

/-- The bytes of a number, lowest first. -/
def leBytes (v : Nat) : Bytes := fun j => UInt8.ofNat (v / 256 ^ j)

/-- Assign to the `n`-byte field at `off`. A number that does not fit is cut, as the assignment to
    a narrower integer cuts it. -/
def leStore (u : Bytes) (off n v : Nat) : Bytes := copy u off (leBytes v) n

theorem leLoad_lt (u : Bytes) (off n : Nat) : leLoad u off n < 256 ^ n := by
  induction n generalizing off with
  | zero => exact Nat.one_pos
  | succ n ih =>
    have hrest := ih (off + 1)
    have hbyte := (u off).toNat_lt
    rw [leLoad, Nat.pow_succ]
    omega

/-- A load depends on the bytes of its field and on nothing else. Both sides may be at their own
    offset, so the same lemma moves a field from one buffer to another. -/
theorem leLoad_congr {u u' : Bytes} {off off' n : Nat}
    (h : ∀ j, j < n → u (off + j) = u' (off' + j)) : leLoad u off n = leLoad u' off' n := by
  induction n generalizing off off' with
  | zero => rfl
  | succ n ih =>
    have hrest : leLoad u (off + 1) n = leLoad u' (off' + 1) n := by
      apply ih
      intro j hj
      have hnext := h (j + 1) (by omega)
      rwa [Nat.add_comm j 1, ← Nat.add_assoc, ← Nat.add_assoc] at hnext
    rw [leLoad, leLoad, hrest]
    have hfirst := h 0 (by omega)
    rw [Nat.add_zero, Nat.add_zero] at hfirst
    rw [hfirst]

/-- A field of `m + n` bytes is two fields, one after the other. -/
theorem leLoad_add (u : Bytes) (off m n : Nat) :
    leLoad u off (m + n) = leLoad u off m + 256 ^ m * leLoad u (off + m) n := by
  induction m generalizing off with
  | zero => simp [leLoad]
  | succ m ih =>
    have hoff : off + 1 + m = off + (m + 1) := by omega
    rw [Nat.add_right_comm, leLoad, ih, leLoad, Nat.pow_succ', hoff]
    grind

/-- A number laid out and loaded again is itself, cut to the bytes that were loaded. The proof is
    for every offset, since the bytes behind the first are those of the number divided. -/
theorem leLoad_leBytes (v n : Nat) : leLoad (leBytes v) 0 n = v % 256 ^ n := by
  have hshift : ∀ (n off : Nat), leLoad (leBytes v) off n = v / 256 ^ off % 256 ^ n := by
    intro n
    induction n with
    | zero =>
      intro off
      rw [leLoad, Nat.pow_zero, Nat.mod_one]
    | succ n ih =>
      intro off
      have hbyte : (leBytes v off).toNat = v / 256 ^ off % 256 := by
        simp [leBytes]
      rw [leLoad, ih, hbyte, Nat.pow_succ 256 off, ← Nat.div_div_eq_div_mul, Nat.pow_succ',
        Nat.mod_mul]
  rw [hshift, Nat.pow_zero, Nat.div_one]

/-- The bytes of the number a field holds are the bytes of the field. With `leLoad_leBytes` this
    makes fields and numbers two views of one thing. -/
theorem leBytes_leLoad (u : Bytes) {n j : Nat} (hj : j < n) :
    leBytes (leLoad u 0 n) j = u j := by
  have hshift : ∀ (n off j : Nat), j < n → leBytes (leLoad u off n) j = u (off + j) := by
    intro n
    induction n with
    | zero =>
      intro off j hj
      exact absurd hj (Nat.not_lt_zero j)
    | succ n ih =>
      intro off j hj
      have hbyte := (u off).toNat_lt
      cases j with
      | zero =>
        show leBytes (leLoad u off (n + 1)) 0 = u off
        rw [leBytes, leLoad, Nat.pow_zero, Nat.div_one]
        apply UInt8.toNat_inj.mp
        rw [UInt8.toNat_ofNat']
        omega
      | succ j =>
        have hrest : (leLoad u off (n + 1)) / 256 ^ (j + 1) = leLoad u (off + 1) n / 256 ^ j := by
          rw [leLoad, Nat.pow_succ', ← Nat.div_div_eq_div_mul]
          congr 1
          omega
        have htail := ih (off + 1) j (by omega)
        rw [leBytes] at htail ⊢
        rw [hrest, htail, Nat.add_assoc, Nat.add_comm 1 j]
  rw [hshift n 0 j hj, Nat.zero_add]

/-- A field inside a range that was copied is the field of the source. -/
theorem leLoad_copy {u src : Bytes} {off m a n : Nat} (hlo : a ≤ off)
    (hhi : off + n ≤ a + m) : leLoad (copy u a src m) off n = leLoad src (off - a) n := by
  apply leLoad_congr
  intro j hj
  rw [copy_of_lt (by omega) (by omega)]
  congr 1
  omega

theorem leLoad_leStore (u : Bytes) (off n v : Nat) :
    leLoad (leStore u off n v) off n = v % 256 ^ n := by
  rw [leStore, leLoad_copy (Nat.le_refl off) (Nat.le_refl _), Nat.sub_self, leLoad_leBytes]

/-- …and a field somewhere else is what it was. These two are all that an assignment through a
    union can do to a field, as long as it does not meet it halfway. -/
theorem leLoad_leStore_of_disjoint {u : Bytes} {off n v off' n' : Nat}
    (h : off' + n' ≤ off ∨ off + n ≤ off') :
    leLoad (leStore u off n v) off' n' = leLoad u off' n' := by
  apply leLoad_congr
  intro j hj
  exact copy_of_not (by omega)

/-! ## Arrays of fields -/

/-- The bytes of an array of `w`-byte fields: a whole register file, as a kernel copies it out. -/
def leArray (w : Nat) (f : Nat → Nat) : Bytes := fun i => leBytes (f (i / w)) (i % w)

theorem leLoad_leArray {w k : Nat} {f : Nat → Nat} (hw : 0 < w) :
    leLoad (leArray w f) (w * k) w = f k % 256 ^ w := by
  rw [← leLoad_leBytes]
  apply leLoad_congr
  intro j hj
  rw [leArray, Nat.mul_add_div hw, Nat.div_eq_of_lt hj, Nat.add_zero, Nat.mul_add_mod,
    Nat.mod_eq_of_lt hj, Nat.zero_add]

/-! ## In-place conversion -/

section

variable (n m : Nat)

/-- Run the assignments `(dst, src)` in order, each from an `m`-byte field to an `n`-byte
    one. -/
def overlay (u : Bytes) (assigns : List (Nat × Nat)) : Bytes :=
  assigns.foldl (fun u a => leStore u a.1 n (leLoad u a.2 m)) u

/-- An assignment leaves alone what a later one reads and writes. The relation is not symmetric:
    what a *later* assignment destroys of an earlier one's source is nobody's loss. -/
def Apart (a b : Nat × Nat) : Prop :=
  (b.2 + m ≤ a.1 ∨ a.1 + n ≤ b.2) ∧ (b.1 + n ≤ a.1 ∨ a.1 + n ≤ b.1)

instance : DecidableRel (Apart n m) := fun a b =>
  inferInstanceAs (Decidable ((b.2 + m ≤ a.1 ∨ a.1 + n ≤ b.2) ∧ (b.1 + n ≤ a.1 ∨ a.1 + n ≤ b.1)))

end

variable {n m : Nat}

/-- A field that no assignment meets survives the conversion. -/
theorem overlay_of_disjoint {u : Bytes} {assigns : List (Nat × Nat)} {off k : Nat}
    (h : ∀ a ∈ assigns, off + k ≤ a.1 ∨ a.1 + n ≤ off) :
    leLoad (overlay n m u assigns) off k = leLoad u off k := by
  induction assigns generalizing u with
  | nil => rfl
  | cons a rest ih =>
    have hrest := ih (u := leStore u a.1 n (leLoad u a.2 m))
      (fun b hb => h b (List.mem_cons_of_mem a hb))
    rw [overlay, List.foldl_cons]
    exact hrest.trans (leLoad_leStore_of_disjoint (h a List.mem_cons_self))

/-- **Every target of a safe conversion holds the low bytes of its source**, as the source was
    before the conversion began. -/
theorem overlay_load {u : Bytes} {assigns : List (Nat × Nat)} (hs : assigns.Pairwise (Apart n m))
    {a : Nat × Nat} (ha : a ∈ assigns) :
    leLoad (overlay n m u assigns) a.1 n = leLoad u a.2 m % 256 ^ n := by
  induction assigns generalizing u with
  | nil => exact absurd ha (by simp)
  | cons b rest ih =>
    obtain ⟨hb, hrest⟩ := List.pairwise_cons.mp hs
    rw [overlay, List.foldl_cons]
    rcases List.mem_cons.mp ha with rfl | hmem
    · -- the assignment itself: nothing after it touches its target
      have hkeep := overlay_of_disjoint (n := n) (m := m) (k := n)
        (u := leStore u a.1 n (leLoad u a.2 m)) (fun c hc => (hb c hc).2.symm)
      exact hkeep.trans (leLoad_leStore u a.1 n _)
    · -- a later one: its source is still what it was
      have hlater := ih hrest (u := leStore u b.1 n (leLoad u b.2 m)) hmem
      rw [leLoad_leStore_of_disjoint (hb a hmem).1] at hlater
      exact hlater

end Lib
