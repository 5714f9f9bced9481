import PinkTrace.Proof.Vm.Strings
import PinkTrace.Proof.Vm.Exact

/-!
# What the word-wise string read reports

The bytes of `pink_vm_lread_nul` are right: it peeks the words of the string and no others, copies
at least the string, and writes nothing behind the buffer. Its count is another matter. It is the
distance copied before the word with the NUL, plus the index of the NUL in that word, so that in
the first word the bytes below the address are counted as well; and the scan does not stop where
the buffer does. Hence a count that may be larger than the buffer, that depends on where in a word
the string was stored, and that for a buffer of almost `2^31` bytes is negative on a host with
32-bit longs.

The three sections are three questions a caller might ask of the count: may I index my buffer with
it, is it a property of the string, and is its sign the sign of success. None of them compares it
with the other path, so none of them needs an `AddressSpace`.
-/

set_option autoImplicit false

namespace PinkTrace

open Lib

variable {arch : Arch} {K : Kernel arch} {addr : Addr arch} {len fuel k : Nat}

/-! ## The count and the buffer -/

/-- `pink_vm_lread_nul` returns no more than the buffer holds. A caller who puts a terminator at
    the index it was given relies on this. -/
def ReportsWithin (fuel : Nat) (K : Kernel arch) (addr : Addr arch) (dest : Bytes) (len : Nat)
    (s : State arch) : Prop :=
  ∃ r, pinkVmLreadNul fuel K addr dest len s = some r ∧ 0 ≤ r.ret ∧ r.ret ≤ len

/-- The words hold no NUL; or the first one is in the first word, and what that word holds below
    it would fit into the buffer; or it is in a later word, and not behind the byte that follows
    the buffer. -/
def CountFits (mem : Memory arch.longBits) (addr : Addr arch) (len : Nat) : Prop :=
  let k := firstNul mem addr (wordsEnd addr len)
  k = wordsEnd addr len ∨ (skew addr + k < arch.sizeofLong ∧ skew addr + k ≤ len) ∨
    (arch.sizeofLong ≤ skew addr + k ∧ k ≤ len)

theorem lreadNulCount_le_iff (mem : Memory arch.longBits) (addr : Addr arch) (len : Nat) :
    lreadNulCount mem addr len ≤ len ↔ CountFits mem addr len := by
  rw [lreadNulCount, CountFits]
  generalize firstNul mem addr (wordsEnd addr len) = k
  split
  · omega
  · split <;> omega

/-- Both bounds at once: a count that is too large may also come out negative. -/
theorem toSsize_within_iff {n c : Nat} (hn : n < 2 ^ arch.longBits)
    (hc : c < 2 ^ (arch.longBits - 1)) : 0 ≤ toSsize arch n ∧ toSsize arch n ≤ c ↔ n ≤ c := by
  rw [toSsize_eq hn]
  split <;> omega

/-- **The count stays within the buffer exactly if it fits.** Every word can be read here, so that
    the read gets as far as its count; the byte that makes it too large may be one behind the
    buffer, in its last word. -/
theorem reportsWithin_iff (K : Kernel arch) (addr : Addr arch) (dest : Bytes) (s : State arch)
    {len fuel : Nat} (hmap : ∀ a, K.peekErr a = none) (hpos : 0 < len) (hlen : len < 2 ^ 31)
    (hf : len < fuel) :
    ReportsWithin fuel K addr dest len s ↔ CountFits s.mem addr len := by
  obtain ⟨c, -, -, hrun⟩ := pinkVmLreadNul_ok dest s hpos (by omega) hf
    fun k _ => hmap (wordAt addr k)
  rw [← lreadNulCount_le_iff, ← toSsize_within_iff (lreadNulCount_lt s.mem addr hpos hlen)
    (arch.lt_long_max hlen)]
  constructor
  · rintro ⟨r, hr, hret⟩
    rw [hrun] at hr
    obtain rfl := Option.some.inj hr
    exact hret
  · exact fun hret => ⟨_, hrun, hret⟩

/-- The empty string in the last byte of a word: a buffer of one byte, and a count of seven. -/
theorem empty_string_overruns :
    ¬ ReportsWithin 2 ((allMapped .x86_64).kernel .available .available) 4103 (fun _ => 0xff) 1
      (textUpTo 4103) := by
  rintro ⟨r, hr, -, hle⟩
  have hseven : (pinkVmLreadNul 2 ((allMapped .x86_64).kernel .available .available) 4103
      (fun _ => 0xff) 1 (textUpTo 4103)).map ReadRet.ret = some 7 := by decide +kernel
  rw [hr, Option.map_some] at hseven
  rw [Option.some.inj hseven] at hle
  exact absurd hle (by decide)

theorem aligned_string_fits :
    ReportsWithin 17 ((allMapped .x86_64).kernel .available .available) 4096 (fun _ => 0xff) 16
      (textUpTo 4098) :=
  (reportsWithin_iff ((allMapped .x86_64).kernel .available .available) 4096 (fun _ => 0xff)
    (textUpTo 4098) (fun _ => rfl) (by decide) (by decide) (by decide)).mpr
    (Or.inr (Or.inl (by decide +kernel)))

/-! ## The count and the alignment -/

/-- A string `b` with its NUL at offset `k` is stored at an address, in words that can be peeked.
    Nothing is said of the bytes around it. -/
structure Stored (K : Kernel arch) (s : State arch) (b : Bytes) (k : Nat) (addr : Addr arch) :
    Prop where
  bytes : ∀ i, i ≤ k → s.mem (ahead addr i) = b i
  readable : ∀ a, Overlaps addr (k + 1) a → K.peekErr a = none

/-- The same string at two addresses gives the same count. One would not think that this needs
    saying. -/
def SameCount (fuel : Nat) (K : Kernel arch) (a₁ a₂ : Addr arch) (dest : Bytes) (len : Nat)
    (s : State arch) : Prop :=
  ∃ r₁ r₂, pinkVmLreadNul fuel K a₁ dest len s = some r₁ ∧
    pinkVmLreadNul fuel K a₂ dest len s = some r₂ ∧ r₁.ret = r₂.ret

/-- The count of a string that is all there. -/
theorem pinkVmLreadNul_stored {s : State arch} {b : Bytes} (h : Stored K s b k addr)
    (dest : Bytes) (hk : k < len) (hf : len < fuel) (h0 : b k = 0)
    (hz : ∀ i, i < k → b i ≠ 0) :
    ∃ r, pinkVmLreadNul fuel K addr dest len s = some r ∧
      r.ret = toSsize arch (if skew addr + k < arch.sizeofLong then skew addr + k else k) := by
  have hword := AddressSpace.div_lt_rounds addr hk
  have hlast := AddressSpace.div_lt_rounds addr (Nat.lt_succ_self k)
  have hrun := pinkVmLreadNul_found dest s hf rfl hword
    (fun q hq => h.readable _ (overlaps_iff.mpr ⟨q, Nat.lt_of_le_of_lt hq hlast, rfl⟩))
    ((h.bytes k (Nat.le_refl k)).trans h0)
    (fun i hi => by rw [h.bytes i (Nat.le_of_lt hi)]; exact hz i hi)
  rw [doneAfter_add_mod hword] at hrun
  exact ⟨_, hrun, rfl⟩

/-- Where the two counts of a string meet. The conversion to `ssize_t` cannot make two different
    counts equal, since they differ by less than a word. -/
theorem toSsize_counts_eq_iff (a₁ a₂ : Addr arch) (k : Nat) :
    toSsize arch (if skew a₁ + k < arch.sizeofLong then skew a₁ + k else k) =
        toSsize arch (if skew a₂ + k < arch.sizeofLong then skew a₂ + k else k) ↔
      skew a₁ = skew a₂ ∨ (skew a₁ = 0 ∨ arch.sizeofLong ≤ skew a₁ + k) ∧
        (skew a₂ = 0 ∨ arch.sizeofLong ≤ skew a₂ + k) := by
  have hskew₁ := skew_lt a₁
  have hskew₂ := skew_lt a₂
  by_cases hlate : arch.sizeofLong ≤ k
  · rw [if_neg (by omega), if_neg (by omega)]
    exact iff_of_true rfl (Or.inr ⟨Or.inr (by omega), Or.inr (by omega)⟩)
  · have hsmall : ∀ a : Addr arch,
        (if skew a + k < arch.sizeofLong then skew a + k else k) < 2 ^ (arch.longBits - 1) := by
      intro a
      have hword : arch.sizeofLong < 2 ^ (arch.longBits - 1) := by
        rcases arch.sizes with ⟨hw, -⟩ | ⟨hw, -⟩ <;> exact hw ▸ arch.lt_long_max (by decide)
      split <;> omega
    rw [toSsize_of_lt (hsmall a₁), toSsize_of_lt (hsmall a₂), Int.ofNat_inj]
    split <;> split <;> omega

/-- **Two addresses give one count exactly if they lie alike in their words**, or neither count
    includes bytes below the address: each is on a word boundary or has the NUL in a later
    word. -/
theorem sameCount_iff (K : Kernel arch) (s : State arch) (dest b : Bytes) {a₁ a₂ : Addr arch}
    {k len fuel : Nat} (h0 : b k = 0) (hz : ∀ i, i < k → b i ≠ 0) (hk : k < len)
    (hf : len < fuel) (h₁ : Stored K s b k a₁) (h₂ : Stored K s b k a₂) :
    SameCount fuel K a₁ a₂ dest len s ↔
      skew a₁ = skew a₂ ∨ (skew a₁ = 0 ∨ arch.sizeofLong ≤ skew a₁ + k) ∧
        (skew a₂ = 0 ∨ arch.sizeofLong ≤ skew a₂ + k) := by
  obtain ⟨r₁, hrun₁, hret₁⟩ := pinkVmLreadNul_stored h₁ dest hk hf h0 hz
  obtain ⟨r₂, hrun₂, hret₂⟩ := pinkVmLreadNul_stored h₂ dest hk hf h0 hz
  rw [← toSsize_counts_eq_iff a₁ a₂ k, ← hret₁, ← hret₂]
  constructor
  · rintro ⟨r, r', hr, hr', heq⟩
    obtain rfl := Option.some.inj (hrun₁.symm.trans hr)
    obtain rfl := Option.some.inj (hrun₂.symm.trans hr')
    exact heq
  · exact fun heq => ⟨r₁, r₂, hrun₁, hrun₂, heq⟩

/-- The empty string has length zero on a word boundary, and length one at the next byte. -/
theorem empty_string_counts_differ :
    ¬ SameCount 17 ((allMapped .x86_64).kernel .available .available) 4096 4097 (fun _ => 0xff) 16
      (textUpTo 0) := by
  rintro ⟨r₁, r₂, hr₁, hr₂, heq⟩
  have hzero : (pinkVmLreadNul 17 ((allMapped .x86_64).kernel .available .available) 4096
      (fun _ => 0xff) 16 (textUpTo 0)).map ReadRet.ret = some 0 := by decide +kernel
  have hone : (pinkVmLreadNul 17 ((allMapped .x86_64).kernel .available .available) 4097
      (fun _ => 0xff) 16 (textUpTo 0)).map ReadRet.ret = some 1 := by decide +kernel
  rw [hr₁, Option.map_some, heq] at hzero
  rw [hr₂, Option.map_some, hzero] at hone
  exact absurd hone (by decide)

/-- Two characters on a word boundary, and again six bytes on, up to the end of the word. -/
def textTwice : State .x86_64 :=
  ⟨fun a => if 4096 ≤ a.toNat ∧ a.toNat < 4098 ∨ 4102 ≤ a.toNat ∧ a.toNat < 4104 then 0x61 else 0,
    none, []⟩

theorem text_twice_counts_alike :
    SameCount 17 ((allMapped .x86_64).kernel .available .available) 4096 4102 (fun _ => 0xff) 16
      textTwice :=
  (sameCount_iff ((allMapped .x86_64).kernel .available .available) textTwice (fun _ => 0xff)
    (fun i => if i < 2 then 0x61 else 0) (k := 2) rfl (by decide) (by decide) (by decide)
    ⟨by decide, fun _ _ => rfl⟩ ⟨by decide, fun _ _ => rfl⟩).mpr (Or.inr (by decide))

/-! ## What is touched -/

/-- `pink_vm_lread_nul` keeps to the string: it peeks only words that hold a byte of it and writes
    nothing behind the buffer; and if those words can be peeked it copies the string, and does not
    report an error. The words behind the string may be unmapped. -/
def KeepsToString (fuel : Nat) (K : Kernel arch) (addr : Addr arch) (dest : Bytes) (len : Nat)
    (s : State arch) : Prop :=
  ∃ (r : ReadRet arch) (words : List (Addr arch)),
    pinkVmLreadNul fuel K addr dest len s = some r ∧
    r.st.log = s.log ++ words.map .peekData ∧
    (∀ a, a ∈ words → Overlaps addr (stringCount s.mem addr len) a) ∧
    (∀ i, len ≤ i → r.dest i = dest i) ∧
    ((∀ a, Overlaps addr (stringCount s.mem addr len) a → K.peekErr a = none) →
      (∀ i, i < stringCount s.mem addr len → r.dest i = s.mem (ahead addr i)) ∧ 0 ≤ r.ret)

/-- The first words are words of the string, as far as it goes. So a log of the first passes
    mentions no others. -/
theorem overlaps_of_mem_range {m n : Nat} (h : n ≤ Cursor.rounds addr m) {a : Addr arch}
    (ha : a ∈ (List.range n).map (wordAt addr)) : Overlaps addr m a := by
  obtain ⟨k, hk, rfl⟩ := List.mem_map.mp ha
  exact overlaps_iff.mpr ⟨k, Nat.lt_of_lt_of_le (List.mem_range.mp hk) h, rfl⟩

/-- There is no NUL before a word of the string, or the string would have ended there. -/
theorem ne_zero_before_word {mem : Memory arch.longBits} {i j : Nat}
    (hj : j < Cursor.rounds addr (stringCount mem addr len))
    (hi : skew addr + i < arch.sizeofLong * j) : mem (ahead addr i) ≠ 0 := by
  obtain ⟨i₀, hi₀, rfl⟩ := AddressSpace.exists_byte_of_lt_rounds hj
  have hle := Nat.mul_div_le (skew addr + i₀) arch.sizeofLong
  rw [stringCount_eq_min] at hi₀
  exact ne_of_lt_firstNul (m := len) (by omega)

/-- If a word of the string cannot be peeked, the read stops at the first such, and has kept to
    the string up to there. -/
theorem keepsToString_of_fault {s : State arch} (dest : Bytes) {j : Nat} {e : Errno}
    (hf : len < fuel) (hj : j < Cursor.rounds addr (stringCount s.mem addr len))
    (h : ∀ k, k < j → K.peekErr (wordAt addr k) = none)
    (he : K.peekErr (wordAt addr j) = some e) : KeepsToString fuel K addr dest len s := by
  have hlen := Nat.lt_of_lt_of_le hj (rounds_stringCount_le s.mem addr len)
  refine ⟨_, _, pinkVmLreadNul_error dest s hf hlen h (fun i hi => ne_zero_before_word hj hi) he,
    log_peeked s addr (j + 1), fun a ha => overlaps_of_mem_range hj ha, fun i hi => ?_,
    fun hall => ?_⟩
  · have hle : Cursor.doneAfter addr len j ≤ len := Nat.min_le_right ..
    exact copy_of_not (by omega)
  · rw [hall _ (overlaps_iff.mpr ⟨j, hj, rfl⟩)] at he
    exact absurd he (by simp)

theorem toSsize_nonneg_iff {n : Nat} (hn : n < 2 ^ arch.longBits) :
    0 ≤ toSsize arch n ↔ n < 2 ^ (arch.longBits - 1) := by
  rw [toSsize_eq hn]
  split <;> omega

/-- On 64-bit words every count is a non-negative `ssize_t`; on 32-bit ones it is unless the NUL
    was found `2^31` bytes on, which is behind the buffer. -/
theorem toSsize_lreadNulCount_nonneg (mem : Memory arch.longBits) (addr : Addr arch)
    (hpos : 0 < len) (hlen : len < 2 ^ 31) :
    0 ≤ toSsize arch (lreadNulCount mem addr len) ↔
      arch.sizeofLong = 8 ∨ firstNul mem addr (wordsEnd addr len) = wordsEnd addr len ∨
        firstNul mem addr (wordsEnd addr len) < 2 ^ 31 := by
  have hle := lreadNulCount_le mem addr hpos
  have hcount : lreadNulCount mem addr len < 2 ^ 31 ∨ arch.sizeofLong = 8 ↔
      arch.sizeofLong = 8 ∨ firstNul mem addr (wordsEnd addr len) = wordsEnd addr len ∨
        firstNul mem addr (wordsEnd addr len) < 2 ^ 31 := by
    have hskew := skew_lt addr
    rw [lreadNulCount]
    generalize firstNul mem addr (wordsEnd addr len) = k
    rcases arch.sizes with ⟨hw, -⟩ | ⟨hw, -⟩ <;>
      · rw [hw] at hskew ⊢
        split
        · omega
        · split <;> omega
  have hfits : lreadNulCount mem addr len < 2 ^ (arch.longBits - 1) ↔
      lreadNulCount mem addr len < 2 ^ 31 ∨ arch.sizeofLong = 8 := by
    have hmax := arch.two_mul_long_max
    rcases arch.sizes with ⟨hw, hM⟩ | ⟨hw, hM⟩ <;>
      · rw [hw] at hle ⊢; rw [hM] at hmax; omega
  rw [toSsize_nonneg_iff (lreadNulCount_lt mem addr hpos hlen), hfits, hcount]

/-- **The read keeps to the string**, but for the sign of its count. There are four ways to keep
    to it: a word of the string cannot be read, and nothing is asked of the count; longs have
    eight bytes; the words of the buffer hold no NUL; or it comes early enough for a 32-bit
    `ssize_t`. -/
theorem keepsToString_iff (K : Kernel arch) (addr : Addr arch) (dest : Bytes) (s : State arch)
    {len fuel : Nat} (hpos : 0 < len) (hlen : len < 2 ^ 31) (hf : len < fuel) :
    KeepsToString fuel K addr dest len s ↔
      (∃ a, Overlaps addr (stringCount s.mem addr len) a ∧ K.peekErr a ≠ none) ∨
        arch.sizeofLong = 8 ∨ firstNul s.mem addr (wordsEnd addr len) = wordsEnd addr len ∨
        firstNul s.mem addr (wordsEnd addr len) < 2 ^ 31 := by
  rw [← toSsize_lreadNulCount_nonneg s.mem addr hpos hlen]
  rcases forall_none_or_first (fun k => K.peekErr (wordAt addr k))
    (Cursor.rounds addr (stringCount s.mem addr len)) with hall | ⟨j, e, hj, hbefore, he⟩
  · obtain ⟨c, hc, hcle, hrun⟩ := pinkVmLreadNul_ok dest s hpos (by omega) hf hall
    have hreadable := forall_overlaps_iff.mpr hall
    constructor
    · rintro ⟨r, words, hr, -, -, -, hok⟩
      rw [hrun] at hr
      obtain rfl := Option.some.inj hr
      exact Or.inr (hok hreadable).2
    · rintro (⟨a, ha, hne⟩ | hret)
      · exact absurd (hreadable a ha) hne
      · exact ⟨_, _, hrun, log_peeked s addr _,
          fun a ha => overlaps_of_mem_range (Nat.le_refl _) ha,
          fun i hi => copy_of_not (by omega),
          fun _ => ⟨fun i hi => copy_of_lt (Nat.zero_le i) (by omega), hret⟩⟩
  · -- a word of the string cannot be read, and the read stops there
    have hne : K.peekErr (wordAt addr j) ≠ none := by
      rw [he]
      simp
    exact iff_of_true (keepsToString_of_fault dest hf hj hbefore he)
      (Or.inl ⟨_, overlaps_iff.mpr ⟨j, hj, rfl⟩, hne⟩)

/-- Text without a NUL, but for one at `n`. -/
def textWithNulAt (arch : Arch) (n : Nat) : State arch :=
  ⟨fun a => if a.toNat = n then 0 else 0x61, none, []⟩

theorem textWithNulAt_ne {n : Nat} {a : Addr arch} (h : a.toNat ≠ n) :
    (textWithNulAt arch n).mem a ≠ 0 := by
  have hbyte : (textWithNulAt arch n).mem a = 0x61 := if_neg h
  rw [hbyte]
  decide

/-- On a host with 32-bit longs: a buffer of `2^31 - 1` bytes full of text, and a NUL in its last
    word, the second byte behind it. The count `2^31` is returned as a negative number. -/
theorem nul_behind_two_gigabytes_is_negative :
    ¬ KeepsToString (2 ^ 31) ((allMapped .i386).kernel .available .available) 4098
      (fun _ => 0xff) (2 ^ 31 - 1) (textWithNulAt .i386 (4098 + 2 ^ 31)) := by
  rintro ⟨r, words, hr, -, -, -, hok⟩
  obtain ⟨-, hret⟩ := hok fun _ _ => rfl
  have hz : ∀ i, i < 2 ^ 31 →
      (textWithNulAt .i386 (4098 + 2 ^ 31)).mem (ahead (4098 : Addr .i386) i) ≠ 0 := by
    intro i hi
    have hat : (ahead (4098 : Addr .i386) i).toNat = 4098 + i :=
      toNat_ahead (4098 : Addr .i386) (show 4098 + i < 2 ^ 32 by omega)
    exact textWithNulAt_ne (by omega)
  rw [pinkVmLreadNul_found (i := 2 ^ 31) (q := 2 ^ 29) _ _ (by decide) (by decide) (by decide)
    (fun _ _ => rfl) (by decide) hz] at hr
  obtain rfl := Option.some.inj hr
  exact absurd hret (by decide)

/-- The first page of memory can be read, the second cannot. -/
def firstPageReadable (arch : Arch) : AddressSpace arch where
  readable p := p == 0
  writable _ := false
  faultsEio _ := false

/-- A string that ends with its page, in front of one that cannot be read. -/
theorem string_before_unreadable_page :
    KeepsToString 65 ((firstPageReadable .x86_64).kernel .available .available) 4094
      (fun _ => 0xff) 64 (textUpTo 4095) :=
  (keepsToString_iff ((firstPageReadable .x86_64).kernel .available .available) 4094
    (fun _ => 0xff) (textUpTo 4095) (by decide) (by decide) (by decide)).mpr
    (Or.inr (Or.inl rfl))

end PinkTrace
