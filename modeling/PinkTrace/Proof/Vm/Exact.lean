import PinkTrace.Proof.Vm.Entry

/-!
# What the word-wise transfers report

`pink_vm_lread` reads a range exactly, or reports the first word that could not be peeked. The one
thing it cannot always do is say so: its result is an `ssize_t`, and where that is 32 bits wide a
range of `2^31` bytes or more is reported as a negative number.

`pink_vm_lwrite` reports a fault by what it had written before, and a fault on the first word by
`-1`; but the conditional expression that chooses between the two has the type of the counter,
`unsigned int`, and on a host with 64-bit longs its `-1` arrives as `2^32 - 1` bytes written.

That counter is also where a transfer of four gigabytes or more goes wrong: every byte is moved,
and the count returned is what is left of the length in 32 bits.

## Why the specifications take the value as an argument

`ReadsExactly` and `ReportsFault` say what a caller may expect, in terms of memory and of words
that overlap the range; neither was read off the code. Of the first, the value to be returned is a
parameter. So the same specification can be met with one value and fail with another, and
what is proved is about the value that is met.
-/

set_option autoImplicit false

namespace PinkTrace

open Lib

variable {arch : Arch} {K : Kernel arch} {addr : Addr arch} {len fuel : Nat}

/-! ## The words of a range -/

/-- An aligned word that holds a byte of `[addr, addr + len)`. The specification speaks of words
    in this way; the passes of the loop are another matter, and `overlaps_iff` is that they are
    the same. -/
def Overlaps (addr : Addr arch) (len : Nat) (a : Addr arch) : Prop :=
  ∃ i, i < len ∧ wordBase (ahead addr i) = a

theorem overlaps_iff {a : Addr arch} :
    Overlaps addr len a ↔ ∃ k, k < Cursor.rounds addr len ∧ wordAt addr k = a := by
  constructor
  · rintro ⟨i, hi, rfl⟩
    exact ⟨_, AddressSpace.div_lt_rounds addr hi, (wordBase_ahead_eq addr i).symm⟩
  · rintro ⟨k, hk, rfl⟩
    obtain ⟨i, hi, rfl⟩ := AddressSpace.exists_byte_of_lt_rounds hk
    exact ⟨i, hi, wordBase_ahead_eq addr i⟩

/-- `err` is what peeking or poking a word fails with. The quantifier over words is the one a
    caller can check, the one over passes is what the run lemmas ask for. -/
theorem forall_overlaps_iff {err : Addr arch → Option Errno} :
    (∀ a, Overlaps addr len a → err a = none) ↔
      ∀ k, k < Cursor.rounds addr len → err (wordAt addr k) = none := by
  constructor
  · exact fun h k hk => h _ (overlaps_iff.mpr ⟨k, hk, rfl⟩)
  · intro h a ha
    obtain ⟨k, hk, rfl⟩ := overlaps_iff.mp ha
    exact h k hk

theorem log_peeked (s : State arch) (addr : Addr arch) (k : Nat) :
    (peeked s addr k).log = s.log ++ ((List.range k).map (wordAt addr)).map .peekData := by
  simp [peeked]

/-! ## Reading -/

/-- `pink_vm_lread` reads a range exactly, and reports `ret` for it: every byte, nothing behind
    them, out of the words of the range and no others; or it reports the first of those words
    that cannot be peeked. -/
structure ReadsExactly (fuel : Nat) (K : Kernel arch) (addr : Addr arch) (dest : Bytes)
    (len : Nat) (s : State arch) (ret : Int) : Prop where
  read : (∀ a, Overlaps addr len a → K.peekErr a = none) →
    ∃ (r : ReadRet arch) (words : List (Addr arch)),
      pinkVmLread fuel K addr dest len s = some r ∧ r.ret = ret ∧
      (∀ i, i < len → r.dest i = s.mem (ahead addr i)) ∧
      (∀ i, len ≤ i → r.dest i = dest i) ∧
      r.st.log = s.log ++ words.map .peekData ∧ ∀ a, a ∈ words ↔ Overlaps addr len a
  fault : (∃ a, Overlaps addr len a ∧ K.peekErr a ≠ none) →
    ∃ r j e, pinkVmLread fuel K addr dest len s = some r ∧ r.ret = -1 ∧
      j < Cursor.rounds addr len ∧ (∀ k, k < j → K.peekErr (wordAt addr k) = none) ∧
      K.peekErr (wordAt addr j) = some e ∧ r.st.errno = some (mapEio e)

/-- What the conversion to `ssize_t` does to a count that has not wrapped. -/
theorem toSsize_of_lt_two_pow_32 (hlen : len < 2 ^ 32) :
    toSsize arch len =
      if arch.sizeofLong = 4 ∧ 2 ^ 31 ≤ len then (len : Int) - 2 ^ 32 else (len : Int) := by
  have hmax := arch.two_mul_long_max
  rcases arch.sizes with ⟨hw, hM⟩ | ⟨hw, hM⟩ <;>
    · rw [toSsize_eq (by omega)]
      rw [hM] at hmax ⊢
      rw [hw]
      split <;> split <;> omega

/-- **The word-wise read is exact**, and reports the length as the `ssize_t` it converts to. The
    conversion only shows in a 32-bit process, from half of its address space on: there the value
    is negative although every byte is delivered. -/
theorem lread_reads_exactly (K : Kernel arch) (addr : Addr arch) (dest : Bytes) (s : State arch)
    {len fuel : Nat} (hlen : len < 2 ^ 32) (hf : len < fuel) :
    ReadsExactly fuel K addr dest len s
      (if arch.sizeofLong = 4 ∧ 2 ^ 31 ≤ len then (len : Int) - 2 ^ 32 else (len : Int)) where
  read hall := by
    refine ⟨_, (List.range (Cursor.rounds addr len)).map (wordAt addr),
      pinkVmLread_ok dest s hf (forall_overlaps_iff.mp hall), ?_, fun i hi => ?_, fun i hi => ?_,
      ?_, fun a => ?_⟩
    · rw [Nat.mod_eq_of_lt hlen]
      exact toSsize_of_lt_two_pow_32 hlen
    · exact copy_of_lt (Nat.zero_le i) (by omega)
    · exact copy_of_not (by omega)
    · exact log_peeked s addr _
    · rw [overlaps_iff]
      simp
  fault hbad := by
    rcases pinkVmLread_cases K addr dest s hf with ⟨hall, -⟩ | ⟨j, e, hj, hbefore, he, hrun⟩
    · obtain ⟨a, ha, hne⟩ := hbad
      exact absurd (forall_overlaps_iff.mpr hall a ha) hne
    · exact ⟨_, j, e, hrun, rfl, hj, hbefore, he, rfl⟩

/-- On a host with 32-bit longs two gigabytes are read, and reported as `-2^31` bytes. -/
theorem two_gigabytes_reported_negative :
    ¬ ReadsExactly (2 ^ 31 + 1) ((allMapped .i386).kernel .available .available) 4096
      (fun _ => 0) (2 ^ 31) ⟨fun _ => 0, none, []⟩ (2 ^ 31) := by
  intro h
  obtain ⟨r, words, hrun, hret, -⟩ := h.read fun _ _ => rfl
  rw [pinkVmLread_ok _ _ (Nat.lt_succ_self _) (fun _ _ => rfl)] at hrun
  obtain rfl := Option.some.inj hrun
  exact absurd hret (by decide)

/-- Eight bytes at an odd address, out of words that are all `-1`. -/
theorem words_of_ones_read :
    ReadsExactly 9 ((allMapped .x86_64).kernel .available .available) 4097 (fun _ => 0) 8
      ⟨fun _ => 0xff, none, []⟩ 8 :=
  lread_reads_exactly ((allMapped .x86_64).kernel .available .available) 4097 (fun _ => 0)
    ⟨fun _ => 0xff, none, []⟩ (by decide) (by decide)

/-! ## Writing -/

/-- `pink_vm_lwrite` reports the fault `e` on the `j`-th word: by `-1` if nothing was written
    before, and otherwise by the distance to that word, with `errno` set; and it has left that
    word and the ones behind it alone. -/
def ReportsFault (fuel : Nat) (K : Kernel arch) (junk : Nat → Word arch) (addr : Addr arch)
    (src : Bytes) (len : Nat) (s : State arch) (j : Nat) (e : Errno) : Prop :=
  ∃ w, pinkVmLwrite fuel K junk addr src len s = some w ∧
    w.ret = (if j = 0 then -1 else (gap (wordAt addr j) addr : Int)) ∧
    w.st.errno = some (mapEio e) ∧
    ∀ k i, j ≤ k → k < Cursor.rounds addr len → i < arch.sizeofLong →
      w.st.mem (ahead (wordAt addr k) i) = s.mem (ahead (wordAt addr k) i)

/-- The distance from the address to the `j`-th word, which is what the writer has counted when it
    gets there. -/
theorem gap_wordAt_self {j : Nat} (hj : 0 < j) (hfit : arch.sizeofLong * j < 2 ^ arch.longBits) :
    gap (wordAt addr j) addr = arch.sizeofLong * j - skew addr := by
  have hskew := skew_lt addr
  have hle : skew addr ≤ arch.sizeofLong * j :=
    Nat.le_trans (Nat.le_of_lt hskew) (Nat.le_mul_of_pos_right _ hj)
  have hgap := gap_ahead_ahead (wordBase addr) hle (by omega)
  rwa [ahead_wordBase] at hgap

/-- No pass before the `j`-th reaches the `j`-th word or one behind it. -/
theorem poked_behind (mem : Memory arch.longBits) (src : Bytes) (junk : Nat → Word arch)
    {i j k : Nat} (hjk : j ≤ k) (hi : i < arch.sizeofLong)
    (hfit : arch.sizeofLong * (k + 1) ≤ 2 ^ arch.longBits) :
    poked mem addr src len junk j (ahead (wordAt addr k) i) = mem (ahead (wordAt addr k) i) := by
  have hmul := Nat.mul_le_mul_left arch.sizeofLong hjk
  rw [Nat.mul_succ] at hfit
  have hgap : gap (ahead (wordAt addr k) i) (wordBase addr) = arch.sizeofLong * k + i := by
    rw [wordAt, ahead_ahead, gap_ahead _ (by omega)]
  rw [poked_eq mem addr src len junk (by omega), hgap, if_neg (by omega)]

/-- **A fault is reported as it should be exactly if it is not on the first word.** It is for
    hosts with 64-bit longs: with 32-bit ones the `unsigned` `-1` converts back to what was meant.
    -/
theorem reportsFault_iff (K : Kernel arch) (junk : Nat → Word arch) (addr : Addr arch)
    (src : Bytes) (s : State arch) {len fuel j : Nat} {e : Errno} (hlong : arch.sizeofLong = 8)
    (hlen : len < 2 ^ 32) (hf : len < fuel) (hj : j < Cursor.rounds addr len)
    (h : ∀ k, k < j → K.pokeErr (wordAt addr k) = none)
    (he : K.pokeErr (wordAt addr j) = some e) :
    ReportsFault fuel K junk addr src len s j e ↔ j ≠ 0 := by
  have hrun := pinkVmLwrite_error src junk s hf hj h he
  have hspace : 2 ^ arch.longBits = 18446744073709551616 := by
    rw [Arch.longBits, hlong]
    rfl
  have hmax := arch.two_mul_long_max
  have hleft := Cursor.lt_rounds_iff.mp hj
  have hlen0 : 0 < len := by
    simp only [Cursor.after] at hleft
    omega
  have hend := (Cursor.mul_rounds addr hlen0).2
  have hskew := skew_lt addr
  have hdone : Cursor.doneAfter addr len j = arch.sizeofLong * j - skew addr := by
    simp only [Cursor.after, Cursor.doneAfter] at hleft ⊢
    omega
  have hword : ∀ k, k < Cursor.rounds addr len →
      arch.sizeofLong * (k + 1) ≤ arch.sizeofLong * Cursor.rounds addr len :=
    fun k hk => Nat.mul_le_mul_left _ hk
  constructor
  · rintro ⟨w, hw, hret, -⟩ rfl
    -- `-1`, converted to `unsigned int` and then widened
    have hzero : Cursor.doneAfter addr len 0 = 0 := by simp [hdone]
    rw [hrun] at hw
    obtain rfl := Option.some.inj hw
    rw [hzero, if_neg (by decide), toSsize_of_lt (by omega), if_pos rfl] at hret
    change ((2 ^ 32 - 1 : Nat) : Int) = -1 at hret
    exact absurd hret (by decide)
  · intro hne
    have hjword := hword j hj
    rw [Nat.mul_succ] at hjword
    refine ⟨_, hrun, ?_, rfl, fun k i hjk hk hi => ?_⟩
    · have hcount : Cursor.doneAfter addr len j % 2 ^ 32 = arch.sizeofLong * j - skew addr := by
        omega
      have hpos : 0 < arch.sizeofLong * j - skew addr := by
        rw [hlong] at hskew ⊢
        omega
      rw [if_neg hne, hcount, if_pos hpos, toSsize_of_lt (by omega),
        gap_wordAt_self (Nat.pos_of_ne_zero hne) (by omega)]
    · exact poked_behind s.mem src junk hjk hi (Nat.le_trans (hword k hk) (by omega))

def readOnly (arch : Arch) : AddressSpace arch where
  readable _ := true
  writable _ := false
  faultsEio _ := false

/-- A write to a read-only page says that it wrote four gigabytes. -/
theorem fault_on_first_word_not_reported :
    ¬ ReportsFault 9 ((readOnly .x86_64).kernel .available .available) (fun _ => Word.zero) 4096
      (fun _ => 1) 8 ⟨fun _ => 0, none, []⟩ 0 .efault := by
  rintro ⟨w, hw, hret, -⟩
  have hmax : (pinkVmLwrite 9 ((readOnly .x86_64).kernel .available .available)
      (fun _ => Word.zero) 4096 (fun _ => 1) 8 ⟨fun _ => 0, none, []⟩).map WriteRet.ret =
        some 4294967295 := by decide +kernel
  rw [hw, Option.map_some, hret] at hmax
  exact absurd hmax (by decide)

/-- The first page of memory can be written, the second cannot. -/
def firstPageWritable (arch : Arch) : AddressSpace arch where
  readable _ := true
  writable p := p == 0
  faultsEio _ := false

theorem fault_on_second_word_reported :
    ReportsFault 17 ((firstPageWritable .x86_64).kernel .available .available)
      (fun _ => Word.zero) 4090 (fun _ => 1) 16 ⟨fun _ => 0, none, []⟩ 1 .efault :=
  (reportsFault_iff ((firstPageWritable .x86_64).kernel .available .available)
    (fun _ => Word.zero) 4090 (fun _ => 1) ⟨fun _ => 0, none, []⟩ rfl (by decide) (by decide)
    (by decide) (fun k hk => by rw [Nat.lt_one_iff.mp hk]; rfl) rfl).mpr (by decide)

/-! ## Counting -/

/-- A range that every path can read and write as a whole: word by word, and for reading through
    attach as well, unless that is missing. The three conditions are about the same bytes and
    independent of each other. -/
structure Accessible (K : Kernel arch) (abi : Abi arch) (addr : Addr arch) (len : Nat) : Prop where
  peek : ∀ a, Overlaps addr len a → K.peekErr a = none
  poke : ∀ a, Overlaps addr len a → K.pokeErr a = none
  attach : Detached K ∨ Attached K ∧ ∀ i, i < len → K.readable (ahead (setupAddr abi addr) i) = true

/-- The word-wise transfers report a range as what it is, and `pink_read_vm_data_full` reports
    that it is complete. -/
structure CountsExactly (fuel : Nat) (K : Kernel arch) (junk : Nat → Word arch) (abi : Abi arch)
    (addr : Addr arch) (dest src : Bytes) (len : Nat) (s : State arch) : Prop where
  read : ∃ r, pinkVmLread fuel K addr dest len s = some r ∧ r.ret = len
  write : ∃ w, pinkVmLwrite fuel K junk addr src len s = some w ∧ w.ret = len
  full : ∃ r, pinkReadVmDataFull fuel K abi addr dest len s = some r ∧ r.ret = 0

/-- A 64-bit host reports a length correctly exactly if the counter could hold it. -/
theorem toSsize_mod_eq_iff (hlong : arch.sizeofLong = 8) :
    toSsize arch (len % 2 ^ 32) = len ↔ len < 2 ^ 32 := by
  have hspace : 2 ^ arch.longBits = 18446744073709551616 := by
    rw [Arch.longBits, hlong]
    rfl
  have hmax := arch.two_mul_long_max
  rw [toSsize_of_lt (by omega), Int.ofNat_inj]
  omega

theorem pinkReadVmDataFull_accessible {abi : Abi arch} (dest : Bytes) (s : State arch)
    (hacc : Accessible K abi addr len) (hs : len < 2 ^ (arch.longBits - 1)) (hlen : len < 2 ^ 32)
    (hf : len < fuel) :
    ∃ r, pinkReadVmDataFull fuel K abi addr dest len s = some r ∧ r.ret = 0 := by
  rcases hacc.attach with hK | ⟨hK, hread⟩
  · -- attach is missing: the words are read one by one
    have hrun := @pinkReadVmData_detached arch addr len fuel K hK hs abi dest
      { s with errno := none }
    rw [pinkVmLread_ok dest _ hf (forall_overlaps_iff.mp hacc.peek)] at hrun
    refine ⟨_, pinkReadVmDataFull_complete hrun ?_, rfl⟩
    rw [Nat.mod_eq_of_lt hlen]
    exact toSsize_of_lt hs
  · have hreach : reach K.readable (setupAddr abi addr) len = len := leading_eq_of_forall hread
    have herr := hK.readvErr
    refine ⟨_, pinkReadVmDataFull_complete (pinkReadVmData_cread (not_detached herr) hs abi dest _)
      ?_, rfl⟩
    simp only [pinkVmCread, processVmReadv, attachFailure_of_lt hs, herr, hreach, hK.transfer]
    rw [if_neg (by omega)]

/-- **The counts are exact below four gigabytes, and nowhere else.** From there on it is the
    word-wise functions that miscount, and `pink_read_vm_data_full` with them where it falls back
    to one. -/
theorem countsExactly_iff (K : Kernel arch) (junk : Nat → Word arch) (abi : Abi arch)
    (addr : Addr arch) (dest src : Bytes) (s : State arch) {len fuel : Nat}
    (hlong : arch.sizeofLong = 8) (hlen : len < 2 ^ 63) (hf : len < fuel)
    (hacc : Accessible K abi addr len) :
    CountsExactly fuel K junk abi addr dest src len s ↔ len < 2 ^ 32 := by
  have hread := pinkVmLread_ok dest s hf (forall_overlaps_iff.mp hacc.peek)
  have hwrite := pinkVmLwrite_ok src junk s hf (forall_overlaps_iff.mp hacc.poke)
  have hs : len < 2 ^ (arch.longBits - 1) := by
    rw [Arch.longBits, hlong]
    exact hlen
  constructor
  · rintro ⟨⟨r, hr, hret⟩, -, -⟩
    rw [hread] at hr
    obtain rfl := Option.some.inj hr
    exact (toSsize_mod_eq_iff hlong).mp hret
  · intro hsmall
    have hcount := (toSsize_mod_eq_iff hlong).mpr hsmall
    exact ⟨⟨_, hread, hcount⟩, ⟨_, hwrite, hcount⟩,
      pinkReadVmDataFull_accessible dest s hacc hs hsmall hf⟩

theorem AddressSpace.accessible {sp : AddressSpace arch} (readv : Attach) (abi : Abi arch)
    (addr : Addr arch) (len : Nat) (hr : ∀ p, sp.readable p = true)
    (hw : ∀ p, sp.writable p = true) : Accessible (sp.kernel readv .available) abi addr len where
  peek a _ := by simp only [kernel, hr, if_true]
  poke a _ := by simp only [kernel, hw, if_true]
  attach := by
    by_cases hm : readv = .available
    · subst hm
      exact Or.inr ⟨sp.attached .available, fun i _ => hr _⟩
    · exact Or.inl (Attach.detached hm .available)

/-- Four gigabytes are read, and nothing is what the call says was. -/
theorem four_gigabytes_counted_as_none :
    ¬ CountsExactly (2 ^ 32 + 1) ((allMapped .x86_64).kernel .enosys .available)
      (fun _ => Word.zero) .x86_64 4096 (fun _ => 0) (fun _ => 0) (2 ^ 32)
      ⟨fun _ => 0, none, []⟩ := by
  rintro ⟨⟨r, hr, hret⟩, -, -⟩
  rw [pinkVmLread_ok _ _ (Nat.lt_succ_self _) (fun _ _ => rfl)] at hr
  obtain rfl := Option.some.inj hr
  exact absurd hret (by decide)

theorem sixteen_bytes_counted :
    CountsExactly 17 ((allMapped .x86_64).kernel .enosys .available) (fun _ => Word.zero) .x86_64
      4097 (fun _ => 0) (fun _ => 1) 16 ⟨fun _ => 0, none, []⟩ :=
  (countsExactly_iff ((allMapped .x86_64).kernel .enosys .available) (fun _ => Word.zero) .x86_64
    4097 (fun _ => 0) (fun _ => 1) ⟨fun _ => 0, none, []⟩ rfl (by decide) (by decide)
    (AddressSpace.accessible .enosys .x86_64 4097 16 (fun _ => rfl) (fun _ => rfl))).mpr
    (by decide)

end PinkTrace
