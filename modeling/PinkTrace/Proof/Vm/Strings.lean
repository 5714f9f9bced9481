import PinkTrace.Proof.Vm.CreadNul
import PinkTrace.Proof.Vm.LreadNul
import PinkTrace.Proof.Vm.Entry

/-!
# Strings

`read.h` documents the count of `pink_read_vm_data_nul` as "including the zero-byte". The chunked
reader returns that count, `stringCount`. The word-wise one is off in three ways: it does not
count the NUL, it counts the bytes below an unaligned address, and it takes a NUL behind the
buffer for the string's. `CountsAgree` is what is left: no NUL in any of the words at all, two
errors that cancel in the first word of an address one past a boundary, and a NUL right behind the
buffer.

The file is in two steps. The first gives the word-wise count as a function of memory alone
(`lreadNulCount`), which turns a question about two loops into one about two numbers. The second
answers it (`lreadNulCount_eq_iff`), by cases on where the first NUL is: in the first word, in a
later one, behind the buffer, nowhere.
-/

set_option autoImplicit false

namespace PinkTrace

open Lib
open Abi (pinkAbiDefault)

variable {arch : Arch} {sp : AddressSpace arch} {addr : Addr arch} {len fuel : Nat}

/-! ## The word-wise count -/

/-- How far from the address the words of a range reach. The scan goes that far, and the buffer
    perhaps less. -/
def wordsEnd (addr : Addr arch) (len : Nat) : Nat :=
  arch.sizeofLong * Cursor.rounds addr len - skew addr

theorem wordsEnd_bounds (addr : Addr arch) (hpos : 0 < len) :
    len ≤ wordsEnd addr len ∧
      skew addr + wordsEnd addr len = arch.sizeofLong * Cursor.rounds addr len := by
  have hend := (Cursor.mul_rounds addr hpos).1
  unfold wordsEnd
  omega

/-- What `pink_vm_lread_nul` counts. Not the documented count: it is defined from the code's
    result, to be compared with `stringCount`. -/
def lreadNulCount (mem : Memory arch.longBits) (addr : Addr arch) (len : Nat) : Nat :=
  let k := firstNul mem addr (wordsEnd addr len)
  if k = wordsEnd addr len then len
  else if skew addr + k < arch.sizeofLong then skew addr + k else k

/-- It can exceed the buffer, but not by much: at most the rest of a word on either side. -/
theorem lreadNulCount_le (mem : Memory arch.longBits) (addr : Addr arch) (hpos : 0 < len) :
    lreadNulCount mem addr len < len + 2 * arch.sizeofLong := by
  have hskew := skew_lt addr
  have hend := (Cursor.mul_rounds addr hpos).2
  obtain ⟨-, hwords⟩ := wordsEnd_bounds addr hpos
  have hk := firstNul_le mem addr (wordsEnd addr len)
  rw [lreadNulCount]
  split
  · omega
  · split <;> omega

theorem lreadNulCount_lt (mem : Memory arch.longBits) (addr : Addr arch) (hpos : 0 < len)
    (hlen : len < 2 ^ 31) : lreadNulCount mem addr len < 2 ^ arch.longBits := by
  have hle := lreadNulCount_le mem addr hpos
  rcases arch.sizes with ⟨hw, hM⟩ | ⟨hw, hM⟩ <;>
    · rw [hw] at hle; rw [hM]; omega

/-- How many words hold the string: those up to the first NUL in the buffer, or all of them. No
    more than hold the buffer… -/
theorem rounds_stringCount_le (mem : Memory arch.longBits) (addr : Addr arch) (len : Nat) :
    Cursor.rounds addr (stringCount mem addr len) ≤ Cursor.rounds addr len :=
  Cursor.rounds_mono addr (stringCount_le mem addr len)

/-- …and if the words have a NUL, those up to its word, also when it is behind the buffer. -/
theorem rounds_stringCount_of_nul {mem : Memory arch.longBits} (hpos : 0 < len)
    (h : firstNul mem addr (wordsEnd addr len) < wordsEnd addr len) :
    Cursor.rounds addr (stringCount mem addr len) =
      (skew addr + firstNul mem addr (wordsEnd addr len)) / arch.sizeofLong + 1 := by
  obtain ⟨hlong, hend⟩ := wordsEnd_bounds addr hpos
  have hlast := (Cursor.mul_rounds addr hpos).2
  rw [stringCount_eq_min, firstNul_of_le hlong, Cursor.rounds, if_neg (by omega)]
  generalize firstNul mem addr (wordsEnd addr len) = k at h
  rcases arch.sizes with ⟨hw, -⟩ | ⟨hw, -⟩ <;>
    · rw [hw] at hend hlast ⊢; omega

/-- **The word-wise reader on the words of a string**: it looks at no others, copies at least the
    string and nothing behind the buffer, and returns its count. How much it copies beyond the
    string is not said, as it depends on the word. -/
theorem pinkVmLreadNul_ok {K : Kernel arch} (dest : Bytes) (s : State arch) (hpos : 0 < len)
    (hlen : len < 2 ^ 32) (hf : len < fuel)
    (h : ∀ k, k < Cursor.rounds addr (stringCount s.mem addr len) →
      K.peekErr (wordAt addr k) = none) :
    ∃ c, stringCount s.mem addr len ≤ c ∧ c ≤ len ∧
      pinkVmLreadNul fuel K addr dest len s = some
        ⟨toSsize arch (lreadNulCount s.mem addr len), copy dest 0 (s.mem.from addr) c,
          peeked s addr (Cursor.rounds addr (stringCount s.mem addr len))⟩ := by
  obtain ⟨hlong, hend⟩ := wordsEnd_bounds addr hpos
  have hle := firstNul_le s.mem addr (wordsEnd addr len)
  have hcount : stringCount s.mem addr len =
      min (firstNul s.mem addr (wordsEnd addr len) + 1) len := by
    rw [stringCount_eq_min, firstNul_of_le hlong]
    omega
  rw [lreadNulCount]
  by_cases hnone : firstNul s.mem addr (wordsEnd addr len) = wordsEnd addr len
  · -- no NUL up to the end of the last word, so no pass stops before the length is used up
    have hz : ∀ i, skew addr + i < arch.sizeofLong * Cursor.rounds addr len →
        s.mem (ahead addr i) ≠ 0 :=
      fun i hi => ne_of_lt_firstNul (m := wordsEnd addr len) (by omega)
    have hfull : stringCount s.mem addr len = len := by omega
    rw [hfull] at h ⊢
    refine ⟨len, Nat.le_refl len, Nat.le_refl len, ?_⟩
    rw [pinkVmLreadNul_none dest s hf h hz, if_pos hnone, Nat.mod_eq_of_lt hlen]
  · have hlt : firstNul s.mem addr (wordsEnd addr len) < wordsEnd addr len :=
      Nat.lt_of_le_of_ne hle hnone
    have hword : (skew addr + firstNul s.mem addr (wordsEnd addr len)) / arch.sizeofLong <
        Cursor.rounds addr len := Nat.div_lt_of_lt_mul (by omega)
    rw [rounds_stringCount_of_nul hpos hlt] at h ⊢
    refine ⟨Cursor.doneAfter addr len
      ((skew addr + firstNul s.mem addr (wordsEnd addr len)) / arch.sizeofLong + 1), ?_,
      Nat.min_le_right .., ?_⟩
    · -- the word with the NUL is copied as well
      have hnext := Nat.lt_mul_div_succ (skew addr + firstNul s.mem addr (wordsEnd addr len))
        arch.sizeofLong_pos
      rw [Cursor.doneAfter]
      omega
    · rw [pinkVmLreadNul_found dest s hf rfl hword (fun k hk => h k (Nat.lt_succ_of_le hk))
        (firstNul_nul hlt) (fun i hi => ne_of_lt_firstNul hi), doneAfter_add_mod hword,
        if_neg hnone]
      rfl

theorem pinkVmLreadNul_ret (readv writev : Attach) (dest : Bytes) (s : State arch)
    (hpos : 0 < len) (hlen : len < 2 ^ 31) (hf : len < fuel)
    (h : ∀ k, k < Cursor.rounds addr len →
      (sp.kernel readv writev).peekErr (wordAt addr k) = none) :
    ∃ r, pinkVmLreadNul fuel (sp.kernel readv writev) addr dest len s = some r ∧
      r.ret = toSsize arch (lreadNulCount s.mem addr len) ∧
      ∀ i, i < stringCount s.mem addr len → r.dest i = s.mem (ahead addr i) := by
  obtain ⟨c, hc, -, hrun⟩ := pinkVmLreadNul_ok (K := sp.kernel readv writev) dest s hpos
    (by omega) hf fun k hk => h k (Nat.lt_of_lt_of_le hk (rounds_stringCount_le s.mem addr len))
  exact ⟨_, hrun, rfl, fun i hi => copy_of_lt (Nat.zero_le i) (by omega)⟩

/-! ## The entry point -/

/-- Without attach the first request of the chunked reader fails, and it has touched nothing. -/
theorem pinkVmCreadNul_missing {missing : Attach} (sp : AddressSpace arch) (writev : Attach)
    (hm : missing ≠ .available) (hpos : 0 < len) (hlen : len < 2 ^ 31) (hf : 0 < fuel)
    (abi : Abi arch) (addr : Addr arch) (dest : Bytes) (s : State arch) :
    ∃ log, pinkVmCreadNul fuel (sp.kernel missing writev) abi addr dest len s =
      some ⟨-1, dest, ⟨s.mem, missing.err, log⟩⟩ := by
  obtain ⟨c, hc, hcpos, hcle⟩ := chunkLen_spec (setupAddr abi addr) hpos hlen
  obtain ⟨fuel, rfl⟩ : ∃ n, fuel = n + 1 := ⟨fuel - 1, by omega⟩
  have hiov : (BitVec.ofInt arch.longBits (c : Int)).toNat = c := toNat_ofInt_chunk (by omega)
  have hfail : ∀ err,
      attachFailure arch err (BitVec.ofInt arch.longBits (c : Int)).toNat = err := by
    rw [hiov]
    exact attachFailure_of_lt (arch.lt_long_max (by omega))
  cases missing with
  | available => exact absurd rfl hm
  | enosys | eperm =>
    exact ⟨_, run_done (creadNulBody_refused (v := ⟨0, setupAddr abi addr, len, 0, dest, s⟩)
      (Nat.ne_of_gt hpos) hc (hfail _)) fuel⟩

theorem pinkReadVmDataNul_missing {missing : Attach} (sp : AddressSpace arch)
    (writev : Attach) (hm : missing ≠ .available) (hpos : 0 < len) (hlen : len < 2 ^ 31)
    (hf : 0 < fuel) (abi : Abi arch) (addr : Addr arch) (dest : Bytes) (s : State arch) :
    ∃ log, pinkReadVmDataNul fuel (sp.kernel missing writev) abi addr dest len s =
      pinkVmLreadNul fuel (sp.kernel missing writev) addr dest len
        ⟨s.mem, missing.err, log⟩ := by
  obtain ⟨log, hrun⟩ := pinkVmCreadNul_missing sp writev hm hpos hlen hf abi addr dest
    { s with errno := none }
  refine ⟨log, ?_⟩
  rw [pinkReadVmDataNul, hrun]
  cases missing with
  | available => exact absurd rfl hm
  | enosys | eperm => rfl

theorem pinkReadVmDataNul_available (sp : AddressSpace arch) (writev : Attach) (hpos : 0 < len)
    (hlen : len < 2 ^ 31) (hf : len < fuel) (abi : Abi arch) (addr : Addr arch) (dest : Bytes)
    (s : State arch) :
    ∃ r, pinkReadVmDataNul fuel (sp.kernel .available writev) abi addr dest len s = some r ∧
      ReadsString (sp.kernel .available writev) (setupAddr abi addr) dest len
        { s with errno := none } r := by
  rw [pinkReadVmDataNul_cread rfl]
  exact pinkVmCreadNul_spec abi addr dest { s with errno := none } rfl hpos hlen hf

/-! ## Agreement -/

/-- The two string readers return the documented count of this string, and `pink_read_vm_data_nul`
    does not show whether attach is available. It asks for the documented count, since agreeing on
    a wrong one would not help. -/
def StringPathsAgree (sp : AddressSpace arch) (fuel : Nat) (addr : Addr arch) (dest : Bytes)
    (len : Nat) (s : State arch) : Prop :=
  (∃ r r', pinkVmLreadNul fuel (sp.kernel .available .available) addr dest len s = some r ∧
    pinkVmCreadNul fuel (sp.kernel .available .available) (pinkAbiDefault arch) addr dest len s
      = some r' ∧
    r.ret = stringCount s.mem addr len ∧ r'.ret = stringCount s.mem addr len) ∧
  ∀ missing, missing ≠ Attach.available → ∃ r r',
    pinkReadVmDataNul fuel (sp.kernel .available .available) (pinkAbiDefault arch) addr dest len s
      = some r ∧
    pinkReadVmDataNul fuel (sp.kernel missing .available) (pinkAbiDefault arch) addr dest len s
      = some r' ∧ r.ret = r'.ret

/-- Where the word-wise count comes out right: the words hold no NUL; or the first one is in the
    buffer and in the first word, and the address is one past that word's start; or it is right
    behind the buffer, and the buffer starts on a word boundary or reaches its second word. -/
def CountsAgree (mem : Memory arch.longBits) (addr : Addr arch) (len : Nat) : Prop :=
  let k := firstNul mem addr (wordsEnd addr len)
  k = wordsEnd addr len ∨ (k < len ∧ skew addr = 1 ∧ k + 1 < arch.sizeofLong) ∨
    (k = len ∧ (skew addr = 0 ∨ arch.sizeofLong ≤ skew addr + len))

/-- A value that may not be an `ssize_t` equals one that is exactly if the numbers do. -/
theorem toSsize_eq_iff {n c : Nat} (hn : n < 2 ^ arch.longBits) (hc : c < 2 ^ (arch.longBits - 1)) :
    toSsize arch n = c ↔ n = c := by
  rw [toSsize_eq hn]
  split <;> omega

/-- The word-wise count is the documented one exactly there. All of it is arithmetic about one
    position. -/
theorem lreadNulCount_eq_iff (mem : Memory arch.longBits) (addr : Addr arch) (hpos : 0 < len) :
    lreadNulCount mem addr len = stringCount mem addr len ↔ CountsAgree mem addr len := by
  obtain ⟨hle, -⟩ := wordsEnd_bounds addr hpos
  have hk := firstNul_le mem addr (wordsEnd addr len)
  have hskew := skew_lt addr
  rw [stringCount_eq_min, firstNul_of_le hle, lreadNulCount, CountsAgree]
  generalize firstNul mem addr (wordsEnd addr len) = k at hk
  split
  · omega
  · split <;> omega

theorem toSsize_lreadNulCount (mem : Memory arch.longBits) (addr : Addr arch) (hpos : 0 < len)
    (hlen : len < 2 ^ 31) :
    toSsize arch (lreadNulCount mem addr len) = stringCount mem addr len ↔
      CountsAgree mem addr len := by
  have hcount := stringCount_le mem addr len
  rw [toSsize_eq_iff (lreadNulCount_lt mem addr hpos hlen) (arch.lt_long_max (by omega)),
    lreadNulCount_eq_iff mem addr hpos]

/-- **The two string readers agree exactly where the word-wise count comes out right.** Everything
    is mapped, so that nothing but the counts can differ, and the length is a positive `int`, as
    the reader that goes by pages takes it for one. -/
theorem stringPathsAgree_iff (sp : AddressSpace arch) (addr : Addr arch) (dest : Bytes)
    (s : State arch) {len fuel : Nat} (hmap : ∀ p, sp.readable p = true) (hpos : 0 < len)
    (hlen : len < 2 ^ 31) (hf : len < fuel) :
    StringPathsAgree sp fuel addr dest len s ↔ CountsAgree s.mem addr len := by
  have hr : sp.Readable addr len := fun i _ => hmap _
  have hreach : reach (sp.kernel .available .available).readable addr len = len :=
    leading_eq_of_forall hr
  rw [← toSsize_lreadNulCount s.mem addr hpos hlen]
  constructor
  · rintro ⟨⟨r, r', hrun, -, hret, -⟩, -⟩
    obtain ⟨r₀, hrun₀, hret₀, -⟩ := pinkVmLreadNul_ret .available .available dest s hpos hlen hf
      (fun k hk => AddressSpace.peekErr_of_readable .available .available hr hk)
    obtain rfl : r = r₀ := Option.some.inj (hrun.symm.trans hrun₀)
    rw [← hret₀, hret]
  · intro h
    have hc : ∀ r', ReadsString (sp.kernel .available .available) addr dest len s r' →
        r'.ret = stringCount s.mem addr len := fun r' hr' => by
      rw [hr'.ret, hreach, if_neg (by omega)]
    constructor
    · -- the two readers, each called by itself
      obtain ⟨r, hrun, hret, -⟩ := pinkVmLreadNul_ret .available .available dest s hpos hlen hf
        (fun k hk => AddressSpace.peekErr_of_readable .available .available hr hk)
      obtain ⟨r', hrun', hr'⟩ := pinkVmCreadNul_spec (K := sp.kernel .available .available)
        (pinkAbiDefault arch) addr dest s rfl hpos hlen hf
      rw [setupAddr_default] at hr'
      exact ⟨r, r', hrun, hrun', hret.trans h, hc r' hr'⟩
    · -- the entry point, on a kernel with attach and on one without
      intro missing hm
      obtain ⟨r, hrun, hr'⟩ := pinkReadVmDataNul_available sp .available hpos hlen hf
        (pinkAbiDefault arch) addr dest s
      obtain ⟨log, hentry⟩ := pinkReadVmDataNul_missing sp .available hm hpos hlen
        (Nat.zero_lt_of_lt hf) (pinkAbiDefault arch) addr dest s
      obtain ⟨r', hrun', hret', -⟩ := pinkVmLreadNul_ret missing .available dest
        ⟨s.mem, missing.err, log⟩ hpos hlen hf
        (fun k hk => AddressSpace.peekErr_of_readable missing .available hr hk)
      rw [setupAddr_default] at hr'
      refine ⟨r, r', hrun, hentry.trans hrun', ?_⟩
      rw [hr'.ret, hreach, if_neg (by omega), hret', h]

/-- Text up to an address, and zeros from there on. -/
def textUpTo (n : Nat) : State .x86_64 := ⟨fun a => if a.toNat < n then 0x61 else 0, none, []⟩

/-- A string of two characters at a word boundary: three bytes through attach, two word by
    word. -/
theorem aligned_string_paths_disagree :
    ¬ StringPathsAgree (allMapped .x86_64) 17 4096 (fun _ => 0) 16 (textUpTo 4098) := by
  rintro ⟨⟨r, r', hrun, -, hret, -⟩, -⟩
  have htwo : (pinkVmLreadNul 17 ((allMapped .x86_64).kernel .available .available) 4096
      (fun _ => 0) 16 (textUpTo 4098)).map ReadRet.ret = some 2 := by decide +kernel
  have hthree : stringCount (textUpTo 4098).mem 4096 16 = 3 := by decide +kernel
  rw [hrun, Option.map_some, hret, hthree] at htwo
  exact absurd htwo (by decide)

/-- The same string from one past the boundary: there the two errors of the first word
    cancel. -/
theorem skewed_string_paths_agree :
    StringPathsAgree (allMapped .x86_64) 17 4097 (fun _ => 0) 16 (textUpTo 4099) :=
  (stringPathsAgree_iff (allMapped .x86_64) 4097 (fun _ => 0) (textUpTo 4099) (fun _ => rfl)
    (by decide) (by decide) (by decide)).mpr (Or.inr (Or.inl (by decide +kernel)))

end PinkTrace
