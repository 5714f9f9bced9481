import PinkTrace.Proof.Vm.Frame
import PinkTrace.Proof.Vm.Partial
import PinkTrace.Proof.Vm.Strings

/-!
# 32-bit tracees of a 64-bit host

`setup_addr` cuts an address of a 32-bit ABI down to 32 bits. The three `pink_vm_c*` functions
call it and the three `pink_vm_l*` ones do not, so a pointer whose upper half is not zero (the
argument readers sign-extend, so every pointer at or above 2 GiB) leads the two paths to
different bytes: attach goes to the address modulo `2^32`, `ptrace` to an address no 32-bit
tracee has mapped.

Each of the three entry points has a second condition beside it, or none.

* `pink_read_vm_data` has none (`readsAt_iff`).
* `pink_read_vm_data_nul`: from `2^31` bytes on the attach path converts the length to a negative
  `int`, or at `2^32` to zero, and reads nothing (`readsStringAt_iff`).
* `pink_write_vm_data`: the fallback stores whole words, so it writes into the range and nothing
  else only if the range is made of whole words (`writesAt_iff`). That has nothing to do with the
  ABI, and is `Frame` and `RoundTrip` once more; but bytes that only one path overwrites are bytes
  that only one path accesses.

## One specification for both paths

What a call should do is said without a word about the path: the buffer has the bytes at the
address modulo `2^32`, or tracee memory is a plain store there. The kernel is quantified inside,
so that each result compares attach, and both ways of not having it, with the same thing. For a
write also what is written is quantified, and what the union of the fallback holds: a store of
bytes that were there already would not tell a path that goes astray from one that does not.
-/

set_option autoImplicit false

namespace PinkTrace

open Lib

variable {arch : Arch} {abi : Abi arch} {sp : AddressSpace arch} {addr : Addr arch}
  {len fuel : Nat}

/-- A tracee with a 32-bit ABI under a 64-bit host: nothing is mapped at or above `2^32`. That is
    a property of such processes on Linux, and is what makes the fallback fail rather than read
    something else. -/
structure CompatTracee (abi : Abi arch) (sp : AddressSpace arch) : Prop where
  long : arch.sizeofLong = 8
  wordsize : pinkAbiWordsize abi = 4
  noRead : ∀ p, 2 ^ 20 ≤ p → sp.readable p = false
  noWrite : ∀ p, 2 ^ 20 ≤ p → sp.writable p = false

namespace CompatTracee

theorem longBits (h : CompatTracee abi sp) : arch.longBits = 64 := by
  rw [Arch.longBits, h.long]

theorem space (h : CompatTracee abi sp) : 2 ^ arch.longBits = 2 ^ 64 := by
  rw [h.longBits]

theorem toNat_setupAddr (h : CompatTracee abi sp) (addr : Addr arch) :
    (setupAddr abi addr).toNat = addr.toNat % 2 ^ 32 := by
  rw [PinkTrace.toNat_setupAddr, h.wordsize]

theorem setupAddr_of_low (h : CompatTracee abi sp) (hlow : addr.toNat < 2 ^ 32) :
    setupAddr abi addr = addr := by
  apply BitVec.eq_of_toNat_eq
  rw [h.toNat_setupAddr, Nat.mod_eq_of_lt hlow]

theorem add_len_le (h : CompatTracee abi sp) (hr : sp.Readable (setupAddr abi addr) len) :
    (setupAddr abi addr).toNat + len ≤ 2 ^ 32 := by
  have hlow := Nat.mod_lt addr.toNat (Nat.two_pow_pos 32)
  rw [← h.toNat_setupAddr] at hlow
  refine Nat.le_of_not_lt fun hlong => ?_
  -- otherwise the byte at `2^32` belongs to it
  have hbyte := hr (2 ^ 32 - (setupAddr abi addr).toNat) (by omega)
  have hspace := h.space
  have hfit : (setupAddr abi addr).toNat + (2 ^ 32 - (setupAddr abi addr).toNat) <
      2 ^ arch.longBits := by
    omega
  rw [h.noRead _ (by rw [AddressSpace.page, toNat_ahead _ hfit]; omega)] at hbyte
  exact absurd hbyte (by simp)

theorem len_lt (h : CompatTracee abi sp) (hr : sp.Readable (setupAddr abi addr) len) :
    len < 2 ^ (arch.longBits - 1) := by
  have hle := h.add_len_le hr
  rw [h.longBits]
  omega

theorem page_high (haddr : 2 ^ 32 ≤ addr.toNat) : 2 ^ 20 ≤ AddressSpace.page addr := by
  rw [AddressSpace.page]
  omega

theorem peekErr_high (h : CompatTracee abi sp) (haddr : 2 ^ 32 ≤ addr.toNat)
    (readv writev : Attach) :
    (sp.kernel readv writev).peekErr (wordAt addr 0) = some (sp.fault (wordAt addr 0)) := by
  have hpage : AddressSpace.page (wordAt addr 0) = AddressSpace.page addr := by
    rw [wordAt, Nat.mul_zero, ahead_zero, AddressSpace.page_wordBase]
  simp [AddressSpace.kernel, hpage, h.noRead _ (page_high haddr)]

theorem pokeErr_high (h : CompatTracee abi sp) (haddr : 2 ^ 32 ≤ addr.toNat)
    (readv writev : Attach) :
    (sp.kernel readv writev).pokeErr (wordAt addr 0) = some (sp.fault (wordAt addr 0)) := by
  have hpage : AddressSpace.page (wordAt addr 0) = AddressSpace.page addr := by
    rw [wordAt, Nat.mul_zero, ahead_zero, AddressSpace.page_wordBase]
  simp [AddressSpace.kernel, hpage, h.noWrite _ (page_high haddr)]

end CompatTracee

/-! ## Reading -/

/-- `pink_read_vm_data` delivers the bytes at the address modulo `2^32`, and does not fail. -/
def ReadsAt (sp : AddressSpace arch) (readv : Attach) (fuel : Nat) (abi : Abi arch)
    (addr : Addr arch) (dest : Bytes) (len : Nat) (s : State arch) : Prop :=
  ∃ r, pinkReadVmData fuel (sp.kernel readv .available) abi addr dest len s = some r ∧
    0 ≤ r.ret ∧ r.dest = copy dest 0 (s.mem.from (setupAddr abi addr)) len

/-- With attach always: `setup_addr` is what the specification says. -/
theorem readsAt_of_available (dest : Bytes) (s : State arch)
    (hs : len < 2 ^ (arch.longBits - 1)) (hr : sp.Readable (setupAddr abi addr) len) :
    ReadsAt sp .available fuel abi addr dest len s := by
  refine ⟨_, pinkReadVmData_available .available hs abi dest s, ?_, ?_⟩ <;>
    rw [pinkVmCread_of_readable .available abi addr dest _ hs hr]
  exact Int.natCast_nonneg len

/-- Without it where `setup_addr` has nothing to do. -/
theorem readsAt_of_words {missing : Attach} (hm : missing ≠ .available) (dest : Bytes)
    (s : State arch) (hf : len < fuel) (hs : len < 2 ^ (arch.longBits - 1))
    (heq : len = 0 ∨ setupAddr abi addr = addr) (hr : sp.Readable addr len) :
    ReadsAt sp missing fuel abi addr dest len s := by
  rw [ReadsAt, pinkReadVmData_missing .available hm hs]
  refine ⟨_, pinkVmLread_ok dest _ hf
    (fun k hk => AddressSpace.peekErr_of_readable missing .available hr hk), ?_, ?_⟩
  · show 0 ≤ toSsize arch (len % 2 ^ 32)
    rw [toSsize_of_lt (Nat.lt_of_le_of_lt (Nat.mod_le ..) hs)]
    exact Int.natCast_nonneg _
  · rcases heq with rfl | heq
    · simp
    · rw [heq]

/-- **Both paths read the same bytes exactly when the address fits.** -/
theorem readsAt_iff (h : CompatTracee abi sp) (dest : Bytes) (s : State arch) (hf : len < fuel)
    (hr : sp.Readable (setupAddr abi addr) len) :
    (∀ readv, ReadsAt sp readv fuel abi addr dest len s) ↔ len = 0 ∨ addr.toNat < 2 ^ 32 := by
  have hs := h.len_lt hr
  constructor
  · intro hall
    rcases Nat.eq_zero_or_pos len with h0 | hpos
    · exact Or.inl h0
    -- above 4 GiB nothing is mapped, and the word-wise path does not mask
    refine Or.inr (Nat.lt_of_not_le fun hhigh => ?_)
    obtain ⟨r, hrun, hret, -⟩ := hall .enosys
    have hnot : ¬ sp.Readable addr len := fun hread => by
      have hbyte := hread 0 hpos
      rw [ahead_zero, h.noRead _ (CompatTracee.page_high hhigh)] at hbyte
      exact absurd hbyte (by simp)
    rw [pinkReadVmData_missing .available (by decide) hs] at hrun
    obtain ⟨r', hrun', hret', -⟩ := pinkVmLread_of_not_readable .enosys .available dest _ hf hnot
    obtain rfl : r = r' := Option.some.inj (hrun.symm.trans hrun')
    rw [hret'] at hret
    exact absurd hret (by decide)
  · intro hcond readv
    by_cases hm : readv = .available
    · subst hm
      exact readsAt_of_available dest s hs hr
    · refine readsAt_of_words hm dest s hf hs (hcond.imp_right h.setupAddr_of_low) ?_
      rcases hcond with rfl | hlow
      · exact fun i hi => absurd hi (Nat.not_lt_zero i)
      · rwa [h.setupAddr_of_low hlow] at hr

/-! ## Writing -/

/-- `pink_write_vm_data` stores the bytes at the address modulo `2^32`, and changes no other. -/
def WritesAt (sp : AddressSpace arch) (writev : Attach) (fuel : Nat) (junk : Nat → Word arch)
    (abi : Abi arch) (addr : Addr arch) (src : Bytes) (len : Nat) (s : State arch) : Prop :=
  ∃ w, pinkWriteVmData fuel (sp.kernel .available writev) junk abi addr src len s = some w ∧
    w.st.mem = s.mem.store (setupAddr abi addr) src len

theorem writesAt_of_available (junk : Nat → Word arch) (src : Bytes) (s : State arch)
    (hs : len < 2 ^ (arch.longBits - 1)) (hw : sp.Writable (setupAddr abi addr) len) :
    WritesAt sp .available fuel junk abi addr src len s := by
  refine ⟨_, pinkWriteVmData_available .available hs junk abi src s, ?_⟩
  rw [pinkVmCwrite_of_writable .available abi addr src _ hs hw]

theorem writesAt_of_empty {missing : Attach} (hm : missing ≠ .available) (junk : Nat → Word arch)
    (src : Bytes) (s : State arch) (hf : 0 < fuel) :
    WritesAt sp missing fuel junk abi addr src 0 s := by
  rw [WritesAt, pinkWriteVmData_missing .available hm (Nat.two_pow_pos _)]
  refine ⟨_, pinkVmLwrite_ok src junk _ hf fun k hk => absurd hk (Nat.not_lt_zero k), ?_⟩
  funext b
  exact (Memory.store_of_le s.mem src (Nat.zero_le _)).symm

/-- The memory that the fallback leaves, at an address it does not have to cut down. From here on
    the question is one about `poked`, and `Lwrite` and `Frame` have the answers. -/
theorem writesAt_iff_poked {missing : Attach} (hm : missing ≠ .available) (junk : Nat → Word arch)
    (src : Bytes) (s : State arch) (hf : len < fuel) (hs : len < 2 ^ (arch.longBits - 1))
    (heq : setupAddr abi addr = addr) (hw : sp.Writable addr len) :
    WritesAt sp missing fuel junk abi addr src len s ↔
      poked s.mem addr src len junk (Cursor.rounds addr len) = s.mem.store addr src len := by
  rw [WritesAt, pinkWriteVmData_missing .available hm hs, heq, pinkVmLwrite_ok src junk _ hf
    fun k hk => AddressSpace.pokeErr_of_writable .available missing hw hk]
  constructor
  · rintro ⟨w, hrun, hmem⟩
    obtain rfl := Option.some.inj hrun
    exact hmem
  · exact fun hmem => ⟨_, rfl, hmem⟩

theorem pinkVmLwrite_high (h : CompatTracee abi sp) (hhigh : 2 ^ 32 ≤ addr.toNat)
    (hpos : 0 < len) (hf : len < fuel) (junk : Nat → Word arch) (src : Bytes) (s : State arch) :
    ∃ w, pinkVmLwrite fuel (sp.kernel .available .enosys) junk addr src len s = some w ∧
      w.st.mem = s.mem := by
  have hfirst : 0 < Cursor.rounds addr len :=
    Cursor.lt_rounds_iff.mpr (by simp [Cursor.after, Cursor.doneAfter]; omega)
  exact ⟨_, pinkVmLwrite_error src junk s hf hfirst (fun k hk => absurd hk (Nat.not_lt_zero k))
    (h.pokeErr_high hhigh .available .enosys), rfl⟩

/-- Above `2^32` the fallback writes nothing, so bytes that differ from those there are lost. The
    bytes are chosen after the memory; that is why the source is quantified in `writesAt_iff`. -/
theorem not_writesAt_of_high (h : CompatTracee abi sp) (hhigh : 2 ^ 32 ≤ addr.toNat)
    (hpos : 0 < len) (hf : len < fuel) (hs : len < 2 ^ (arch.longBits - 1))
    (junk : Nat → Word arch) (s : State arch) :
    ∃ src, ¬ WritesAt sp .enosys fuel junk abi addr src len s := by
  refine ⟨fun i => s.mem (ahead (setupAddr abi addr) i) + 1, ?_⟩
  rintro ⟨w, hrun, hmem⟩
  rw [pinkWriteVmData_missing .available (by decide) hs] at hrun
  obtain ⟨w', hrun', hsame⟩ := pinkVmLwrite_high h hhigh hpos hf junk
    (fun i => s.mem (ahead (setupAddr abi addr) i) + 1) _
  obtain rfl : w = w' := Option.some.inj (hrun.symm.trans hrun')
  have hmax := arch.two_mul_long_max
  have hbyte := congrFun (hsame.symm.trans hmem) (ahead (setupAddr abi addr) 0)
  rw [Memory.store_ahead s.mem _ _ hpos (by omega)] at hbyte
  exact absurd hbyte (by simp)

/-- In the middle of a word the fallback leaves a byte of the range to the union… -/
theorem not_writesAt_of_skewed (hpos : 0 < len) (hf : len < fuel)
    (hs : len < 2 ^ (arch.longBits - 1)) (heq : setupAddr abi addr = addr)
    (hw : sp.Writable addr len) (hk : skew addr ≠ 0) (src : Bytes) (s : State arch) :
    ∃ junk, ¬ WritesAt sp .enosys fuel junk abi addr src len s := by
  obtain ⟨i, hi, j, hjunk⟩ := poked_of_skewed s.mem src hpos hs hk
  refine ⟨fun _ _ => src i + 1, fun hall => ?_⟩
  have hmem := (writesAt_iff_poked (by decide) _ src s hf hs heq hw).mp hall
  have hmax := arch.two_mul_long_max
  have hbyte := congrFun hmem (ahead addr i)
  rw [hjunk, Memory.store_ahead s.mem addr src hi (by omega)] at hbyte
  exact absurd hbyte (by simp)

/-- …and if the range ends there, the byte behind it. -/
theorem not_writesAt_of_part (hpos : 0 < len) (hf : len < fuel)
    (hs : len < 2 ^ (arch.longBits - 1)) (heq : setupAddr abi addr = addr)
    (hw : sp.Writable addr len) (hend : (skew addr + len) % arch.sizeofLong ≠ 0) (src : Bytes)
    (s : State arch) : ∃ junk, ¬ WritesAt sp .enosys fuel junk abi addr src len s := by
  obtain ⟨j, hjunk⟩ := poked_past_end s.mem src hpos hs hend
  refine ⟨fun _ _ => s.mem (ahead addr len) + 1, fun hall => ?_⟩
  have hmem := (writesAt_iff_poked (by decide) _ src s hf hs heq hw).mp hall
  have hmax := arch.two_mul_long_max
  have hgap : len ≤ gap (ahead addr len) addr := Nat.le_of_eq (gap_ahead _ (by omega)).symm
  have hbyte := congrFun hmem (ahead addr len)
  rw [hjunk, Memory.store_of_le s.mem src hgap] at hbyte
  exact absurd hbyte (by simp)

/-- **Both paths write the same bytes exactly when the address fits and the range is made of whole
    words.** -/
theorem writesAt_iff (h : CompatTracee abi sp) (s : State arch) (hf : len < fuel)
    (hr : sp.Readable (setupAddr abi addr) len) (hw : sp.Writable (setupAddr abi addr) len) :
    (∀ writev junk src, WritesAt sp writev fuel junk abi addr src len s) ↔
      len = 0 ∨ (addr.toNat < 2 ^ 32 ∧ addr.toNat % 8 = 0 ∧ len % 8 = 0) := by
  have hs := h.len_lt hr
  have hskew : skew addr = addr.toNat % 8 := by rw [skew, h.long]
  constructor
  · intro hall
    rcases Nat.eq_zero_or_pos len with h0 | hpos
    · exact Or.inl h0
    -- each condition has its own way to fail: a high page is not mapped, a skewed address pokes
    -- bytes in front of the range, and a part of a word pokes those behind it
    have hlow : addr.toNat < 2 ^ 32 := Nat.lt_of_not_le fun hhigh => by
      obtain ⟨src, hbad⟩ := not_writesAt_of_high h hhigh hpos hf hs (fun _ => Word.zero) s
      exact hbad (hall _ _ _)
    have heq := h.setupAddr_of_low hlow
    rw [heq] at hw
    have haligned : addr.toNat % 8 = 0 := Decidable.byContradiction fun hk => by
      obtain ⟨junk, hbad⟩ :=
        not_writesAt_of_skewed hpos hf hs heq hw (by rwa [hskew]) (fun _ => 0) s
      exact hbad (hall _ _ _)
    refine Or.inr ⟨hlow, haligned, Decidable.byContradiction fun hpart => ?_⟩
    obtain ⟨junk, hbad⟩ := not_writesAt_of_part hpos hf hs heq hw
      (by rwa [hskew, haligned, Nat.zero_add, h.long]) (fun _ => 0) s
    exact hbad (hall _ _ _)
  · intro hcond writev junk src
    by_cases hm : writev = .available
    · subst hm
      exact writesAt_of_available junk src s hs hw
    rcases hcond with rfl | ⟨hlow, haligned, hwords⟩
    · exact writesAt_of_empty hm junk src s hf
    · have heq := h.setupAddr_of_low hlow
      rw [heq] at hw
      exact (writesAt_iff_poked hm junk src s hf hs heq hw).mpr
        (poked_of_whole_words s.mem src junk hs (hskew.trans haligned) (by rwa [h.long]))

/-! ## Strings -/

/-- `pink_read_vm_data_nul` delivers the string at the address modulo `2^32`, and does not fail.
    What it counts is left out: the fallback's count is wrong for other reasons. -/
def ReadsStringAt (sp : AddressSpace arch) (readv : Attach) (fuel : Nat) (abi : Abi arch)
    (addr : Addr arch) (dest : Bytes) (len : Nat) (s : State arch) : Prop :=
  ∃ r, pinkReadVmDataNul fuel (sp.kernel readv .available) abi addr dest len s = some r ∧
    0 ≤ r.ret ∧ ∀ i, i < stringCount s.mem (setupAddr abi addr) len →
      r.dest i = s.mem (ahead (setupAddr abi addr) i)

theorem readsStringAt_zero (readv : Attach) (dest : Bytes) (s : State arch) (hf : 0 < fuel) :
    ReadsStringAt sp readv fuel abi addr dest 0 s := by
  refine ⟨⟨0, dest, { s with errno := none }⟩, ?_, Int.le_refl 0,
    fun i hi => absurd hi (by simp [stringCount])⟩
  rw [pinkReadVmDataNul, pinkVmCreadNul_zero _ abi addr dest _ hf]
  rfl

theorem readsStringAt_of_available (dest : Bytes) (s : State arch) (hpos : 0 < len)
    (hlen : len < 2 ^ 31) (hf : len < fuel) (hr : sp.Readable (setupAddr abi addr) len) :
    ReadsStringAt sp .available fuel abi addr dest len s := by
  have hreach : reach (sp.kernel .available .available).readable (setupAddr abi addr) len = len :=
    leading_eq_of_forall hr
  obtain ⟨r, hrun, hstr⟩ := pinkReadVmDataNul_available sp .available hpos hlen hf abi addr dest s
  obtain ⟨c, hc, -, hdest⟩ := hstr.dest
  rw [hreach] at hc
  refine ⟨r, hrun, ?_, fun i hi => ?_⟩
  · rw [hstr.ret, hreach, if_neg (by omega)]
    exact Int.natCast_nonneg _
  · rw [hdest]
    exact copy_of_lt (Nat.zero_le i) (by simp only at hc; omega)

/-- Where `setup_addr` has nothing to do the fallback finds the string as well. -/
theorem readsStringAt_of_words (h : CompatTracee abi sp) {missing : Attach}
    (hm : missing ≠ .available) (dest : Bytes) (s : State arch) (hpos : 0 < len)
    (hlen : len < 2 ^ 31) (hf : len < fuel) (heq : setupAddr abi addr = addr)
    (hr : sp.Readable addr len) : ReadsStringAt sp missing fuel abi addr dest len s := by
  obtain ⟨log, hentry⟩ := pinkReadVmDataNul_missing sp .available hm hpos hlen
    (Nat.zero_lt_of_lt hf) abi addr dest s
  obtain ⟨r, hrun, hret, hdest⟩ := pinkVmLreadNul_ret missing .available dest
    ⟨s.mem, missing.err, log⟩ hpos hlen hf
    (fun k hk => AddressSpace.peekErr_of_readable missing .available hr hk)
  refine ⟨r, hentry.trans hrun, ?_, by rwa [heq]⟩
  have hsmall : lreadNulCount s.mem addr len < 2 ^ (arch.longBits - 1) := by
    have hle := lreadNulCount_le s.mem addr hpos
    rw [h.long] at hle
    rw [h.longBits]
    omega
  rw [hret, toSsize_of_lt hsmall]
  exact Int.natCast_nonneg _

theorem not_readsStringAt_of_high (h : CompatTracee abi sp) (dest : Bytes) (s : State arch)
    (hpos : 0 < len) (hlen : len < 2 ^ 31) (hf : len < fuel) (hhigh : 2 ^ 32 ≤ addr.toNat) :
    ¬ ReadsStringAt sp .enosys fuel abi addr dest len s := by
  rintro ⟨r, hrun, hret, -⟩
  obtain ⟨log, hentry⟩ := pinkReadVmDataNul_missing sp .available (by decide : Attach.enosys ≠ _)
    hpos hlen (Nat.zero_lt_of_lt hf) abi addr dest s
  have hfirst : 0 < Cursor.rounds addr len :=
    Cursor.lt_rounds_iff.mpr (by simp [Cursor.after, Cursor.doneAfter]; omega)
  rw [hentry, pinkVmLreadNul_error dest _ hf hfirst (fun k hk => absurd hk (Nat.not_lt_zero k))
    (fun i hi => absurd hi (by simp)) (h.peekErr_high hhigh .enosys .available)] at hrun
  obtain rfl := Option.some.inj hrun
  exact absurd hret (Int.not_le.mpr (Int.negSucc_lt_zero 0))

/-- From `2^31` bytes on the attach path reads nothing. -/
theorem not_readsStringAt_of_long (dest : Bytes) (s : State arch) (hlo : 2 ^ 31 ≤ len)
    (hhi : len ≤ 2 ^ 32) : ¬ ReadsStringAt sp .available fuel abi addr dest len s := by
  rintro ⟨r, hrun, hret, -⟩
  rw [pinkReadVmDataNul] at hrun
  have hK : (sp.kernel .available .available).readvErr = none := rfl
  rcases pinkVmCreadNul_long abi addr dest { s with errno := none } hK hlo hhi with
    hnone | ⟨log, hfail⟩
  · rw [hnone] at hrun
    exact absurd hrun (by simp)
  · rw [hfail] at hrun
    obtain rfl := Option.some.inj hrun
    exact absurd hret (Int.not_le.mpr (Int.negSucc_lt_zero 0))

/-- **Both paths read the same string exactly when the address fits and the length fits an
    `int`.** -/
theorem readsStringAt_iff (h : CompatTracee abi sp) (dest : Bytes) (s : State arch)
    (hf : len < fuel) (hr : sp.Readable (setupAddr abi addr) len) :
    (∀ readv, ReadsStringAt sp readv fuel abi addr dest len s) ↔
      len = 0 ∨ (addr.toNat < 2 ^ 32 ∧ len < 2 ^ 31) := by
  have hle := h.add_len_le hr
  constructor
  · intro hall
    rcases Nat.eq_zero_or_pos len with h0 | hpos
    · exact Or.inl h0
    have hlen : len < 2 ^ 31 := Nat.lt_of_not_le fun hlong =>
      not_readsStringAt_of_long dest s hlong (by omega) (hall .available)
    exact Or.inr ⟨Nat.lt_of_not_le fun hhigh =>
      not_readsStringAt_of_high h dest s hpos hlen hf hhigh (hall .enosys), hlen⟩
  · intro hcond readv
    rcases Nat.eq_zero_or_pos len with rfl | hpos
    · exact readsStringAt_zero readv dest s hf
    obtain ⟨hlow, hlen⟩ : addr.toNat < 2 ^ 32 ∧ len < 2 ^ 31 := hcond.resolve_left (by omega)
    by_cases hm : readv = .available
    · subst hm
      exact readsStringAt_of_available dest s hpos hlen hf hr
    · have heq := h.setupAddr_of_low hlow
      exact readsStringAt_of_words h hm dest s hpos hlen hf heq (by rwa [heq] at hr)

/-! ## All three -/

/-- `pink_read_vm_data`, `pink_read_vm_data_nul` and `pink_write_vm_data` access the tracee bytes
    at the address modulo `2^32`, and a write no others, whether or not attach is available. The
    three are one definition because a caller has one address for all of them. -/
def SameBytes (sp : AddressSpace arch) (fuel : Nat) (abi : Abi arch) (addr : Addr arch)
    (dest : Bytes) (len : Nat) (s : State arch) : Prop :=
  (∀ readv, ReadsAt sp readv fuel abi addr dest len s) ∧
  (∀ readv, ReadsStringAt sp readv fuel abi addr dest len s) ∧
  ∀ writev junk src, WritesAt sp writev fuel junk abi addr src len s

/-- **The two paths access the same bytes of a 32-bit tracee exactly when the upper half of the
    address is zero already** and, for the string reader, the length fits an `int` and, for the
    writer, the range is made of whole words. -/
theorem sameBytes_iff (h : CompatTracee abi sp) (dest : Bytes) (s : State arch)
    (hf : len < fuel) (hr : sp.Readable (setupAddr abi addr) len)
    (hw : sp.Writable (setupAddr abi addr) len) :
    SameBytes sp fuel abi addr dest len s ↔
      len = 0 ∨ (addr.toNat < 2 ^ 32 ∧ len < 2 ^ 31 ∧ addr.toNat % 8 = 0 ∧ len % 8 = 0) := by
  rw [SameBytes, readsAt_iff h dest s hf hr, readsStringAt_iff h dest s hf hr,
    writesAt_iff h s hf hr hw]
  omega

/-- A tracee with all of its four gigabytes mapped. -/
def lowMapped : AddressSpace .x86_64 where
  readable p := p < 2 ^ 20
  writable p := p < 2 ^ 20
  faultsEio _ := true

theorem lowMapped_compat : CompatTracee Abi.i386 lowMapped where
  long := rfl
  wordsize := rfl
  noRead p hp := by simpa [lowMapped] using hp
  noWrite p hp := by simpa [lowMapped] using hp

/-- A sign-extended pointer above 2 GiB: attach reads the eight bytes, `ptrace` faults. -/
theorem sign_extended_paths_disagree :
    ¬ SameBytes lowMapped 9 Abi.i386 0xffffffff80001000 (fun _ => 0) 8
      ⟨fun _ => 0x2a, none, []⟩ := by
  rintro ⟨hreads, -⟩
  obtain ⟨r, hrun, hret, -⟩ := hreads .enosys
  have hfault : (pinkReadVmData 9 (lowMapped.kernel .enosys .available) Abi.i386
      0xffffffff80001000 (fun _ => 0) 8 ⟨fun _ => 0x2a, none, []⟩).map ReadRet.ret = some (-1) := by
    decide +kernel
  rw [hrun, Option.map_some] at hfault
  rw [Option.some.inj hfault] at hret
  exact absurd hret (by decide)

/-- The same word without the sign. -/
theorem zero_extended_paths_agree :
    SameBytes lowMapped 9 Abi.i386 0x80001000 (fun _ => 0) 8 ⟨fun _ => 0x2a, none, []⟩ :=
  (sameBytes_iff lowMapped_compat (fun _ => 0) ⟨fun _ => 0x2a, none, []⟩ (by decide)
    (by unfold AddressSpace.Readable; decide +kernel)
    (by unfold AddressSpace.Writable; decide +kernel)).mpr (Or.inr (by decide))

end PinkTrace
