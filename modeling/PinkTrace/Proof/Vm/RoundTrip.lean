import PinkTrace.Proof.Vm.Entry

/-!
# Writing and reading back

A write of `len` bytes that reports `len` should be read back as written, and with attach it is.
Through the word-wise path it is when the address is word aligned. Anywhere else the misplaced
`residue` in `memcpy(u.x, &src[residue], m)` shifts the first word's share of the buffer down to
the start of the word, and the last byte of that share reads back as a byte of the union that
nothing was ever stored in.

Reading is exact on both paths, so a round trip is a statement about the memory that the write
leaves. `roundTrips_of_mem` and `mem_of_roundTrips` say that in both directions and take the
reader out of the question; what remains are the two writers. A round trip does not notice a
neighbour that was overwritten: that is `Frame`.
-/

set_option autoImplicit false

namespace PinkTrace

open Lib
open Abi (pinkAbiDefault)

variable {arch : Arch} {sp : AddressSpace arch} {addr : Addr arch} {src : Bytes}
  {len fuel : Nat}

/-- What was written is read back: if the write reports the whole length, the read that follows
    does too, and finds the bytes of `src`. A write that reports less is not held to anything. -/
def RoundTrips (K : Kernel arch) (fuel : Nat) (junk : Nat → Word arch) (addr : Addr arch)
    (src dest : Bytes) (len : Nat) (s : State arch) : Prop :=
  ∀ w, pinkWriteVmData fuel K junk (pinkAbiDefault arch) addr src len s = some w →
    w.ret = len →
    ∃ r, pinkReadVmData fuel K (pinkAbiDefault arch) addr dest len w.st = some r ∧
      r.ret = len ∧ ∀ i, i < len → r.dest i = src i

/-- It is enough that the memory holds the bytes… -/
theorem roundTrips_of_mem {readv writev : Attach} {junk : Nat → Word arch} {dest : Bytes}
    {s : State arch} (hf : len < fuel) (h32 : len < 2 ^ 32)
    (hs : len < 2 ^ (arch.longBits - 1)) (hr : sp.Readable addr len)
    (h : ∀ w, pinkWriteVmData fuel (sp.kernel readv writev) junk (pinkAbiDefault arch) addr src
      len s = some w → ∀ i, i < len → w.st.mem (ahead addr i) = src i) :
    RoundTrips (sp.kernel readv writev) fuel junk addr src dest len s := by
  intro w hw _
  obtain ⟨r, hrun, hret, hdest⟩ :=
    pinkReadVmData_of_readable readv writev dest w.st hf h32 hs hr
  refine ⟨r, hrun, hret, fun i hi => ?_⟩
  rw [hdest, copy_of_lt (Nat.zero_le i) (by omega)]
  exact h w hw i hi

/-- …and necessary, of a write that reports the length. -/
theorem mem_of_roundTrips {readv writev : Attach} {junk : Nat → Word arch} {dest : Bytes}
    {s : State arch} {w : WriteRet arch} (hf : len < fuel) (h32 : len < 2 ^ 32)
    (hs : len < 2 ^ (arch.longBits - 1)) (hr : sp.Readable addr len)
    (h : RoundTrips (sp.kernel readv writev) fuel junk addr src dest len s)
    (hw : pinkWriteVmData fuel (sp.kernel readv writev) junk (pinkAbiDefault arch) addr src len s
      = some w) (hret : w.ret = len) {i : Nat} (hi : i < len) :
    w.st.mem (ahead addr i) = src i := by
  obtain ⟨r, hrun, -, hdest⟩ := h w hw hret
  obtain ⟨r', hrun', -, hdest'⟩ :=
    pinkReadVmData_of_readable readv writev dest w.st hf h32 hs hr
  obtain rfl : r = r' := Option.some.inj (hrun.symm.trans hrun')
  rw [← hdest i hi, hdest', copy_of_lt (Nat.zero_le i) (by omega)]
  rfl

/-- The memory a word-wise write leaves behind in a writable range, with the value it reports. -/
theorem pinkWriteVmData_lwrite {writev : Attach} (readv : Attach) (hm : writev ≠ .available)
    (junk : Nat → Word arch) (src : Bytes) (s : State arch) (hf : len < fuel)
    (h32 : len < 2 ^ 32) (hs : len < 2 ^ (arch.longBits - 1)) (hw : sp.Writable addr len) :
    ∃ w, pinkWriteVmData fuel (sp.kernel readv writev) junk (pinkAbiDefault arch) addr src len s
      = some w ∧ w.ret = len ∧
      w.st.mem = poked s.mem addr src len junk (Cursor.rounds addr len) := by
  rw [pinkWriteVmData_missing readv hm hs, pinkVmLwrite_ok src junk _ hf
    (fun k hk => AddressSpace.pokeErr_of_writable readv writev hw hk)]
  refine ⟨_, rfl, ?_, rfl⟩
  rw [Nat.mod_eq_of_lt h32]
  exact toSsize_of_lt hs

/-! ## The two writers -/

theorem roundTrips_of_available (readv : Attach) (junk : Nat → Word arch) (dest : Bytes)
    (s : State arch) (hf : len < fuel) (h32 : len < 2 ^ 32)
    (hs : len < 2 ^ (arch.longBits - 1)) (hr : sp.Readable addr len)
    (hw : sp.Writable addr len) :
    RoundTrips (sp.kernel readv .available) fuel junk addr src dest len s := by
  refine roundTrips_of_mem hf h32 hs hr fun w hrun i hi => ?_
  rw [pinkWriteVmData_available readv hs, pinkVmCwrite_of_writable readv _ addr src _ hs
    (by rwa [setupAddr_default]), setupAddr_default] at hrun
  obtain rfl := Option.some.inj hrun
  have hmax := arch.two_mul_long_max
  exact Memory.store_ahead s.mem addr src hi (by omega)

theorem roundTrips_of_aligned {writev : Attach} (readv : Attach) (hm : writev ≠ .available)
    (junk : Nat → Word arch) (dest : Bytes) (s : State arch) (hf : len < fuel)
    (h32 : len < 2 ^ 32) (hs : len < 2 ^ (arch.longBits - 1)) (hr : sp.Readable addr len)
    (hw : sp.Writable addr len) (h0 : skew addr = 0) :
    RoundTrips (sp.kernel readv writev) fuel junk addr src dest len s := by
  refine roundTrips_of_mem hf h32 hs hr fun w hrun i hi => ?_
  obtain ⟨w', hrun', -, hst⟩ := pinkWriteVmData_lwrite readv hm junk src s hf h32 hs hw
  obtain rfl : w = w' := Option.some.inj (hrun.symm.trans hrun')
  rw [hst]
  exact poked_of_aligned s.mem src junk hs h0 hi

/-- At an address that is not aligned some content of the union shows. Which one is chosen by the
    byte it has to differ from. -/
theorem not_roundTrips_of_skewed {writev : Attach} (readv : Attach) (hm : writev ≠ .available)
    (src dest : Bytes) (s : State arch) (hpos : 0 < len) (hf : len < fuel) (h32 : len < 2 ^ 32)
    (hs : len < 2 ^ (arch.longBits - 1)) (hr : sp.Readable addr len)
    (hw : sp.Writable addr len) (hk : skew addr ≠ 0) :
    ∃ junk, ¬ RoundTrips (sp.kernel readv writev) fuel junk addr src dest len s := by
  obtain ⟨i, hi, j, hmem⟩ := poked_of_skewed s.mem src hpos hs hk
  refine ⟨fun _ _ => src i + 1, fun h => ?_⟩
  obtain ⟨w, hrun, hret, hst⟩ :=
    pinkWriteVmData_lwrite readv hm (fun _ _ => src i + 1) src s hf h32 hs hw
  have hback := mem_of_roundTrips hf h32 hs hr h hrun hret hi
  rw [hst, hmem] at hback
  exact absurd hback (by simp)

/-- **What was written is read back exactly when attach did the writing or the address is word
    aligned.** A length no `ssize_t` can hold is never reported, so nothing is promised of
    it. -/
theorem roundTrips_iff (sp : AddressSpace arch) (readv writev : Attach) (addr : Addr arch)
    (src dest : Bytes) (s : State arch) {len fuel : Nat} (hpos : 0 < len) (h32 : len < 2 ^ 32)
    (hf : len < fuel) (hr : sp.Readable addr len) (hw : sp.Writable addr len) :
    (∀ junk, RoundTrips (sp.kernel readv writev) fuel junk addr src dest len s) ↔
      (writev = .available ∨ skew addr = 0 ∨ 2 ^ (arch.longBits - 1) ≤ len) := by
  rcases Nat.lt_or_ge len (2 ^ (arch.longBits - 1)) with hs | hs
  · by_cases hm : writev = .available
    · subst hm
      exact ⟨fun _ => Or.inl rfl,
        fun _ junk => roundTrips_of_available readv junk dest s hf h32 hs hr hw⟩
    · constructor
      · intro h
        refine Or.inr (Or.inl (Decidable.byContradiction fun hk => ?_))
        obtain ⟨junk, hbad⟩ :=
          not_roundTrips_of_skewed readv hm src dest s hpos hf h32 hs hr hw hk
        exact hbad (h junk)
      · rintro (h | h0 | hlong) junk
        · exact absurd h hm
        · exact roundTrips_of_aligned readv hm junk dest s hf h32 hs hr hw h0
        · exact absurd hlong (by omega)
  · refine ⟨fun _ => Or.inr (Or.inr hs), fun _ junk w hrun hret => ?_⟩
    exact absurd hret (pinkWriteVmData_ret_ne hs hrun)

/-- Eight bytes written word by word from one past a word boundary, over zeroes: the seventh
    comes back as whatever the union held. -/
theorem skewed_write_not_read_back :
    ¬ RoundTrips ((allMapped .x86_64).kernel .available .enosys) 9 (fun _ => Word.zero) 4097
      (fun i => UInt8.ofNat (i + 1)) (fun _ => 0) 8 ⟨fun _ => 0, none, []⟩ := by
  intro h
  let K := (allMapped .x86_64).kernel .available .enosys
  let s : State .x86_64 := ⟨fun _ => 0, none, []⟩
  let src : Bytes := fun i => UInt8.ofNat (i + 1)
  have hret : (pinkWriteVmData 9 K (fun _ => Word.zero) (pinkAbiDefault .x86_64) 4097 src 8
      s).map WriteRet.ret = some 8 := by decide +kernel
  have hback : ((pinkWriteVmData 9 K (fun _ => Word.zero) (pinkAbiDefault .x86_64) 4097 src 8
      s).bind fun w => (pinkReadVmData 9 K (pinkAbiDefault .x86_64) 4097 (fun _ => 0) 8
        w.st).map fun r => r.dest 6) = some 0 := by decide +kernel
  obtain ⟨w, hrun, hw⟩ := Option.map_eq_some_iff.mp hret
  obtain ⟨r, hread, -, hdest⟩ := h w hrun hw
  rw [hrun, Option.bind_some, hread, Option.map_some] at hback
  have hbyte := hdest 6 (by decide)
  rw [Option.some.inj hback] at hbyte
  exact absurd hbyte (by decide)

/-- The same bytes on the boundary itself. -/
theorem aligned_write_read_back :
    RoundTrips ((allMapped .x86_64).kernel .available .enosys) 9 (fun _ => Word.zero) 4096
      (fun i => UInt8.ofNat (i + 1)) (fun _ => 0) 8 ⟨fun _ => 0, none, []⟩ :=
  (roundTrips_iff (allMapped .x86_64) .available .enosys 4096 _ _ _ (by decide) (by decide)
    (by decide) (fun _ _ => rfl) (fun _ _ => rfl)).mpr (Or.inr (Or.inl (by decide))) _

end PinkTrace
