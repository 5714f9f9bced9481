import PinkTrace.Spec
import PinkTrace.Proof.Vm.Entry

/-!
# What a write leaves alone

Attach stores the bytes it was given and no others (`pinkVmCwrite_frame`). `pink_vm_lwrite` stores
whole words that it never fetched, so the neighbours of the range in its first and last word are
overwritten: by the union's own content, or, below an address that is not word aligned, by bytes
of `src` that the misplaced residue put there.

It can be said exactly when no neighbour changes. The range has to end on a word boundary. If it
starts on one as well there are no neighbours. If it starts inside a word, the bytes before it are
overwritten with `src[residue], src[residue + 1], …` as far as `m` reaches, so they survive only
if they held those bytes already, and only in the lower half of the word.

The statement quantifies over the contents of the union, and has to. For one content that happens
to be what the neighbours hold anyway every write keeps them; the question is whether a caller can
rely on it. The direction from left to right uses that: it picks a content that differs.
-/

set_option autoImplicit false

namespace PinkTrace

open Lib
open Abi (pinkAbiDefault)

variable {arch : Arch} {addr : Addr arch} {src : Bytes} {len fuel : Nat}

/-- A word-wise write that reports success leaves everything outside its range alone. Nothing is
    claimed of a write that reports anything else. -/
def LwriteFrame (K : Kernel arch) (fuel : Nat) (junk : Nat → Word arch) (addr : Addr arch)
    (src : Bytes) (len : Nat) (s : State arch) : Prop :=
  ∀ w, pinkVmLwrite fuel K junk addr src len s = some w → w.ret = len →
    Untouched s.mem w.st.mem addr len

/-- **Attach writes into its range only**, whatever it returns. -/
theorem pinkVmCwrite_frame (K : Kernel arch) (abi : Abi arch) (addr : Addr arch) (src : Bytes)
    (len : Nat) (s : State arch) :
    Untouched s.mem (pinkVmCwrite K abi addr src len s).st.mem (setupAddr abi addr) len := by
  intro b hb
  rw [pinkVmCwrite, processVmWritev]
  split
  · rfl
  · split
    · rfl
    · have hle := Nat.le_trans (K.transfer_le s.log.length _)
        (leading_le (fun i => K.writable (ahead (setupAddr abi addr) i)) len)
      exact Memory.store_of_le s.mem src (Nat.le_trans hle hb)

/-! ## The neighbours of a range -/

/-- The neighbours below the address are outside of the range… -/
theorem gap_below (hs : len < 2 ^ (arch.longBits - 1)) {o : Nat} (ho : o < skew addr) :
    len ≤ gap (ahead (wordBase addr) o) addr := by
  have hskew := skew_lt addr
  have hmax := arch.two_mul_long_max
  have hgap := gap_ahead_ahead_of_lt (wordBase addr) ho
    (by rcases arch.sizes with ⟨hw, hM⟩ | ⟨hw, hM⟩ <;> omega)
  rw [ahead_wordBase] at hgap
  rcases arch.sizes with ⟨hw, hM⟩ | ⟨hw, hM⟩ <;> omega

/-- …and the bytes from it on are measured from the base less the skew. -/
theorem gap_above {b : Addr arch} (h : skew addr ≤ gap b (wordBase addr)) :
    gap b addr = gap b (wordBase addr) - skew addr := by
  have hgap := gap_ahead_right h
  rwa [ahead_wordBase] at hgap

/-- The byte just past a range that ends inside a word is one the union was never given. So there
    is at least one neighbour above, and it is never kept. -/
theorem poked_past_end (mem : Memory arch.longBits) (src : Bytes) (hpos : 0 < len)
    (hs : len < 2 ^ (arch.longBits - 1)) (hend : (skew addr + len) % arch.sizeofLong ≠ 0) :
    ∃ j : Fin arch.sizeofLong, ∀ junk : Nat → Word arch,
      poked mem addr src len junk (Cursor.rounds addr len) (ahead addr len) =
        junk ((skew addr + len) / arch.sizeofLong) j := by
  have hskew := skew_lt addr
  have hin : skew addr + len < arch.sizeofLong * Cursor.rounds addr len := by
    have hle := (Cursor.mul_rounds addr hpos).1
    refine Nat.lt_of_le_of_ne hle fun heq => hend ?_
    rw [heq, Nat.mul_mod_right]
  have hmod := Nat.mod_lt (skew addr + len) arch.sizeofLong_pos
  refine ⟨⟨_, hmod⟩, fun junk => ?_⟩
  rw [← ahead_wordBase_add, poked_ahead mem addr src junk hs hin]
  refine lwriteWord_junk junk hmod ?_
  simp only [Cursor.after, Cursor.doneAfter, Cursor.m]
  rcases arch.sizes with ⟨hw, -⟩ | ⟨hw, -⟩ <;>
    · simp only [hw] at hskew hin hmod ⊢; omega

/-- A byte below the address: `src` shifted by the residue, as far as the first word's share
    goes. -/
theorem poked_below_src (mem : Memory arch.longBits) (src : Bytes) (junk : Nat → Word arch)
    (hpos : 0 < len) (hs : len < 2 ^ (arch.longBits - 1)) {o : Nat} (ho : o < skew addr)
    (hm : o < min (arch.sizeofLong - skew addr) len) :
    poked mem addr src len junk (Cursor.rounds addr len) (ahead (wordBase addr) o) =
      src (skew addr + o) := by
  have hskew := skew_lt addr
  have hle := (Cursor.mul_rounds addr hpos).1
  rw [poked_ahead mem addr src junk hs (by omega), Nat.div_eq_of_lt (by omega),
    Nat.mod_eq_of_lt (by omega), lwriteWord_src junk (by omega)]
  · simp [Cursor.after, Cursor.doneAfter]
  · simpa [Cursor.after, Cursor.doneAfter, Cursor.m] using hm

/-- …and from there on the union's own content. -/
theorem poked_below_junk (mem : Memory arch.longBits) (src : Bytes) (hpos : 0 < len)
    (hs : len < 2 ^ (arch.longBits - 1)) {o : Nat} (ho : o < skew addr)
    (hm : min (arch.sizeofLong - skew addr) len ≤ o) :
    ∃ j : Fin arch.sizeofLong, ∀ junk : Nat → Word arch,
      poked mem addr src len junk (Cursor.rounds addr len) (ahead (wordBase addr) o) =
        junk 0 j := by
  have hskew := skew_lt addr
  have hle := (Cursor.mul_rounds addr hpos).1
  refine ⟨⟨o, by omega⟩, fun junk => ?_⟩
  rw [poked_ahead mem addr src junk hs (by omega), Nat.div_eq_of_lt (by omega),
    Nat.mod_eq_of_lt (by omega)]
  refine lwriteWord_junk junk (by omega) ?_
  simpa [Cursor.after, Cursor.doneAfter, Cursor.m] using hm

/-! ## When no neighbour changes -/

/-- The words of the range overwrite nothing outside it: it ends on a word boundary, and the
    bytes below it in its first word are within reach of that word's share of `src` and held
    those bytes before. -/
def NeighboursKept (mem : Memory arch.longBits) (addr : Addr arch) (src : Bytes) (len : Nat) :
    Prop :=
  (skew addr + len) % arch.sizeofLong = 0 ∧ 2 * skew addr ≤ arch.sizeofLong ∧
    ∀ o, o < skew addr → mem (ahead (wordBase addr) o) = src (skew addr + o)

/-- A range that ends on a word boundary fills up its first word. -/
theorem share_of_end (hpos : 0 < len) (hend : (skew addr + len) % arch.sizeofLong = 0) :
    min (arch.sizeofLong - skew addr) len = arch.sizeofLong - skew addr := by
  have hskew := skew_lt addr
  rcases Nat.lt_or_ge (skew addr + len) arch.sizeofLong with h | h
  · rw [Nat.mod_eq_of_lt h] at hend
    omega
  · omega

/-- Kept neighbours are all there is to keep: a byte outside of the range and of its words is not
    stored into by any pass. -/
theorem untouched_of_kept {mem : Memory arch.longBits} (junk : Nat → Word arch)
    (hpos : 0 < len) (hs : len < 2 ^ (arch.longBits - 1))
    (h : NeighboursKept mem addr src len) :
    Untouched mem (poked mem addr src len junk (Cursor.rounds addr len)) addr len := by
  obtain ⟨hend, hhalf, hheld⟩ := h
  intro b hb
  rcases Nat.lt_or_ge (gap b (wordBase addr)) (skew addr) with ho | ho
  · have hshare := share_of_end hpos hend
    rw [← ahead_gap b (wordBase addr), poked_below_src mem src junk hpos hs ho (by omega)]
    exact (hheld _ ho).symm
  · -- from the address on, the words end where the range does
    have habove := gap_above ho
    have hlast : arch.sizeofLong * Cursor.rounds addr len ≤ skew addr + len := by
      have hlt := (Cursor.mul_rounds addr hpos).2
      rcases arch.sizes with ⟨hw, -⟩ | ⟨hw, -⟩ <;>
        · simp only [hw] at hlt hend ⊢; omega
    rw [poked_eq mem addr src len junk (Cursor.mul_rounds_le addr hs), if_neg (by omega)]

/-- Whole words, poked one after the other, are a store of their bytes. This is the one case in
    which the two writers do the same to memory. -/
theorem poked_of_whole_words (mem : Memory arch.longBits) (src : Bytes) (junk : Nat → Word arch)
    (hs : len < 2 ^ (arch.longBits - 1)) (h0 : skew addr = 0) (hwords : len % arch.sizeofLong = 0) :
    poked mem addr src len junk (Cursor.rounds addr len) = mem.store addr src len := by
  funext b
  rcases Nat.lt_or_ge (gap b addr) len with hin | hout
  · have hmax := arch.two_mul_long_max
    rw [← ahead_gap b addr, poked_of_aligned mem src junk hs h0 hin,
      Memory.store_ahead mem addr src hin (by omega)]
  · rw [Memory.store_of_le mem src hout]
    rcases Nat.eq_zero_or_pos len with rfl | hpos
    · rfl
    · have hkept : NeighboursKept mem addr src len := by
        refine ⟨by rw [h0, Nat.zero_add, hwords], by omega, fun o ho => ?_⟩
        rw [h0] at ho
        exact absurd ho (Nat.not_lt_zero o)
      exact untouched_of_kept junk hpos hs hkept b hout

/-- The converse. A neighbour that the union decides can be made to change, so none is left to it:
    that settles both ends of the range. -/
theorem kept_of_untouched {mem : Memory arch.longBits} (hpos : 0 < len)
    (hs : len < 2 ^ (arch.longBits - 1))
    (h : ∀ junk, Untouched mem (poked mem addr src len junk (Cursor.rounds addr len)) addr len) :
    NeighboursKept mem addr src len := by
  have hmax := arch.two_mul_long_max
  -- a neighbour the union decides can be made to change
  have hfresh : ∀ b : Addr arch, len ≤ gap b addr → ¬ ∃ k j, ∀ junk : Nat → Word arch,
      poked mem addr src len junk (Cursor.rounds addr len) b = junk k j := by
    rintro b hb ⟨k, j, hjunk⟩
    have hsame := h (fun _ _ => mem b + 1) b hb
    rw [hjunk] at hsame
    exact absurd hsame (by simp)
  have hend : (skew addr + len) % arch.sizeofLong = 0 := by
    refine Decidable.byContradiction fun hend => ?_
    refine hfresh (ahead addr len) ?_ ⟨_, poked_past_end mem src hpos hs hend⟩
    exact Nat.le_of_eq (gap_ahead _ (by omega)).symm
  have hshare := share_of_end hpos hend
  have hhalf : 2 * skew addr ≤ arch.sizeofLong := by
    refine Decidable.byContradiction fun hhalf => ?_
    have hlast : skew addr - 1 < skew addr := by omega
    exact hfresh _ (gap_below hs hlast)
      ⟨_, poked_below_junk mem src hpos hs hlast (by omega)⟩
  refine ⟨hend, hhalf, fun o ho => ?_⟩
  rw [← h (fun _ => Word.zero) _ (gap_below hs ho),
    poked_below_src mem src _ hpos hs ho (by omega)]

/-- **A word-wise write into a fully mapped tracee leaves everything outside its range alone,
    for every content of the union, exactly when the range is empty or its neighbours are
    kept.** A length no `ssize_t` can hold is never reported as written. Attach always leaves
    it alone. -/
theorem lwriteFrame_iff (K : Kernel arch) (addr : Addr arch) (src : Bytes) (s : State arch)
    {len fuel : Nat} (hmap : ∀ a, K.pokeErr a = none) (h32 : len < 2 ^ 32) (hf : len < fuel) :
    ((∀ junk, LwriteFrame K fuel junk addr src len s) ↔
      (len = 0 ∨ NeighboursKept s.mem addr src len ∨ 2 ^ (arch.longBits - 1) ≤ len)) ∧
    ∀ abi, Untouched s.mem (pinkVmCwrite K abi addr src len s).st.mem (setupAddr abi addr)
      len := by
  refine ⟨?_, fun abi => pinkVmCwrite_frame K abi addr src len s⟩
  have hrun : ∀ junk, pinkVmLwrite fuel K junk addr src len s = _ :=
    fun junk => pinkVmLwrite_ok src junk s hf (fun k _ => hmap _)
  rcases Nat.lt_or_ge len (2 ^ (arch.longBits - 1)) with hs | hs
  · -- the write reports its length, so the frame is about memory alone
    have hret : toSsize arch (len % 2 ^ 32) = len := by
      rw [Nat.mod_eq_of_lt h32]
      exact toSsize_of_lt hs
    have hframe : (∀ junk, LwriteFrame K fuel junk addr src len s) ↔ ∀ junk,
        Untouched s.mem (poked s.mem addr src len junk (Cursor.rounds addr len)) addr len := by
      refine forall_congr' fun junk => ⟨fun h => h _ (hrun junk) hret, fun h w hw _ => ?_⟩
      obtain rfl := Option.some.inj (hw.symm.trans (hrun junk))
      exact h
    rw [hframe]
    constructor
    · intro h
      rcases Nat.eq_zero_or_pos len with h0 | hpos
      · exact Or.inl h0
      · exact Or.inr (Or.inl (kept_of_untouched hpos hs h))
    · rintro (rfl | hkept | hlong) junk
      · exact fun b _ => rfl
      · rcases Nat.eq_zero_or_pos len with rfl | hpos
        · exact fun b _ => rfl
        · exact untouched_of_kept junk hpos hs hkept
      · exact absurd hlong (by omega)
  · -- no `ssize_t` is this length, so nothing is claimed of memory
    refine ⟨fun _ => Or.inr (Or.inr hs), fun _ junk w hw hret => ?_⟩
    have hlt := pinkVmLwrite_ret_lt hw
    rw [hret] at hlt
    have hle : ((2 ^ (arch.longBits - 1) : Nat) : Int) ≤ len := Int.ofNat_le.mpr hs
    push_cast at hle
    omega

/-- One byte written word by word takes the seven behind it along. -/
theorem one_byte_write_clobbers :
    ¬ LwriteFrame ((allMapped .x86_64).kernel .enosys .enosys) 2 (fun _ => Word.zero) 4096
      (fun _ => 65) 1 ⟨fun _ => 0x2a, none, []⟩ := by
  intro h
  have hret : (pinkVmLwrite 2 ((allMapped .x86_64).kernel .enosys .enosys) (fun _ => Word.zero)
      4096 (fun _ => 65) 1 ⟨fun _ => 0x2a, none, []⟩).map (fun w => (w.ret, w.st.mem 4097))
      = some (1, 0) := by decide +kernel
  obtain ⟨w, hrun, hw⟩ := Option.map_eq_some_iff.mp hret
  obtain ⟨hone, hzero⟩ := Prod.mk.inj hw
  have hkept := h w hrun hone 4097 (by decide)
  rw [hzero] at hkept
  exact absurd hkept (by decide)

/-- A whole word, written where it belongs, does not. -/
theorem whole_word_write_keeps :
    LwriteFrame ((allMapped .x86_64).kernel .enosys .enosys) 9 (fun _ => Word.zero) 4096
      (fun _ => 65) 8 ⟨fun _ => 0x2a, none, []⟩ :=
  (lwriteFrame_iff ((allMapped .x86_64).kernel .enosys .enosys) 4096 (fun _ => 65)
    ⟨fun _ => 0x2a, none, []⟩ (fun _ => rfl) (by decide) (by decide)).1.mpr
    (Or.inr (Or.inl ⟨by decide, by decide, fun o ho => absurd ho (Nat.not_lt_zero o)⟩)) _

end PinkTrace
