import PinkTrace.VmSession
import PinkTrace.Proof.Vm.Frame
import PinkTrace.Proof.Vm.Requests
import PinkTrace.Proof.Vm.RoundTrip

/-!
# Whole sessions with a tracee's memory

Two machines a tracer might be talking to, and when it is.

* With attach, whatever it transfers, a session keeps its **accounts**: the values returned say
  how many bytes of each call went where, and the memory at the end is what they add up to.
  Nothing is asked of the ranges, the pages or the ABI; a call that fails has done nothing.
* With and without attach in turns, a session is one with a **byte store**, as long as its ranges
  are mapped and the words of the fallback are whole ones. The second half of that is needed
  because of what `pink_vm_lwrite` does to the neighbours of a range, and only when it is
  `pink_vm_lwrite` that writes.

## From one call to a session

Both results have the same shape: a lemma about one call from an arbitrary state, and
`Lib.session_turns`, which makes a statement about a list of calls of it. That the state is
arbitrary is the point. Earlier calls leave an errno, a log and a memory behind, and none of it
may matter to the next one. The entry points clear `errno` first, so it does not; the log only
tells the kernel how many requests there were.

Excluding the fallback from the accounts is not a technicality. A word-wise write overwrites bytes
outside of its range, and one that fails at once reports `2^32 - 1` bytes on a 64-bit host. No
equation between the value and the memory could be right for it.
-/

set_option autoImplicit false

namespace PinkTrace

open Lib
open Abi (pinkAbiDefault)

variable {arch : Arch}

/-! ## Accounts -/

/-- Attach may fail, but neither is missing nor forbidden: there is no fallback. Any other error
    is an error of every call, and is accounted for. -/
structure NoFallback (K : Kernel arch) : Prop where
  readv : ¬ (K.readvErr = some .enosys ∨ K.readvErr = some .eperm)
  writev : ¬ (K.writevErr = some .enosys ∨ K.writevErr = some .eperm)

/-- An attach request fails with the kernel's error, or because of its length. -/
theorem attachFailure_ne {err : Option Errno} (h : ¬ (err = some .enosys ∨ err = some .eperm))
    {len : Nat} {e : Errno} (he : attachFailure arch err len = some e) :
    ¬ (e = .enosys ∨ e = .eperm) := by
  unfold attachFailure at he
  split at he
  · rename_i henosys
    exact absurd (.inl henosys) h
  · split at he
    · cases he
      decide
    · rintro (rfl | rfl)
      · exact h (.inl he)
      · exact h (.inr he)

/-- No fallback, read off the errno that a request leaves. -/
theorem attachMissing_eq_false {s : State arch}
    (h : ∀ e, s.errno = some e → ¬ (e = .enosys ∨ e = .eperm)) : attachMissing s = false := by
  unfold attachMissing
  cases herr : s.errno with
  | none => rfl
  | some e =>
    have hne := h e herr
    simp only [not_or] at hne
    simp [hne.1, hne.2]

/-- An attach read does what it says, and does not look as if attach were missing. The number of
    bytes is that of the value also when it is `-1`: `toNat` makes it none. -/
theorem pinkVmCread_accounted {K : Kernel arch} (hK : NoFallback K) (abi : Abi arch)
    (addr : Addr arch) (dest : Bytes) (len : Nat) {s : State arch} (hs : s.errno = none) :
    let r := pinkVmCread K abi addr dest len s
    attachMissing r.st = false ∧ r.ret ≤ len ∧ r.st.mem = s.mem ∧
      r.dest = copy dest 0 (s.mem.from (setupAddr abi addr)) r.ret.toNat := by
  simp only [pinkVmCread, processVmReadv]
  split
  · rename_i e he
    refine ⟨attachMissing_eq_false ?_, by dsimp only; omega, rfl, (copy_zero ..).symm⟩
    rintro e' ⟨⟩
    exact attachFailure_ne hK.readv he
  · split
    · refine ⟨attachMissing_eq_false ?_, by dsimp only; omega, rfl, (copy_zero ..).symm⟩
      rintro e' ⟨⟩
      decide
    · refine ⟨attachMissing_eq_false ?_, ?_, rfl, by rw [Int.toNat_natCast]⟩
      · intro e he
        rw [hs] at he
        cases he
      · exact Int.ofNat_le.mpr (Nat.le_trans (K.transfer_le _ _) (leading_le _ _))

theorem pinkVmCwrite_accounted {K : Kernel arch} (hK : NoFallback K) (abi : Abi arch)
    (addr : Addr arch) (src : Bytes) (len : Nat) {s : State arch} (hs : s.errno = none) :
    let w := pinkVmCwrite K abi addr src len s
    attachMissing w.st = false ∧ w.ret ≤ len ∧
      w.st.mem = s.mem.store (setupAddr abi addr) src w.ret.toNat := by
  have hnothing : ∀ mem : Memory arch.longBits, mem.store (setupAddr abi addr) src 0 = mem :=
    fun mem => funext fun b => mem.store_of_le src (Nat.zero_le _)
  simp only [pinkVmCwrite, processVmWritev]
  split
  · rename_i e he
    refine ⟨attachMissing_eq_false ?_, by dsimp only; omega, (hnothing _).symm⟩
    rintro e' ⟨⟩
    exact attachFailure_ne hK.writev he
  · split
    · refine ⟨attachMissing_eq_false ?_, by dsimp only; omega, (hnothing _).symm⟩
      rintro e' ⟨⟩
      decide
    · refine ⟨attachMissing_eq_false ?_, ?_, by rw [Int.toNat_natCast]⟩
      · intro e he
        rw [hs] at he
        cases he
      · exact Int.ofNat_le.mpr (Nat.le_trans (K.transfer_le _ _) (leading_le _ _))

/-- One call, from any state. -/
theorem VmCall.reply_accounted {K : Kernel arch} (hK : NoFallback K) (fuel : Nat) (abi : Abi arch)
    (c : VmCall arch) (s : State arch) :
    ∃ b s', c.reply fuel K abi s = some (b, s') ∧ c.Accounted abi b s.mem s'.mem := by
  cases c with
  | read addr dest len =>
    obtain ⟨hfound, hle, hmem, hdest⟩ :=
      @pinkVmCread_accounted arch K hK abi addr dest len { s with errno := none } rfl
    have hread : pinkReadVmData fuel K abi addr dest len s =
        some (pinkVmCread K abi addr dest len { s with errno := none }) := by
      simp only [pinkReadVmData, hfound, Bool.false_eq_true, if_false]
    refine ⟨_, _, congrArg (Option.map _) hread, hle, hmem, ?_⟩
    dsimp only
    rw [hdest]
  | write addr src len junk =>
    obtain ⟨hfound, hle, hmem⟩ :=
      @pinkVmCwrite_accounted arch K hK abi addr src len { s with errno := none } rfl
    have hwrite : pinkWriteVmData fuel K junk abi addr src len s =
        some (pinkVmCwrite K abi addr src len { s with errno := none }) := by
      simp only [pinkWriteVmData, hfound, Bool.false_eq_true, if_false]
    exact ⟨_, _, congrArg (Option.map _) hwrite, hle, hmem⟩

/-- **With attach, the values returned are the whole truth about a session**, for every kernel
    that does not make the library fall back, every ABI and all calls. The accounts are a chain:
    each call's memory is the next one's. -/
theorem attach_session_accounted (K : Kernel arch) (hK : NoFallback K) (fuel : Nat)
    (abi : Abi arch) (calls : List (VmCall arch)) (s : State arch) :
    ∃ replies s', runSession (VmCall.reply fuel K abi) calls s = some (replies, s') ∧
      Chain (VmCall.Accounted abi) calls replies s.mem s'.mem := by
  have hstep : ∀ c ∈ calls, ∀ (s : State arch) (mem : Memory arch.longBits), s.mem = mem →
      ∃ b s' mem', c.reply fuel K abi s = some (b, s') ∧ c.Accounted abi b mem mem' ∧
        s'.mem = mem' := by
    rintro c - s mem rfl
    obtain ⟨b, s', hreply, hacc⟩ := c.reply_accounted hK fuel abi s
    exact ⟨b, s', s'.mem, hreply, hacc, rfl⟩
  obtain ⟨replies, s', mem', hsession, hchain, rfl⟩ := session_chain _ hstep (rfl : s.mem = s.mem)
  exact ⟨replies, s', hsession, hchain⟩

/-- Eight bytes are to be written and two to be read; one of each is. -/
theorem attach_session_accounted_bytewise :
    let calls := [VmCall.write 4096 (fun _ => 65) 8 (fun _ => Word.zero),
      .read 4096 (fun _ => 0) 2]
    let s : State .x86_64 := ⟨fun _ => 1, none, []⟩
    (runSession (VmCall.reply 1 (byteAtATime .x86_64) (pinkAbiDefault .x86_64)) calls s).map
        (fun x => (x.1.map VmReply.buffer, x.2.mem 4096, x.2.mem 4097)) =
      some ([[], [65, 0]], 65, 1) ∧
    ∃ replies s',
      runSession (VmCall.reply 1 (byteAtATime .x86_64) (pinkAbiDefault .x86_64)) calls s =
        some (replies, s') ∧
      Chain (VmCall.Accounted (pinkAbiDefault .x86_64)) calls replies s.mem s'.mem :=
  ⟨by decide +kernel,
    attach_session_accounted (byteAtATime .x86_64) ⟨by decide, by decide⟩ 1
      (pinkAbiDefault .x86_64) _ _⟩

/-! ## A byte store -/

/-- What is asked of a call: its range is mapped and its length one that the `int`s of the library
    can count, and a write that has to go word by word has whole words to write. Nothing is asked
    of the order of the calls. -/
def VmMoment.Fits (sp : AddressSpace arch) (m : VmMoment arch) : Prop :=
  match m.call with
  | .read addr _ len =>
    sp.Readable addr len ∧ len < 2 ^ 32 ∧ len < 2 ^ (arch.longBits - 1)
  | .write addr _ len _ =>
    sp.Writable addr len ∧ len < 2 ^ 32 ∧ len < 2 ^ (arch.longBits - 1) ∧
      (m.writev = .available ∨ skew addr = 0 ∧ len % arch.sizeofLong = 0)

def VmMoment.len (m : VmMoment arch) : Nat :=
  match m.call with
  | .read _ _ len => len
  | .write _ _ len _ => len

/-- The answer at this moment. The kernel is made up anew for every call, from the same pages. -/
def VmMoment.reply (fuel : Nat) (sp : AddressSpace arch) (m : VmMoment arch) :
    State arch → Option (VmReply × State arch) :=
  m.call.reply fuel (sp.kernel m.readv m.writev) (pinkAbiDefault arch)

theorem listOf_copy_zero (dest src : Bytes) (len : Nat) :
    listOf (copy dest 0 src len) len = listOf src len := by
  refine List.map_congr_left fun i hi => ?_
  rw [copy_of_lt (Nat.zero_le i) (by rw [Nat.zero_add]; exact List.mem_range.mp hi), Nat.sub_zero]

/-- A readable range is read exactly on either path, and stays as it is. The second half is new
    over `pinkReadVmData_of_readable`, and what a session needs of a read. -/
theorem pinkReadVmData_keeps {sp : AddressSpace arch} {addr : Addr arch} {len fuel : Nat}
    (readv writev : Attach) (dest : Bytes) (s : State arch) (hf : len < fuel) (h32 : len < 2 ^ 32)
    (hs : len < 2 ^ (arch.longBits - 1)) (h : sp.Readable addr len) :
    ∃ r, pinkReadVmData fuel (sp.kernel readv writev) (pinkAbiDefault arch) addr dest len s =
      some r ∧ r.ret = len ∧ r.dest = copy dest 0 (s.mem.from addr) len ∧ r.st.mem = s.mem := by
  by_cases hm : readv = .available
  · subst hm
    rw [pinkReadVmData_available writev hs, pinkVmCread_of_readable writev _ addr dest _ hs
      (by rwa [setupAddr_default]), setupAddr_default]
    exact ⟨_, rfl, rfl, rfl, rfl⟩
  · rw [pinkReadVmData_missing writev hm hs, pinkVmLread_ok dest _ hf
      (fun k hk => AddressSpace.peekErr_of_readable readv writev h hk), Nat.mod_eq_of_lt h32,
      toSsize_of_lt hs]
    exact ⟨_, rfl, rfl, rfl, rfl⟩

/-- A writable range is stored exactly by attach, and by words if there are only whole ones. -/
theorem pinkWriteVmData_stores {sp : AddressSpace arch} {addr : Addr arch} {len fuel : Nat}
    {writev : Attach} (readv : Attach) (junk : Nat → Word arch) (src : Bytes) (s : State arch)
    (hf : len < fuel) (h32 : len < 2 ^ 32) (hs : len < 2 ^ (arch.longBits - 1))
    (h : sp.Writable addr len)
    (hpath : writev = .available ∨ skew addr = 0 ∧ len % arch.sizeofLong = 0) :
    ∃ w, pinkWriteVmData fuel (sp.kernel readv writev) junk (pinkAbiDefault arch) addr src len s =
      some w ∧ w.ret = len ∧ w.st.mem = s.mem.store addr src len := by
  by_cases hm : writev = .available
  · subst hm
    rw [pinkWriteVmData_available readv hs, pinkVmCwrite_of_writable readv _ addr src _ hs
      (by rwa [setupAddr_default]), setupAddr_default]
    exact ⟨_, rfl, rfl, rfl⟩
  · obtain ⟨h0, hwords⟩ := hpath.resolve_left hm
    obtain ⟨w, hrun, hret, hmem⟩ := pinkWriteVmData_lwrite readv hm junk src s hf h32 hs h
    exact ⟨w, hrun, hret, hmem.trans (poked_of_whole_words s.mem src junk hs h0 hwords)⟩

/-- One call, from any state. The two machines agree on the reply and on the memory, and that is
    all they have in common. -/
theorem VmMoment.reply_stored {sp : AddressSpace arch} {m : VmMoment arch} (h : m.Fits sp)
    {fuel : Nat} (hf : m.len < fuel) (s : State arch) :
    ∃ b s', m.reply fuel sp s = some (b, s') ∧ m.call.stored s.mem = (b, s'.mem) := by
  obtain ⟨readv, writev, call⟩ := m
  cases call with
  | read addr dest len =>
    obtain ⟨hr, h32, hs⟩ := h
    have hf : len < fuel := hf
    obtain ⟨r, hread, hret, hdest, hmem⟩ :=
      pinkReadVmData_keeps readv writev dest s hf h32 hs hr
    refine ⟨_, _, congrArg (Option.map _) hread, ?_⟩
    simp only [VmCall.stored, hret, hdest, hmem, listOf_copy_zero]
  | write addr src len junk =>
    obtain ⟨hw, h32, hs, hpath⟩ := h
    have hf : len < fuel := hf
    have hpath : writev = .available ∨ skew addr = 0 ∧ len % arch.sizeofLong = 0 := hpath
    obtain ⟨w, hwrite, hret, hmem⟩ :=
      pinkWriteVmData_stores readv junk src s hf h32 hs hw hpath
    refine ⟨_, _, congrArg (Option.map _) hwrite, ?_⟩
    simp only [VmCall.stored, hret, hmem]

/-- **A session with mapped ranges is a session with a byte store**, whether attach is there,
    comes or goes, as long as the writes that have to do without it are of whole words. Each call
    is asked for what it needs at its own moment, and the replies are those of the store. -/
theorem mixed_session_is_store (sp : AddressSpace arch) (fuel : Nat)
    (moments : List (VmMoment arch)) (h : ∀ m ∈ moments, m.Fits sp ∧ m.len < fuel)
    (s : State arch) :
    ∃ replies s', runSession (VmMoment.reply fuel sp) moments s = some (replies, s') ∧
      Chain (fun m b mem mem' => m.call.stored mem = (b, mem')) moments replies s.mem s'.mem := by
  have hstep : ∀ m ∈ moments, ∀ (s : State arch) (mem : Memory arch.longBits), s.mem = mem →
      ∃ b s' mem', m.reply fuel sp s = some (b, s') ∧ m.call.stored mem = (b, mem') ∧
        s'.mem = mem' := by
    rintro m hm s mem rfl
    obtain ⟨b, s', hreply, hstored⟩ := m.reply_stored (h m hm).1 (h m hm).2 s
    exact ⟨b, s', s'.mem, hreply, hstored, rfl⟩
  obtain ⟨replies, s', mem', hsession, hchain, rfl⟩ := session_chain _ hstep (rfl : s.mem = s.mem)
  exact ⟨replies, s', hsession, hchain⟩

/-- Written by attach, in the middle of a word, and read by words. -/
theorem mixed_session_is_store_words :
    let moments := [
      ⟨.available, .available, VmCall.write 4097 (fun _ => 65) 2 (fun _ => Word.zero)⟩,
      ⟨.enosys, .eperm, .write 4104 (fun _ => 66) 8 (fun _ => Word.zero)⟩,
      ⟨.enosys, .available, .read 4096 (fun _ => 0) 9⟩]
    let s : State .x86_64 := ⟨fun _ => 1, none, []⟩
    (runSession (VmMoment.reply 10 (allMapped .x86_64)) moments s).map
        (fun x => x.1.map VmReply.buffer) =
      some [[], [], [1, 65, 65, 1, 1, 1, 1, 1, 66]] ∧
    ∃ replies s', runSession (VmMoment.reply 10 (allMapped .x86_64)) moments s =
        some (replies, s') ∧
      Chain (fun m b mem mem' => m.call.stored mem = (b, mem')) moments replies s.mem s'.mem := by
  refine ⟨by decide +kernel, mixed_session_is_store (allMapped .x86_64) 10 _ ?_ _⟩
  intro m hm
  simp only [List.mem_cons, List.not_mem_nil, or_false] at hm
  rcases hm with rfl | rfl | rfl
  · exact ⟨⟨fun _ _ => rfl, by decide, by decide, .inl rfl⟩, by decide⟩
  · exact ⟨⟨fun _ _ => rfl, by decide, by decide, .inr (by decide)⟩, by decide⟩
  · exact ⟨⟨fun _ _ => rfl, by decide, by decide⟩, by decide⟩

end PinkTrace
