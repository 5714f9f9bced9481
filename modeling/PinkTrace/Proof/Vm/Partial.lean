import PinkTrace.Proof.Vm.Entry

/-!
# Partially readable ranges

`read.h` promises callers of `pink_read_vm_data` a count they can check for partial reads. Attach
keeps that promise: it stops at the first unreadable byte and reports what it copied. The
word-wise fallback does not, because a failed peek returns `-1` at any pass, under a comment ("Not
started yet") that is only true of the first. So the two paths agree exactly when nothing can be
read or everything can, and a range that becomes unreadable half way through is a count on one
kernel and an error on the other.

Agreement is about the value and the buffer (`SameRead`). It cannot be about the state: the paths
make different requests, and the log shows which. That the buffer agrees too is not automatic in
the case where nothing can be read: neither path may have written to it.
-/

set_option autoImplicit false

namespace PinkTrace

open Lib
open Abi (pinkAbiDefault)

variable {arch : Arch} {sp : AddressSpace arch} {addr : Addr arch} {dest : Bytes}
  {len fuel : Nat}

/-- What a caller can observe of a read. -/
def SameRead (r r' : ReadRet arch) : Prop := r.ret = r'.ret ∧ r.dest = r'.dest

/-- The two paths give the same read of this range: `pink_vm_lread` and `pink_vm_cread` do, and
    `pink_read_vm_data` does not show whether attach is available. The second is what a program
    would notice. -/
def PathsAgree (sp : AddressSpace arch) (fuel : Nat) (addr : Addr arch) (dest : Bytes)
    (len : Nat) (s : State arch) : Prop :=
  (∃ r, pinkVmLread fuel (sp.kernel .available .available) addr dest len s = some r ∧
    SameRead r (pinkVmCread (sp.kernel .available .available) (pinkAbiDefault arch) addr dest
      len s)) ∧
  ∀ missing, missing ≠ Attach.available → ∃ r r',
    pinkReadVmData fuel (sp.kernel .available .available) (pinkAbiDefault arch) addr dest len s
      = some r ∧
    pinkReadVmData fuel (sp.kernel missing .available) (pinkAbiDefault arch) addr dest len s
      = some r' ∧ SameRead r r'

/-! ## The word-wise path -/

/-- Any unreadable byte is the end of a word-wise read. Only if it is the first is the buffer as
    it was. -/
theorem pinkVmLread_of_not_readable (readv writev : Attach) (dest : Bytes) (s : State arch)
    (hf : len < fuel) (h : ¬ sp.Readable addr len) :
    ∃ r, pinkVmLread fuel (sp.kernel readv writev) addr dest len s = some r ∧ r.ret = -1 ∧
      (sp.readable (AddressSpace.page addr) = false → r.dest = dest) := by
  -- some byte is unreadable, so the peek of its word fails
  obtain ⟨i, hi, hbad⟩ : ∃ i, i < len ∧
      sp.readable (AddressSpace.page (ahead addr i)) = false := by
    simpa [AddressSpace.Readable] using h
  have hword := AddressSpace.div_lt_rounds addr hi
  rcases pinkVmLread_cases (sp.kernel readv writev) addr dest s hf with
    ⟨hall, -⟩ | ⟨j, e, -, hprev, -, hrun⟩
  · have hpeek := AddressSpace.peekErr_of_unreadable readv writev hbad
    rw [hall _ hword] at hpeek
    exact absurd hpeek (by simp)
  · refine ⟨_, hrun, rfl, fun hfirst => ?_⟩
    -- an unreadable first byte makes `j` the first word, before which nothing is copied
    have hzero : j = 0 := by
      refine Nat.eq_zero_of_not_pos fun hpos => ?_
      have hbad0 : sp.readable (AddressSpace.page (ahead addr 0)) = false := by
        rwa [ahead_zero]
      have hpeek := AddressSpace.peekErr_of_unreadable readv writev hbad0
      rw [Nat.add_zero, Nat.div_eq_of_lt (skew_lt addr), hprev 0 hpos] at hpeek
      exact absurd hpeek (by simp)
    show filled s.mem addr dest len j = dest
    simp [hzero, filled, Cursor.doneAfter]

/-! ## The attach path -/

/-- The attach path by its first byte. The states are left out of the comparison, and with them
    the log. -/
theorem pinkVmCread_default (sp : AddressSpace arch) (writev : Attach) (addr : Addr arch)
    (hpos : 0 < len) (hlen : len < 2 ^ (arch.longBits - 1)) (dest : Bytes) (s : State arch) :
    SameRead (pinkVmCread (sp.kernel .available writev) (pinkAbiDefault arch) addr dest len s)
      (if sp.readable (AddressSpace.page addr) = true then
        ⟨reach (sp.kernel .available writev).readable addr len,
          copy dest 0 (s.mem.from addr) (reach (sp.kernel .available writev).readable addr len), s⟩
      else ⟨-1, dest, s⟩) := by
  rw [pinkVmCread, setupAddr_default]
  split
  · rename_i hr
    rw [processVmReadv_transfer dest 0 s rfl hlen hpos hr]
    exact ⟨rfl, rfl⟩
  · rename_i hr
    rw [processVmReadv_fault dest 0 s rfl hlen hpos (Bool.eq_false_iff.mpr hr)]
    exact ⟨rfl, rfl⟩

/-! ## Agreement -/

theorem SameRead.symm {r r' : ReadRet arch} (h : SameRead r r') : SameRead r' r :=
  ⟨h.1.symm, h.2.symm⟩

theorem SameRead.trans {r r' r'' : ReadRet arch} (h : SameRead r r') (h' : SameRead r' r'') :
    SameRead r r'' :=
  ⟨h.1.trans h'.1, h.2.trans h'.2⟩

/-- All or nothing: the two paths agree, from any two states of the same memory. -/
theorem lread_sameRead_cread (readv writev : Attach) (dest : Bytes) (s s' : State arch)
    (hmem : s.mem = s'.mem) (hpos : 0 < len) (hlen : len < 2 ^ 31) (hf : len < fuel)
    (h : sp.readable (AddressSpace.page addr) = false ∨ sp.Readable addr len) :
    ∃ r, pinkVmLread fuel (sp.kernel readv writev) addr dest len s = some r ∧
      SameRead r (pinkVmCread (sp.kernel .available writev) (pinkAbiDefault arch) addr dest
        len s') := by
  have hc := pinkVmCread_default sp writev addr hpos (arch.lt_long_max hlen) dest s'
  rcases h with hbad | hall
  · have hnot : ¬ sp.Readable addr len := fun hr => by
      have h0 := hr 0 hpos
      rw [ahead_zero, hbad] at h0
      exact absurd h0 (by simp)
    obtain ⟨r, hrun, hret, hdest⟩ := pinkVmLread_of_not_readable readv writev dest s hf
      hnot
    rw [if_neg (by simp [hbad])] at hc
    exact ⟨r, hrun, SameRead.trans ⟨hret, hdest hbad⟩ hc.symm⟩
  · have hfirst : sp.readable (AddressSpace.page addr) = true := by
      have h0 := hall 0 hpos
      rwa [ahead_zero] at h0
    obtain ⟨r, hrun, hret, hdest⟩ := pinkVmLread_of_readable readv writev dest s hf
      (by omega) (arch.lt_long_max hlen) hall
    have hreach : reach (sp.kernel .available writev).readable addr len = len :=
      leading_eq_of_forall hall
    rw [if_pos hfirst, hreach] at hc
    exact ⟨r, hrun, SameRead.trans ⟨hret, by rw [hdest, hmem]⟩ hc.symm⟩

/-- **The two paths agree on a range exactly when its first byte is unreadable or all of it is
    readable.** The right-hand side does not mention words: in between, no position of the fault
    makes them agree. -/
theorem pathsAgree_iff (sp : AddressSpace arch) (addr : Addr arch) (dest : Bytes)
    (s : State arch) {len fuel : Nat} (hpos : 0 < len) (hlen : len < 2 ^ 31) (hf : len < fuel) :
    PathsAgree sp fuel addr dest len s ↔
      (sp.readable (AddressSpace.page addr) = false ∨ sp.Readable addr len) := by
  constructor
  · rintro ⟨⟨r, hrun, hsame⟩, -⟩
    by_cases hall : sp.Readable addr len
    · exact Or.inr hall
    refine Or.inl (Bool.eq_false_iff.mpr fun hfirst => ?_)
    -- a readable first byte makes attach return a count, and the word-wise path still `-1`
    obtain ⟨r', hrun', hret, -⟩ := pinkVmLread_of_not_readable .available .available
      dest s hf hall
    obtain rfl : r = r' := Option.some.inj (hrun.symm.trans hrun')
    have hc := pinkVmCread_default sp .available addr hpos (arch.lt_long_max hlen) dest s
    rw [if_pos hfirst] at hc
    have hcount := hret.symm.trans (hsame.1.trans hc.1)
    simp only at hcount
    omega
  · intro h
    refine ⟨lread_sameRead_cread .available .available dest s s rfl hpos hlen hf h,
      fun missing hm => ?_⟩
    have hlen' := arch.lt_long_max hlen
    obtain ⟨r', hrun', hsame⟩ := lread_sameRead_cread missing .available dest
      { mem := s.mem, errno := missing.err,
        log := s.log ++ [.vmReadv (setupAddr (pinkAbiDefault arch) addr) len] }
      { s with errno := none } rfl hpos hlen hf h
    exact ⟨_, r', pinkReadVmData_available .available hlen' _ dest s,
      (pinkReadVmData_missing .available hm hlen' _ dest s).trans hrun', hsame.symm⟩

def onePage : AddressSpace .x86_64 where
  readable p := p == 0
  writable p := p == 0
  faultsEio _ := true

/-- Eight bytes of which the last four lie on an unmapped page: attach reads four, the
    word-wise path reports an error. -/
theorem onePage_paths_disagree :
    ¬ PathsAgree onePage 9 4092 (fun _ => 0) 8 ⟨fun _ => 0x2a, none, []⟩ := by
  rintro ⟨⟨r, hrun, hsame⟩, -⟩
  have hl : (pinkVmLread 9 (onePage.kernel .available .available) 4092 (fun _ => 0) 8
      ⟨fun _ => 0x2a, none, []⟩).map ReadRet.ret = some (-1) := by decide +kernel
  have hc : (pinkVmCread (onePage.kernel .available .available) (pinkAbiDefault .x86_64) 4092
      (fun _ => 0) 8 ⟨fun _ => 0x2a, none, []⟩).ret = 4 := by decide +kernel
  rw [hrun] at hl
  have hret := hsame.1
  simp only [Option.map_some, Option.some.injEq] at hl
  rw [hl, hc] at hret
  exact absurd hret (by decide)

/-- The agreement at work on the page's own last eight bytes. -/
theorem onePage_paths_agree :
    PathsAgree onePage 9 4088 (fun _ => 0) 8 ⟨fun _ => 0x2a, none, []⟩ :=
  (pathsAgree_iff onePage 4088 (fun _ => 0) ⟨fun _ => 0x2a, none, []⟩ (by decide) (by decide)
    (by decide)).mpr (Or.inr (by unfold AddressSpace.Readable; decide +kernel))

end PinkTrace
