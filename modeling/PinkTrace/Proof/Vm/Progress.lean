import PinkTrace.Proof.Vm.CreadNul
import PinkTrace.Proof.Vm.Paged

/-!
# When the chunked reader makes progress

A pass of `pink_vm_cread_nul` is meant to ask for at least one byte and at most what is left,
and then the loop ends, because each request delivers something or fails. What goes wrong is the
conversion `chunk_len = len` of a `size_t` to an `int`. With `len % 2^32` at `2^31` or above the
chunk is negative, and the request either longer than the buffer or (for a length that is itself
negative as an `ssize_t`) refused by the kernel; with `len % 2^32 = 0` it is empty, and the loop
goes round forever. A length of more than `2^32` bytes whose low half is harmless behaves like
that low half, until the loop has eaten it up and stands before a multiple of `2^32`.
-/

set_option autoImplicit false

namespace PinkTrace

open Lib

variable {arch : Arch} {K : Kernel arch} {addr : Addr arch} {dest : Bytes} {len fuel : Nat}
  {s : State arch} {v : CreadNulVars arch}

/-! ## One pass -/

/-- The requests made up to the end of a pass, if it has one. A pass that leaves the loop and one
    that goes on are asked the same question. -/
def passLog : Next (CreadNulVars arch) (ReadRet arch) → Option (List (Request arch))
  | .done r => some r.st.log
  | .again v => some v.st.log
  | .undef => none

theorem log_processVmReadv (K : Kernel arch) (dest : Bytes) (off : Nat) (base : Addr arch)
    (n : Nat) (s : State arch) :
    (processVmReadv K dest off base n s).st.log = s.log ++ [.vmReadv base n] := by
  unfold processVmReadv
  dsimp only
  split
  · rfl
  · split <;> rfl

/-- A pass with bytes to go makes one request, whatever comes of it. -/
theorem passLog_creadNulBody (K : Kernel arch) (addr : Addr arch) (h : v.len ≠ 0) :
    passLog (creadNulBody K addr v) = (chunkLen addr v.len).map fun c =>
      v.st.log ++ [.vmReadv v.remote (BitVec.ofInt arch.longBits c).toNat] := by
  cases hc : chunkLen addr v.len with
  | none =>
    rw [creadNulBody_undef h hc]
    rfl
  | some c =>
    have hlog := log_processVmReadv K v.dest v.localOff v.remote
      (BitVec.ofInt arch.longBits c).toNat v.st
    generalize hreq : processVmReadv K v.dest v.localOff v.remote
      (BitVec.ofInt arch.longBits c).toNat v.st = r at hlog
    rw [Option.map_some, ← hlog]
    by_cases hr : r.ret < 0
    · rw [creadNulBody_fault h hc hreq hr]
      rfl
    · cases hp : memchrNul (fun i => r.dest (v.localOff + i)) r.ret.toNat with
      | some p =>
        rw [creadNulBody_found h hc hreq hr hp]
        rfl
      | none =>
        rw [creadNulBody_again h hc hreq hr hp]
        rfl

/-- A pass from this state asks for at least one byte and for no more than are left. That is a
    statement about the log, so about what the kernel saw. -/
def AsksForSome (K : Kernel arch) (addr : Addr arch) (v : CreadNulVars arch) : Prop :=
  ∃ n, passLog (creadNulBody K addr v) = some (v.st.log ++ [.vmReadv v.remote n]) ∧
    0 < n ∧ n ≤ v.len

/-- The lengths a pass can handle: their low 32 bits are a positive `int`, or they are among the
    last `2^31` of the `size_t` range, where the sign extension of the chunk gives the length
    back, unless the subtraction of the page end overflows. -/
def LengthOk (addr : Addr arch) (len : Nat) : Prop :=
  (0 < len % 2 ^ 32 ∧ len % 2 ^ 32 < 2 ^ 31) ∨
    (2 ^ arch.longBits - 2 ^ 31 ≤ len ∧ 2 ^ 31 + (addr.toNat + len) % 4096 ≤ len % 2 ^ 32)

/-- The kernel has no part in it: the request depends on the position and the length. -/
theorem asksForSome_iff_chunk (h : v.len ≠ 0) :
    AsksForSome K addr v ↔ ∃ c, chunkLen addr v.len = some c ∧
      0 < (BitVec.ofInt arch.longBits c).toNat ∧ (BitVec.ofInt arch.longBits c).toNat ≤ v.len := by
  rw [AsksForSome, passLog_creadNulBody K addr h]
  cases chunkLen addr v.len with
  | none => simp
  | some c => simp

/-- **A pass asks for something exactly when its length is in order.** -/
theorem asksForSome_iff (h : v.len ≠ 0) (hsize : v.len < 2 ^ arch.longBits) :
    AsksForSome K addr v ↔ LengthOk addr v.len := by
  rw [asksForSome_iff_chunk h, LengthOk]
  rcases Nat.lt_or_ge (v.len % 2 ^ 32) (2 ^ 31) with hlt | hge
  · have hchunk : ∀ c, chunkLen addr v.len = some c ↔ (chunkOf addr (v.len % 2 ^ 32) : Int) = c :=
      fun c => by rw [chunkLen_eq addr hlt, Option.some.injEq]
    have hiov : (BitVec.ofInt arch.longBits (chunkOf addr (v.len % 2 ^ 32) : Int)).toNat =
        chunkOf addr (v.len % 2 ^ 32) := toNat_ofInt_chunk (by unfold chunkOf; split <;> omega)
    simp only [hchunk, exists_eq_left', hiov]
    rcases Nat.eq_zero_or_pos (v.len % 2 ^ 32) with h0 | hpos
    · rw [h0]
      simp [chunkOf]
    · obtain ⟨hc, hle, -⟩ := chunkOf_bounds addr hpos
      have := Nat.mod_le v.len (2 ^ 32)
      exact ⟨fun _ => Or.inl ⟨hpos, hlt⟩, fun _ => ⟨hc, by omega⟩⟩
  · -- negative as an `int`: sign extension makes it a length near the top of the address space
    rw [chunkLen_of_negative_int addr hge]
    split
    · simp
      omega
    · have hiov : (BitVec.ofInt arch.longBits (((v.len % 2 ^ 32 : Nat) : Int) - 2 ^ 32)).toNat =
          2 ^ arch.longBits - 2 ^ 32 + v.len % 2 ^ 32 := by
        rw [BitVec.toNat_ofInt]
        rcases arch.sizes with ⟨-, hM⟩ | ⟨-, hM⟩ <;>
          · rw [hM]; omega
      simp only [Option.some.injEq, exists_eq_left', hiov]
      rcases arch.sizes with ⟨-, hM⟩ | ⟨-, hM⟩ <;>
        · rw [hM] at hsize ⊢; omega

/-! ## Whole runs -/

/-- In every round that has bytes to go a request for some of them is made, and the call returns.
    "Every round" is over the states the loop reaches; the kernel decides which those are. -/
def MakesProgress (K : Kernel arch) (abi : Abi arch) (addr : Addr arch) (dest : Bytes)
    (len : Nat) (s : State arch) : Prop :=
  (∀ v, Reaches (creadNulBody K (setupAddr abi addr))
      ⟨0, setupAddr abi addr, len, 0, dest, s⟩ v → v.len ≠ 0 →
    AsksForSome K (setupAddr abi addr) v) ∧
  ∃ fuel r, pinkVmCreadNul fuel K abi addr dest len s = some r

/-- One of the first `n` bytes ends the string or cannot be read. Either is the end of the run. -/
def StopsWithin (K : Kernel arch) (mem : Memory arch.longBits) (addr : Addr arch) (n : Nat) :
    Prop :=
  ∃ i, i < n ∧ (mem (ahead addr i) = 0 ∨ K.readable (ahead addr i) = false)

/-- The invariant while the low 32 bits of the length are eaten up. It is that of the string
    reader with one bound more, and lives as long as the chunk is computed from a positive `int`.
    -/
structure LowInv (K : Kernel arch) (addr : Addr arch) (dest : Bytes) (len : Nat)
    (s : State arch) (v : CreadNulVars arch) : Prop extends CreadNulInv K addr dest len s v where
  low : v.count ≤ len % 2 ^ 32

theorem LowInv.mod_len (hv : LowInv K addr dest len s v) :
    v.len % 2 ^ 32 = len % 2 ^ 32 - v.count := by
  have hleft := hv.left
  have hlow := hv.low
  omega

/-- The step lemma: while some of the low bits are left, a pass stops the run at one of the bytes
    they count, or eats up some of them. -/
theorem LowInv.step (hK : K.readvErr = none) (hlt : len % 2 ^ 32 < 2 ^ 31)
    (hv : LowInv K addr dest len s v) (hmore : v.count < len % 2 ^ 32) :
    (StopsWithin K s.mem addr (len % 2 ^ 32) ∧ ∃ r, creadNulBody K addr v = .done r) ∨
    ∃ v', creadNulBody K addr v = .again v' ∧ LowInv K addr dest len s v' ∧ v'.len < v.len := by
  have hmod := hv.mod_len
  have hleft := hv.left
  rcases creadNulBody_cases hK (by omega) (by omega : v.len % 2 ^ 32 < 2 ^ 31) with
    ⟨hbad, hb⟩ | ⟨n, hn, hle, hr, ⟨p, hp, hb⟩ | ⟨hp, hb⟩⟩
  · rw [hv.remote] at hbad
    exact Or.inl ⟨⟨v.count, hmore, Or.inr hbad⟩, _, hb⟩
  · obtain ⟨h0, hpn, -⟩ := memchrNul_some hp
    rw [hv.copy_at hpn] at h0
    exact Or.inl ⟨⟨v.count + p, by omega, Or.inl h0⟩, _, hb⟩
  · refine Or.inr ⟨_, hb, ⟨hv.toCreadNulInv.next (by omega) hr _ hp, ?_⟩, ?_⟩
    · show v.count + n ≤ len % 2 ^ 32
      omega
    · show v.len - n < v.len
      omega

theorem LowInv.start (K : Kernel arch) (addr : Addr arch) (dest : Bytes) (len : Nat)
    (s : State arch) : LowInv K addr dest len s ⟨0, addr, len, 0, dest, s⟩ :=
  ⟨CreadNulInv.start K addr dest len s, Nat.zero_le _⟩

/-- While the run has bytes to go it has not yet eaten up all of the low bits, if there are no
    others or if it stops before. -/
theorem LowInv.more (hv : LowInv K addr dest len s v) (h0 : v.len ≠ 0)
    (hstop : len < 2 ^ 32 ∨ StopsWithin K s.mem addr (len % 2 ^ 32)) :
    v.count < len % 2 ^ 32 := by
  have hleft := hv.left
  have hlow := hv.low
  rcases hstop with hlt | ⟨i, hi, hbad⟩
  · omega
  · refine Nat.lt_of_le_of_ne hlow fun heq => ?_
    rcases hbad with hnul | hbad
    · exact hv.noNul i (by omega) hnul
    · have hreach := hv.readable
      rw [leading_holds (p := fun i => K.readable (ahead addr i)) (m := len)
        (Nat.lt_of_lt_of_le (by omega : i < v.count) hreach)] at hbad
      exact absurd hbad (by simp)

/-- A run that never leaves the low bits makes progress. -/
theorem makesProgress_of_low (abi : Abi arch) (hK : K.readvErr = none)
    (hpos : 0 < len % 2 ^ 32) (hlt : len % 2 ^ 32 < 2 ^ 31) (hsize : len < 2 ^ arch.longBits)
    (hstop : len < 2 ^ 32 ∨ StopsWithin K s.mem (setupAddr abi addr) (len % 2 ^ 32)) :
    MakesProgress K abi addr dest len s := by
  have hstart := LowInv.start K (setupAddr abi addr) dest len s
  have hadv : ∀ v, LowInv K (setupAddr abi addr) dest len s v →
      Advances (LowInv K (setupAddr abi addr) dest len s) CreadNulVars.len (fun _ => True) v
        (creadNulBody K (setupAddr abi addr) v) := fun v hv => by
    by_cases h0 : v.len = 0
    · rw [creadNulBody_full h0]
      trivial
    rcases hv.step hK hlt (hv.more h0 hstop) with ⟨-, r, hb⟩ | ⟨v', hb, hv', hless⟩ <;> rw [hb]
    · trivial
    · exact ⟨hv', hless⟩
  -- the invariant holds in every state reached, and its measure ends the run
  refine ⟨fun v hv h0 => ?_, ?_⟩
  · have hinv : LowInv K (setupAddr abi addr) dest len s v :=
      hv.invariant hstart fun v v' hv hb => by
        have hnext := hadv v hv
        rw [hb] at hnext
        exact hnext.1
    have hmod := hinv.mod_len
    have hmore := hinv.more h0 hstop
    have hleft := hinv.left
    exact (asksForSome_iff h0 (by omega)).mpr (Or.inl (by omega))
  · obtain ⟨r, hrun, -⟩ := run_of_invariant hadv hstart (Nat.lt_succ_self len)
    exact ⟨len + 1, r, hrun⟩

/-- A run that would have to leave them comes to a pass that asks for nothing. The kernel decides
    how long that takes and cannot prevent it. -/
theorem exists_empty_request (hK : K.readvErr = none) (hlt : len % 2 ^ 32 < 2 ^ 31)
    (hlong : 2 ^ 32 ≤ len) (hgo : ¬ StopsWithin K s.mem addr (len % 2 ^ 32)) :
    ∃ v, Reaches (creadNulBody K addr) ⟨0, addr, len, 0, dest, s⟩ v ∧
      v.len ≠ 0 ∧ v.len % 2 ^ 32 = 0 ∧ v.len ≤ len := by
  have hprog : ∀ v, LowInv K addr dest len s v → ¬ v.count = len % 2 ^ 32 →
      ∃ v', creadNulBody K addr v = .again v' ∧ LowInv K addr dest len s v' ∧
        v'.len < v.len := fun v hv hne => by
    rcases hv.step hK hlt (Nat.lt_of_le_of_ne hv.low hne) with ⟨hstop, -⟩ | hnext
    · exact absurd hstop hgo
    · exact hnext
  obtain ⟨v, hv, hinv, heq⟩ := reaches_of_progress CreadNulVars.len hprog
    (LowInv.start K addr dest len s)
  have hleft := hinv.left
  have hmod := hinv.mod_len
  exact ⟨v, hv, by omega, by omega, by omega⟩

/-! Where the first request fails, the first pass is the only one. -/

theorem makesProgress_of_done {abi : Abi arch} {r : ReadRet arch}
    (hb : creadNulBody K (setupAddr abi addr) ⟨0, setupAddr abi addr, len, 0, dest, s⟩ = .done r)
    (hsize : len < 2 ^ arch.longBits) (hok : len = 0 ∨ LengthOk (setupAddr abi addr) len) :
    MakesProgress K abi addr dest len s := by
  refine ⟨fun v hv hne => ?_, 1, r, run_done hb 0⟩
  obtain rfl := hv.eq_of_done hb
  exact (asksForSome_iff hne hsize).mpr (hok.resolve_left hne)

/-- Among the last `2^31` lengths the sign extension of the chunk gives the length back, and the
    kernel refuses it at once: progress of a kind. -/
theorem makesProgress_of_huge (K : Kernel arch) {abi : Abi arch}
    (hsize : len < 2 ^ arch.longBits) (hhuge : 2 ^ arch.longBits - 2 ^ 31 ≤ len)
    (hpage : 2 ^ 31 + ((setupAddr abi addr).toNat + len) % 4096 ≤ len % 2 ^ 32) :
    MakesProgress K abi addr dest len s := by
  have hne : len ≠ 0 := by omega
  have hc := chunkLen_of_negative_int (setupAddr abi addr) (by omega : 2 ^ 31 ≤ len % 2 ^ 32)
  rw [if_neg (by omega)] at hc
  obtain ⟨e, he⟩ := attachFailure_of_le (le_toNat_ofInt
    (c := ((len % 2 ^ 32 : Nat) : Int) - 2 ^ 32) (by omega) (by omega)) K.readvErr
  have hb := creadNulBody_refused (v := ⟨0, setupAddr abi addr, len, 0, dest, s⟩) hne hc he
  exact makesProgress_of_done hb hsize (Or.inr (Or.inr ⟨hhuge, hpage⟩))

/-- Where attach fails there is one request, and it is in order. -/
theorem makesProgress_of_failure {abi : Abi arch} {e : Errno} (hK : K.readvErr = some e)
    (hsize : len < 2 ^ arch.longBits) (hpos : 0 < len % 2 ^ 32) (hlt : len % 2 ^ 32 < 2 ^ 31) :
    MakesProgress K abi addr dest len s := by
  have hne : len ≠ 0 := by omega
  obtain ⟨-, -, h256⟩ := chunkOf_bounds (setupAddr abi addr) hpos
  have hsmall : chunkOf (setupAddr abi addr) (len % 2 ^ 32) < 2 ^ 31 := by omega
  have he : attachFailure arch K.readvErr (BitVec.ofInt arch.longBits
      (chunkOf (setupAddr abi addr) (len % 2 ^ 32) : Int)).toNat = some e := by
    rw [toNat_ofInt_chunk hsmall, attachFailure_of_lt (arch.lt_long_max hsmall), hK]
  have hb := creadNulBody_refused (v := ⟨0, setupAddr abi addr, len, 0, dest, s⟩) hne
    (chunkLen_eq _ hlt) he
  exact makesProgress_of_done hb hsize (Or.inr (Or.inl ⟨hpos, hlt⟩))

/-- **Progress**: the loop asks for some of the bytes left in every round, and ends, exactly if
    there is nothing to read; or the length is one the kernel refuses, among the last `2^31`, and
    the page end does not overflow; or its low 32 bits are a positive `int`, and it has no others
    or the run ends while it eats those up. -/
theorem makesProgress_iff (K : Kernel arch) (abi : Abi arch) (addr : Addr arch) (dest : Bytes)
    (s : State arch) {len : Nat} (hsize : len < 2 ^ arch.longBits) :
    MakesProgress K abi addr dest len s ↔ len = 0 ∨
      (2 ^ arch.longBits - 2 ^ 31 ≤ len ∧
        2 ^ 31 + ((setupAddr abi addr).toNat + len) % 4096 ≤ len % 2 ^ 32) ∨
      (0 < len % 2 ^ 32 ∧ len % 2 ^ 32 < 2 ^ 31 ∧ (len < 2 ^ 32 ∨ K.readvErr ≠ none ∨
        StopsWithin K s.mem (setupAddr abi addr) (len % 2 ^ 32))) := by
  constructor
  · rintro ⟨hasks, -⟩
    by_cases h0 : len = 0
    · exact Or.inl h0
    have hfirst : LengthOk (setupAddr abi addr) len :=
      (asksForSome_iff h0 hsize).mp (hasks _ .start h0)
    rcases hfirst with ⟨hpos, hlt⟩ | hhuge
    · refine Or.inr (Or.inr ⟨hpos, hlt, Classical.byContradiction fun hcond => ?_⟩)
      obtain ⟨hlong, hK, hgo⟩ : ¬ len < 2 ^ 32 ∧ K.readvErr = none ∧
          ¬ StopsWithin K s.mem (setupAddr abi addr) (len % 2 ^ 32) := by
        simpa only [not_or, ne_eq, Classical.not_not] using hcond
      -- otherwise the low bits are used up with bytes still to go, and a request for none is next
      obtain ⟨v, hv, hne, hzero, hle⟩ := exists_empty_request hK hlt (by omega) hgo
      have hok := (asksForSome_iff hne (by omega)).mp (hasks v hv hne)
      unfold LengthOk at hok
      omega
    · exact Or.inr (Or.inl hhuge)
  · rintro (h0 | ⟨hhuge, hpage⟩ | ⟨hpos, hlt, hcond⟩)
    · exact makesProgress_of_done (creadNulBody_full h0) hsize (Or.inl h0)
    · exact makesProgress_of_huge K hsize hhuge hpage
    · cases hK : K.readvErr with
      | some e => exact makesProgress_of_failure hK hsize hpos hlt
      | none =>
        rw [hK] at hcond
        refine makesProgress_of_low abi hK hpos hlt hsize ?_
        simpa using hcond

/-- Four gigabytes of characters: every request is empty, and the call never returns. -/
theorem four_gigabytes_never_read :
    ¬ MakesProgress ((allMapped .x86_64).kernel .available .available) .x86_64 4096 (fun _ => 0)
      (2 ^ 32) ⟨fun _ => 0x61, none, []⟩ ∧
    ∀ fuel, pinkVmCreadNul fuel ((allMapped .x86_64).kernel .available .available) .x86_64 4096
      (fun _ => 0) (2 ^ 32) ⟨fun _ => 0x61, none, []⟩ = none := by
  have hnone : ∀ fuel, pinkVmCreadNul fuel ((allMapped .x86_64).kernel .available .available)
      .x86_64 4096 (fun _ => 0) (2 ^ 32) ⟨fun _ => 0x61, none, []⟩ = none := fun fuel =>
    run_creadNulBody_empty rfl _ (by decide) (by decide) fuel
  refine ⟨?_, hnone⟩
  rintro ⟨-, fuel, r, hrun⟩
  rw [hnone] at hrun
  exact absurd hrun (by simp)

theorem sixteen_bytes_progress :
    MakesProgress ((allMapped .x86_64).kernel .available .available) .x86_64 4096 (fun _ => 0)
      16 ⟨fun _ => 0x61, none, []⟩ :=
  (makesProgress_iff _ .x86_64 4096 _ _ (by decide)).mpr
    (Or.inr (Or.inr ⟨by decide, by decide, Or.inl (by decide)⟩))

end PinkTrace
