import PinkTrace.Proof.Vm.CreadNul
import PinkTrace.Proof.Vm.Paged

/-!
# What the chunked reader asks for

A run of `pink_vm_cread_nul` is a sequence of requests, each of which starts where the bytes
before it end and asks for the chunk of what is left (`Placed`). That is one invariant of the
loop, and two results follow. No request leaves the range, so with the string read the function
meets its specification. And a request may leave its *page*: the page end is computed from the
address the function was entered with, not from the position the loop has advanced to, so it is
right for the first request and, once the position has moved, in hardly any other case.

## What decides about pages

`StaysInPages` is a statement about all kernels, and it fails for a range as soon as one kernel
makes one request cross a boundary. The proof needs a kernel for every range that spans two pages,
so it takes the one that delivers a byte at a time: its run asks for the chunk of *every* offset,
and the offset in front of the boundary is among them. A kernel that delivers what it is asked for
may cross the boundary as well, only not from there; the counterexample at the end is such a run.
-/

set_option autoImplicit false

namespace PinkTrace

open Lib

variable {arch : Arch} {K : Kernel arch} {addr : Addr arch} {len fuel : Nat}
  {s : State arch} {v : CreadNulVars arch}

/-! ## The requests of a run -/

/-- Requests for the chunks of a range, each where the bytes before it end. How many bytes those
    were is the kernel's choice, and is the `c` of each request. -/
def Placed (addr : Addr arch) (len : Nat) (reqs : List (Request arch)) : Prop :=
  ∀ q ∈ reqs, ∃ c, c < len ∧ q = .vmReadv (ahead addr c) (chunkOf addr (len - c))

/-- What holds of the requests at the head of the loop. Independent of `CreadNulInv`: the bytes do
    not matter here. -/
structure RequestInv (addr : Addr arch) (len : Nat) (s : State arch) (v : CreadNulVars arch) :
    Prop where
  remote : v.remote = ahead addr v.count
  left : v.len + v.count = len
  log : ∃ reqs, v.st.log = s.log ++ reqs ∧ Placed addr len reqs

/-- The request a pass is about to make is of the kind. -/
theorem RequestInv.request (hv : RequestInv addr len s v) (h0 : v.len ≠ 0)
    (hlen : len < 2 ^ 31) :
    ∃ reqs, v.st.log ++ [.vmReadv v.remote (chunkOf addr (v.len % 2 ^ 32))] = s.log ++ reqs ∧
      Placed addr len reqs := by
  obtain ⟨reqs, hlog, hplaced⟩ := hv.log
  have hleft := hv.left
  have hmod : v.len % 2 ^ 32 = len - v.count := by omega
  refine ⟨reqs ++ [.vmReadv (ahead addr v.count) (chunkOf addr (len - v.count))], ?_, ?_⟩
  · rw [hlog, hv.remote, hmod, List.append_assoc]
  · intro q hq
    rcases List.mem_append.mp hq with hq | hq
    · exact hplaced q hq
    · exact ⟨v.count, by omega, List.mem_singleton.mp hq⟩

/-- A pass keeps the invariant… -/
theorem RequestInv.next (hK : K.readvErr = none) (hlen : len < 2 ^ 31)
    (hv : RequestInv addr len s v) {v' : CreadNulVars arch}
    (hb : creadNulBody K addr v = .again v') : RequestInv addr len s v' := by
  have hleft := hv.left
  by_cases h0 : v.len = 0
  · rw [creadNulBody_full h0] at hb
    exact absurd hb (by simp)
  have hreq := hv.request h0 hlen
  rcases creadNulBody_cases hK (by omega) (by omega : v.len % 2 ^ 32 < 2 ^ 31) with
    ⟨-, hb'⟩ | ⟨n, -, hle, -, ⟨p, -, hb'⟩ | ⟨-, hb'⟩⟩ <;> rw [hb'] at hb
  · exact absurd hb (by simp)
  · exact absurd hb (by simp)
  · obtain rfl := Next.again.inj hb
    refine ⟨?_, ?_, hreq⟩
    · show ahead v.remote n = ahead addr (v.count + n)
      rw [hv.remote, ahead_ahead]
    · show v.len - n + (v.count + n) = len
      omega

/-- …and one that leaves the loop adds at most a request of the same kind. -/
theorem RequestInv.done (hK : K.readvErr = none) (hlen : len < 2 ^ 31)
    (hv : RequestInv addr len s v) {r : ReadRet arch} (hb : creadNulBody K addr v = .done r) :
    ∃ reqs, r.st.log = s.log ++ reqs ∧ Placed addr len reqs := by
  have hleft := hv.left
  by_cases h0 : v.len = 0
  · rw [creadNulBody_full h0] at hb
    obtain rfl := Next.done.inj hb
    exact hv.log
  have hreq := hv.request h0 hlen
  rcases creadNulBody_cases hK (by omega) (by omega : v.len % 2 ^ 32 < 2 ^ 31) with
    ⟨-, hb'⟩ | ⟨n, -, -, -, ⟨p, -, hb'⟩ | ⟨-, hb'⟩⟩ <;> rw [hb'] at hb
  · obtain rfl := Next.done.inj hb
    exact hreq
  · obtain rfl := Next.done.inj hb
    exact hreq
  · exact absurd hb (by simp)

/-- So all requests of a run are, whichever way it ended. -/
theorem pinkVmCreadNul_requests {abi : Abi arch} {dest : Bytes} {r : ReadRet arch}
    (hK : K.readvErr = none) (hlen : len < 2 ^ 31)
    (hrun : pinkVmCreadNul fuel K abi addr dest len s = some r) :
    ∃ reqs, r.st.log = s.log ++ reqs ∧ Placed (setupAddr abi addr) len reqs := by
  have hstart : RequestInv (setupAddr abi addr) len s
      ⟨0, setupAddr abi addr, len, 0, dest, s⟩ :=
    ⟨(ahead_zero _).symm, rfl, [], (List.append_nil _).symm, fun q hq => absurd hq (by simp)⟩
  exact run_of_reached (RequestInv (setupAddr abi addr) len s)
    (fun r => ∃ reqs, r.st.log = s.log ++ reqs ∧ Placed (setupAddr abi addr) len reqs)
    (fun v v' hv hb => hv.next hK hlen hb) (fun v r hv hb => hv.done hK hlen hb) hstart hrun

/-! ## The specification -/

/-- The reachable part of a range, from a caller's idea of how far it is readable. -/
theorem reach_eq_min {ok : Addr arch → Bool} {p : Nat}
    (hp : ∀ i, i < p → ok (ahead addr i) = true)
    (hend : p < len → ok (ahead addr p) = false) : reach ok addr len = min len p := by
  refine leading_unique (Nat.min_le_left ..) (fun i hi => hp i (by omega)) fun hlt => ?_
  have hmin : min len p = p := by omega
  rw [hmin]
  exact hend (by omega)

/-- **The chunked reader meets its specification**, whatever the kernel transfers per request:
    with `p` bytes readable from the address on, it returns the count of the string among the
    first `min len p` bytes, delivers them, and asks for nothing outside the range. -/
theorem creadNul_meets_spec (K : Kernel arch) (abi : Abi arch) (addr : Addr arch) (dest : Bytes)
    (s : State arch) {len fuel p : Nat} (hK : K.readvErr = none)
    (hp : ∀ i, i < p → K.readable (ahead (setupAddr abi addr) i) = true)
    (hend : p < len → K.readable (ahead (setupAddr abi addr) p) = false)
    (hpos : 0 < len) (hlen : len < 2 ^ 31) (hf : len < fuel) :
    ∃ r, pinkVmCreadNul fuel K abi addr dest len s = some r ∧
      r.ret = (if firstNul s.mem (setupAddr abi addr) (min len p) < min len p
        then (firstNul s.mem (setupAddr abi addr) (min len p) : Int) + 1
        else if 0 < min len p then ((min len p : Nat) : Int) else -1) ∧
      (∀ i : Nat, (i : Int) < r.ret → r.dest i = s.mem (ahead (setupAddr abi addr) i)) ∧
      (∀ i, len ≤ i → r.dest i = dest i) ∧
      ∃ reqs, r.st.log = s.log ++ reqs ∧
        ∀ q ∈ reqs, ∃ c n, q = .vmReadv (ahead (setupAddr abi addr) c) n ∧ c + n ≤ len := by
  obtain ⟨r, hrun, hr⟩ := pinkVmCreadNul_spec abi addr dest s hK hpos hlen hf
  obtain ⟨reqs, hlog, hplaced⟩ := pinkVmCreadNul_requests hK hlen hrun
  have hreach := reach_eq_min hp hend
  obtain ⟨c, hcount, hc, hdest⟩ := hr.dest
  have hret := hr.ret
  rw [hreach] at hcount hc hret
  have hle := stringCount_le s.mem (setupAddr abi addr) (min len p)
  refine ⟨r, hrun, ?_, fun i hi => ?_, fun i hi => ?_, reqs, hlog, fun q hq => ?_⟩
  · rw [hret]
    by_cases h0 : min len p = 0
    · rw [if_pos h0, if_neg (by omega), if_neg (by omega)]
    · rw [if_neg h0, stringCount]
      split
      · push_cast
        rfl
      · rw [if_pos (by omega)]
  · have hlt : i < stringCount s.mem (setupAddr abi addr) (min len p) := by
      rw [hret] at hi
      split at hi <;> omega
    rw [hdest, copy_of_lt (Nat.zero_le i) (by omega)]
    rfl
  · rw [hdest, copy_of_not (by omega)]
  · obtain ⟨c, hc, rfl⟩ := hplaced q hq
    obtain ⟨-, hchunk, -⟩ := chunkOf_bounds (setupAddr abi addr) (Nat.sub_pos_of_lt hc)
    exact ⟨c, _, rfl, by omega⟩

/-- Everything is mapped, and every request delivers one byte. -/
def byteAtATime (arch : Arch) : Kernel arch where
  peekErr _ := none
  pokeErr _ := none
  readable _ := true
  writable _ := true
  readvErr := none
  writevErr := none
  transfer _ p := min 1 p
  transfer_pos _ _ h := by omega
  transfer_le _ p := Nat.min_le_right 1 p

/-- A string of two characters in front of an unmapped address, read byte by byte. -/
theorem two_characters_read :
    ∃ r, pinkVmCreadNul 17 { byteAtATime .x86_64 with readable := fun a => a.toNat < 4100 }
      .x86_64 4096 (fun _ => 0) 16 ⟨fun a => if a.toNat < 4098 then 0x61 else 0, none, []⟩ =
        some r ∧ r.ret = 3 := by
  obtain ⟨r, hrun, hret, -⟩ := @creadNul_meets_spec .x86_64
    { byteAtATime .x86_64 with readable := fun a => a.toNat < 4100 } .x86_64 4096 (fun _ => 0)
    ⟨fun a => if a.toNat < 4098 then 0x61 else 0, none, []⟩ 16 17 4 rfl (by decide) (by decide)
    (by decide) (by decide) (by decide)
  exact ⟨r, hrun, hret.trans (by decide)⟩

/-! ## Pages -/

/-- A request that touches one page only: the page end is the point of the code's computation, and
    this is what it is for. -/
def InOnePage (base : Addr arch) (n : Nat) : Prop := base.toNat % 4096 + n ≤ 4096

instance (base : Addr arch) (n : Nat) : Decidable (InOnePage base n) :=
  inferInstanceAs (Decidable (_ ≤ _))

/-- Whatever is in tracee memory and whatever each request delivers, none of the requests for
    these bytes touches two pages. -/
def StaysInPages (fuel : Nat) (abi : Abi arch) (addr : Addr arch) (len : Nat) : Prop :=
  ∀ (K : Kernel arch) (dest : Bytes) (s : State arch), K.readvErr = none →
    ∃ r reqs, pinkVmCreadNul fuel K abi addr dest len s = some r ∧ r.st.log = s.log ++ reqs ∧
      ∀ base n, Request.vmReadv base n ∈ reqs → InOnePage base n

theorem toNat_ahead_mod_page (addr : Addr arch) (c : Nat) :
    (ahead addr c).toNat % 4096 = (addr.toNat + c) % 4096 := by
  rw [ahead, BitVec.toNat_add, BitVec.toNat_ofNat]
  rcases arch.sizes with ⟨-, hM⟩ | ⟨-, hM⟩ <;>
    · rw [hM]; omega

/-- The chunk at the last byte of a page is one byte long exactly if the range starts at the last
    byte of a page itself. -/
theorem chunkOf_le_one (addr : Addr arch) (hlen : 2 ≤ len) :
    chunkOf addr len ≤ 1 ↔ addr.toNat % 4096 = 4095 := by
  unfold chunkOf
  split <;> omega

/-! The run in which every request delivers one byte, and none is a NUL: it asks for the chunk of
every offset. -/

/-- The requests of the first `k` passes of that run. -/
def oneByteLog (addr : Addr arch) (len k : Nat) : List (Request arch) :=
  (List.range k).map fun c => .vmReadv (ahead addr c) (chunkOf addr (len - c))

/-- Its variables after `k` passes. For this kernel there is a closed form, because it leaves
    nothing to choose. -/
def oneByteAfter (addr : Addr arch) (len k : Nat) : CreadNulVars arch where
  localOff := k
  remote := ahead addr k
  len := len - k
  count := k
  dest := copy (fun _ => 0) 0 (fun _ => 0x61) k
  st := ⟨fun _ => 0x61, none, oneByteLog addr len k⟩

theorem processVmReadv_oneByte (addr : Addr arch) (dest : Bytes) (off : Nat) (s : State arch)
    {n : Nat} (hpos : 0 < n) (hlt : n < 2 ^ 31) :
    processVmReadv (byteAtATime arch) dest off addr n s =
      ⟨1, copy dest off (s.mem.from addr) 1, { s with log := s.log ++ [.vmReadv addr n] }⟩ := by
  have hreach : reach (byteAtATime arch).readable addr n = n := leading_eq_of_forall fun _ _ => rfl
  have hone : (byteAtATime arch).transfer s.log.length n = 1 := Nat.min_eq_left hpos
  rw [processVmReadv_transfer dest off s rfl (arch.lt_long_max hlt) hpos rfl, hreach, hone]
  rfl

/-- The step lemma of that run. -/
theorem creadNulBody_oneByte (hlen : len < 2 ^ 31) {k : Nat} (hk : k < len) :
    creadNulBody (byteAtATime arch) addr (oneByteAfter addr len k) =
      .again (oneByteAfter addr len (k + 1)) := by
  obtain ⟨hpos, -, h256⟩ := chunkOf_bounds addr (Nat.sub_pos_of_lt hk)
  have hne : (oneByteAfter addr len k).len ≠ 0 := Nat.sub_ne_zero_of_lt hk
  have hmod : (len - k) % 2 ^ 32 = len - k := Nat.mod_eq_of_lt (by omega)
  have hchunk : chunkLen addr (oneByteAfter addr len k).len =
      some (chunkOf addr (len - k) : Int) := by
    have hspec := @chunkLen_eq _ addr (len - k) (by omega)
    rwa [hmod] at hspec
  have hiov : (BitVec.ofInt arch.longBits (chunkOf addr (len - k) : Int)).toNat =
      chunkOf addr (len - k) := toNat_ofInt_chunk (by omega)
  have hdest : copy (oneByteAfter addr len k).dest k (fun _ => 0x61) 1 =
      (oneByteAfter addr len (k + 1)).dest := copy_copy (fun _ => 0) (fun _ => 0x61) k 1
  have hreq : processVmReadv (byteAtATime arch) (oneByteAfter addr len k).dest k (ahead addr k)
      (BitVec.ofInt arch.longBits (chunkOf addr (len - k) : Int)).toNat
      (oneByteAfter addr len k).st =
      ⟨1, (oneByteAfter addr len (k + 1)).dest, (oneByteAfter addr len (k + 1)).st⟩ := by
    rw [hiov, processVmReadv_oneByte _ _ _ _ hpos (by omega), ← hdest]
    simp [oneByteAfter, oneByteLog, List.range_succ]
    rfl
  have hnone : memchrNul (fun i => (oneByteAfter addr len (k + 1)).dest (k + i)) 1 = none := by
    refine List.find?_range_eq_none.mpr fun i hi => ?_
    have hbyte : copy (fun _ => 0) 0 (fun _ => 0x61) (k + 1) (k + i) = 0x61 :=
      copy_of_lt (Nat.zero_le _) (by omega)
    simp only [oneByteAfter, hbyte]
    decide
  rw [creadNulBody_again hne hchunk hreq (show ¬ (1 : Int) < 0 by decide) hnone]
  simp [oneByteAfter, ahead_ahead, Nat.sub_sub]

theorem pinkVmCreadNul_oneByte (abi : Abi arch) (addr : Addr arch) (hlen : len < 2 ^ 31)
    (hf : len < fuel) :
    ∃ r, pinkVmCreadNul fuel (byteAtATime arch) abi addr (fun _ => 0) len
        ⟨fun _ => 0x61, none, []⟩ = some r ∧
      r.st.log = oneByteLog (setupAddr abi addr) len len := by
  have hstart : oneByteAfter (setupAddr abi addr) len 0 =
      ⟨0, setupAddr abi addr, len, 0, fun _ => 0, ⟨fun _ => 0x61, none, []⟩⟩ := by
    simp [oneByteAfter, oneByteLog]
  have hfull := @creadNulBody_full _ (byteAtATime arch) (setupAddr abi addr)
    (oneByteAfter (setupAddr abi addr) len len) (Nat.sub_self len)
  have hrun := run_rounds_done (oneByteAfter (setupAddr abi addr) len)
    (fun k hk => creadNulBody_oneByte hlen hk) hfull hf
  rw [hstart] at hrun
  exact ⟨_, hrun, rfl⟩

/-- **The requests stay in their pages exactly when the range lies in one page, or starts at the
    last byte of one** (where every chunk is a single byte). The requests are those made of every
    kernel, and one that transfers a byte at a time is what refutes the other ranges: its requests
    start at every byte. -/
theorem staysInPages_iff (abi : Abi arch) (addr : Addr arch) {len fuel : Nat} (hpos : 0 < len)
    (hlen : len < 2 ^ 31) (hf : len < fuel) :
    StaysInPages fuel abi addr len ↔
      (setupAddr abi addr).toNat % 4096 + len ≤ 4096 ∨
        (setupAddr abi addr).toNat % 4096 = 4095 := by
  constructor
  · intro hall
    refine Classical.byContradiction fun hcond => ?_
    -- the request at the last byte of the first page is two bytes long at least
    obtain ⟨r, reqs, hrun, hlog, hin⟩ := hall (byteAtATime arch) (fun _ => 0)
      ⟨fun _ => 0x61, none, []⟩ rfl
    obtain ⟨r', hrun', hlog'⟩ := pinkVmCreadNul_oneByte abi addr hlen hf
    obtain rfl : r = r' := Option.some.inj (hrun.symm.trans hrun')
    obtain ⟨c, hc⟩ : ∃ c, (setupAddr abi addr).toNat % 4096 + c = 4095 :=
      ⟨4095 - (setupAddr abi addr).toNat % 4096, by omega⟩
    have hmem : Request.vmReadv (ahead (setupAddr abi addr) c)
        (chunkOf (setupAddr abi addr) (len - c)) ∈ reqs := by
      rw [hlog', List.nil_append] at hlog
      rw [← hlog]
      exact List.mem_map.mpr ⟨c, List.mem_range.mpr (by omega), rfl⟩
    have hpage := hin _ _ hmem
    rw [InOnePage, toNat_ahead_mod_page] at hpage
    have hone : chunkOf (setupAddr abi addr) (len - c) ≤ 1 := by omega
    exact hcond (Or.inr ((chunkOf_le_one _ (by omega)).mp hone))
  · intro hcond K dest s hK
    obtain ⟨r, hrun, -⟩ := pinkVmCreadNul_spec abi addr dest s hK hpos hlen hf
    obtain ⟨reqs, hlog, hplaced⟩ := pinkVmCreadNul_requests hK hlen hrun
    refine ⟨r, reqs, hrun, hlog, fun base n hq => ?_⟩
    obtain ⟨c, hc, heq⟩ := hplaced _ hq
    obtain ⟨rfl, rfl⟩ := Request.vmReadv.inj heq
    obtain ⟨-, hle, -⟩ := chunkOf_bounds (setupAddr abi addr) (Nat.sub_pos_of_lt hc)
    rw [InOnePage, toNat_ahead_mod_page]
    -- the whole range is in the page, or every chunk is one byte
    rcases hcond with hone | hlast
    · omega
    · have hchunk : chunkOf (setupAddr abi addr) (len - c) ≤ 1 := by
        rcases Nat.lt_or_ge (len - c) 2 with h | h
        · omega
        · exact (chunkOf_le_one _ h).mpr hlast
      omega

/-- 4096 bytes from the hundredth of a page on, and every request delivers what it asks for:
    fifteen of them take the position to 3940, and the sixteenth asks for 256 bytes from there. -/
theorem sixteenth_request_leaves_page :
    ¬ StaysInPages 4097 (.x86_64 : Abi .x86_64) 100 4096 := by
  intro hall
  obtain ⟨r, reqs, hrun, hlog, hin⟩ := hall ((allMapped .x86_64).kernel .available .available)
    (fun _ => 0) ⟨fun _ => 0x61, none, []⟩ rfl
  have hlast : (pinkVmCreadNul 4097 ((allMapped .x86_64).kernel .available .available) .x86_64 100
      (fun _ => 0) 4096 ⟨fun _ => 0x61, none, []⟩).map
        (fun r => (r.st.log.length, r.st.log.getLast?)) =
      some (16, some (.vmReadv 3940 256)) := by decide +kernel
  rw [hrun, Option.map_some, hlog] at hlast
  have hmem : Request.vmReadv 3940 256 ∈ reqs :=
    List.mem_of_getLast? (congrArg Prod.snd (Option.some.inj hlast))
  exact absurd (hin 3940 256 hmem) (by decide)

/-- All 4096 bytes of a page. -/
theorem whole_page_stays : StaysInPages 4097 (.x86_64 : Abi .x86_64) 8192 4096 :=
  (staysInPages_iff .x86_64 8192 (by decide) (by decide) (by decide)).mpr (Or.inl (by decide))

end PinkTrace
