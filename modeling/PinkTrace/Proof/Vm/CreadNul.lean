import PinkTrace.Spec
import PinkTrace.Vm

/-!
# `pink_vm_cread_nul`

The chunked string reader asks attach for up to 256 bytes at a time and looks for a NUL in what
came back. How much comes back is the kernel's choice, so there is no closed form of its
variables; `CreadNulInv` is what holds at the head of the loop under *any* schedule of short
transfers: the bytes so far are readable, hold no NUL and are in the buffer.

`pinkVmCreadNul_spec` is what comes out of it, with no loop and no schedule left: the count is
that of the string, cut off at the buffer and at the first unreadable byte.

## How the file is divided

A pass has five ways to end, and each has a lemma of its own that says so for any kernel and any
length (`creadNulBody_full` to `creadNulBody_again`). What a way out *means* is the matter of the
invariant (`CreadNulInv.full`, `.fault`, `.found`, `.next`), and no lemma does both. What
happens in a step is then only the two lists put together.

The price is that the lemmas about a pass mention the request it makes, and those about the
invariant the bytes it transfers. `processVmReadv_cases` is the one place where a request becomes
bytes.

The last sections are about lengths that are no `int`, where the chunk is empty or negative, and
about `errno`. They need the passes and not the invariant: the bytes do not matter there.
-/

set_option autoImplicit false

namespace PinkTrace

open Lib

variable {arch : Arch} {K : Kernel arch}

/-! ## One request -/

/-- Everything an attach read can do where the call is there: fail on an unreachable first byte,
    or transfer a nonempty reachable part. -/
theorem processVmReadv_cases {base : Addr arch} {len : Nat} (dest : Bytes) (off : Nat)
    (s : State arch) (hK : K.readvErr = none) (hpos : 0 < len)
    (hs : len < 2 ^ (arch.longBits - 1)) :
    (K.readable base = false ∧ processVmReadv K dest off base len s =
      ⟨-1, dest, { s with errno := some .efault, log := s.log ++ [.vmReadv base len] }⟩) ∨
    ∃ n, 0 < n ∧ n ≤ len ∧ (∀ i, i < n → K.readable (ahead base i) = true) ∧
      processVmReadv K dest off base len s = ⟨n, copy dest off (s.mem.from base) n,
        { s with log := s.log ++ [.vmReadv base len] }⟩ := by
  cases hr : K.readable base with
  | false => exact .inl ⟨rfl, processVmReadv_fault dest off s hK hs hpos hr⟩
  | true =>
    have hreach : 0 < reach K.readable base len := by
      refine Nat.pos_of_ne_zero fun h0 => ?_
      rw [(reach_eq_zero hpos).mp h0] at hr
      exact absurd hr (by decide)
    have hle : reach K.readable base len ≤ len := leading_le _ len
    have htrans := K.transfer_le s.log.length (reach K.readable base len)
    refine .inr ⟨_, K.transfer_pos _ hreach, Nat.le_trans htrans hle, fun i hi => ?_,
      processVmReadv_transfer dest off s hK hs hpos hr⟩
    exact leading_holds (p := fun i => K.readable (ahead base i)) (Nat.lt_of_lt_of_le hi htrans)

/-! ## The chunk

The length is converted to `int` and capped at 256, and what would lie past a page end *if the
chunk started at `addr`* is cut off. -/

theorem cappedChunk_of_lt {len : Nat} (hlen : len % 2 ^ 32 < 2 ^ 31) :
    cappedChunk len = ((min (len % 2 ^ 32) 256 : Nat) : Int) := by
  have hmod : Int.bmod len (2 ^ 32) = (len % 2 ^ 32 : Nat) := by
    rw [Int.bmod_def]
    omega
  unfold cappedChunk
  rw [hmod]
  dsimp only
  split
  · rw [Nat.min_eq_right (by omega)]
    rfl
  · rw [Nat.min_eq_left (by omega)]

theorem endInPage_eq (addr : Addr arch) (chunk : Int) :
    endInPage addr chunk = (addr.toNat + chunk) % 4096 := by
  have hmask : (addr + BitVec.ofInt _ chunk &&& 4095).toNat =
      (addr + BitVec.ofInt _ chunk).toNat % 2 ^ 12 :=
    toNat_and_mask (e := 12) _ (by cases arch <;> decide)
  rw [endInPage, hmask, BitVec.toNat_add, BitVec.toNat_ofInt]
  rcases arch.sizes with ⟨-, hM⟩ | ⟨-, hM⟩ <;>
    · rw [hM]; omega

/-- The bytes requested with `len` to go, as long as they fit an `int`. In `Nat`, as nothing can
    be negative then; `chunkLen_eq` connects it to the source's arithmetic. -/
def chunkOf (addr : Addr arch) (len : Nat) : Nat :=
  if (addr.toNat + min len 256) % 4096 < min len 256
  then min len 256 - (addr.toNat + min len 256) % 4096
  else min len 256

/-- A request is for at least one byte, for no more than are left, and never for more than 256.
    The first of these is why the loop ends. -/
theorem chunkOf_bounds (addr : Addr arch) {len : Nat} (hpos : 0 < len) :
    0 < chunkOf addr len ∧ chunkOf addr len ≤ len ∧ chunkOf addr len ≤ 256 := by
  unfold chunkOf
  split <;> omega

/-- The `int` the length is converted to is what counts, and it has to be positive. -/
theorem chunkLen_eq (addr : Addr arch) {len : Nat} (hlen : len % 2 ^ 32 < 2 ^ 31) :
    chunkLen addr len = some (chunkOf addr (len % 2 ^ 32) : Int) := by
  rw [chunkLen, endInPage_eq, cappedChunk_of_lt hlen, chunkOf]
  rw [if_neg (by omega)]
  split <;> split <;> exact congrArg some (by omega)

theorem chunkLen_spec (addr : Addr arch) {len : Nat} (hpos : 0 < len) (hlen : len < 2 ^ 31) :
    ∃ c : Nat, chunkLen addr len = some (c : Int) ∧ 0 < c ∧ c ≤ len := by
  have hmod : len % 2 ^ 32 = len := Nat.mod_eq_of_lt (by omega)
  obtain ⟨hc, hle, -⟩ := chunkOf_bounds addr hpos
  refine ⟨chunkOf addr len, ?_, hc, hle⟩
  rw [chunkLen_eq addr (by omega), hmod]

/-- A positive chunk survives the conversion to `size_t`. -/
theorem toNat_ofInt_chunk {c : Nat} (h : c < 2 ^ 31) :
    (BitVec.ofInt arch.longBits (c : Int)).toNat = c := by
  rw [BitVec.ofInt_natCast, BitVec.toNat_ofNat]
  rcases arch.sizes with ⟨-, hM⟩ | ⟨-, hM⟩ <;>
    · rw [hM]; omega

theorem memchrNul_some {b : Bytes} {r p : Nat} (h : memchrNul b r = some p) :
    b p = 0 ∧ p < r ∧ ∀ i, i < p → b i ≠ 0 := by
  obtain ⟨h0, hmem, hbefore⟩ := List.find?_range_eq_some.mp h
  exact ⟨by simpa using h0, List.mem_range.mp hmem, fun i hi => by simpa using hbefore i hi⟩

theorem memchrNul_none {b : Bytes} {r : Nat} (h : memchrNul b r = none) :
    ∀ i, i < r → b i ≠ 0 := fun i hi => by
  simpa using List.find?_range_eq_none.mp h i hi

/-! ## The loop -/

section

variable (K : Kernel arch) (addr : Addr arch) (dest : Bytes) (len : Nat) (s : State arch)

/-- What holds at the head of the loop: everything counted is readable, free of NULs and copied,
    and the three positions agree. -/
structure CreadNulInv (v : CreadNulVars arch) : Prop where
  localOff : v.localOff = v.count
  remote : v.remote = ahead addr v.count
  left : v.len + v.count = len
  readable : v.count ≤ reach K.readable addr len
  noNul : ∀ i, i < v.count → s.mem (ahead addr i) ≠ 0
  dest : v.dest = copy dest 0 (s.mem.from addr) v.count
  mem : v.st.mem = s.mem
  errno : v.st.errno = s.errno

/-- What a string read should leave behind, as far as the range is readable. The buffer may hold
    more of the range than the string: a request delivers what is behind the NUL as well. -/
structure ReadsString (r : ReadRet arch) : Prop where
  ret : r.ret = if reach K.readable addr len = 0 then -1
    else (stringCount s.mem addr (reach K.readable addr len) : Int)
  dest : ∃ c, stringCount s.mem addr (reach K.readable addr len) ≤ c ∧
    c ≤ reach K.readable addr len ∧ r.dest = copy dest 0 (s.mem.from addr) c
  mem : r.st.mem = s.mem
  errno : r.st.errno = s.errno ∨ r.st.errno = some .efault

end

variable {addr : Addr arch} {dest : Bytes} {len : Nat} {s : State arch} {v : CreadNulVars arch}

theorem CreadNulInv.start (K : Kernel arch) (addr : Addr arch) (dest : Bytes) (len : Nat)
    (s : State arch) : CreadNulInv K addr dest len s ⟨0, addr, len, 0, dest, s⟩ :=
  ⟨rfl, (ahead_zero _).symm, rfl, Nat.zero_le _, fun i hi => absurd hi (Nat.not_lt_zero i),
    (copy_zero ..).symm, rfl, rfl⟩

/-- The end of the buffer: everything was counted, and nothing was a NUL. -/
theorem CreadNulInv.full (hpos : 0 < len) (hv : CreadNulInv K addr dest len s v)
    (h0 : v.len = 0) : ReadsString K addr dest len s ⟨v.count, v.dest, v.st⟩ := by
  have hle := leading_le (fun i => K.readable (ahead addr i)) len
  have hreach : reach K.readable addr len = v.count := by
    have := hv.left
    have := hv.readable
    unfold reach at *
    omega
  have hcount : stringCount s.mem addr v.count = v.count := by
    rw [stringCount_eq_min, firstNul_of_forall hv.noNul]
    omega
  have hne : v.count ≠ 0 := by
    have := hv.left
    omega
  refine ⟨?_, ⟨v.count, ?_, ?_, hv.dest⟩, hv.mem, Or.inl hv.errno⟩
  · rw [hreach, if_neg hne, hcount]
  · exact Nat.le_of_eq (by rw [hreach, hcount])
  · exact Nat.le_of_eq hreach.symm

/-- A failed request: the reachable part ends here, so the count is that of the string in it. With
    nothing counted there is none. -/
theorem CreadNulInv.fault (hv : CreadNulInv K addr dest len s v)
    (hbad : K.readable v.remote = false) (log : List (Request arch)) :
    ReadsString K addr dest len s ⟨if 0 < v.count then v.count else -1, v.dest,
      { v.st with errno := some .efault, log := log }⟩ := by
  have hreach : reach K.readable addr len = v.count := by
    have hleft := hv.left
    refine leading_unique (by omega) (fun i hi => leading_holds (Nat.lt_of_lt_of_le hi
      hv.readable)) (fun _ => ?_)
    rw [← hv.remote]
    exact hbad
  have hcount : stringCount s.mem addr v.count = v.count := by
    rw [stringCount_eq_min, firstNul_of_forall hv.noNul]
    omega
  refine ⟨?_, ⟨v.count, ?_, ?_, hv.dest⟩, hv.mem, Or.inr rfl⟩
  · show (if 0 < v.count then (v.count : Int) else -1) = _
    rw [hreach, hcount]
    split <;> split <;> omega
  · exact Nat.le_of_eq (by rw [hreach, hcount])
  · exact Nat.le_of_eq hreach.symm

/-- Two copies one after the other are one copy. It is what makes the buffer a function of the
    count. -/
theorem CreadNulInv.copy_next (hv : CreadNulInv K addr dest len s v) (n : Nat) :
    copy v.dest v.localOff (v.st.mem.from v.remote) n =
      copy dest 0 (s.mem.from addr) (v.count + n) := by
  rw [← copy_copy, hv.dest, hv.localOff, hv.mem, hv.remote]
  congr 1
  funext i
  simp only [Memory.from, ahead_ahead]

theorem CreadNulInv.copy_at (hv : CreadNulInv K addr dest len s v) {n i : Nat} (hi : i < n) :
    copy v.dest v.localOff (v.st.mem.from v.remote) n (v.localOff + i) =
      s.mem (ahead addr (v.count + i)) := by
  rw [hv.copy_next, hv.localOff, copy_of_lt (Nat.zero_le _) (by omega)]
  rfl

theorem CreadNulInv.readable_next (hv : CreadNulInv K addr dest len s v) {n : Nat}
    (hn : n ≤ v.len) (hr : ∀ i, i < n → K.readable (ahead v.remote i) = true) :
    v.count + n ≤ reach K.readable addr len := by
  have hleft := hv.left
  refine le_leading (by omega) fun i hi => ?_
  rcases Nat.lt_or_ge i v.count with h | h
  · exact leading_holds (Nat.lt_of_lt_of_le h hv.readable)
  · have hnext := hr (i - v.count) (by omega)
    rw [hv.remote, ahead_ahead, show v.count + (i - v.count) = i by omega] at hnext
    exact hnext

/-- A NUL in what came back is the first in the range, because everything before was free of them.
    -/
theorem CreadNulInv.found (hv : CreadNulInv K addr dest len s v) {n p : Nat} (hn : n ≤ v.len)
    (hr : ∀ i, i < n → K.readable (ahead v.remote i) = true) (log : List (Request arch))
    (hp : memchrNul (fun i => copy v.dest v.localOff (v.st.mem.from v.remote) n (v.localOff + i))
      n = some p) :
    ReadsString K addr dest len s ⟨v.count + p + 1,
      copy v.dest v.localOff (v.st.mem.from v.remote) n, { v.st with log := log }⟩ := by
  have hle := hv.readable_next hn hr
  obtain ⟨h0, hpn, hbefore⟩ := memchrNul_some hp
  rw [hv.copy_at hpn] at h0
  have hfirst : firstNul s.mem addr (reach K.readable addr len) = v.count + p := by
    refine firstNul_of_nul (by omega) h0 fun i hi => ?_
    rcases Nat.lt_or_ge i v.count with h | h
    · exact hv.noNul i h
    · have hne := hbefore (i - v.count) (by omega)
      rwa [hv.copy_at (by omega), show v.count + (i - v.count) = i by omega] at hne
  have hcount : stringCount s.mem addr (reach K.readable addr len) = v.count + p + 1 := by
    rw [stringCount_eq_min, hfirst]
    omega
  refine ⟨?_, ⟨v.count + n, by omega, hle, hv.copy_next n⟩, hv.mem, Or.inl hv.errno⟩
  rw [if_neg (by omega), hcount]
  push_cast
  rfl

/-! What a pass does, branch by branch. -/

theorem creadNulBody_full (h : v.len = 0) :
    creadNulBody K addr v = .done ⟨v.count, v.dest, v.st⟩ := if_pos h

theorem creadNulBody_undef (h : v.len ≠ 0) (hc : chunkLen addr v.len = none) :
    creadNulBody K addr v = .undef := by
  rw [creadNulBody, if_neg h, hc]

theorem creadNulBody_fault {c : Int} {r : ReadRet arch} (h : v.len ≠ 0)
    (hc : chunkLen addr v.len = some c)
    (hreq : processVmReadv K v.dest v.localOff v.remote (BitVec.ofInt arch.longBits c).toNat v.st
      = r) (hr : r.ret < 0) :
    creadNulBody K addr v =
      .done ⟨if 0 < v.count then v.count else -1, r.dest, r.st⟩ := by
  rw [creadNulBody, if_neg h, hc]
  simp only [hreq, if_pos hr]

/-- A request the kernel refuses before it looks at the tracee. -/
theorem creadNulBody_refused {c : Int} {e : Errno} (h : v.len ≠ 0)
    (hc : chunkLen addr v.len = some c)
    (he : attachFailure arch K.readvErr (BitVec.ofInt arch.longBits c).toNat = some e) :
    creadNulBody K addr v = .done ⟨if 0 < v.count then v.count else -1, v.dest,
      { v.st with
        errno := some e
        log := v.st.log ++ [.vmReadv v.remote (BitVec.ofInt arch.longBits c).toNat] }⟩ := by
  have hreq : processVmReadv K v.dest v.localOff v.remote (BitVec.ofInt arch.longBits c).toNat
      v.st = ⟨-1, v.dest, { v.st with
        errno := some e
        log := v.st.log ++ [.vmReadv v.remote (BitVec.ofInt arch.longBits c).toNat] }⟩ := by
    simp only [processVmReadv, he]
  exact creadNulBody_fault h hc hreq (Int.negSucc_lt_zero 0)

theorem creadNulBody_found {c : Int} {r : ReadRet arch} {p : Nat} (h : v.len ≠ 0)
    (hc : chunkLen addr v.len = some c)
    (hreq : processVmReadv K v.dest v.localOff v.remote (BitVec.ofInt arch.longBits c).toNat v.st
      = r) (hr : ¬ r.ret < 0)
    (hp : memchrNul (fun i => r.dest (v.localOff + i)) r.ret.toNat = some p) :
    creadNulBody K addr v = .done ⟨v.count + p + 1, r.dest, r.st⟩ := by
  rw [creadNulBody, if_neg h, hc]
  simp only [hreq, if_neg hr, hp]

theorem creadNulBody_again {c : Int} {r : ReadRet arch} (h : v.len ≠ 0)
    (hc : chunkLen addr v.len = some c)
    (hreq : processVmReadv K v.dest v.localOff v.remote (BitVec.ofInt arch.longBits c).toNat v.st
      = r) (hr : ¬ r.ret < 0)
    (hp : memchrNul (fun i => r.dest (v.localOff + i)) r.ret.toNat = none) :
    creadNulBody K addr v = .again ⟨v.localOff + r.ret.toNat, ahead v.remote r.ret.toNat,
      v.len - r.ret.toNat, v.count + r.ret.toNat, r.dest, r.st⟩ := by
  rw [creadNulBody, if_neg h, hc]
  simp only [hreq, if_neg hr, hp]

/-- No NUL in what came back: the invariant with more bytes behind it. -/
theorem CreadNulInv.next (hv : CreadNulInv K addr dest len s v) {n : Nat} (hn : n ≤ v.len)
    (hr : ∀ i, i < n → K.readable (ahead v.remote i) = true) (log : List (Request arch))
    (hp : memchrNul (fun i => copy v.dest v.localOff (v.st.mem.from v.remote) n (v.localOff + i))
      n = none) :
    CreadNulInv K addr dest len s ⟨v.localOff + n, ahead v.remote n, v.len - n, v.count + n,
      copy v.dest v.localOff (v.st.mem.from v.remote) n, { v.st with log := log }⟩ := by
  have hleft := hv.left
  refine ⟨?_, ?_, ?_, hv.readable_next hn hr, fun i hi => ?_, hv.copy_next n, hv.mem, hv.errno⟩
  · show v.localOff + n = v.count + n
    rw [hv.localOff]
  · show ahead v.remote n = ahead addr (v.count + n)
    rw [hv.remote, ahead_ahead]
  · show v.len - n + (v.count + n) = len
    omega
  · change i < v.count + n at hi
    rcases Nat.lt_or_ge i v.count with h | h
    · exact hv.noNul i h
    · have hne := memchrNul_none hp (i - v.count) (by omega)
      rwa [hv.copy_at (by omega), show v.count + (i - v.count) = i by omega] at hne

/-- Everything a pass can do with bytes to go, where attach is there: fault on the first byte,
    find a NUL among `n` readable bytes, or have them all and go on. In terms of bytes, for the
    results that are not about the string. -/
theorem creadNulBody_cases (hK : K.readvErr = none) (hpos : 0 < v.len % 2 ^ 32)
    (hlt : v.len % 2 ^ 32 < 2 ^ 31) :
    let log := v.st.log ++ [.vmReadv v.remote (chunkOf addr (v.len % 2 ^ 32))]
    (K.readable v.remote = false ∧ creadNulBody K addr v =
      .done ⟨if 0 < v.count then v.count else -1, v.dest,
        { v.st with errno := some .efault, log := log }⟩) ∨
    ∃ n, 0 < n ∧ n ≤ v.len % 2 ^ 32 ∧ (∀ i, i < n → K.readable (ahead v.remote i) = true) ∧
      let dest := copy v.dest v.localOff (v.st.mem.from v.remote) n
      ((∃ p, memchrNul (fun i => dest (v.localOff + i)) n = some p ∧
        creadNulBody K addr v = .done ⟨v.count + p + 1, dest, { v.st with log := log }⟩) ∨
      (memchrNul (fun i => dest (v.localOff + i)) n = none ∧ creadNulBody K addr v =
        .again ⟨v.localOff + n, ahead v.remote n, v.len - n, v.count + n, dest,
          { v.st with log := log }⟩)) := by
  have h0 : v.len ≠ 0 := fun h => by
    rw [h] at hpos
    exact absurd hpos (by decide)
  obtain ⟨hc, hcle, hc256⟩ := chunkOf_bounds addr hpos
  have hchunk := chunkLen_eq addr hlt
  have hiov : (BitVec.ofInt arch.longBits (chunkOf addr (v.len % 2 ^ 32) : Int)).toNat =
      chunkOf addr (v.len % 2 ^ 32) := toNat_ofInt_chunk (by omega)
  have hfit := arch.lt_long_max (by omega : chunkOf addr (v.len % 2 ^ 32) < 2 ^ 31)
  rcases processVmReadv_cases v.dest v.localOff v.st hK hc hfit with
    ⟨hbad, hreq⟩ | ⟨n, hn, hnc, hr, hreq⟩
  · exact Or.inl ⟨hbad, creadNulBody_fault h0 hchunk (by rw [hiov, hreq]) (Int.negSucc_lt_zero 0)⟩
  · have hnonneg : ¬ (n : Int) < 0 := by omega
    refine Or.inr ⟨n, hn, by omega, hr, ?_⟩
    cases hp : memchrNul (fun i => copy v.dest v.localOff (v.st.mem.from v.remote) n
        (v.localOff + i)) n with
    | some p =>
      exact Or.inl ⟨p, hp, creadNulBody_found h0 hchunk (by rw [hiov, hreq]) hnonneg hp⟩
    | none => exact Or.inr ⟨hp, creadNulBody_again h0 hchunk (by rw [hiov, hreq]) hnonneg hp⟩

/-- The step lemma: a pass leaves with the string read, or keeps the invariant and has fewer bytes
    left. `Advances` is the shape that the rule for loops takes. -/
theorem CreadNulInv.step (hK : K.readvErr = none) (hpos : 0 < len) (hlen : len < 2 ^ 31)
    (hv : CreadNulInv K addr dest len s v) :
    Advances (CreadNulInv K addr dest len s) CreadNulVars.len (ReadsString K addr dest len s) v
      (creadNulBody K addr v) := by
  have hleft := hv.left
  by_cases h0 : v.len = 0
  · rw [creadNulBody_full h0]
    exact hv.full hpos h0
  rcases creadNulBody_cases hK (by omega) (by omega : v.len % 2 ^ 32 < 2 ^ 31) with
    ⟨hbad, hb⟩ | ⟨n, hn, hle, hr, ⟨p, hp, hb⟩ | ⟨hp, hb⟩⟩
  · rw [hb]
    exact hv.fault hbad _
  · rw [hb]
    exact hv.found (by omega) hr _ hp
  · rw [hb]
    refine ⟨hv.next (by omega) hr _ hp, ?_⟩
    show v.len - n < v.len
    omega

/-- **The chunked reader reads the string**, whatever the kernel transfers per request.
    `K.transfer` appears in the hypotheses nowhere. -/
theorem pinkVmCreadNul_spec {fuel : Nat} (abi : Abi arch) (addr : Addr arch) (dest : Bytes)
    (s : State arch) (hK : K.readvErr = none) (hpos : 0 < len) (hlen : len < 2 ^ 31)
    (hf : len < fuel) :
    ∃ r, pinkVmCreadNul fuel K abi addr dest len s = some r ∧
      ReadsString K (setupAddr abi addr) dest len s r := by
  exact run_of_invariant (fun v hv => hv.step hK hpos hlen)
    (CreadNulInv.start K (setupAddr abi addr) dest len s) hf

theorem pinkVmCreadNul_zero {fuel : Nat} (K : Kernel arch) (abi : Abi arch) (addr : Addr arch)
    (dest : Bytes) (s : State arch) (hf : 0 < fuel) :
    pinkVmCreadNul fuel K abi addr dest 0 s = some ⟨0, dest, s⟩ := by
  obtain ⟨n, rfl⟩ : ∃ n, fuel = n + 1 := ⟨fuel - 1, by omega⟩
  rfl

/-! ## Lengths that do not fit an `int` -/

/-- The chunk of a length whose low 32 bits are a negative `int`. There is no cap from above then,
    and the page end is subtracted from a number that may already be the smallest. -/
theorem chunkLen_of_negative_int (addr : Addr arch) (hneg : 2 ^ 31 ≤ len % 2 ^ 32) :
    chunkLen addr len = if len % 2 ^ 32 < 2 ^ 31 + (addr.toNat + len) % 4096 then none
      else some (((len % 2 ^ 32 : Nat) : Int) - 2 ^ 32) := by
  have hcap : cappedChunk len = ((len % 2 ^ 32 : Nat) : Int) - 2 ^ 32 := by
    have hmod : Int.bmod len (2 ^ 32) = ((len % 2 ^ 32 : Nat) : Int) - 2 ^ 32 := by
      rw [Int.bmod_def]
      omega
    unfold cappedChunk
    rw [hmod]
    exact if_neg (by omega)
  have hend : (addr.toNat + (((len % 2 ^ 32 : Nat) : Int) - 2 ^ 32)) % 4096 =
      ((addr.toNat + len) % 4096 : Nat) := by
    omega
  rw [chunkLen, endInPage_eq, hcap, hend]
  split
  · rw [if_pos (by omega)]
  · rw [if_neg (by omega), if_neg (by omega)]

theorem chunkLen_of_empty_int (addr : Addr arch) (hmod : len % 2 ^ 32 = 0) :
    chunkLen addr len = some 0 := by
  have hzero : chunkOf addr 0 = 0 := by simp [chunkOf]
  rw [chunkLen_eq addr (by omega), hmod, hzero]
  rfl

/-- A negative chunk is a length that no `ssize_t` holds, on both data models. So the kernel
    refuses it. -/
theorem le_toNat_ofInt {c : Int} (hlo : -2 ^ 31 ≤ c) (hhi : c < 0) :
    2 ^ (arch.longBits - 1) ≤ (BitVec.ofInt arch.longBits c).toNat := by
  have hmax := arch.two_mul_long_max
  rw [BitVec.toNat_ofInt]
  rcases arch.sizes with ⟨-, hM⟩ | ⟨-, hM⟩ <;>
    · rw [hM] at hmax ⊢; omega

/-- With a multiple of `2^32` bytes to go every request is empty and every pass the same. No bound
    on the passes is enough. -/
theorem run_creadNulBody_empty (hK : K.readvErr = none) (v : CreadNulVars arch) (hv : v.len ≠ 0)
    (hmod : v.len % 2 ^ 32 = 0) (n : Nat) : run (creadNulBody K addr) n v = none := by
  induction n generalizing v with
  | zero => rfl
  | succ n ih =>
    have hzero : (BitVec.ofInt arch.longBits 0).toNat = 0 := by simp
    have hnone : K.transfer v.st.log.length (reach K.readable v.remote 0) = 0 :=
      Nat.le_zero.mp (K.transfer_le v.st.log.length 0)
    have hreq : processVmReadv K v.dest v.localOff v.remote
        (BitVec.ofInt arch.longBits 0).toNat v.st =
        ⟨0, v.dest, { v.st with log := v.st.log ++ [.vmReadv v.remote 0] }⟩ := by
      rw [hzero]
      simp [processVmReadv, attachFailure, hK, hnone]
    rw [run_again (creadNulBody_again hv (chunkLen_of_empty_int addr hmod) hreq
      (Int.lt_irrefl 0) rfl)]
    exact ih _ hv hmod

/-- A request whose length is a negative `int` is refused before the tracee is looked at. -/
theorem creadNulBody_negative_int (hK : K.readvErr = none) (hneg : 2 ^ 31 ≤ v.len % 2 ^ 32)
    (hdef : 2 ^ 31 + (addr.toNat + v.len) % 4096 ≤ v.len % 2 ^ 32) :
    ∃ log, creadNulBody K addr v = .done ⟨if 0 < v.count then v.count else -1, v.dest,
      ⟨v.st.mem, some .einval, log⟩⟩ := by
  have hne : v.len ≠ 0 := by omega
  have hc := chunkLen_of_negative_int addr hneg
  rw [if_neg (by omega)] at hc
  have hle : 2 ^ (arch.longBits - 1) ≤
      (BitVec.ofInt arch.longBits (((v.len % 2 ^ 32 : Nat) : Int) - 2 ^ 32)).toNat :=
    le_toNat_ofInt (by omega) (by omega)
  have hfail : attachFailure arch K.readvErr
      (BitVec.ofInt arch.longBits (((v.len % 2 ^ 32 : Nat) : Int) - 2 ^ 32)).toNat =
        some .einval := by
    rw [hK, attachFailure, if_neg (by simp), if_pos hle]
  exact ⟨_, creadNulBody_refused hne hc hfail⟩

theorem creadNulBody_overflow (hneg : 2 ^ 31 ≤ v.len % 2 ^ 32)
    (hundef : v.len % 2 ^ 32 < 2 ^ 31 + (addr.toNat + v.len) % 4096) :
    creadNulBody K addr v = .undef := by
  have hc := chunkLen_of_negative_int addr hneg
  rw [if_pos hundef] at hc
  exact creadNulBody_undef (by omega) hc

/-- **From `2^31` bytes on nothing is read**: the call has no meaning, does not end, or fails. In
    the last case the buffer is as it was. -/
theorem pinkVmCreadNul_long {fuel : Nat} (abi : Abi arch) (addr : Addr arch) (dest : Bytes)
    (s : State arch) (hK : K.readvErr = none) (hlo : 2 ^ 31 ≤ len) (hhi : len ≤ 2 ^ 32) :
    pinkVmCreadNul fuel K abi addr dest len s = none ∨
      ∃ log, pinkVmCreadNul fuel K abi addr dest len s =
        some ⟨-1, dest, ⟨s.mem, some .einval, log⟩⟩ := by
  cases fuel with
  | zero => exact Or.inl rfl
  | succ n =>
    rcases Nat.lt_or_eq_of_le hhi with hlt | heq
    · have hneg : 2 ^ 31 ≤ len % 2 ^ 32 := by omega
      by_cases hdef : 2 ^ 31 + ((setupAddr abi addr).toNat + len) % 4096 ≤ len % 2 ^ 32
      · obtain ⟨log, hb⟩ := creadNulBody_negative_int
          (v := ⟨0, setupAddr abi addr, len, 0, dest, s⟩) hK hneg hdef
        exact Or.inr ⟨log, run_done hb n⟩
      · exact Or.inl (run_undef (creadNulBody_overflow
          (v := ⟨0, setupAddr abi addr, len, 0, dest, s⟩) hneg (Nat.lt_of_not_le hdef)) (n + 1))
    · exact Or.inl (run_creadNulBody_empty hK _ (by dsimp only; omega)
        (by dsimp only; omega) _)

/-! ## `errno` -/

/-- Where attach is there, a request changes `errno` only if it fails, and then to one of two
    values. -/
theorem processVmReadv_errno (hK : K.readvErr = none) (dest : Bytes) (off : Nat)
    (base : Addr arch) (len : Nat) (s : State arch) :
    (processVmReadv K dest off base len s).st.errno = s.errno ∨
      (processVmReadv K dest off base len s).ret < 0 ∧
        ((processVmReadv K dest off base len s).st.errno = some .einval ∨
          (processVmReadv K dest off base len s).st.errno = some .efault) := by
  rcases Nat.lt_or_ge len (2 ^ (arch.longBits - 1)) with hs | hs
  · simp only [processVmReadv, attachFailure_of_lt hs, hK]
    split
    · exact Or.inr ⟨Int.negSucc_lt_zero 0, Or.inr rfl⟩
    · exact Or.inl rfl
  · have hfail : attachFailure arch none len = some .einval := by
      rw [attachFailure, if_neg (by simp), if_pos hs]
    simp [processVmReadv, hK, hfail]

/-- Everything a pass can leave with, whatever the kernel and the length. Coarser than the lemmas
    above, and without their premises. -/
theorem creadNulBody_done_cases {r : ReadRet arch} (hb : creadNulBody K addr v = .done r) :
    r = ⟨v.count, v.dest, v.st⟩ ∨ ∃ n,
      let q := processVmReadv K v.dest v.localOff v.remote n v.st
      r = ⟨if 0 < v.count then v.count else -1, q.dest, q.st⟩ ∨
        ∃ p : Nat, r = ⟨v.count + p + 1, q.dest, q.st⟩ := by
  unfold creadNulBody at hb
  split at hb
  · cases hb
    exact Or.inl rfl
  · split at hb
    · exact absurd hb (by simp)
    · rename_i c _
      refine Or.inr ⟨(BitVec.ofInt arch.longBits c).toNat, ?_⟩
      dsimp only at hb ⊢
      split at hb
      · cases hb
        exact Or.inl rfl
      · split at hb
        · cases hb
          exact Or.inr ⟨_, rfl⟩
        · exact absurd hb (by simp)

/-- …and what it goes on with. -/
theorem creadNulBody_again_cases {v' : CreadNulVars arch}
    (hb : creadNulBody K addr v = .again v') :
    ∃ n, let q := processVmReadv K v.dest v.localOff v.remote n v.st
      0 ≤ q.ret ∧ v' = ⟨v.localOff + q.ret.toNat, ahead v.remote q.ret.toNat,
        v.len - q.ret.toNat, v.count + q.ret.toNat, q.dest, q.st⟩ := by
  unfold creadNulBody at hb
  split at hb
  · exact absurd hb (by simp)
  · split at hb
    · exact absurd hb (by simp)
    · rename_i c _
      refine ⟨(BitVec.ofInt arch.longBits c).toNat, ?_⟩
      dsimp only at hb ⊢
      split at hb
      · exact absurd hb (by simp)
      · rename_i hret
        split at hb
        · exact absurd hb (by simp)
        · cases hb
          exact ⟨Int.not_lt.mp hret, rfl⟩

theorem attachMissing_of_errno {st : State arch}
    (h : st.errno = none ∨ st.errno = some .einval ∨ st.errno = some .efault) :
    attachMissing st = false := by
  rcases h with h | h | h <;> rw [attachMissing, h] <;> rfl

theorem creadNulBody_found_attach {r : ReadRet arch} (hK : K.readvErr = none)
    (hv : v.st.errno = none) (hb : creadNulBody K addr v = .done r) :
    attachMissing r.st = false := by
  have hreq : ∀ n, attachMissing (processVmReadv K v.dest v.localOff v.remote n v.st).st =
      false := fun n => by
    have herr := processVmReadv_errno hK v.dest v.localOff v.remote n v.st
    rw [hv] at herr
    exact attachMissing_of_errno (herr.imp_right And.right)
  rcases creadNulBody_done_cases hb with rfl | ⟨n, rfl | ⟨p, rfl⟩⟩
  · exact attachMissing_of_errno (Or.inl hv)
  · exact hreq n
  · exact hreq n

theorem creadNulBody_errno {v' : CreadNulVars arch} (hK : K.readvErr = none)
    (hb : creadNulBody K addr v = .again v') : v'.st.errno = v.st.errno := by
  obtain ⟨n, hret, rfl⟩ := creadNulBody_again_cases hb
  have herr := processVmReadv_errno hK v.dest v.localOff v.remote n v.st
  exact herr.resolve_right fun h => absurd h.1 (Int.not_lt.mpr hret)

/-- With attach there is no fallback: `pink_read_vm_data_nul` is `pink_vm_cread_nul`. It takes an
    argument over the whole run, since `errno` is only looked at after it. -/
theorem pinkReadVmDataNul_cread (hK : K.readvErr = none) (fuel : Nat) (abi : Abi arch)
    (addr : Addr arch) (dest : Bytes) (len : Nat) (s : State arch) :
    pinkReadVmDataNul fuel K abi addr dest len s =
      pinkVmCreadNul fuel K abi addr dest len { s with errno := none } := by
  rw [pinkReadVmDataNul]
  cases hrun : pinkVmCreadNul fuel K abi addr dest len { s with errno := none } with
  | none => rfl
  | some r =>
    have hfound : attachMissing r.st = false :=
      run_of_reached (fun v => v.st.errno = none) (fun r => attachMissing r.st = false)
        (fun v v' hv hb => (creadNulBody_errno hK hb).trans hv)
        (fun v r hv hb => creadNulBody_found_attach hK hv hb) rfl hrun
    simp [hfound]

/-! ## Failing without a trace -/

/-- A string read with attach fails and leaves its buffer alone: the first byte is out of reach
    or, the length being a negative `int`, the request is refused whatever is there. -/
def StringRefused (K : Kernel arch) (addr : Addr arch) (len : Nat) : Prop :=
  (0 < len % 2 ^ 32 ∧ len % 2 ^ 32 < 2 ^ 31 ∧ K.readable addr = false) ∨
    2 ^ 31 + (addr.toNat + len) % 4096 ≤ len % 2 ^ 32

/-- Once something was counted, no pass leaves with a negative result. -/
theorem creadNulBody_counted {r : ReadRet arch} (hv : 0 < v.count)
    (hb : creadNulBody K addr v = .done r) : 0 ≤ r.ret := by
  rcases creadNulBody_done_cases hb with rfl | ⟨n, rfl | ⟨p, rfl⟩⟩ <;> dsimp only <;> omega

theorem creadNulBody_count_mono {v' : CreadNulVars arch}
    (hb : creadNulBody K addr v = .again v') : v.count ≤ v'.count := by
  obtain ⟨n, -, rfl⟩ := creadNulBody_again_cases hb
  exact Nat.le_add_right ..

/-- With its first byte in reach, every way out of the loop has counted something. The induction
    is on the passes, and after the first the count alone carries it. -/
theorem run_creadNulBody_nonneg {fuel : Nat} {r : ReadRet arch} (hK : K.readvErr = none)
    (hpos : 0 < v.len % 2 ^ 32) (hlt : v.len % 2 ^ 32 < 2 ^ 31)
    (hgood : K.readable v.remote = true) (h : run (creadNulBody K addr) fuel v = some r) :
    0 ≤ r.ret := by
  cases fuel with
  | zero => exact absurd h (by simp)
  | succ n =>
    rcases @creadNulBody_cases arch K addr v hK hpos hlt with
      ⟨hbad, -⟩ | ⟨k, hk, -, -, ⟨p, -, hb⟩ | ⟨-, hb⟩⟩
    · exact absurd (hgood.symm.trans hbad) (by decide)
    · rw [run_done hb] at h
      obtain rfl := Option.some.inj h
      dsimp only
      omega
    · rw [run_again hb] at h
      refine run_of_reached (fun v => 0 < v.count) (fun r => 0 ≤ r.ret)
        (fun v v' hv hb => Nat.lt_of_lt_of_le hv (creadNulBody_count_mono hb))
        (fun v r hv hb => creadNulBody_counted hv hb) ?_ h
      dsimp only
      omega

/-- Exactly when a string read with attach fails and leaves no trace. -/
theorem pinkVmCreadNul_refused_iff {fuel : Nat} (abi : Abi arch) (addr : Addr arch)
    (dest : Bytes) (len : Nat) (s : State arch) (hK : K.readvErr = none) (hf : 0 < fuel) :
    (∃ r, pinkVmCreadNul fuel K abi addr dest len s = some r ∧ r.ret = -1 ∧ r.dest = dest) ↔
      StringRefused K (setupAddr abi addr) len := by
  obtain ⟨n, rfl⟩ : ∃ n, fuel = n + 1 := ⟨fuel - 1, by omega⟩
  rw [pinkVmCreadNul]
  generalize setupAddr abi addr = a
  by_cases hzero : len % 2 ^ 32 = 0
  · -- nothing to read, or nothing but empty requests
    refine iff_of_false ?_ (by rw [StringRefused]; omega)
    rintro ⟨r, hrun, hret, -⟩
    by_cases h0 : len = 0
    · rw [run_done (creadNulBody_full (v := ⟨0, a, len, 0, dest, s⟩) h0)] at hrun
      obtain rfl := Option.some.inj hrun
      exact absurd hret (by simp)
    · rw [run_creadNulBody_empty hK ⟨0, a, len, 0, dest, s⟩ h0 hzero] at hrun
      exact absurd hrun (by simp)
  -- the length is negative as an `int`: the kernel refuses the request, or the page end overflows
  by_cases hneg : 2 ^ 31 ≤ len % 2 ^ 32
  · by_cases hdef : 2 ^ 31 + (a.toNat + len) % 4096 ≤ len % 2 ^ 32
    · obtain ⟨log, hb⟩ := creadNulBody_negative_int (v := ⟨0, a, len, 0, dest, s⟩) hK hneg hdef
      exact iff_of_true ⟨_, run_done hb n, rfl, rfl⟩ (Or.inr hdef)
    · refine iff_of_false ?_ (by rw [StringRefused]; omega)
      rintro ⟨r, hrun, -⟩
      rw [run_undef (creadNulBody_overflow (v := ⟨0, a, len, 0, dest, s⟩) hneg
        (Nat.lt_of_not_le hdef))] at hrun
      exact absurd hrun (by simp)
  -- an ordinary length: the first byte decides, as a later fault comes with a count
  have hshort : len % 2 ^ 32 < 2 ^ 31 := Nat.lt_of_not_le hneg
  have hpos : 0 < len % 2 ^ 32 := Nat.pos_of_ne_zero hzero
  cases hgood : K.readable a with
  | false =>
    rcases @creadNulBody_cases arch K a ⟨0, a, len, 0, dest, s⟩ hK hpos hshort with
      ⟨-, hb⟩ | ⟨k, hk, -, hr, -⟩
    · exact iff_of_true ⟨_, run_done hb n, rfl, rfl⟩ (Or.inl ⟨hpos, hshort, hgood⟩)
    · have hfirst := hr 0 hk
      rw [ahead_zero] at hfirst
      exact absurd (hgood.symm.trans hfirst) (by decide)
  | true =>
    refine iff_of_false ?_ ?_
    · rintro ⟨r, hrun, hret, -⟩
      have hnonneg := run_creadNulBody_nonneg (v := ⟨0, a, len, 0, dest, s⟩) hK hpos hshort hgood
        hrun
      omega
    · rintro (⟨-, -, hbad⟩ | hdef)
      · exact absurd (hgood.symm.trans hbad) (by decide)
      · omega

end PinkTrace
