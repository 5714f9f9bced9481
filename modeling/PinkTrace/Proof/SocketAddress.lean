import PinkTrace.Proof.Socket
import PinkTrace.Proof.Vm.CreadNul

/-!
# What is decoded from a socket address

The buffer of `pink_read_socket_address` is cleared, filled as far as the length goes and then
terminated, so nothing of its previous contents is left and no path in it runs over its end,
whatever the tracee gave for a length. The bytes are those of the address the library reads from,
and that is where the two paths part: only attach takes an address of a 32-bit ABI modulo `2^32`.
Nothing else can go wrong.

## Which calls this is about

The library promises something of the calls that succeed, and it promises it about the address they
were given. So the result is over runs that succeed and the arguments they have read
(`SucceedsWith`), and its condition is one on the tracee's bytes at that address. Whether a call
succeeds is not part of it: with attach missing, an address whose bytes cannot be peeked is an
error, and an error promises nothing.

The arguments themselves may come out of registers or, multiplexed, out of the tracee's memory.
`ReadsArguments` says that they were read without saying how, so one proof serves both.
-/

set_option autoImplicit false

namespace PinkTrace

open Lib

variable {arch : Arch} {K : Kernel arch} {abi : Abi arch} {addr : Addr arch} {len fuel : Nat}

/-! ## Successful reads -/

/-- Where the library looks for an address: only attach goes through `setup_addr`. -/
def readFrom (K : Kernel arch) (abi : Abi arch) (addr : Addr arch) : Addr arch :=
  if Detached K then addr else setupAddr abi addr

/-- Everything `pink_read_vm_data` can do with a short range: fail with `errno` set, or read a
    part of the range. One statement for both paths, which is what `readFrom` is for. -/
theorem pinkReadVmData_cases (K : Kernel arch) (abi : Abi arch) (addr : Addr arch) (dest : Bytes)
    (s : State arch) (hpos : 0 < len) (hlen : len < 2 ^ 31) (hf : len < fuel) :
    ∃ r, pinkReadVmData fuel K abi addr dest len s = some r ∧ r.st.mem = s.mem ∧
      ((r.ret = -1 ∧ r.st.errno ≠ none) ∨
        ∃ n : Nat, r.ret = n ∧ r.dest = copy dest 0 (s.mem.from (readFrom K abi addr)) n) := by
  have hs := arch.lt_long_max hlen
  by_cases hd : Detached K
  · -- word by word, from the address as it is
    rw [pinkReadVmData_detached hd hs, readFrom, if_pos hd]
    rcases pinkVmLread_cases K addr dest
      ⟨s.mem, K.readvErr, s.log ++ [.vmReadv (setupAddr abi addr) len]⟩ hf with
      ⟨-, hrun⟩ | ⟨j, e, -, -, -, hrun⟩
    · refine ⟨_, hrun, rfl, Or.inr ⟨len, ?_, rfl⟩⟩
      rw [Nat.mod_eq_of_lt (by omega)]
      exact toSsize_of_lt hs
    · exact ⟨_, hrun, rfl, Or.inl ⟨rfl, by simp⟩⟩
  · -- in one request, from the address as the ABI has it
    rw [pinkReadVmData_cread hd hs, readFrom, if_neg hd]
    refine ⟨_, rfl, ?_⟩
    cases he : K.readvErr with
    | some e => simp [pinkVmCread, processVmReadv, attachFailure_of_lt hs, he]
    | none =>
      rw [pinkVmCread]
      rcases @processVmReadv_cases arch K (setupAddr abi addr) len dest 0
        { s with errno := none } he hpos hs with ⟨-, hreq⟩ | ⟨n, -, -, -, hreq⟩
      · rw [hreq]
        exact ⟨rfl, Or.inl ⟨rfl, by simp⟩⟩
      · rw [hreq]
        exact ⟨rfl, Or.inr ⟨n, rfl, rfl⟩⟩

/-- **A range reported as read was read**, on whichever path: the value alone tells, and it is
    zero. -/
theorem pinkReadVmDataFull_success {dest : Bytes} {s : State arch} {r : ReadRet arch}
    (hpos : 0 < len) (hlen : len < 2 ^ 31) (hf : len < fuel)
    (h : pinkReadVmDataFull fuel K abi addr dest len s = some r) (hret : ¬ r.ret < 0) :
    r.ret = 0 ∧ r.st.mem = s.mem ∧
      r.dest = copy dest 0 (s.mem.from (readFrom K abi addr)) len := by
  obtain ⟨q, hq, hmem, hcases⟩ := pinkReadVmData_cases K abi addr dest
    { s with errno := none } hpos hlen hf
  simp only [pinkReadVmDataFull, hq, Option.bind_eq_bind, Option.bind_some] at h
  rcases hcases with ⟨hneg, herr⟩ | ⟨n, hn, hdest⟩
  · rw [if_pos (by omega)] at h
    obtain rfl := Option.some.inj h
    obtain ⟨e, he⟩ := Option.ne_none_iff_exists'.mp herr
    have hcode := e.pos
    simp only [he, Option.map_some, Option.getD_some] at hret
    omega
  · rw [if_neg (by omega)] at h
    split at h
    · obtain rfl := Option.some.inj h
      exact absurd (by decide : -(Errno.efault.code : Int) < 0) hret
    · rename_i hall
      obtain rfl := Option.some.inj h
      have hfull : n = len := by omega
      exact ⟨rfl, hmem, by rw [hdest, hfull]⟩

/-! ## The arguments -/

variable {regset : CallRegs arch} {decode : Bool} {argIndex : Nat} {s : State arch}

/-- Reading an argument fails, or succeeds and leaves tracee memory as it is. A positive value
    does not occur. -/
theorem pinkReadSocketArgument_cases {argval : Addr arch} {a : ArgRet arch} (hf : 8 < fuel)
    (h : pinkReadSocketArgument fuel K regset decode argIndex argval s = some a) :
    a.ret < 0 ∨ (a.ret = 0 ∧ a.st.mem = s.mem) := by
  -- an element of the array has four or eight bytes, and is read the same way in both sizes
  have hobject : ∀ {uAddr : Addr arch} {size : Nat}, 0 < size → size ≤ 8 →
      readUnsigned fuel K regset.abi uAddr size argval s = some a →
        a.ret < 0 ∨ (a.ret = 0 ∧ a.st.mem = s.mem) := by
    intro uAddr size hpos hsize hread
    rw [readUnsigned] at hread
    obtain ⟨r, hr, hread⟩ := Option.bind_eq_some_iff.mp hread
    split at hread
    · obtain rfl := Option.some.inj hread
      exact Or.inl (by assumption)
    · rename_i hret
      obtain rfl := Option.some.inj hread
      exact Or.inr ⟨rfl, (pinkReadVmDataFull_success hpos (by omega) (by omega) hr hret).2.1⟩
  have hfail : ∀ e : Errno, some ⟨-(e.code : Int), argval, s⟩ = some a → a.ret < 0 := by
    intro e he
    obtain rfl := Option.some.inj he
    exact Int.neg_neg_of_pos (Int.natCast_pos.mpr e.pos)
  unfold pinkReadSocketArgument at h
  split at h
  · split at h
    · exact Or.inl (hfail _ h)
    · obtain rfl := Option.some.inj h
      exact Or.inr ⟨rfl, rfl⟩
  · split at h
    · exact Or.inl (hfail _ h)
    · dsimp only at h
      split at h
      · exact hobject (by decide) (by decide) h
      · exact hobject arch.sizeofLong_pos (by rcases arch.sizes with h | h <;> omega) h

/-- The descriptor was read if it was asked for. A caller without an `fd` has nothing read, and
    the state is the one it came with. -/
def ReadsDescriptor (fuel : Nat) (K : Kernel arch) (regset : CallRegs arch) (decode : Bool)
    (fd : Option (BitVec 32)) (s : State arch) (fd' : Option (BitVec 32)) (st : State arch) :
    Prop :=
  match fd with
  | none => fd' = none ∧ st = s
  | some _ => ∃ x, pinkReadSocketArgument fuel K regset decode 0 0 s = some ⟨0, x, st⟩ ∧
      fd' = some (x.setWidth 32)

/-- The arguments of the call were read: the descriptor as `fd'`, then the address and its
    length. -/
def ReadsArguments (fuel : Nat) (K : Kernel arch) (regset : CallRegs arch) (decode : Bool)
    (argIndex : Nat) (fd : Option (BitVec 32)) (s : State arch) (fd' : Option (BitVec 32))
    (addr addrlen : Addr arch) (st : State arch) : Prop :=
  ∃ s₁ s₂, ReadsDescriptor fuel K regset decode fd s fd' s₁ ∧
    pinkReadSocketArgument fuel K regset decode argIndex 0 s₁ = some ⟨0, addr, s₂⟩ ∧
    pinkReadSocketArgument fuel K regset decode (argIndex + 1) 0 s₂ = some ⟨0, addrlen, st⟩

section

variable {fd fd' : Option (BitVec 32)} {addrlen : Addr arch} {st : State arch}
  {sockaddr : PinkSockaddr} {r : SockaddrRet arch}

theorem ReadsArguments.mem (hf : 8 < fuel)
    (h : ReadsArguments fuel K regset decode argIndex fd s fd' addr addrlen st) :
    st.mem = s.mem := by
  obtain ⟨s₁, s₂, hfd, haddr, hlen⟩ := h
  have hkeep : ∀ {i : Nat} {x : Addr arch} {s s' : State arch},
      pinkReadSocketArgument fuel K regset decode i 0 s = some ⟨0, x, s'⟩ → s'.mem = s.mem :=
    fun hread => (pinkReadSocketArgument_cases hf hread).elim
      (fun hneg => absurd hneg (Int.lt_irrefl 0)) And.right
  have hfirst : s₁.mem = s.mem := by
    cases fd with
    | none => rw [hfd.2]
    | some old =>
      obtain ⟨x, hread, -⟩ := hfd
      exact hkeep hread
  rw [hkeep hlen, hkeep haddr, hfirst]

/-- Once the arguments are there, the rest of the call is `readSockaddr`. -/
theorem ReadsArguments.run (hi : argIndex < 5)
    (h : ReadsArguments fuel K regset decode argIndex fd s fd' addr addrlen st) :
    pinkReadSocketAddress fuel K regset decode argIndex fd sockaddr s =
      readSockaddr fuel K regset.abi addr addrlen fd' sockaddr st := by
  obtain ⟨s₁, s₂, hfd, haddr, hlen⟩ := h
  have hnext : (argIndex + 1) % 2 ^ 32 = argIndex + 1 := Nat.mod_eq_of_lt (by omega)
  have hargs : readSockaddrArgs fuel K regset decode argIndex fd' sockaddr s₁ =
      readSockaddr fuel K regset.abi addr addrlen fd' sockaddr st := by
    simp only [readSockaddrArgs, haddr, hnext, hlen, Option.bind_eq_bind, Option.bind_some,
      Int.lt_irrefl, if_false]
  cases fd with
  | none =>
    obtain ⟨rfl, rfl⟩ := hfd
    exact hargs
  | some old =>
    obtain ⟨x, hread, rfl⟩ := hfd
    simp only [pinkReadSocketAddress, hread, Option.bind_eq_bind, Option.bind_some,
      Int.lt_irrefl, if_false]
    exact hargs

theorem readSocketArgument_of_nonneg {i : Nat} {a : ArgRet arch} (hf : 8 < fuel)
    (h : pinkReadSocketArgument fuel K regset decode i 0 s = some a) (hret : ¬ a.ret < 0) :
    pinkReadSocketArgument fuel K regset decode i 0 s = some ⟨0, a.argval, a.st⟩ := by
  rw [h, ← ((pinkReadSocketArgument_cases hf h).resolve_left hret).1]

/-- `if (r < 0) return r;` in a call that succeeds. -/
theorem of_not_failed {n : Int} {q : SockaddrRet arch} {rest : Option (SockaddrRet arch)}
    (h : (if n < 0 then some q else rest) = some r) (hq : q.ret = n) (hret : r.ret = 0) :
    ¬ n < 0 ∧ rest = some r := by
  split at h
  · obtain rfl := Option.some.inj h
    omega
  · exact ⟨by assumption, h⟩

/-- A call that succeeds has read its arguments. The proof goes through the three tests of the
    code, each of which would have ended it. -/
theorem readsArguments_of_success (hf : 8 < fuel) (hi : argIndex < 5)
    (h : pinkReadSocketAddress fuel K regset decode argIndex fd sockaddr s = some r)
    (hret : r.ret = 0) :
    ∃ fd' addr addrlen st,
      ReadsArguments fuel K regset decode argIndex fd s fd' addr addrlen st := by
  have hnext : (argIndex + 1) % 2 ^ 32 = argIndex + 1 := Nat.mod_eq_of_lt (by omega)
  have hargs : ∀ {fd' : Option (BitVec 32)} {s₁ : State arch},
      ReadsDescriptor fuel K regset decode fd s fd' s₁ →
      readSockaddrArgs fuel K regset decode argIndex fd' sockaddr s₁ = some r →
      ∃ fd' addr addrlen st,
        ReadsArguments fuel K regset decode argIndex fd s fd' addr addrlen st := by
    intro fd' s₁ hfd hrest
    rw [readSockaddrArgs, hnext] at hrest
    obtain ⟨a, ha, hrest⟩ := Option.bind_eq_some_iff.mp hrest
    obtain ⟨haddr, hrest⟩ := of_not_failed hrest rfl hret
    obtain ⟨l, hl, hrest⟩ := Option.bind_eq_some_iff.mp hrest
    obtain ⟨hlen, -⟩ := of_not_failed hrest rfl hret
    exact ⟨fd', a.argval, l.argval, l.st, s₁, a.st, hfd,
      readSocketArgument_of_nonneg hf ha haddr, readSocketArgument_of_nonneg hf hl hlen⟩
  cases fd with
  | none => exact hargs ⟨rfl, rfl⟩ h
  | some old =>
    obtain ⟨x, hx, h⟩ := Option.bind_eq_some_iff.mp h
    obtain ⟨hneg, hrest⟩ := of_not_failed h rfl hret
    exact hargs ⟨x.argval, readSocketArgument_of_nonneg hf hx hneg, rfl⟩ hrest

end

/-! ## The decoded address -/

/-- The length of an address: the one given, if that is one of an address that fits. The same as
    `clampAddrlen`, said the other way round and not read off the code. -/
def addressLength (addrlen : Nat) : Nat := if 2 ≤ addrlen ∧ addrlen ≤ 128 then addrlen else 128

theorem clampAddrlen_eq_addressLength (n : Nat) : clampAddrlen n = addressLength n := by
  unfold clampAddrlen addressLength sizeofSockaddrU
  split <;> split <;> omega

theorem addressLength_bounds (n : Nat) : 2 ≤ addressLength n ∧ addressLength n ≤ 128 := by
  unfold addressLength
  split <;> omega

/-- `sa` is the address of length `L` that the tracee has at `addr`, with nothing left of what was
    there before, and with a terminator behind every offset. The family is part of the bytes and
    stated apart, as a caller looks at it first. -/
structure Decoded (mem : Memory arch.longBits) (abi : Abi arch) (addr : Addr arch) (L : Nat)
    (sa : PinkSockaddr) : Prop where
  length : sa.length = L
  family : sa.family = loadUnsigned arch (mem.from (setupAddr abi addr)) 2
  bytes : ∀ i, i < min L 127 → sa.u i = mem (ahead (setupAddr abi addr) i)
  rest : ∀ i, L ≤ i → i < 128 → sa.u i = 0
  last : sa.u 127 = 0
  terminated : ∀ i, i < 128 → ∃ k, i ≤ k ∧ k < 128 ∧ sa.u k = 0

/-- The buffer of a successful call: cleared, filled and terminated. Three copies, in the order of
    the source. -/
def sockaddrBuffer (old bytes : Bytes) (L : Nat) : Bytes :=
  copy (copy (copy old 0 (fun _ => 0) 128) 0 bytes L) 127 (fun _ => 0) 1

section

variable {old bytes : Bytes} {L : Nat}

theorem sockaddrBuffer_of_lt {i : Nat} (hi : i < min L 127) :
    sockaddrBuffer old bytes L i = bytes i := by
  rw [sockaddrBuffer, copy_of_not (by omega), copy_of_lt (Nat.zero_le i) (by omega), Nat.sub_zero]

theorem sockaddrBuffer_last (old bytes : Bytes) (L : Nat) :
    sockaddrBuffer old bytes L 127 = 0 := copy_of_lt (Nat.le_refl 127) (by decide)

theorem sockaddrBuffer_rest {i : Nat} (hL : L ≤ i) (hi : i < 128) :
    sockaddrBuffer old bytes L i = 0 := by
  by_cases hlast : i = 127
  · rw [hlast]
    exact sockaddrBuffer_last old bytes L
  · rw [sockaddrBuffer, copy_of_not (by omega), copy_of_not (by omega),
      copy_of_lt (Nat.zero_le i) (by omega)]

theorem loadUnsigned_congr {b b' : Bytes} {n : Nat} (h : ∀ i, i < n → b i = b' i) :
    loadUnsigned arch b n = loadUnsigned arch b' n := by
  have hstraight : leLoad b 0 n = leLoad b' 0 n := leLoad_congr fun j hj => by
    rw [Nat.zero_add]
    exact h j hj
  have hreversed : leLoad (fun i => b (n - 1 - i)) 0 n = leLoad (fun i => b' (n - 1 - i)) 0 n :=
    leLoad_congr fun j hj => h _ (by omega)
  cases arch
  case powerpc | powerpc64 => exact hreversed
  case aarch64 | arm | i386 | x86_64 => exact hstraight

/-- What was read from `a` is the address at `addr` exactly if the bytes are the same. All other
    parts of `Decoded` hold by construction, and this is the lemma that says so. -/
theorem decoded_iff {mem : Memory arch.longBits} {a : Addr arch} (h2 : 2 ≤ L) :
    Decoded mem abi addr L
      ⟨loadUnsigned arch (sockaddrBuffer old (mem.from a) L) 2, L,
        sockaddrBuffer old (mem.from a) L⟩ ↔
      ∀ i, i < min L 127 → mem (ahead a i) = mem (ahead (setupAddr abi addr) i) := by
  constructor
  · intro h i hi
    exact (sockaddrBuffer_of_lt hi).symm.trans (h.bytes i hi)
  · intro h
    have hbytes : ∀ i, i < min L 127 → sockaddrBuffer old (mem.from a) L i =
        mem (ahead (setupAddr abi addr) i) := fun i hi =>
      (sockaddrBuffer_of_lt hi).trans (h i hi)
    have hlast := sockaddrBuffer_last old (mem.from a) L
    exact ⟨rfl, congrArg Nat.cast (loadUnsigned_congr fun i hi => hbytes i (by omega)), hbytes,
      fun i => sockaddrBuffer_rest, hlast, fun i hi => ⟨127, by omega, by decide, hlast⟩⟩

end

theorem readSockaddr_success {addrlen : Addr arch} {fd : Option (BitVec 32)}
    {sockaddr : PinkSockaddr} {r : SockaddrRet arch} (hf : 128 < fuel) (haddr : addr ≠ 0)
    (h : readSockaddr fuel K abi addr addrlen fd sockaddr s = some r) (hret : r.ret = 0) :
    let u := sockaddrBuffer sockaddr.u (s.mem.from (readFrom K abi addr))
      (addressLength addrlen.toNat)
    r.sockaddr = ⟨loadUnsigned arch u 2, addressLength addrlen.toNat, u⟩ := by
  have hbounds := addressLength_bounds addrlen.toNat
  rw [readSockaddr, if_neg haddr, clampAddrlen_eq_addressLength] at h
  obtain ⟨q, hq, h⟩ := Option.bind_eq_some_iff.mp h
  obtain ⟨hneg, hrest⟩ := of_not_failed h rfl hret
  obtain ⟨-, -, hdest⟩ := pinkReadVmDataFull_success (by omega) (by omega) (by omega) hq hneg
  obtain rfl := Option.some.inj hrest
  dsimp only
  rw [hdest]
  rfl

/-- A call that succeeds and whose address and length are these. The arguments are those the call
    itself has read, not ones that somebody claims for it. -/
structure SucceedsWith (fuel : Nat) (K : Kernel arch) (regset : CallRegs arch) (decode : Bool)
    (argIndex : Nat) (fd : Option (BitVec 32)) (sockaddr : PinkSockaddr) (s : State arch)
    (addr addrlen : Addr arch) (r : SockaddrRet arch) : Prop where
  run : pinkReadSocketAddress fuel K regset decode argIndex fd sockaddr s = some r
  success : r.ret = 0
  arguments : ∃ fd' st, ReadsArguments fuel K regset decode argIndex fd s fd' addr addrlen st

section

variable {fd : Option (BitVec 32)} {sockaddr : PinkSockaddr} {addrlen : Addr arch}
  {r : SockaddrRet arch}

/-- The address that a call has decoded is the one at `addr` exactly if nothing else is where it
    was read from. -/
theorem SucceedsWith.decoded_iff (hi : argIndex < 5) (hf : 128 < fuel)
    (h : SucceedsWith fuel K regset decode argIndex fd sockaddr s addr addrlen r)
    (haddr : addr ≠ 0) :
    Decoded s.mem regset.abi addr (addressLength addrlen.toNat) r.sockaddr ↔
      ∀ i, i < min (addressLength addrlen.toNat) 127 →
        s.mem (ahead (readFrom K regset.abi addr) i) =
          s.mem (ahead (setupAddr regset.abi addr) i) := by
  obtain ⟨fd', st, hargs⟩ := h.arguments
  have hsa := readSockaddr_success hf haddr ((hargs.run hi).symm.trans h.run) h.success
  rw [hargs.mem (by omega)] at hsa
  rw [hsa]
  exact PinkTrace.decoded_iff (addressLength_bounds addrlen.toNat).1

/-- With attach the two addresses are one, so only its absence leaves a condition. -/
theorem readFrom_same_iff {L : Nat} {mem : Memory arch.longBits} :
    (∀ i, i < L → mem (ahead (readFrom K abi addr) i) = mem (ahead (setupAddr abi addr) i)) ↔
      (Detached K → ∀ i, i < L → mem (ahead addr i) = mem (ahead (setupAddr abi addr) i)) := by
  unfold readFrom
  split
  · rename_i hd
    exact ⟨fun h _ => h, fun h => h hd⟩
  · rename_i hd
    exact ⟨fun _ hd' => absurd hd' hd, fun _ _ _ => rfl⟩

end

/-- **A socket address is decoded exactly, unless attach is missing and the address, taken
    without `setup_addr`, has other bytes behind it.** Every call that succeeds has an address and
    a length, and that is the condition on these; one without an address succeeds, and says so. -/
theorem decodesSockaddr_iff (K : Kernel arch) (regset : CallRegs arch) (decode : Bool)
    (fd : Option (BitVec 32)) (sockaddr : PinkSockaddr) (s : State arch) {fuel argIndex : Nat}
    (hi : argIndex < 5) (hf : 128 < fuel) :
    (∀ r, pinkReadSocketAddress fuel K regset decode argIndex fd sockaddr s = some r →
      r.ret = 0 → ∃ addr addrlen,
        SucceedsWith fuel K regset decode argIndex fd sockaddr s addr addrlen r) ∧
    (∀ addr addrlen r,
      SucceedsWith fuel K regset decode argIndex fd sockaddr s addr addrlen r → addr ≠ 0 →
      (Decoded s.mem regset.abi addr (addressLength addrlen.toNat) r.sockaddr ↔
        (Detached K → ∀ i, i < min (addressLength addrlen.toNat) 127 →
          s.mem (ahead addr i) = s.mem (ahead (setupAddr regset.abi addr) i)))) ∧
    ∀ fd' addrlen st, ReadsArguments fuel K regset decode argIndex fd s fd' 0 addrlen st →
      ∃ r, SucceedsWith fuel K regset decode argIndex fd sockaddr s 0 addrlen r ∧
        r.sockaddr.family = -1 ∧ r.sockaddr.length = 0 := by
  refine ⟨fun r hrun hret => ?_, fun addr addrlen r h haddr => ?_, fun fd' addrlen st hargs => ?_⟩
  · obtain ⟨fd', addr, addrlen, st, hargs⟩ :=
      readsArguments_of_success (by omega) hi hrun hret
    exact ⟨addr, addrlen, hrun, hret, fd', st, hargs⟩
  · exact (h.decoded_iff hi hf haddr).trans readFrom_same_iff
  · exact ⟨_, ⟨(hargs.run hi).trans (if_pos rfl), rfl, fd', st, hargs⟩, rfl, rfl⟩

/-! A 64-bit process that makes a system call with an x32 number, and with an address above
`2^32`: what is there is not what is at the address modulo `2^32`. -/

def highAddress : X86Regset := ⟨leArray 8 fun _ => 0x100001000, sizeofX86_64Regs, .x32⟩

def highOnes : State .x86_64 where
  mem x := if x.toNat < 2 ^ 32 then 0 else 1
  errno := none
  log := []

theorem highAddress_arguments (K : Kernel .x86_64) :
    ReadsArguments 129 K highAddress.callRegs false 1 none highOnes none 0x100001000 0x100001000
      highOnes := ⟨highOnes, highOnes, ⟨rfl, rfl⟩, rfl, rfl⟩

/-- Without attach the bytes above `2^32` are decoded. -/
theorem high_address_decoded_unmasked :
    ∃ r, SucceedsWith 129 ((allMapped .x86_64).kernel .enosys .available) highAddress.callRegs
        false 1 none ⟨0, 0, fun _ => 0⟩ highOnes 0x100001000 0x100001000 r ∧
      ¬ Decoded highOnes.mem highAddress.abi 0x100001000 128 r.sockaddr := by
  have hcall : (pinkReadSocketAddress 129 ((allMapped .x86_64).kernel .enosys .available)
      highAddress.callRegs false 1 none ⟨0, 0, fun _ => 0⟩ highOnes).map
        (fun r => (r.ret, r.sockaddr.u 0)) = some (0, 1) := by decide +kernel
  obtain ⟨r, hrun, hr⟩ := Option.map_eq_some_iff.mp hcall
  refine ⟨r, ⟨hrun, congrArg Prod.fst hr, none, highOnes, highAddress_arguments _⟩, fun h => ?_⟩
  have hbyte := h.bytes 0 (by decide)
  rw [show r.sockaddr.u 0 = 1 from congrArg Prod.snd hr] at hbyte
  exact absurd hbyte (by decide +kernel)

/-- With attach it is the bytes below. -/
theorem high_address_decoded :
    ∃ r, SucceedsWith 129 ((allMapped .x86_64).kernel .available .available) highAddress.callRegs
        false 1 none ⟨0, 0, fun _ => 0⟩ highOnes 0x100001000 0x100001000 r ∧
      Decoded highOnes.mem highAddress.abi 0x100001000 128 r.sockaddr := by
  have hcall : (pinkReadSocketAddress 129 ((allMapped .x86_64).kernel .available .available)
      highAddress.callRegs false 1 none ⟨0, 0, fun _ => 0⟩ highOnes).map (·.ret) = some 0 := by
    decide +kernel
  obtain ⟨r, hrun, hret⟩ := Option.map_eq_some_iff.mp hcall
  have hcalled : SucceedsWith 129 ((allMapped .x86_64).kernel .available .available)
      highAddress.callRegs false 1 none ⟨0, 0, fun _ => 0⟩ highOnes 0x100001000 0x100001000 r :=
    ⟨hrun, hret, none, highOnes, highAddress_arguments _⟩
  obtain ⟨-, hiff, -⟩ := decodesSockaddr_iff ((allMapped .x86_64).kernel .available .available)
    highAddress.callRegs false none ⟨0, 0, fun _ => 0⟩ highOnes (by decide : 1 < 5)
    (by decide : 128 < 129)
  exact ⟨r, hcalled, (hiff _ _ r hcalled (by decide)).mpr fun hd => absurd hd (by decide)⟩

end PinkTrace
