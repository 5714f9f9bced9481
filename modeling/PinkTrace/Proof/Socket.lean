import PinkTrace.Proof.Regset.Accessors
import PinkTrace.Proof.Vm.Entry
import PinkTrace.Socket

/-!
# One decoding for both ways of passing a socket call

A 32-bit tracee's argument word arrives as a `long` that is either zero- or sign-extended,
depending on where it was read. `Widens` is what the two have in common, and the decoder never
looks past it: a word is zero however it is extended, one with its top bit set is out of range for
a length either way, `setup_addr` drops the upper half of an address, and so does the conversion
of a descriptor to `int`. What is left is that the two ways deliver the same words (`Delivers`),
and then everything decoded from them is the same.

## Why `Widens` and not two equations

The two extensions could be compared directly, and every lemma would then have both of them in it.
`Widens` is the interface instead: a lemma takes one word and any `long` that stands for it, and
is applied twice. It also marks where the decoder ends. `SameArgument`, at the end, is about a
caller who looks at the `long` itself, and there the two ways do differ.
-/

set_option autoImplicit false

namespace PinkTrace

open Lib

/-! ## Widened words -/

/-- A `long` that stands for a 32-bit word: extended with zeros, or with its sign. Of a word below
    `2^31` there is only one. -/
def Widens (a : BitVec 32) (x : Addr .x86_64) : Prop :=
  x.toNat = a.toNat ∨ (2 ^ 31 ≤ a.toNat ∧ x.toNat = a.toNat + (2 ^ 64 - 2 ^ 32))

/-- As an array element is… -/
theorem widens_ofNat (a : BitVec 32) : Widens a (BitVec.ofNat 64 a.toNat) := by
  have hlt : a.toNat < 2 ^ 64 := Nat.lt_trans a.isLt (by decide)
  exact Or.inl ((BitVec.toNat_ofNat ..).trans (Nat.mod_eq_of_lt hlt))

/-- …and as a register is. -/
theorem widens_signExtend (a : BitVec 32) : Widens a (a.signExtend 64) := by
  have hval : (a.signExtend 64).toNat = _ := BitVec.toNat_signExtend a
  rw [BitVec.toNat_setWidth_of_le (by decide), BitVec.msb_eq_decide] at hval
  split at hval
  · rename_i hneg
    exact Or.inr ⟨of_decide_eq_true hneg, hval⟩
  · exact Or.inl hval

namespace Widens

variable {a : BitVec 32} {x : Addr .x86_64}

theorem toNat_setupAddr (h : Widens a x) :
    (@setupAddr .x86_64 .i386 x).toNat = a.toNat := by
  have hlt := a.isLt
  have hmask : (@setupAddr .x86_64 .i386 x).toNat = x.toNat % 2 ^ 32 :=
    toNat_and_mask (e := 32) x (by decide)
  rcases h with h | ⟨-, h⟩ <;> omega

/-- A null pointer is one in either width. -/
theorem eq_zero_iff (h : Widens a x) : x = 0 ↔ a = 0 := by
  have hx : x = 0 ↔ x.toNat = 0 := BitVec.toNat_eq
  have ha : a = 0 ↔ a.toNat = 0 := BitVec.toNat_eq
  rw [hx, ha]
  rcases h with h | ⟨hneg, h⟩ <;> omega

/-- A word with its top bit set is no length, however it is extended. -/
theorem clampAddrlen_eq (h : Widens a x) : clampAddrlen x.toNat = clampAddrlen a.toNat := by
  unfold clampAddrlen sizeofSockaddrU
  rcases h with h | ⟨hneg, h⟩
  · rw [h]
  · rw [if_pos (by omega), if_pos (by omega)]

/-- The descriptor: what is cut off is what was added. -/
theorem setWidth_eq (h : Widens a x) : x.setWidth 32 = a := by
  have hlt := a.isLt
  apply BitVec.eq_of_toNat_eq
  rw [BitVec.toNat_setWidth]
  rcases h with h | ⟨-, h⟩ <;> omega

end Widens

theorem clampAddrlen_bounds (n : Nat) : 0 < clampAddrlen n ∧ clampAddrlen n ≤ 128 := by
  unfold clampAddrlen sizeofSockaddrU
  split <;> omega

/-! ## Decoding -/

/-- Two calls return the same, and leave `*fd` and `*sockaddr` the same. The states differ, since
    one of them has read an array. -/
def Alike {arch : Arch} (o o' : Option (SockaddrRet arch)) : Prop :=
  ∃ r r', o = some r ∧ o' = some r' ∧ r.ret = r'.ret ∧ r.fd = r'.fd ∧ r.sockaddr = r'.sockaddr

/-- Reading any of the six arguments of a call succeeds with its word, and leaves tracee memory as
    it is. From any state with this memory: the arguments are read one after the other. -/
def Delivers (K : Kernel .x86_64) (fuel : Nat) (regset : CallRegs .x86_64)
    (decodeSocketcall : Bool) (a : Fin pinkMaxArgs → BitVec 32)
    (mem : Memory Arch.x86_64.longBits) : Prop :=
  ∀ (i : Fin pinkMaxArgs) (s : State .x86_64), s.mem = mem → ∃ x st, Widens (a i) x ∧
    st.mem = mem ∧
    pinkReadSocketArgument fuel K regset decodeSocketcall i 0 s = some ⟨0, x, st⟩

section

variable {K : Kernel .x86_64} {fuel : Nat}

/-- The end of the call, given two `long`s each for the address and for the length. -/
theorem readSockaddr_alike (hK : Attached K) {a b : BitVec 32} {x x' y y' : Addr .x86_64}
    (hx : Widens a x) (hx' : Widens a x') (hy : Widens b y) (hy' : Widens b y')
    (fd : Option (BitVec 32)) (sockaddr : PinkSockaddr) {s s' : State .x86_64}
    (hmem : s'.mem = s.mem) :
    Alike (readSockaddr fuel K .i386 x y fd sockaddr s)
      (readSockaddr fuel K .i386 x' y' fd sockaddr s') := by
  unfold readSockaddr
  by_cases ha : a = 0
  · rw [if_pos (hx.eq_zero_iff.mpr ha), if_pos (hx'.eq_zero_iff.mpr ha)]
    exact ⟨_, _, rfl, rfl, rfl, rfl, rfl⟩
  · rw [if_neg (mt hx.eq_zero_iff.mp ha), if_neg (mt hx'.eq_zero_iff.mp ha), hy.clampAddrlen_eq,
      hy'.clampAddrlen_eq]
    obtain ⟨hpos, hle⟩ := clampAddrlen_bounds b.toNat
    have hlen := Arch.lt_long_max .x86_64 (by omega : clampAddrlen b.toNat < 2 ^ 31)
    have haddr : @setupAddr .x86_64 .i386 x' = @setupAddr .x86_64 .i386 x :=
      BitVec.eq_of_toNat_eq (hx'.toNat_setupAddr.trans hx.toNat_setupAddr.symm)
    obtain ⟨st, -, hread⟩ := pinkReadVmDataFull_attached hK fuel .i386 x
      (copy sockaddr.u 0 (fun _ => 0) sizeofSockaddrU) s hpos hlen
    obtain ⟨st', -, hread'⟩ := pinkReadVmDataFull_attached hK fuel .i386 x'
      (copy sockaddr.u 0 (fun _ => 0) sizeofSockaddrU) s' hpos hlen
    rw [haddr, hmem] at hread'
    simp only [hread, hread', Option.bind_eq_bind, Option.bind_some]
    split
    · exact ⟨_, _, rfl, rfl, rfl, rfl, rfl⟩
    · exact ⟨_, _, rfl, rfl, rfl, rfl, rfl⟩

/-- The middle of it. Both arguments have to be among the six, which is why the index stops at
    four. -/
theorem readSockaddrArgs_alike (hK : Attached K) {regset regset' : CallRegs .x86_64}
    {decode decode' : Bool} {a : Fin pinkMaxArgs → BitVec 32} {s s' : State .x86_64}
    (hd : Delivers K fuel regset decode a s.mem) (hd' : Delivers K fuel regset' decode' a s.mem)
    (habi : regset.abi = .i386) (habi' : regset'.abi = .i386) {argIndex : Nat}
    (hi : argIndex < 5) (fd : Option (BitVec 32)) (sockaddr : PinkSockaddr)
    (hmem : s'.mem = s.mem) :
    Alike (readSockaddrArgs fuel K regset decode argIndex fd sockaddr s)
      (readSockaddrArgs fuel K regset' decode' argIndex fd sockaddr s') := by
  have hi₀ : argIndex < pinkMaxArgs := Nat.lt_succ_of_lt hi
  have hi₁ : argIndex + 1 < pinkMaxArgs := Nat.succ_lt_succ hi
  obtain ⟨x, st, hx, hst, hread⟩ := hd ⟨argIndex, hi₀⟩ s rfl
  obtain ⟨x', st', hx', hst', hread'⟩ := hd' ⟨argIndex, hi₀⟩ s' hmem
  obtain ⟨y, st₁, hy, hst₁, hlen⟩ := hd ⟨argIndex + 1, hi₁⟩ st hst
  obtain ⟨y', st₁', hy', hst₁', hlen'⟩ := hd' ⟨argIndex + 1, hi₁⟩ st' hst'
  have hnext : (argIndex + 1) % 2 ^ 32 = argIndex + 1 := Nat.mod_eq_of_lt (by omega)
  simp only [readSockaddrArgs, hread, hread', hnext, hlen, hlen', habi, habi',
    Option.bind_eq_bind, Option.bind_some, Int.lt_irrefl, if_false]
  exact readSockaddr_alike hK hx hx' hy hy' fd sockaddr (hst₁'.trans hst₁.symm)

theorem pinkReadSocketAddress_alike (hK : Attached K) {regset regset' : CallRegs .x86_64}
    {decode decode' : Bool} {a : Fin pinkMaxArgs → BitVec 32} {s : State .x86_64}
    (hd : Delivers K fuel regset decode a s.mem) (hd' : Delivers K fuel regset' decode' a s.mem)
    (habi : regset.abi = .i386) (habi' : regset'.abi = .i386) {argIndex : Nat}
    (hi : argIndex < 5) (fd : Option (BitVec 32)) (sockaddr : PinkSockaddr) :
    Alike (pinkReadSocketAddress fuel K regset decode argIndex fd sockaddr s)
      (pinkReadSocketAddress fuel K regset' decode' argIndex fd sockaddr s) := by
  cases fd with
  | none => exact readSockaddrArgs_alike hK hd hd' habi habi' hi none sockaddr rfl
  | some old =>
    obtain ⟨x, st, hx, hst, hread⟩ := hd 0 s rfl
    obtain ⟨x', st', hx', hst', hread'⟩ := hd' 0 s rfl
    change pinkReadSocketArgument fuel K regset decode 0 0 s = _ at hread
    change pinkReadSocketArgument fuel K regset' decode' 0 0 s = _ at hread'
    simp only [pinkReadSocketAddress, hread, hread', Option.bind_eq_bind, Option.bind_some,
      Int.lt_irrefl, if_false, hx.setWidth_eq, hx'.setWidth_eq]
    rw [← hst] at hd hd'
    exact readSockaddrArgs_alike hK hd hd' habi habi' hi _ sockaddr (hst'.trans hst.symm)

/-! ## The two ways -/

/-- An argument in a register is widened with its sign. -/
theorem pinkReadSocketArgument_register {rs : X86Regset} (habi : rs.abi = .i386)
    (i : Fin pinkMaxArgs) (argval : Addr .x86_64) (s : State .x86_64) :
    pinkReadSocketArgument fuel K rs.callRegs false i argval s =
      some ⟨0, (rs.i386R (readArgI386 i)).signExtend 64, s⟩ := by
  have harg : pinkReadArgument rs i = .ok ((rs.i386R (readArgI386 i)).signExtend 64) := by
    rw [pinkReadArgument, dif_pos i.isLt, habi]
  simp [pinkReadSocketArgument, X86Regset.callRegs, harg]

/-- The registers of a call that passes six words directly. The upper halves are not there to be
    looked at: an i386 regset has 32-bit fields. -/
structure HoldsWords (rs : X86Regset) (a : Fin pinkMaxArgs → BitVec 32) : Prop where
  abi : rs.abi = .i386
  words : ∀ i, rs.i386R (readArgI386 i) = a i

theorem HoldsWords.delivers {rs : X86Regset} {a : Fin pinkMaxArgs → BitVec 32}
    (h : HoldsWords rs a) (mem : Memory Arch.x86_64.longBits) :
    Delivers K fuel rs.callRegs false a mem := by
  intro i s hs
  refine ⟨(a i).signExtend 64, s, widens_signExtend (a i), hs, ?_⟩
  rw [pinkReadSocketArgument_register h.abi, h.words]

/-- Where element `i` of an array of 32-bit words at `p` lies in a 32-bit address space. It wraps,
    as an array at the end of that space does. -/
def wordElement (p : BitVec 32) (i : Nat) : Addr .x86_64 :=
  BitVec.ofNat 64 ((p.toNat + 4 * i) % 2 ^ 32)

/-- The registers of a multiplexed call: the second argument points to six readable words. -/
structure PointsToWords (K : Kernel .x86_64) (mem : Memory Arch.x86_64.longBits) (rs : X86Regset)
    (a : Fin pinkMaxArgs → BitVec 32) : Prop where
  abi : rs.abi = .i386
  readable : ∀ (i : Fin pinkMaxArgs) j, j < 4 →
    K.readable (ahead (wordElement (rs.i386R .ecx) i) j) = true
  words : ∀ i : Fin pinkMaxArgs,
    leLoad (mem.from (wordElement (rs.i386R .ecx) i)) 0 4 = (a i).toNat

/-- The address of an element, as `pink_read_socket_argument` computes it from the sign-extended
    pointer and `setup_addr` cuts it down. -/
theorem setupAddr_element (p : BitVec 32) (i : Nat) :
    @setupAddr .x86_64 .i386 (p.signExtend 64 + BitVec.ofNat 64 (i * 4)) = wordElement p i := by
  have hadd : (p.signExtend 64 + BitVec.ofNat 64 (i * 4)).toNat =
      ((p.signExtend 64).toNat + i * 4 % 2 ^ 64) % 2 ^ 64 := by
    rw [BitVec.toNat_add, BitVec.toNat_ofNat]
  have hmask : (@setupAddr .x86_64 .i386 (p.signExtend 64 + BitVec.ofNat 64 (i * 4))).toNat =
      (p.signExtend 64 + BitVec.ofNat 64 (i * 4)).toNat % 2 ^ 32 :=
    toNat_and_mask (e := 32) _ (by decide)
  have helem : (wordElement p i).toNat = (p.toNat + 4 * i) % 2 ^ 32 % 2 ^ 64 :=
    BitVec.toNat_ofNat ..
  have hp : (p.signExtend 64).toNat = p.toNat ∨
      (2 ^ 31 ≤ p.toNat ∧ (p.signExtend 64).toNat = p.toNat + (2 ^ 64 - 2 ^ 32)) :=
    widens_signExtend p
  apply BitVec.eq_of_toNat_eq
  rw [hmask, hadd, helem]
  omega

/-- The second argument points to an array whose element `i` can be read, and is `a`. -/
structure PointsToWord (K : Kernel .x86_64) (mem : Memory Arch.x86_64.longBits) (rs : X86Regset)
    (i : Nat) (a : BitVec 32) : Prop where
  abi : rs.abi = .i386
  readable : ∀ j, j < 4 → K.readable (ahead (wordElement (rs.i386R .ecx) i) j) = true
  word : leLoad (mem.from (wordElement (rs.i386R .ecx) i)) 0 4 = a.toNat

/-- An argument in the array is widened with zeros. One element is enough; nothing is asked of the
    others. -/
theorem PointsToWord.read (hK : Attached K) {rs : X86Regset} {i : Nat} {a : BitVec 32}
    {s : State .x86_64} (h : PointsToWord K s.mem rs i a) (argval : Addr .x86_64) :
    ∃ st, st.mem = s.mem ∧ pinkReadSocketArgument fuel K rs.callRegs true i argval s =
      some ⟨0, BitVec.ofNat 64 a.toNat, st⟩ := by
  have harg : pinkReadArgument rs 1 = .ok ((rs.i386R .ecx).signExtend 64) := by
    rw [pinkReadArgument, dif_pos (by decide), h.abi]
    rfl
  have hall : reach K.readable (wordElement (rs.i386R .ecx) i) 4 = 4 :=
    leading_eq_of_forall h.readable
  obtain ⟨st, hst, hread⟩ := pinkReadVmDataFull_attached hK fuel .i386
    ((rs.i386R .ecx).signExtend 64 + BitVec.ofNat 64 (i * 4)) (fun _ => 0) s
    (by decide : 0 < 4) (by decide)
  rw [setupAddr_element, hall] at hread
  refine ⟨st, hst, ?_⟩
  -- four bytes were asked for, so nothing of the next element is in the value
  have hload : leLoad (copy (fun _ => 0) 0 (s.mem.from (wordElement (rs.i386R .ecx) i)) 4) 0 4 =
      a.toNat := by
    rw [leLoad_copy (Nat.le_refl 0) (Nat.le_refl 4), Nat.sub_zero, h.word]
  have hobject : readUnsigned fuel K .i386
      ((rs.i386R .ecx).signExtend 64 + BitVec.ofNat 64 (i * 4)) 4 argval s =
        some ⟨0, BitVec.ofNat 64 a.toNat, st⟩ := by
    unfold readUnsigned
    rw [hread]
    exact congrArg (fun v => some (⟨0, BitVec.ofNat 64 v, st⟩ : ArgRet .x86_64)) hload
  simp only [pinkReadSocketArgument, X86Regset.callRegs, harg, h.abi]
  exact hobject

theorem PointsToWords.delivers (hK : Attached K) {mem : Memory Arch.x86_64.longBits}
    {rs : X86Regset} {a : Fin pinkMaxArgs → BitVec 32} (h : PointsToWords K mem rs a) :
    Delivers K fuel rs.callRegs true a mem := by
  rintro i s rfl
  have hword : PointsToWord K s.mem rs i (a i) := ⟨h.abi, h.readable i, h.words i⟩
  obtain ⟨st, hst, hread⟩ := hword.read hK 0
  exact ⟨BitVec.ofNat 64 (a i).toNat, st, widens_ofNat (a i), hst, hread⟩

/-- **Direct and multiplexed socket calls decode alike.** The two regsets have nothing in common
    but that one holds, and the other points to, the same six words. The index is that of the
    address; its length is the next argument, so there are five. -/
theorem socket_calls_decode_alike (hK : Attached K) (a : Fin pinkMaxArgs → BitVec 32)
    (direct multiplexed : X86Regset) (s : State .x86_64) (hd : HoldsWords direct a)
    (hm : PointsToWords K s.mem multiplexed a) {argIndex : Nat} (hi : argIndex < 5)
    (fd : Option (BitVec 32)) (sockaddr : PinkSockaddr) :
    ∃ r r', pinkReadSocketAddress fuel K direct.callRegs false argIndex fd sockaddr s = some r ∧
      pinkReadSocketAddress fuel K multiplexed.callRegs true argIndex fd sockaddr s = some r' ∧
      r.ret = r'.ret ∧ r.fd = r'.fd ∧ r.sockaddr = r'.sockaddr :=
  pinkReadSocketAddress_alike hK (hd.delivers s.mem) (hm.delivers hK) hd.abi hm.abi hi fd sockaddr

end

/-! A `bind` of descriptor 3 to 16 bytes at `0x90001000`, by registers and by an array at
`0x80002000`: both pointers have their top bit set. -/

def bindWord : Nat → Nat
  | 0 => 3
  | 1 => 0x90001000
  | 2 => 16
  | _ => 0

def directBind : X86Regset := ⟨leArray 4 bindWord, sizeofI386Regs, .i386⟩

def multiplexedBind : X86Regset := ⟨leArray 4 fun _ => 0x80002000, sizeofI386Regs, .i386⟩

def bindArray : State .x86_64 where
  mem x := leArray 4 bindWord (x.toNat - 0x80002000)
  errno := none
  log := []

theorem bind_decodes_alike :
    HoldsWords directBind (fun i => BitVec.ofNat 32 (bindWord i)) ∧
    PointsToWords ((allMapped .x86_64).kernel .available .available) bindArray.mem
      multiplexedBind (fun i => BitVec.ofNat 32 (bindWord i)) ∧
    ∃ r r', pinkReadSocketAddress 0 ((allMapped .x86_64).kernel .available .available)
        directBind.callRegs false 1 (some 0) ⟨0, 0, fun _ => 0⟩ bindArray = some r ∧
      pinkReadSocketAddress 0 ((allMapped .x86_64).kernel .available .available)
        multiplexedBind.callRegs true 1 (some 0) ⟨0, 0, fun _ => 0⟩ bindArray = some r' ∧
      r.ret = r'.ret ∧ r.fd = r'.fd ∧ r.sockaddr = r'.sockaddr := by
  have hd : HoldsWords directBind (fun i => BitVec.ofNat 32 (bindWord i)) :=
    ⟨rfl, by decide +kernel⟩
  have hm : PointsToWords ((allMapped .x86_64).kernel .available .available) bindArray.mem
      multiplexedBind (fun i => BitVec.ofNat 32 (bindWord i)) :=
    ⟨rfl, fun _ _ _ => rfl, by decide +kernel⟩
  exact ⟨hd, hm, socket_calls_decode_alike ((allMapped .x86_64).attached .available) _ directBind
    multiplexedBind bindArray hd hm (by decide) (some 0) ⟨0, 0, fun _ => 0⟩⟩

/-! ## One argument

The decoder does not look past `Widens`, but `pink_read_socket_argument` can also be called by
itself, and then the extension shows. -/

/-- An argument has one value, whichever way it was passed. -/
def SameArgument (fuel : Nat) (K : Kernel .x86_64) (direct multiplexed : X86Regset)
    (argIndex : Nat) (argval : Addr .x86_64) (s : State .x86_64) : Prop :=
  ∃ r r', pinkReadSocketArgument fuel K direct.callRegs false argIndex argval s = some r ∧
    pinkReadSocketArgument fuel K multiplexed.callRegs true argIndex argval s = some r' ∧
    r.ret = 0 ∧ r'.ret = 0 ∧ r.argval = r'.argval

theorem signExtend_eq_ofNat_iff (a : BitVec 32) :
    a.signExtend 64 = BitVec.ofNat 64 a.toNat ↔ a.toNat < 2 ^ 31 := by
  have hzeros : (BitVec.ofNat 64 a.toNat).toNat = a.toNat := by
    rw [BitVec.toNat_ofNat, Nat.mod_eq_of_lt (Nat.lt_trans a.isLt (by decide))]
  rw [BitVec.toNat_eq, hzeros, BitVec.toNat_signExtend, BitVec.toNat_setWidth_of_le (by decide),
    BitVec.msb_eq_decide]
  split
  · rename_i hneg
    have hneg := of_decide_eq_true hneg
    omega
  · rename_i hpos
    have hpos : ¬ 2 ^ 31 ≤ a.toNat := fun h => hpos (decide_eq_true h)
    omega

/-- **An argument has one value exactly if it is no negative `int`.** For pointers that is the
    lower half of the address space. The register is widened with its sign and the word in memory
    without it, so a sign is all that can tell the two. -/
theorem sameArgument_iff {K : Kernel .x86_64} {fuel : Nat} (hK : Attached K)
    (direct multiplexed : X86Regset) (i : Fin pinkMaxArgs) (a : BitVec 32)
    (argval : Addr .x86_64) (s : State .x86_64) (habi : direct.abi = .i386)
    (hreg : direct.i386R (readArgI386 i) = a) (hm : PointsToWord K s.mem multiplexed i a) :
    SameArgument fuel K direct multiplexed i argval s ↔ a.toNat < 2 ^ 31 := by
  have hdirect : pinkReadSocketArgument fuel K direct.callRegs false i argval s =
      some ⟨0, a.signExtend 64, s⟩ := by
    rw [pinkReadSocketArgument_register habi, hreg]
  obtain ⟨st, -, helement⟩ := @PointsToWord.read K fuel hK multiplexed i a s hm argval
  rw [← signExtend_eq_ofNat_iff]
  constructor
  · rintro ⟨r, r', hr, hr', -, -, hsame⟩
    rw [hdirect] at hr
    rw [helement] at hr'
    obtain rfl := Option.some.inj hr
    obtain rfl := Option.some.inj hr'
    exact hsame
  · intro hsame
    exact ⟨_, _, hdirect, helement, rfl, rfl, hsame⟩

/-- The address of the `bind` above, `0x90001000`. -/
theorem bind_address_differs :
    (pinkReadSocketArgument 0 ((allMapped .x86_64).kernel .available .available)
      directBind.callRegs false 1 0 bindArray).map ArgRet.argval = some 0xffffffff90001000 ∧
    (pinkReadSocketArgument 0 ((allMapped .x86_64).kernel .available .available)
      multiplexedBind.callRegs true 1 0 bindArray).map ArgRet.argval = some 0x90001000 ∧
    ¬ SameArgument 0 ((allMapped .x86_64).kernel .available .available) directBind
      multiplexedBind 1 0 bindArray := by
  have hdirect : (pinkReadSocketArgument 0 ((allMapped .x86_64).kernel .available .available)
      directBind.callRegs false 1 0 bindArray).map ArgRet.argval = some 0xffffffff90001000 := by
    decide +kernel
  have helement : (pinkReadSocketArgument 0 ((allMapped .x86_64).kernel .available .available)
      multiplexedBind.callRegs true 1 0 bindArray).map ArgRet.argval = some 0x90001000 := by
    decide +kernel
  refine ⟨hdirect, helement, ?_⟩
  rintro ⟨r, r', hr, hr', -, -, hsame⟩
  rw [hr] at hdirect
  rw [hr'] at helement
  have hvalues := (Option.some.inj hdirect).symm.trans (hsame.trans (Option.some.inj helement))
  exact absurd hvalues (by decide)

/-- Its descriptor, `3`, is the same. -/
theorem bind_descriptor_same :
    SameArgument 0 ((allMapped .x86_64).kernel .available .available) directBind
      multiplexedBind 0 0 bindArray :=
  (sameArgument_iff ((allMapped .x86_64).attached .available) directBind multiplexedBind 0 3 0
    bindArray rfl (by decide +kernel) ⟨rfl, fun _ _ => rfl, by decide +kernel⟩).mpr (by decide)

end PinkTrace
