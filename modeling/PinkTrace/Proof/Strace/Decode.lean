import Mathlib.Data.List.Find
import PinkTrace.Child
import PinkTrace.Proof.Regset.Readings
import PinkTrace.Proof.Retval
import PinkTrace.Proof.SocketAddress
import PinkTrace.Proof.Vm.Returns

/-!
# What the tracer prints at a stop

The registers that the decoders work on are a regset just filled, so what is printed can be told
from the child. A result is printed as the number it is, and one that is an error also as the text
the C library has for it, the *negative* number. Of the arguments of `open` nothing is ever
printed, and nothing of those of `execve` as long as there is nothing at address zero, where the
decoder looks for the path. An address is printed as it is in the child's memory.

## The premise of everything here

`Shows regs abi file` says that the regset was filled from registers `file` under `abi`, and what
follows is in terms of those two. A decoder is thereby a function of the child and not of the
tracer. What it would print out of an uninitialised variable depends on `Junk`, and none of the
texts below does: where it could matter, in `decode_open`, nothing is printed.

The results about addresses come in threes: no address, one of which a byte is missing, one that
is all there. These are the three outcomes of `pink_read_socket_address` for a kernel that
transfers what it can reach.
-/

set_option autoImplicit false

namespace PinkTrace

open Lib

variable {fuel : Nat} {K : Kernel .x86_64} {junk : Junk} {regs : X86Regset} {abi : Abi .x86_64}
  {file : X86Reg → BitVec 64}

/-! ## Results -/

/-- The result of a call as a `long`. -/
def resultVal (abi : Abi .x86_64) (file : X86Reg → BitVec 64) : Addr .x86_64 :=
  asLong abi (file .rax)

/-- The text for a result. The number is read in the width of the ABI, as `pink_read_retval` reads
    it, and a value that only looks like an error in 32 bits is printed as one under x32. -/
def resultText (abi : Abi .x86_64) (val : Addr .x86_64) : List Out :=
  let n := signedRetval val abi
  if -(nerrnos abi : Int) < n ∧ n < 0 then
    [.text ("= " ++ toString n ++ " ("), .strerror n, .text ")"]
  else [.text ("= " ++ toString val.toInt)]

/-- Negated twice, within the bounds of an `int`. -/
theorem toInt_neg_error {n : Int} {err : BitVec 32} (herr : err.toInt = -n) (hn : -531 < n)
    (hneg : n < 0) : (-err).toInt = n := by
  rw [BitVec.toInt_neg, herr, Int.neg_neg]
  exact Int.bmod_eq_of_le (by omega) (by omega)

/-- What `print_ret` prints, by the child's register. -/
theorem printRet_eq (h : Shows regs abi file) :
    printRet regs = resultText abi (resultVal abi file) := by
  have hclass := classifyRetval_classified (resultVal abi file) abi
  have hread : pinkReadRetval regs = classifyRetval (resultVal abi file) abi :=
    h.readRetval
  have hnum : nerrnos abi = 531 := nerrnos_eq abi
  rw [← hread] at hclass
  unfold printRet resultText
  dsimp only
  by_cases herr : (pinkReadRetval regs).2 = 0
  · rw [if_neg (fun hne => hne herr), hclass.value herr,
      if_neg fun hwindow => absurd herr (hclass.reported.mpr (by omega))]
    rfl
  · have hwindow := hclass.reported.mp herr
    rw [if_pos herr, toInt_neg_error (hclass.error herr).2.1 (by omega) (by omega),
      if_pos (by omega)]

/-! ## Decoders that print nothing -/

theorem pathMax_lt : pathMax < 2 ^ 31 := by decide

theorem readArgument_ok (h : Shows regs abi file) {i : Nat} (hi : i < pinkMaxArgs) :
    pinkReadArgument regs i = .ok (asLong abi (file (argReg abi ⟨i, hi⟩))) := by
  rw [h.readArgument, argumentOf, dif_pos hi]

/-- All that comes of an `open` is a message. Reading the second argument succeeds, and that is
    what the decoder takes for a failure. -/
theorem decodeOpen_silent (h : Shows regs abi file) (K : Kernel .x86_64) (junk : Junk)
    (s : State .x86_64) (hf : pathMax < fuel) :
    ∃ what n st, decodeOpen fuel K junk regs s = some ([.perror what n], st) := by
  obtain ⟨r, hr⟩ := pinkReadVmDataNul_returns K regs.abi
    (asLong abi (file (argReg abi ⟨0, by decide⟩))) junk.buf s (by decide) pathMax_lt hf
  rw [decodeOpen, readArgument_ok h (by decide), readArgument_ok h (by decide)]
  simp only [hr, Option.bind_eq_bind, Option.bind_some]
  split
  · exact ⟨_, _, _, rfl⟩
  · exact ⟨_, _, _, rfl⟩

/-- There is nothing at address zero, as far as a tracer can tell: by either path, since the
    fallback may be taken. -/
structure ZeroUnreadable (K : Kernel .x86_64) : Prop where
  attach : K.readable 0 = false
  peek : K.peekErr 0 ≠ none

/-- All that comes of an `execve` is a message, for a child with nothing at address zero. -/
theorem decodeExecve_silent (h : Shows regs abi file) (hzero : ZeroUnreadable K) (junk : Junk)
    (s : State .x86_64) (hf : pathMax < fuel) :
    ∃ what n st, decodeExecve fuel K junk regs s = some ([.perror what n], st) := by
  have hsetup : @setupAddr .x86_64 regs.abi 0 = 0 := by
    cases regs.abi <;> rfl
  have hbase : @wordBase .x86_64 0 = 0 := rfl
  obtain ⟨r, hr, hret⟩ := pinkReadVmDataNul_unreadable (K := K) regs.abi 0
    (by rw [hsetup]; exact hzero.attach) (by rw [hbase]; exact hzero.peek) junk.buf s (by decide)
    pathMax_lt hf
  rw [decodeExecve, readArgument_ok h (by decide)]
  simp only [hr, Option.bind_eq_bind, Option.bind_some, hret]
  exact ⟨_, _, _, rfl⟩

/-! ## Addresses -/

/-- The argument registers of a child as `long`s. -/
def argVal (abi : Abi .x86_64) (file : X86Reg → BitVec 64) (i : Fin pinkMaxArgs) : Addr .x86_64 :=
  asLong abi (file (argReg abi i))

/-- An address of `len` bytes in the child's memory: what a tracer keeps of it. -/
def addressBytes (mem : Memory Arch.x86_64.longBits) (abi : Abi .x86_64) (addr : Addr .x86_64)
    (len : Nat) : Bytes :=
  fun i => if i < min len 127 then mem (ahead (setupAddr abi addr) i) else 0

theorem cString_congr {b b' : Bytes} {n : Nat} (h : ∀ i, i < n → b i = b' i) :
    cString b n = cString b' n := by
  have hscan : memchrNul b n = memchrNul b' n := by
    unfold memchrNul
    refine List.find?_congr fun i hi => ?_
    rw [h i (List.mem_range.mp hi)]
  rw [cString, cString, hscan]
  cases hk : memchrNul b' n with
  | none => rfl
  | some k =>
    have hlt := (memchrNul_some hk).2.1
    refine congrArg some (List.map_congr_left fun i hi => h i ?_)
    have := List.mem_range.mp hi
    omega

/-- Nothing behind the union is printed. So the buffer may be replaced by any that agrees with it
    on 128 bytes. -/
theorem printSockaddr_congr {family : Int} {length : Nat} {u u' : Bytes}
    (h : ∀ i, i < sizeofSockaddrU → u i = u' i) :
    printSockaddr ⟨family, length, u⟩ = printSockaddr ⟨family, length, u'⟩ := by
  have hload : ∀ off, off + 4 ≤ sizeofSockaddrU → leLoad u off 4 = leLoad u' off 4 :=
    fun off hoff => leLoad_congr fun j hj => h _ (by omega)
  have hrange : ∀ off n, off + n ≤ sizeofSockaddrU →
      (List.range n).map (fun i => u (off + i)) = (List.range n).map fun i => u' (off + i) :=
    fun off n hoff => List.map_congr_left fun i hi => h _ (by
      have := List.mem_range.mp hi
      omega)
  have hstring : ∀ off, cString (fun i => u (off + i)) (sizeofSockaddrU - off) =
      cString (fun i => u' (off + i)) (sizeofSockaddrU - off) :=
    fun off => cString_congr fun i hi => h _ (by omega)
  simp only [printSockaddr, h 2 (by decide), h 3 (by decide), hload 4 (by decide),
    hload 8 (by decide), hrange 4 4 (by decide), hrange 8 16 (by decide), hstring 2, hstring 3]

/-- The buffer of the call, as a function of the child's memory alone: what was in it before is
    gone. -/
theorem sockaddrBuffer_eq (old : Bytes) (mem : Memory Arch.x86_64.longBits) (abi : Abi .x86_64)
    (addr : Addr .x86_64) {L : Nat} (i : Nat) (hi : i < sizeofSockaddrU) :
    sockaddrBuffer old (mem.from (setupAddr abi addr)) L i = addressBytes mem abi addr L i := by
  have hi : i < 128 := hi
  unfold addressBytes
  split
  · rename_i hlt
    rw [sockaddrBuffer_of_lt hlt]
    rfl
  · by_cases hlast : i = 127
    · rw [hlast, sockaddrBuffer_last]
    · exact sockaddrBuffer_rest (by omega) hi

/-- The arguments of a call that is not multiplexed come out of the registers. -/
theorem readSocketAddress_registers (h : Shows regs abi file) (fd : BitVec 32)
    (sockaddr : PinkSockaddr) (s : State .x86_64) :
    pinkReadSocketAddress fuel K regs.callRegs false 1 (some fd) sockaddr s =
      readSockaddr fuel K abi (argVal abi file 1) (argVal abi file 2)
        (some ((argVal abi file 0).setWidth 32)) sockaddr s := by
  have harg : ∀ (i : Fin pinkMaxArgs), pinkReadSocketArgument fuel K regs.callRegs false i 0 s =
      some ⟨0, argVal abi file i, s⟩ := by
    intro i
    have hread : regs.callRegs.pinkReadArgument i = .ok (argVal abi file i) :=
      readArgument_ok h i.isLt
    simp [pinkReadSocketArgument, hread]
  have hreads : ReadsArguments fuel K regs.callRegs false 1 (some fd) s
      (some ((argVal abi file 0).setWidth 32)) (argVal abi file 1) (argVal abi file 2) s :=
    ⟨s, s, ⟨_, harg 0, rfl⟩, harg 1, harg 2⟩
  rw [hreads.run (by decide), ← h.detected]
  rfl

/-- No address, and nothing of the tracee is read. -/
theorem readSocketAddress_null (h : Shows regs abi file) (hnull : argVal abi file 1 = 0)
    (fd : BitVec 32) (sockaddr : PinkSockaddr) (s : State .x86_64) :
    pinkReadSocketAddress fuel K regs.callRegs false 1 (some fd) sockaddr s =
      some ⟨0, some ((argVal abi file 0).setWidth 32),
        { sockaddr with family := -1, length := 0 }, s⟩ := by
  rw [readSocketAddress_registers h]
  exact if_pos hnull

/-- What is read of an address that is there. -/
theorem readSocketAddress_success (h : Shows regs abi file) (haddr : argVal abi file 1 ≠ 0)
    (hK : Attached K) {len : Nat} (hlen : len = addressLength (argVal abi file 2).toNat)
    (hr : ∀ i, i < len → K.readable (ahead (setupAddr abi (argVal abi file 1)) i) = true)
    (fuel : Nat) (fd : BitVec 32) (sockaddr : PinkSockaddr) (s : State .x86_64) :
    let u := sockaddrBuffer sockaddr.u (s.mem.from (setupAddr abi (argVal abi file 1))) len
    ∃ st, pinkReadSocketAddress fuel K regs.callRegs false 1 (some fd) sockaddr s =
      some ⟨0, some ((argVal abi file 0).setWidth 32), ⟨loadUnsigned .x86_64 u 2, len, u⟩, st⟩ := by
  have hbounds := addressLength_bounds (argVal abi file 2).toNat
  obtain ⟨st, -, hfull⟩ := pinkReadVmDataFull_attached hK fuel abi (argVal abi file 1)
    (copy sockaddr.u 0 (fun _ => 0) sizeofSockaddrU) s (by omega : 0 < len)
    (Arch.lt_long_max .x86_64 (by omega))
  have hreach : reach K.readable (setupAddr abi (argVal abi file 1)) len = len :=
    leading_eq_of_forall hr
  rw [hreach, if_pos rfl] at hfull
  refine ⟨st, ?_⟩
  rw [readSocketAddress_registers h]
  refine (if_neg haddr).trans ?_
  rw [clampAddrlen_eq_addressLength, ← hlen]
  simp only [hfull, Option.bind_eq_bind, Option.bind_some]
  rfl

/-- An address of which a byte is missing is an error, and none of it is used. The byte may be any
    of those the length asks for. -/
theorem readSocketAddress_unreadable (h : Shows regs abi file) (haddr : argVal abi file 1 ≠ 0)
    (hK : Attached K) {i : Nat} (hi : i < addressLength (argVal abi file 2).toNat)
    (hr : K.readable (ahead (setupAddr abi (argVal abi file 1)) i) = false) (fuel : Nat)
    (fd : BitVec 32) (sockaddr : PinkSockaddr) (s : State .x86_64) :
    ∃ r, pinkReadSocketAddress fuel K regs.callRegs false 1 (some fd) sockaddr s = some r ∧
      r.ret < 0 := by
  have hbounds := addressLength_bounds (argVal abi file 2).toNat
  obtain ⟨st, -, hpart⟩ := pinkReadVmDataFull_attached hK fuel abi (argVal abi file 1)
    (copy sockaddr.u 0 (fun _ => 0) sizeofSockaddrU) s
    (by omega : 0 < addressLength (argVal abi file 2).toNat)
    (Arch.lt_long_max .x86_64 (by omega))
  have hshort : reach K.readable (setupAddr abi (argVal abi file 1))
      (addressLength (argVal abi file 2).toNat) ≠ addressLength (argVal abi file 2).toNat := by
    intro hall
    have htrue := leading_holds (Nat.lt_of_lt_of_eq hi hall.symm)
    rw [hr] at htrue
    cases htrue
  rw [if_neg hshort] at hpart
  rw [readSocketAddress_registers h, readSockaddr, if_neg haddr, clampAddrlen_eq_addressLength]
  simp only [hpart, Option.bind_eq_bind, Option.bind_some]
  have hneg : -(Errno.efault.code : Int) < 0 := by decide
  exact ⟨_, if_pos hneg, hneg⟩

theorem decodeSocketcall_direct {scname : String} (hname : scname ≠ "socketcall")
    (s : State .x86_64) :
    decodeSocketcall fuel K junk regs scname s = decodeAddress fuel K junk regs scname (-1) s := by
  rw [decodeSocketcall, if_neg hname]
  rfl

theorem decodeAddress_eq {scname : String} {subcall : BitVec 64} {s st : State .x86_64}
    {fd : BitVec 32} {sockaddr : PinkSockaddr} {text : List Out}
    (hread : pinkReadSocketAddress fuel K regs.callRegs false 1 (some junk.fd) junk.sockaddr s =
      some ⟨0, some fd, sockaddr, st⟩)
    (hsub : subcall.toInt ≤ 0) (htext : printSockaddr sockaddr = some text) :
    decodeAddress fuel K junk regs scname subcall s =
      some ([.text (scname ++ "(" ++ toString fd.toInt ++ ", ")] ++ text ++
        [.text (", " ++ toString sockaddr.length ++ ")")], st) := by
  simp only [decodeAddress, hread, Option.bind_eq_bind, Option.bind_some, htext]
  rw [if_neg (by decide), if_neg (by omega)]

theorem negOne_nonpos : (-1 : BitVec 64).toInt ≤ 0 := by decide

/-- The text for the arguments of a call with this address. The length is the clamped one. -/
def addressText (scname : String) (fd : Addr .x86_64) (text : List Out) (len : Nat) : List Out :=
  [.text (scname ++ "(" ++ toString (fd.setWidth 32).toInt ++ ", ")] ++ text ++
    [.text (", " ++ toString len ++ ")")]

/-- What is printed of a `bind` or a `connect` without an address… -/
theorem decodeSocketcall_null (h : Shows regs abi file) {scname : String}
    (hname : scname ≠ "socketcall") (hnull : argVal abi file 1 = 0) (junk : Junk)
    (s : State .x86_64) :
    decodeSocketcall fuel K junk regs scname s =
      some (addressText scname (argVal abi file 0) [.text "NULL"] 0, s) := by
  have hread := @readSocketAddress_null fuel K _ _ _ h hnull junk.fd junk.sockaddr s
  have htext : printSockaddr { junk.sockaddr with family := -1, length := 0 } =
      some [.text "NULL"] := by
    rw [printSockaddr, if_pos rfl]
  rw [decodeSocketcall_direct hname, decodeAddress_eq hread negOne_nonpos htext]
  rfl

/-- …with one of which a byte cannot be read… -/
theorem decodeSocketcall_unreadable (h : Shows regs abi file) {scname : String}
    (hname : scname ≠ "socketcall") (haddr : argVal abi file 1 ≠ 0) (hK : Attached K) {i : Nat}
    (hi : i < addressLength (argVal abi file 2).toNat)
    (hr : K.readable (ahead (setupAddr abi (argVal abi file 1)) i) = false) (junk : Junk)
    (s : State .x86_64) :
    ∃ what n st, decodeSocketcall fuel K junk regs scname s = some ([.perror what n], st) := by
  obtain ⟨r, hread, hneg⟩ :=
    readSocketAddress_unreadable h haddr hK hi hr fuel junk.fd junk.sockaddr s
  rw [decodeSocketcall_direct hname]
  simp only [decodeAddress, hread, Option.bind_eq_bind, Option.bind_some, if_pos hneg]
  exact ⟨_, _, _, rfl⟩

/-- …and with one that can. -/
theorem decodeSocketcall_address (h : Shows regs abi file) {scname : String}
    (hname : scname ≠ "socketcall") (haddr : argVal abi file 1 ≠ 0) (hK : Attached K)
    (s : State .x86_64) {text : List Out} {len : Nat}
    (hlen : len = addressLength (argVal abi file 2).toNat)
    (hr : ∀ i, i < len → K.readable (ahead (setupAddr abi (argVal abi file 1)) i) = true)
    (htext :
      let u := addressBytes s.mem abi (argVal abi file 1) len
      printSockaddr ⟨leLoad u 0 2, len, u⟩ = some text) (junk : Junk) :
    ∃ st, decodeSocketcall fuel K junk regs scname s =
      some (addressText scname (argVal abi file 0) text len, st) := by
  let u := sockaddrBuffer junk.sockaddr.u (s.mem.from (setupAddr abi (argVal abi file 1))) len
  obtain ⟨st, hread⟩ :=
    readSocketAddress_success h haddr hK hlen hr fuel junk.fd junk.sockaddr s
  have hu : ∀ i, i < sizeofSockaddrU → u i = addressBytes s.mem abi (argVal abi file 1) len i :=
    sockaddrBuffer_eq junk.sockaddr.u s.mem abi (argVal abi file 1)
  have hfamily : loadUnsigned .x86_64 u 2 =
      leLoad (addressBytes s.mem abi (argVal abi file 1) len) 0 2 :=
    leLoad_congr fun j hj => hu _ (Nat.lt_trans (by omega : 0 + j < 2) (by decide))
  refine ⟨st, ?_⟩
  rw [decodeSocketcall_direct hname, decodeAddress_eq hread negOne_nonpos
    (by rw [printSockaddr_congr hu, hfamily]; exact htext)]
  rfl

end PinkTrace
