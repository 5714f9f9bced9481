import PinkTrace.Proof.Vm.Exact
import PinkTrace.Proof.Vm.WordStrings
import PinkTrace.Read

/-!
# Arrays of strings, one element at a time

With cross memory attach `pink_read_string_array` walks an array of pointers as it should: the
element is found at the tracee's own word size, the pointer is the word there whatever the union
held before, and only the null pointer ends the array.

What it does not do is report a fault. A pointer it cannot read at all makes it return `0`, the
value it returns for the end of an array; one it can read in part leaves `errno` clear, and the
call goes on with a pointer half of which was never initialised. `FaultReported` holds in the
little that is left: half a pointer, no completion of which points to anything.

## Two halves with different assumptions

The walk is for attach that transfers everything in reach, and for words and strings that are
there (`HoldsStrings`). The fault is for attach as well, since without it a partial word cannot
happen: a peek delivers a word or nothing. In between stands `pinkReadStringArray_follow`, which
both halves use and which assumes neither. It says what a call does once any byte of the pointer
could be read, for every content of the union, and leaves the pointer as an expression of the
bytes that were.
-/

set_option autoImplicit false

namespace PinkTrace

open Lib

variable {arch : Arch} {K : Kernel arch} {abi : Abi arch} {arg : Addr arch} {i fuel : Nat}

/-! ## The element -/

/-- Where element `i` of an array of words lies in the tracee's address space. The product is
    taken in full and reduced once, so this also covers an index that runs over the end. -/
def arrayElement (abi : Abi arch) (arg : Addr arch) (i : Nat) : Addr arch :=
  BitVec.ofNat _ ((arg.toNat + i * pinkAbiWordsize abi) % 2 ^ (8 * pinkAbiWordsize abi))

theorem pinkAbiWordsize_le (abi : Abi arch) : pinkAbiWordsize abi ≤ arch.sizeofLong := by
  rcases pinkAbiWordsize_cases abi with h | h <;> omega

theorem pinkAbiWordsize_pos (abi : Abi arch) : 0 < pinkAbiWordsize abi := by
  have hpos := arch.sizeofLong_pos
  rcases pinkAbiWordsize_cases abi with h | h <;> omega

theorem pinkAbiWordsize_lt (abi : Abi arch) :
    pinkAbiWordsize abi < 2 ^ (arch.longBits - 1) := by
  have hle := pinkAbiWordsize_le abi
  apply arch.lt_long_max
  rcases arch.sizes with ⟨hw, -⟩ | ⟨hw, -⟩ <;> omega

/-- The code adds in the width of a `long` and cuts down afterwards; for the tracee it comes to
    the same. -/
theorem setupAddr_arrayElement (abi : Abi arch) (arg : Addr arch) (i : Nat) :
    setupAddr abi (arg + BitVec.ofNat _ (i * pinkAbiWordsize abi)) = arrayElement abi arg i := by
  have hdvd : 2 ^ (8 * pinkAbiWordsize abi) ∣ 2 ^ arch.longBits :=
    Nat.pow_dvd_pow 2 (Nat.mul_le_mul_left 8 (pinkAbiWordsize_le abi))
  apply BitVec.eq_of_toNat_eq
  rw [toNat_setupAddr, BitVec.toNat_add, BitVec.toNat_ofNat, Nat.add_mod_mod, arrayElement,
    BitVec.toNat_ofNat, Nat.mod_mod_of_dvd _ hdvd]
  exact (Nat.mod_eq_of_lt (Nat.lt_of_lt_of_le (Nat.mod_lt _ (Nat.two_pow_pos _))
    (Nat.le_of_dvd (Nat.two_pow_pos _) hdvd))).symm

/-- Whichever member of the union is used, it is as wide as what was read into it. -/
theorem pointerOf_wordsize (abi : Abi arch) (cp : Bytes) :
    pointerOf arch cp (pinkAbiWordsize abi) =
      BitVec.ofNat _ (loadUnsigned arch cp (pinkAbiWordsize abi)) := by
  rcases pinkAbiWordsize_cases abi with h | ⟨h, hlt⟩
  · rw [pointerOf, h, if_neg (Nat.lt_irrefl _)]
  · rw [pointerOf, if_pos hlt, h]

/-! ## A call with attach -/

/-- Whatever set `errno`, the value is `0`. -/
theorem pinkReadStringArray_of_errno {cp dest : Bytes} {destLen : Nat} {nullptr : Option Bool}
    {s : State arch} {r : ReadRet arch}
    (hread : pinkReadVmData fuel K abi (arg + BitVec.ofNat _ (i * pinkAbiWordsize abi)) cp
      (pinkAbiWordsize abi) { s with errno := none } = some r) (herr : r.st.errno ≠ none) :
    pinkReadStringArray fuel K cp abi arg i dest destLen nullptr s =
      some ⟨0, dest, nullptr, r.st⟩ := by
  simp [pinkReadStringArray, hread, herr]

/-- The first byte of the element is out of reach: the call returns `0`. So does one that reaches
    the end of the array, and `nullptr` is what tells them apart. -/
theorem pinkReadStringArray_fault (hK : Attached K) (fuel : Nat)
    (hbad : K.readable (arrayElement abi arg i) = false) (cp dest : Bytes) (destLen : Nat)
    (nullptr : Option Bool) (s : State arch) :
    ∃ st, pinkReadStringArray fuel K cp abi arg i dest destLen nullptr s =
      some ⟨0, dest, nullptr, st⟩ := by
  have hread := pinkVmCread_attached hK abi (arg + BitVec.ofNat _ (i * pinkAbiWordsize abi)) cp
    { s with errno := none } (pinkAbiWordsize_pos abi) (pinkAbiWordsize_lt abi)
  have hreach := (reach_eq_zero (pinkAbiWordsize_pos abi)).mpr hbad
  rw [setupAddr_arrayElement, hreach] at hread
  exact ⟨_, pinkReadStringArray_of_errno
    (pinkReadVmData_cread (not_detached hK.readvErr) (pinkAbiWordsize_lt abi) abi cp _)
    (by simp [hread])⟩

/-- Otherwise the reachable part of the element, completed by what the union held, is followed
    as a pointer. -/
theorem pinkReadStringArray_follow (hK : Attached K) (fuel : Nat)
    (hgood : K.readable (arrayElement abi arg i) = true) (dest : Bytes) (destLen : Nat)
    (nullptr : Option Bool) (s : State arch) :
    ∃ st, st.mem = s.mem ∧ ∀ cp,
      let p := pointerOf arch (copy cp 0 (s.mem.from (arrayElement abi arg i))
        (reach K.readable (arrayElement abi arg i) (pinkAbiWordsize abi))) (pinkAbiWordsize abi)
      pinkReadStringArray fuel K cp abi arg i dest destLen nullptr s =
        if p = 0 then some ⟨0, dest, nullptr.map fun _ => true, st⟩
        else (pinkVmCreadNul fuel K abi p dest destLen st).map fun q =>
          ⟨q.ret, q.dest, nullptr.map fun _ => false, q.st⟩ := by
  have hne : reach K.readable (arrayElement abi arg i) (pinkAbiWordsize abi) ≠ 0 := fun h0 => by
    rw [(reach_eq_zero (pinkAbiWordsize_pos abi)).mp h0] at hgood
    exact absurd hgood (by decide)
  refine ⟨⟨s.mem, none, s.log ++ [.vmReadv (arrayElement abi arg i) (pinkAbiWordsize abi)]⟩,
    rfl, fun cp => ?_⟩
  have hread := pinkVmCread_attached hK abi (arg + BitVec.ofNat _ (i * pinkAbiWordsize abi)) cp
    { s with errno := none } (pinkAbiWordsize_pos abi) (pinkAbiWordsize_lt abi)
  rw [setupAddr_arrayElement, if_neg hne] at hread
  simp only [pinkReadStringArray, pinkReadVmData_cread (not_detached hK.readvErr)
    (pinkAbiWordsize_lt abi), hread, if_neg hne, Option.bind_eq_bind, Option.bind_some, ne_eq,
    not_true_eq_false, if_false, pinkReadVmDataNul_cread hK.readvErr]
  split
  · rfl
  · cases pinkVmCreadNul fuel K abi _ dest destLen _ <;> rfl

/-! ## Walking an array -/

/-- An array of pointers to strings, ended by a null pointer, with everything a reader needs of it
    in reach: the words, and each string up to its NUL or the end of the buffer. Pointers are
    numbers here, as the array stores them. -/
structure HoldsStrings (K : Kernel .x86_64) (mem : Memory Arch.x86_64.longBits)
    (abi : Abi .x86_64) (arg : Addr .x86_64) (ps : List Nat) (destLen : Nat) : Prop where
  pointer : ∀ p ∈ ps, 0 < p ∧ p < 2 ^ (8 * pinkAbiWordsize abi)
  words : ∀ i, i ≤ ps.length → ∀ j, j < pinkAbiWordsize abi →
    mem (ahead (arrayElement abi arg i) j) = leBytes (ps.getD i 0) j
  readable : ∀ i, i ≤ ps.length → ∀ j, j < pinkAbiWordsize abi →
    K.readable (ahead (arrayElement abi arg i) j) = true
  strings : ∀ p ∈ ps, ∀ j, j < stringCount mem (BitVec.ofNat Arch.x86_64.longBits p) destLen →
    K.readable (ahead (BitVec.ofNat Arch.x86_64.longBits p) j) = true

/-- A string that is in reach as far as it is counted is counted the same by a read that stops at
    the first unreachable byte. The pages behind a string do not matter. -/
theorem stringCount_reach {mem : Memory arch.longBits} {addr : Addr arch} {m : Nat}
    (h : ∀ j, j < stringCount mem addr m → K.readable (ahead addr j) = true) :
    stringCount mem addr (reach K.readable addr m) = stringCount mem addr m ∧
      stringCount mem addr m ≤ reach K.readable addr m := by
  have hle : stringCount mem addr m ≤ reach K.readable addr m :=
    le_leading (stringCount_le mem addr m) h
  have hreach : reach K.readable addr m ≤ m := leading_le _ m
  refine ⟨?_, hle⟩
  rw [stringCount_eq_min] at hle
  rw [stringCount_eq_min, stringCount_eq_min, firstNul_of_le hreach]
  omega

theorem toNat_pointer {p : Nat} (hp : p < 2 ^ (8 * pinkAbiWordsize abi)) :
    (BitVec.ofNat arch.longBits p).toNat = p := by
  rw [BitVec.toNat_ofNat, Nat.mod_eq_of_lt]
  exact Nat.lt_of_lt_of_le hp (Nat.pow_le_pow_right (by decide)
    (Nat.mul_le_mul_left 8 (pinkAbiWordsize_le abi)))

theorem setupAddr_pointer {p : Nat} (hp : p < 2 ^ (8 * pinkAbiWordsize abi)) :
    setupAddr abi (BitVec.ofNat _ p) = BitVec.ofNat _ p := by
  apply BitVec.eq_of_toNat_eq
  rw [toNat_setupAddr, toNat_pointer hp, Nat.mod_eq_of_lt hp]

theorem pointer_ne_zero {p : Nat} (hpos : 0 < p) (hp : p < 2 ^ (8 * pinkAbiWordsize abi)) :
    BitVec.ofNat arch.longBits p ≠ 0 := fun h0 => by
  have hval := congrArg BitVec.toNat h0
  rw [toNat_pointer hp] at hval
  exact Nat.ne_of_gt hpos hval

section

variable {K : Kernel .x86_64} {mem : Memory Arch.x86_64.longBits} {abi : Abi .x86_64}
  {arg : Addr .x86_64} {ps : List Nat} {destLen : Nat}

/-- The pointer of an element is the one stored there, whatever the union held before. -/
theorem HoldsStrings.pointerOf_eq (h : HoldsStrings K mem abi arg ps destLen)
    (hi : i ≤ ps.length) (hp : ps.getD i 0 < 2 ^ (8 * pinkAbiWordsize abi)) (cp : Bytes) :
    pointerOf .x86_64 (copy cp 0 (mem.from (arrayElement abi arg i))
      (reach K.readable (arrayElement abi arg i) (pinkAbiWordsize abi))) (pinkAbiWordsize abi) =
        BitVec.ofNat _ (ps.getD i 0) := by
  have hall : reach K.readable (arrayElement abi arg i) (pinkAbiWordsize abi) =
      pinkAbiWordsize abi := leading_eq_of_forall (h.readable i hi)
  have hload : leLoad (copy cp 0 (mem.from (arrayElement abi arg i)) (pinkAbiWordsize abi)) 0
      (pinkAbiWordsize abi) = ps.getD i 0 := by
    have hbytes : ∀ j, j < pinkAbiWordsize abi →
        mem.from (arrayElement abi arg i) (0 + j) = leBytes (ps.getD i 0) (0 + j) := fun j hj => by
      rw [Nat.zero_add]
      exact h.words i hi j hj
    rw [leLoad_copy (Nat.le_refl 0) (Nat.le_refl _), Nat.sub_zero, leLoad_congr hbytes,
      leLoad_leBytes, Nat.mod_eq_of_lt]
    rwa [Nat.pow_mul] at hp
  rw [hall, pointerOf_wordsize]
  exact congrArg (BitVec.ofNat _) hload

/-- A call for any element of the array, the last included: the pointer decides which of the two
    results it has. -/
theorem HoldsStrings.run {s : State .x86_64} (h : HoldsStrings K s.mem abi arg ps destLen)
    (hK : Attached K) (fuel : Nat) (hi : i ≤ ps.length)
    (hp : ps.getD i 0 < 2 ^ (8 * pinkAbiWordsize abi)) (cp dest : Bytes) (nullptr : Bool) :
    ∃ st, st.mem = s.mem ∧
      pinkReadStringArray fuel K cp abi arg i dest destLen (some nullptr) s =
        if BitVec.ofNat Arch.x86_64.longBits (ps.getD i 0) = 0 then
          some ⟨0, dest, some true, st⟩
        else (pinkVmCreadNul fuel K abi (BitVec.ofNat _ (ps.getD i 0)) dest destLen st).map
          fun q => ⟨q.ret, q.dest, some false, q.st⟩ := by
  have hfirst : K.readable (arrayElement abi arg i) = true := by
    have hbyte := h.readable i hi 0 (pinkAbiWordsize_pos abi)
    rwa [ahead_zero] at hbyte
  obtain ⟨st, hst, hrun⟩ := pinkReadStringArray_follow hK fuel hfirst dest destLen
    (some nullptr) s
  have hcall := hrun cp
  rw [h.pointerOf_eq hi hp cp] at hcall
  exact ⟨st, hst, hcall⟩

/-- **An array of strings is read element by element.** The null pointer that ends the array is an
    element as well, reported through `*nullptr` and with the buffer left alone. `cp` is what the
    union on the stack held before, and does not matter. -/
theorem string_array_read (hK : Attached K) (s : State .x86_64)
    (h : HoldsStrings K s.mem abi arg ps destLen) (hpos : 1 ≤ destLen) (hlen : destLen < 2 ^ 31)
    (hf : destLen < fuel) (cp dest : Bytes) (nullptr : Bool) :
    (∀ (i : Nat) (hi : i < ps.length), ∃ r,
      pinkReadStringArray fuel K cp abi arg i dest destLen (some nullptr) s = some r ∧
      r.nullptr = some false ∧
      r.ret = stringCount s.mem (BitVec.ofNat Arch.x86_64.longBits ps[i]) destLen ∧
      ∀ j, j < stringCount s.mem (BitVec.ofNat Arch.x86_64.longBits ps[i]) destLen →
        r.dest j = s.mem (ahead (BitVec.ofNat Arch.x86_64.longBits ps[i]) j)) ∧
    ∃ r, pinkReadStringArray fuel K cp abi arg ps.length dest destLen (some nullptr) s = some r ∧
      r.nullptr = some true ∧ r.ret = 0 ∧ r.dest = dest := by
  constructor
  · intro i hi
    obtain ⟨hnull, hlt⟩ := h.pointer ps[i] (List.getElem_mem hi)
    have hget : ps.getD i 0 = ps[i] := by simp [hi]
    obtain ⟨st, hst, hrun⟩ := h.run hK fuel (Nat.le_of_lt hi) (by rwa [hget]) cp dest nullptr
    obtain ⟨r, hread, hr⟩ := pinkVmCreadNul_spec abi (BitVec.ofNat Arch.x86_64.longBits ps[i])
      dest st hK.readvErr hpos hlen hf
    obtain ⟨hcount, hreach⟩ := stringCount_reach (h.strings ps[i] (List.getElem_mem hi))
    rw [setupAddr_pointer hlt] at hr
    rw [hget, if_neg (pointer_ne_zero hnull hlt), hread] at hrun
    obtain ⟨c, hc, -, hdest⟩ := hr.dest
    rw [hst, hcount] at hc
    refine ⟨_, hrun, rfl, ?_, fun j hj => ?_⟩
    · have hsome : 0 < stringCount s.mem (BitVec.ofNat Arch.x86_64.longBits ps[i]) destLen := by
        rw [stringCount_eq_min]
        omega
      show r.ret = _
      rw [hr.ret, if_neg (by omega), hst, hcount]
    · show r.dest j = _
      rw [hdest, copy_of_lt (Nat.zero_le j) (by omega), hst]
      rfl
  · have hend : ps.getD ps.length 0 = 0 := by simp
    obtain ⟨st, -, hrun⟩ := h.run hK fuel (Nat.le_refl _) (by rw [hend]; exact Nat.two_pow_pos _)
      cp dest nullptr
    have hnull : BitVec.ofNat Arch.x86_64.longBits 0 = 0 := rfl
    rw [hend, if_pos hnull] at hrun
    exact ⟨_, hrun, rfl, rfl, rfl⟩

end

/-- One string, `"a"`, in the array a 32-bit tracee has at `0x80001000`. -/
def oneString : State .x86_64 where
  mem x := if x.toNat = 0x2000 then 0x61
    else if 0x80001000 ≤ x.toNat then
      leArray 4 (fun k => if k = 0 then 0x2000 else 0) (x.toNat - 0x80001000)
    else 0
  errno := none
  log := []

theorem one_string_read :
    HoldsStrings ((allMapped .x86_64).kernel .available .available) oneString.mem .i386
      0xffffffff80001000 [0x2000] 16 ∧
    (∃ r, pinkReadStringArray 17 ((allMapped .x86_64).kernel .available .available)
        (fun _ => 0xff) .i386 0xffffffff80001000 0 (fun _ => 0) 16 (some true) oneString = some r ∧
      r.nullptr = some false ∧ r.ret = 2) ∧
    ∃ r, pinkReadStringArray 17 ((allMapped .x86_64).kernel .available .available)
        (fun _ => 0xff) .i386 0xffffffff80001000 1 (fun _ => 0) 16 (some true) oneString = some r ∧
      r.nullptr = some true ∧ r.ret = 0 := by
  have h : HoldsStrings ((allMapped .x86_64).kernel .available .available) oneString.mem .i386
      0xffffffff80001000 [0x2000] 16 :=
    ⟨by decide, by decide +kernel, fun _ _ _ _ => rfl, fun _ _ _ _ => rfl⟩
  obtain ⟨hstring, r', hend, hnull', hret', -⟩ := string_array_read
    ((allMapped .x86_64).attached .available) oneString h (by decide) (by decide)
    (by decide : 16 < 17) (fun _ => 0xff) (fun _ => 0) true
  obtain ⟨r, hread, hnull, hret, -⟩ := hstring 0 (by decide)
  have hcount : stringCount oneString.mem (BitVec.ofNat Arch.x86_64.longBits 0x2000) 16 = 2 := by
    decide +kernel
  refine ⟨h, ⟨r, hread, hnull, ?_⟩, r', hend, hnull', hret'⟩
  rw [hret]
  exact congrArg Nat.cast hcount

/-! ## Faults -/

/-- The bytes of an element can all be read, the way the library can read them: attach reaches
    each of them, or attach is missing and the words they lie in can be peeked. -/
def ElementReadable (K : Kernel arch) (abi : Abi arch) (arg : Addr arch) (i : Nat) : Prop :=
  (K.readvErr = none ∧ ∀ j, j < pinkAbiWordsize abi →
    K.readable (ahead (arrayElement abi arg i) j) = true) ∨
  (Detached K ∧ ∀ a, Overlaps (arg + BitVec.ofNat _ (i * pinkAbiWordsize abi))
    (pinkAbiWordsize abi) a → K.peekErr a = none)

/-- `pink_read_string_array` returns `-1` and leaves `*nullptr` and the buffer alone, whatever
    its union held. -/
def FaultReported (fuel : Nat) (K : Kernel arch) (abi : Abi arch) (arg : Addr arch) (i : Nat)
    (dest : Bytes) (destLen : Nat) (nullptr : Option Bool) (s : State arch) : Prop :=
  ∀ cp, ∃ r, pinkReadStringArray fuel K cp abi arg i dest destLen nullptr s = some r ∧
    r.ret = -1 ∧ r.dest = dest ∧ r.nullptr = nullptr

/-- The pointer that the reachable part of an element and the contents of the union make. -/
def halfPointer (K : Kernel arch) (mem : Memory arch.longBits) (abi : Abi arch)
    (arg : Addr arch) (i : Nat) (cp : Bytes) : Addr arch :=
  pointerOf arch (copy cp 0 (mem.from (arrayElement abi arg i))
    (reach K.readable (arrayElement abi arg i) (pinkAbiWordsize abi))) (pinkAbiWordsize abi)

/-- Without attach, a read that does not get every word leaves with `errno` set. -/
theorem pinkReadVmData_detached_errno {addr : Addr arch} {len : Nat} (hK : K.readvErr ≠ none)
    (hbad : Detached K → ¬ ∀ a, Overlaps addr len a → K.peekErr a = none)
    (hlen : len < 2 ^ (arch.longBits - 1)) (hf : len < fuel) (dest : Bytes) (s : State arch) :
    ∃ r, pinkReadVmData fuel K abi addr dest len s = some r ∧ r.st.errno ≠ none := by
  by_cases hd : Detached K
  · rw [pinkReadVmData_detached hd hlen]
    rcases pinkVmLread_cases K addr dest
      ⟨s.mem, K.readvErr, s.log ++ [.vmReadv (setupAddr abi addr) len]⟩ hf with
      ⟨hall, -⟩ | ⟨j, e, -, -, -, hrun⟩
    · exact absurd (forall_overlaps_iff.mpr hall) (hbad hd)
    · exact ⟨_, hrun, by simp⟩
  · rw [pinkReadVmData_cread hd hlen]
    refine ⟨_, rfl, ?_⟩
    cases he : K.readvErr with
    | none => exact absurd he hK
    | some e => simp [pinkVmCread, processVmReadv, attachFailure_of_lt hlen, he]

theorem not_faultReported {cp dest : Bytes} {destLen : Nat} {nullptr : Option Bool}
    {s st : State arch} (h : pinkReadStringArray fuel K cp abi arg i dest destLen nullptr s =
      some ⟨0, dest, nullptr, st⟩) :
    ¬ FaultReported fuel K abi arg i dest destLen nullptr s := by
  intro hreported
  obtain ⟨r, hr, hret, -⟩ := hreported cp
  rw [h] at hr
  obtain rfl := Option.some.inj hr
  exact absurd hret (by simp)

/-- Behind half a pointer a fault is reported if the string read that follows fails, and leaves
    `*nullptr` alone if it was not true. -/
theorem faultReported_half_iff (hK : Attached K)
    (hgood : K.readable (arrayElement abi arg i) = true) (dest : Bytes) (destLen : Nat)
    (nullptr : Option Bool) (s : State arch) (hf : 0 < fuel) :
    FaultReported fuel K abi arg i dest destLen nullptr s ↔ nullptr ≠ some true ∧
      ∀ cp, halfPointer K s.mem abi arg i cp ≠ 0 ∧
        StringRefused K (setupAddr abi (halfPointer K s.mem abi arg i cp)) destLen := by
  obtain ⟨st, -, hrun⟩ := pinkReadStringArray_follow hK fuel hgood dest destLen nullptr s
  have hcall : ∀ cp, pinkReadStringArray fuel K cp abi arg i dest destLen nullptr s =
      if halfPointer K s.mem abi arg i cp = 0 then
        some ⟨0, dest, nullptr.map fun _ => true, st⟩
      else (pinkVmCreadNul fuel K abi (halfPointer K s.mem abi arg i cp) dest destLen st).map
        fun q => ⟨q.ret, q.dest, nullptr.map fun _ => false, q.st⟩ := hrun
  have hrefused := fun p => pinkVmCreadNul_refused_iff abi p dest destLen st hK.readvErr hf
  constructor
  · intro h
    have hhalf : ∀ cp, (halfPointer K s.mem abi arg i cp ≠ 0 ∧
        StringRefused K (setupAddr abi (halfPointer K s.mem abi arg i cp)) destLen) ∧
          nullptr.map (fun _ => false) = nullptr := fun cp => by
      obtain ⟨r, hr, hret, hdest, hnull⟩ := h cp
      rw [hcall cp] at hr
      split at hr
      · obtain rfl := Option.some.inj hr
        exact absurd hret (by simp)
      · rename_i hp
        obtain ⟨q, hq, rfl⟩ := Option.map_eq_some_iff.mp hr
        exact ⟨⟨hp, (hrefused _).mp ⟨q, hq, hret, hdest⟩⟩, hnull⟩
    -- `*nullptr` is set to false before the string is read, which shows if it was true
    refine ⟨?_, fun cp => (hhalf cp).1⟩
    rintro rfl
    exact absurd (hhalf fun _ => 0).2 (by simp)
  · rintro ⟨hnull, h⟩ cp
    obtain ⟨hp, href⟩ := h cp
    obtain ⟨q, hq, hret, hdest⟩ := (hrefused _).mpr href
    refine ⟨⟨q.ret, q.dest, nullptr.map fun _ => false, q.st⟩, ?_, hret, hdest, ?_⟩
    · rw [hcall cp, if_neg hp, hq]
      rfl
    · cases nullptr with
      | none => rfl
      | some b => cases b <;> simp_all

/-- **A fault is reported exactly if half the pointer could be read, `*nullptr` was not set, and
    nothing can be read behind any pointer with that half.** A read that fails makes the function
    return zero, which is no report. One that is cut short does not fail, and the code goes on
    with a pointer half of which was never assigned; hence the quantifier over `cp`. -/
theorem faultReported_iff (K : Kernel arch) (abi : Abi arch) (arg : Addr arch) (i : Nat)
    (dest : Bytes) (destLen : Nat) (nullptr : Option Bool) (s : State arch) {fuel : Nat}
    (hfull : ∀ k p, K.transfer k p = p) (hf : pinkAbiWordsize abi < fuel)
    (hbad : ¬ ElementReadable K abi arg i) :
    FaultReported fuel K abi arg i dest destLen nullptr s ↔
      K.readvErr = none ∧ K.readable (arrayElement abi arg i) = true ∧ nullptr ≠ some true ∧
        ∀ cp, halfPointer K s.mem abi arg i cp ≠ 0 ∧
          StringRefused K (setupAddr abi (halfPointer K s.mem abi arg i cp)) destLen := by
  by_cases hK : K.readvErr = none
  · cases hgood : K.readable (arrayElement abi arg i) with
    | false =>
      obtain ⟨st, hrun⟩ := pinkReadStringArray_fault ⟨hK, hfull⟩ fuel hgood (fun _ => 0) dest
        destLen nullptr s
      exact iff_of_false (not_faultReported hrun) (by simp)
    | true =>
      rw [faultReported_half_iff ⟨hK, hfull⟩ hgood dest destLen nullptr s (Nat.zero_lt_of_lt hf)]
      simp only [hK, true_and]
  · obtain ⟨r, hread, herr⟩ := pinkReadVmData_detached_errno hK
      (fun hd hall => hbad (Or.inr ⟨hd, hall⟩)) (pinkAbiWordsize_lt abi) hf (fun _ => 0)
      { s with errno := none }
    exact iff_of_false (not_faultReported (pinkReadStringArray_of_errno hread herr))
      fun h => hK h.1

/-- Nothing of the array can be read: the call returns `0`, as at the end of an array. -/
theorem unmapped_array_returns_zero :
    ¬ ElementReadable ((firstPageReadable .x86_64).kernel .available .available) .x86_64 0x5000 0 ∧
    ¬ FaultReported 9 ((firstPageReadable .x86_64).kernel .available .available) .x86_64 0x5000 0
      (fun _ => 0) 16 (some false) ⟨fun _ => 0, none, []⟩ := by
  constructor
  · rintro (⟨-, h⟩ | ⟨h, -⟩)
    · exact absurd (h 0 (by decide)) (by decide)
    · exact absurd h (by decide)
  · intro h
    obtain ⟨r, hr, hret, -⟩ := h fun _ => 0
    have hzero : (pinkReadStringArray 9 ((firstPageReadable .x86_64).kernel .available .available)
        (fun _ => 0) .x86_64 0x5000 0 (fun _ => 0) 16 (some false)
        ⟨fun _ => 0, none, []⟩).map StringArrayRet.ret = some 0 := by decide +kernel
    rw [hr, Option.map_some, hret] at hzero
    exact absurd hzero (by decide)

/-- A pointer across the end of the only page, with `0x2000` in its lower half. -/
def halfMapped : State .x86_64 where
  mem x := if x.toNat = 4093 then 0x20 else 0
  errno := none
  log := []

theorem halfPointer_halfMapped (cp : Bytes) :
    (halfPointer ((firstPageReadable .x86_64).kernel .available .available) halfMapped.mem
      .x86_64 4092 0 cp).toNat = 0x2000 + 2 ^ 32 * leLoad cp 4 4 := by
  have hreach : reach ((firstPageReadable .x86_64).kernel .available .available).readable
      (@arrayElement .x86_64 .x86_64 4092 0) 8 = 4 := by decide +kernel
  have hlow : leLoad (halfMapped.mem.from (@arrayElement .x86_64 .x86_64 4092 0)) 0 4 = 0x2000 := by
    decide +kernel
  have hload : leLoad (copy cp 0 (halfMapped.mem.from (@arrayElement .x86_64 .x86_64 4092 0)) 4)
      0 8 = 0x2000 + 2 ^ 32 * leLoad cp 4 4 := by
    have hhigh : leLoad (copy cp 0 (halfMapped.mem.from (@arrayElement .x86_64 .x86_64 4092 0)) 4)
        (0 + 4) 4 = leLoad cp 4 4 := leLoad_congr fun j _ => copy_of_not (by omega)
    rw [leLoad_add _ 0 4 4, hhigh, leLoad_copy (Nat.le_refl 0) (Nat.le_refl 4), Nat.sub_zero, hlow]
    rfl
  have hlt := leLoad_lt cp 4 4
  have hptr : halfPointer ((firstPageReadable .x86_64).kernel .available .available)
      halfMapped.mem .x86_64 4092 0 cp = BitVec.ofNat 64 (0x2000 + 2 ^ 32 * leLoad cp 4 4) := by
    unfold halfPointer
    change pointerOf _ (copy cp 0 _ (reach _ _ 8)) 8 = _
    rw [hreach]
    exact congrArg (BitVec.ofNat 64) hload
  rw [hptr]
  exact (BitVec.toNat_ofNat ..).trans (Nat.mod_eq_of_lt (by change _ < 2 ^ 64; omega))

/-- …and whatever the upper half was, no page is there: the one fault that is reported. -/
theorem half_pointer_reported :
    ¬ ElementReadable ((firstPageReadable .x86_64).kernel .available .available) .x86_64 4092 0 ∧
    FaultReported 9 ((firstPageReadable .x86_64).kernel .available .available) .x86_64 4092 0
      (fun _ => 0) 16 (some false) halfMapped := by
  have hbad : ¬ ElementReadable ((firstPageReadable .x86_64).kernel .available .available)
      .x86_64 4092 0 := by
    rintro (⟨-, h⟩ | ⟨h, -⟩)
    · exact absurd (h 4 (by decide)) (by decide)
    · exact absurd h (by decide)
  refine ⟨hbad, (faultReported_iff _ .x86_64 4092 0 (fun _ => 0) 16 (some false) halfMapped
    (fun _ _ => rfl) (by decide) hbad).mpr ⟨rfl, by decide, by decide, fun cp => ?_⟩⟩
  have hval := halfPointer_halfMapped cp
  generalize halfPointer _ halfMapped.mem _ _ _ cp = p at hval ⊢
  have hne : p ≠ 0 := fun h0 => by
    rw [h0] at hval
    change 0 = _ at hval
    omega
  have hpage : AddressSpace.page p ≠ 0 := by
    rw [AddressSpace.page]
    omega
  refine ⟨hne, Or.inl ⟨by decide, by decide, ?_⟩⟩
  show (AddressSpace.page p == 0) = false
  simpa using hpage

end PinkTrace
