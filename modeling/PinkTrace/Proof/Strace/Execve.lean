import PinkTrace.Proof.Strace.Decode
import PinkTrace.Proof.StringArray

/-!
# The arguments of an `execve`

Where the child does have something at address zero, the decoder goes on. It prints that string
for the path, and then the arguments, but from the second on, and at the end of the array it
prints the buffer once more, with the string that was read into it last.

Neither is a slip of the model. The index is incremented before it is used, and the string is
printed before `nil` is looked at; `pink_read_string_array` leaves the buffer alone at a null
pointer. So `shownArguments` is the list without its first element and with its last one twice,
and for an array of one argument the path is what stands there last.
-/

set_option autoImplicit false

namespace PinkTrace

open Lib

variable {K : Kernel .x86_64} {mem : Memory Arch.x86_64.longBits} {addr : Addr .x86_64}
  {abi : Abi .x86_64} {fuel : Nat} {s : State .x86_64} {r : ReadRet .x86_64} {dest : Bytes}

/-! ## One string -/

/-- The string at an address, cut at the buffer's size. -/
def stringAt (mem : Memory Arch.x86_64.longBits) (addr : Addr .x86_64) : List UInt8 :=
  (List.range (firstNul mem addr pathMax)).map fun i => mem (ahead addr i)

/-- There is one, it fits into the buffer, and a tracer can read it. A longer one has no defined
    output: `%s` would run over the end. -/
structure HoldsString (K : Kernel .x86_64) (mem : Memory Arch.x86_64.longBits)
    (addr : Addr .x86_64) : Prop where
  ends : firstNul mem addr pathMax < pathMax
  readable : ∀ j, j < stringCount mem addr pathMax → K.readable (ahead addr j) = true

theorem cString_eq {b : Bytes} {n k : Nat} (hk : k < n) (hnul : b k = 0)
    (hbefore : ∀ i, i < k → b i ≠ 0) : cString b n = some ((List.range k).map b) := by
  have hscan : memchrNul b n = some k := by
    refine List.find?_range_eq_some.mpr ⟨by simpa using hnul, List.mem_range.mpr hk, ?_⟩
    intro i hi
    simpa using hbefore i hi
  rw [cString, hscan, Option.map_some]

/-- A successful read puts it into the buffer, with whatever behind it. -/
theorem HoldsString.read (h : HoldsString K s.mem addr)
    (hr : ReadsString K addr dest pathMax s r) :
    ¬ r.ret < 0 ∧ cString r.dest pathMax = some (stringAt s.mem addr) := by
  obtain ⟨hsame, hle⟩ := stringCount_reach h.readable
  have hcount : stringCount s.mem addr pathMax = firstNul s.mem addr pathMax + 1 := if_pos h.ends
  obtain ⟨c, hc, -, hdest⟩ := hr.dest
  have hbyte : ∀ i, i ≤ firstNul s.mem addr pathMax → r.dest i = s.mem (ahead addr i) := by
    intro i hi
    rw [hdest]
    exact copy_of_lt (Nat.zero_le i) (by omega)
  constructor
  · rw [hr.ret, if_neg (by omega)]
    omega
  · rw [cString_eq h.ends (by rw [hbyte _ (Nat.le_refl _)]; exact firstNul_nul h.ends)
      fun i hi => by rw [hbyte i (Nat.le_of_lt hi)]; exact ne_of_lt_firstNul hi]
    refine congrArg some (List.map_congr_left fun i hi => hbyte i ?_)
    exact Nat.le_of_lt (List.mem_range.mp hi)

/-! ## The array -/

variable {junk : Junk} {regs : X86Regset} {arg : Addr .x86_64} {ps : List Nat}

/-- The child has an array of strings, each of which a tracer can read. The array is that of
    `StringArray`, with a bound on each string. -/
structure HoldsArguments (K : Kernel .x86_64) (mem : Memory Arch.x86_64.longBits)
    (abi : Abi .x86_64) (arg : Addr .x86_64) (ps : List Nat) : Prop where
  array : HoldsStrings K mem abi arg ps pathMax
  string : ∀ p ∈ ps, HoldsString K mem (BitVec.ofNat _ p)

/-- An element that is a string… -/
theorem HoldsArguments.element (h : HoldsArguments K s.mem abi arg ps) (hK : Attached K)
    (hf : pathMax < fuel) {i : Nat} (hi : i < ps.length) (cp dest : Bytes) (nullptr : Bool) :
    ∃ q, pinkReadStringArray fuel K cp abi arg i dest pathMax (some nullptr) s = some q ∧
      ¬ q.ret < 0 ∧ q.nullptr = some false ∧ q.st.mem = s.mem ∧
      cString q.dest pathMax = some (stringAt s.mem (BitVec.ofNat _ ps[i])) := by
  have hmem : ps[i] ∈ ps := List.getElem_mem hi
  obtain ⟨hnull, hlt⟩ := h.array.pointer ps[i] hmem
  have hget : ps.getD i 0 = ps[i] := by simp [hi]
  obtain ⟨st, hst, hrun⟩ := h.array.run hK fuel (Nat.le_of_lt hi) (by rwa [hget]) cp dest nullptr
  obtain ⟨r, hread, hr⟩ := pinkVmCreadNul_spec abi (BitVec.ofNat Arch.x86_64.longBits ps[i])
    dest st hK.readvErr (by decide) pathMax_lt hf
  rw [setupAddr_pointer hlt] at hr
  rw [hget, if_neg (pointer_ne_zero hnull hlt), hread, Option.map_some] at hrun
  obtain ⟨hret, hstring⟩ := HoldsString.read (hst ▸ h.string ps[i] hmem) hr
  exact ⟨_, hrun, hret, rfl, hr.mem.trans hst, hst ▸ hstring⟩

/-- …and the null pointer behind them. -/
theorem HoldsArguments.terminator (h : HoldsArguments K s.mem abi arg ps) (hK : Attached K)
    (fuel : Nat) (cp dest : Bytes) (nullptr : Bool) :
    ∃ st, pinkReadStringArray fuel K cp abi arg ps.length dest pathMax (some nullptr) s =
      some ⟨0, dest, some true, st⟩ := by
  have hend : ps.getD ps.length 0 = 0 := by simp
  obtain ⟨st, -, hrun⟩ := h.array.run hK fuel (Nat.le_refl _)
    (by rw [hend]; exact Nat.two_pow_pos _) cp dest nullptr
  have hnull : BitVec.ofNat Arch.x86_64.longBits 0 = 0 := rfl
  rw [hend, if_pos hnull] at hrun
  exact ⟨st, hrun⟩

/-- The text for a list of arguments. The separator is empty in front of the first. -/
def argumentsText : String → List (List UInt8) → List Out
  | _, [] => []
  | sep, str :: strs =>
    [.text sep, .text "\"", .chars str, .text "\""] ++ argumentsText ", " strs

/-- The strings that are printed when `last` is in the buffer and `strs` are still to come.
    Defined with the buffer as an argument, because that is what the induction is about. -/
def shownArguments (last : List UInt8) (strs : List (List UInt8)) : List (List UInt8) :=
  strs ++ [strs.getLastD last]

theorem shownArguments_cons (last str : List UInt8) (strs : List (List UInt8)) :
    shownArguments last (str :: strs) = str :: shownArguments str strs := by
  rw [shownArguments, List.getLastD_cons]
  rfl

theorem execveBody_element {v : ExecveVars} {q : StringArrayRet .x86_64} {str : List UInt8}
    (hi : v.i + 1 < 2 ^ 32)
    (hq : pinkReadStringArray fuel K (junk.cp (v.i + 1)) regs.abi arg (v.i + 1) v.buf pathMax
      (some v.nil) v.st = some q) (hret : ¬ q.ret < 0)
    (hstring : cString q.dest pathMax = some str) :
    execveBody fuel K junk regs arg v =
      let out := v.out ++ [.text v.sep, .text "\"", .chars str, .text "\""]
      if q.nullptr = some true then .done (out ++ [.text "], envp[])"], q.st)
      else .again ⟨v.i + 1, ", ", q.dest, false, q.st, out⟩ := by
  rw [execveBody, Nat.mod_eq_of_lt hi]
  simp only [hq, if_neg hret, hstring]

/-- The loop prints the arguments from the next on, and then again what it printed last. The
    induction is on the arguments to come; what the buffer holds goes along. -/
theorem run_execveBody (junk : Junk) (hK : Attached K) (hf : pathMax < fuel)
    (h : HoldsArguments K mem regs.abi arg ps) (hlen : ps.length < 2 ^ 32) {n : Nat}
    {v : ExecveVars} {last : List UInt8} (hmem : v.st.mem = mem)
    (hbuf : cString v.buf pathMax = some last) {rest : List Nat}
    (hrest : ps.drop (v.i + 1) = rest) (hi : v.i + 1 ≤ ps.length) (hn : rest.length < n) :
    ∃ st, run (execveBody fuel K junk regs arg) n v =
      some (v.out ++ (argumentsText v.sep
        (shownArguments last (rest.map fun p => stringAt mem (BitVec.ofNat _ p))) ++
          [.text "], envp[])"]), st) := by
  induction rest generalizing v last n with
  | nil =>
    obtain ⟨n, rfl⟩ : ∃ m, n = m + 1 := ⟨n - 1, by omega⟩
    have hend : v.i + 1 = ps.length := Nat.le_antisymm hi (List.drop_eq_nil_iff.mp hrest)
    have hthere : HoldsArguments K v.st.mem regs.abi arg ps := hmem ▸ h
    obtain ⟨st, hq⟩ := hthere.terminator hK fuel (junk.cp (v.i + 1)) v.buf v.nil
    rw [← hend] at hq
    have hbody := execveBody_element (by omega) hq (Int.lt_irrefl 0) hbuf
    rw [if_pos rfl] at hbody
    refine ⟨st, (run_done hbody n).trans ?_⟩
    simp [argumentsText, shownArguments]
  | cons p rest ih =>
    obtain ⟨n, rfl⟩ : ∃ m, n = m + 1 := ⟨n - 1, by omega⟩
    have hlt : v.i + 1 < ps.length := by
      refine Nat.lt_of_le_of_ne hi fun heq => ?_
      rw [heq, List.drop_length] at hrest
      cases hrest
    rw [List.drop_eq_getElem_cons hlt, List.cons.injEq] at hrest
    have hthere : HoldsArguments K v.st.mem regs.abi arg ps := hmem ▸ h
    obtain ⟨q, hq, hret, hnull, hst, hstring⟩ :=
      hthere.element hK hf hlt (junk.cp (v.i + 1)) v.buf v.nil
    rw [hrest.1, hmem] at hstring
    have hbody := execveBody_element (by omega) hq hret hstring
    rw [hnull, if_neg (by decide)] at hbody
    -- the rest of the loop starts from the string just printed
    obtain ⟨st, hrun⟩ := @ih n ⟨v.i + 1, ", ", q.dest, false, q.st, _⟩ _ (hst.trans hmem) hstring
      hrest.2 hlt (by simpa using hn)
    refine ⟨st, (run_again hbody n).trans (hrun.trans ?_)⟩
    rw [List.map_cons, shownArguments_cons]
    simp [argumentsText]

/-- **What an `execve` looks like where address zero is readable**: the string there for the
    path; then the arguments but the first, and after them the last string once more. -/
theorem decodeExecve_arguments {file : X86Reg → BitVec 64} (h : Shows regs abi file)
    (hK : Attached K) (hzero : HoldsString K s.mem 0)
    (hargs : HoldsArguments K s.mem abi (argVal abi file 1) ps) (hne : ps ≠ [])
    (hlen : ps.length < 2 ^ 32) (hf : pathMax < fuel) (hfuel : ps.length ≤ fuel) (junk : Junk) :
    ∃ st, decodeExecve fuel K junk regs s =
      some ([.text "execve(\"", .chars (stringAt s.mem 0), .text "\", ["] ++
        (argumentsText "" (shownArguments (stringAt s.mem 0)
          (ps.tail.map fun p => stringAt s.mem (BitVec.ofNat _ p))) ++
            [.text "], envp[])"]), st) := by
  have hsetup : @setupAddr .x86_64 regs.abi 0 = 0 := by
    cases regs.abi <;> rfl
  have hpos : 0 < ps.length := List.length_pos_iff.mpr hne
  obtain ⟨r, hread, hr⟩ := pinkVmCreadNul_spec regs.abi 0 junk.buf { s with errno := none }
    hK.readvErr (by decide) pathMax_lt hf
  rw [hsetup] at hr
  obtain ⟨hret, hstring⟩ := HoldsString.read (s := { s with errno := none }) hzero hr
  have hargs' : HoldsArguments K s.mem regs.abi (argVal abi file 1) ps := h.detected.symm ▸ hargs
  obtain ⟨st, hrun⟩ := run_execveBody (n := fuel)
    (v := ⟨0, "", r.dest, false, r.st, [.text "execve(\"", .chars (stringAt s.mem 0),
      .text "\", ["]⟩) junk hK hf hargs' hlen hr.mem hstring List.drop_one hpos
    (by rw [List.length_tail]; omega)
  refine ⟨st, ?_⟩
  rw [decodeExecve, readArgument_ok h (by decide), readArgument_ok h (by decide),
    pinkReadVmDataNul_cread hK.readvErr]
  simp only [hread, Option.bind_eq_bind, Option.bind_some, if_neg hret, hstring]
  exact hrun

end PinkTrace
