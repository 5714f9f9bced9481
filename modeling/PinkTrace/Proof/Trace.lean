import PinkTrace.Lib.Flags
import PinkTrace.Trace

/-!
# Two ways to set trace options

`pink_trace_setup` asks for its options one by one and puts the kernel's flag for each into the
mask; `pink_trace_seize` hands on the number it was given. Eight of the nine flags have the same
value in both worlds and the ninth has not: an `int` of options means the same under both calls
exactly if `PINK_TRACE_OPTION_EXITKILL` is not among them.

The comparison is over ints that are an OR of options, since only of those can one say which
options they ask for. Everything goes through `Lib.Flags`: the word that setup builds and the word
that seize passes on are one set of options under two numberings, and two numberings agree on a
set as soon as they agree on its members.
-/

set_option autoImplicit false

namespace PinkTrace

open Lib

variable {arch : Arch}

namespace TraceOption

theorem mem_all (o : TraceOption) : o ∈ all := by
  cases o <;> decide

/-- Where an option's flag lies in the library's numbering. -/
def bit (o : TraceOption) : Nat := all.idxOf o

theorem flag_eq_twoPow (o : TraceOption) : o.flag = BitVec.twoPow 32 o.bit := by
  cases o <;> decide

/-- No two options share a bit, so membership can be read off. -/
theorem flag_getLsbD (o o' : TraceOption) : o'.flag.getLsbD o.bit = true ↔ o' = o := by
  cases o <;> cases o' <;> decide

/-- Eight of the nine flags are the kernel's own. -/
theorem ptraceO_eq_flag {o : TraceOption} (h : o ≠ exitkill) : o.ptraceO = o.flag := by
  cases o with
  | exitkill => exact absurd rfl h
  | _ => decide

/-- No flag of the kernel's lies where `PINK_TRACE_OPTION_EXITKILL` does. So a mask of the
    kernel's flags never equals one that has it. -/
theorem ptraceO_getLsbD_exitkill (o : TraceOption) : o.ptraceO.getLsbD exitkill.bit = false := by
  cases o <;> decide

end TraceOption

theorem orOf_flag_requested (opts : List TraceOption) (o : TraceOption) :
    orOf TraceOption.flag opts &&& o.flag ≠ 0 ↔ o ∈ opts := by
  rw [TraceOption.flag_eq_twoPow, and_twoPow_ne_zero, getLsbD_orOf]
  constructor
  · rintro ⟨o', hmem, hbit⟩
    rwa [(TraceOption.flag_getLsbD o o').mp hbit] at hmem
  · intro hmem
    exact ⟨o, hmem, (TraceOption.flag_getLsbD o o).mpr rfl⟩

/-! ## The mask `pink_trace_setup` builds -/

/-- The options a word asks for, of those still to be tested. -/
def requested (options : BitVec 32) (rest : List TraceOption) : List TraceOption :=
  rest.filter fun o => decide (options &&& o.flag ≠ 0)

/-- The chain of `if`s, as a function of what is asked for. The induction is over the options to
    come, with the mask so far as it is. -/
theorem ptraceOptions_eq {cfg : TraceConfig} (hcfg : ∀ o, cfg.haveOption o = true)
    (options : BitVec 32) (rest : List TraceOption) (mask : BitVec 32) :
    ptraceOptions cfg options rest mask
      = some (mask ||| orOf TraceOption.ptraceO (requested options rest)) := by
  induction rest generalizing mask with
  | nil =>
    rw [ptraceOptions, requested, List.filter_nil, orOf, List.foldr_nil]
    exact congrArg some BitVec.or_zero.symm
  | cons o rest ih =>
    by_cases hreq : options &&& o.flag ≠ 0
    · have hcons : requested options (o :: rest) = o :: requested options rest :=
        List.filter_cons_of_pos (decide_eq_true hreq)
      rw [ptraceOptions, if_pos hreq, if_pos (hcfg o), ih, hcons, BitVec.or_assoc]
      rfl
    · have hcons : requested options (o :: rest) = requested options rest :=
        List.filter_cons_of_neg (by simpa using hreq)
      rw [ptraceOptions, if_neg hreq, ih, hcons]

/-- Of an OR of flags, just the flags that went into it are translated. -/
theorem ptraceOptions_orOf {cfg : TraceConfig} (hcfg : ∀ o, cfg.haveOption o = true)
    (opts : List TraceOption) :
    ptraceOptions cfg (orOf TraceOption.flag opts) TraceOption.all 0
      = some (orOf TraceOption.ptraceO opts) := by
  have hmem : ∀ o, o ∈ requested (orOf TraceOption.flag opts) TraceOption.all ↔ o ∈ opts := by
    intro o
    rw [requested, List.mem_filter, decide_eq_true_eq, orOf_flag_requested]
    exact ⟨And.right, fun h => ⟨o.mem_all, h⟩⟩
  rw [ptraceOptions_eq hcfg, orOf_congr hmem fun _ _ => rfl]
  exact congrArg some BitVec.zero_or

theorem orOf_ptraceO_eq_flag (opts : List TraceOption) :
    orOf TraceOption.ptraceO opts = orOf TraceOption.flag opts ↔ .exitkill ∉ opts := by
  constructor
  · intro heq hmem
    have hbit : (orOf TraceOption.flag opts).getLsbD TraceOption.exitkill.bit = true :=
      (getLsbD_orOf _ _ _).mpr ⟨_, hmem, (TraceOption.flag_getLsbD _ _).mpr rfl⟩
    rw [← heq, getLsbD_orOf] at hbit
    obtain ⟨o, -, ho⟩ := hbit
    rw [TraceOption.ptraceO_getLsbD_exitkill] at ho
    exact absurd ho (by decide)
  · intro hmem
    refine orOf_congr (fun _ => Iff.rfl) fun o ho => TraceOption.ptraceO_eq_flag ?_
    rintro rfl
    exact hmem ho

/-! ## What the kernel is handed -/

/-- An `int` of options means the same to both calls: they hand the kernel one mask, and it has
    the kernel's flag of every option that was asked for. The second half matters: two calls might
    agree on a mask that says something else. -/
def SameOptions (cfg : TraceConfig) (fails : PtraceCall arch → Option Errno) (pid : Int)
    (options : BitVec 32) : Prop :=
  ∃ mask : BitVec 32,
    (pinkTraceSetup cfg fails pid options).2 = [⟨.setoptions, pid, 0, mask.signExtend _⟩] ∧
    (pinkTraceSeize cfg fails pid options).2 = [⟨.seize, pid, 0, mask.signExtend _⟩] ∧
    ∀ o : TraceOption, options &&& o.flag ≠ 0 → mask &&& o.ptraceO = o.ptraceO

theorem pinkPtraceCall_calls (fails : PtraceCall arch → Option Errno) (c : PtraceCall arch) :
    (pinkPtraceCall fails c).2 = [c] := by
  unfold pinkPtraceCall
  split
  · rfl
  · rfl

theorem signExtend_inj {m m' : BitVec 32}
    (h : m.signExtend arch.longBits = m'.signExtend arch.longBits) : m = m' := by
  have hwide : 32 ≤ arch.longBits := by
    cases arch <;> decide
  apply BitVec.eq_of_toInt_eq
  rw [← BitVec.toInt_signExtend_of_le hwide, h, BitVec.toInt_signExtend_of_le hwide]

section

variable {cfg : TraceConfig} (hcfg : cfg.Complete) (fails : PtraceCall arch → Option Errno)
  (pid : Int)

include hcfg

theorem pinkTraceSetup_calls (opts : List TraceOption) :
    (pinkTraceSetup cfg fails pid (orOf TraceOption.flag opts)).2
      = [⟨.setoptions, pid, 0, (orOf TraceOption.ptraceO opts).signExtend _⟩] := by
  simp only [pinkTraceSetup, hcfg.setup, if_true, ptraceOptions_orOf hcfg.option]
  exact pinkPtraceCall_calls fails _

theorem pinkTraceSeize_calls (options : BitVec 32) :
    (pinkTraceSeize cfg fails pid options).2
      = [⟨.seize, pid, 0, options.signExtend _⟩] := by
  simp only [pinkTraceSeize, hcfg.seize, if_true]
  exact pinkPtraceCall_calls fails _

theorem sameOptions_orOf (opts : List TraceOption) :
    SameOptions cfg fails pid (orOf TraceOption.flag opts) ↔ .exitkill ∉ opts := by
  rw [← orOf_ptraceO_eq_flag]
  constructor
  · rintro ⟨mask, hsetup, hseize, -⟩
    rw [pinkTraceSetup_calls hcfg] at hsetup
    rw [pinkTraceSeize_calls hcfg] at hseize
    have hset := signExtend_inj (congrArg PtraceCall.data (List.singleton_inj.mp hsetup))
    have hsei := signExtend_inj (congrArg PtraceCall.data (List.singleton_inj.mp hseize))
    rw [hset, hsei]
  · intro heq
    refine ⟨orOf TraceOption.ptraceO opts, pinkTraceSetup_calls hcfg fails pid opts, ?_, ?_⟩
    · rw [pinkTraceSeize_calls hcfg, heq]
    · intro o hreq
      exact orOf_and_flag _ ((orOf_flag_requested opts o).mp hreq)

end

/-- **The two ways to set options agree exactly on options without `PINK_TRACE_OPTION_EXITKILL`.**
    The options are combinations of the library's own: a bit that is none of them is dropped by
    `pink_trace_setup` and passed on by `pink_trace_seize`. -/
theorem sameOptions_iff (cfg : TraceConfig) (hcfg : cfg.Complete)
    (fails : PtraceCall arch → Option Errno) (pid : Int) (options : BitVec 32)
    (hoptions : ∃ opts, options = orOf TraceOption.flag opts) :
    SameOptions cfg fails pid options ↔ options &&& TraceOption.exitkill.flag = 0 := by
  obtain ⟨opts, rfl⟩ := hoptions
  rw [sameOptions_orOf hcfg, ← orOf_flag_requested, Decidable.not_not]

def completeConfig : TraceConfig := ⟨true, true, fun _ => true⟩

theorem fork_exec_options_agree :
    @SameOptions .x86_64 completeConfig (fun _ => none) 1 0x12 :=
  (sameOptions_iff completeConfig ⟨rfl, rfl, fun _ => rfl⟩ (fun _ => none) 1 0x12
    ⟨[.fork, .exec], by decide⟩).mpr (by decide)

/-- `PINK_TRACE_OPTION_EXITKILL` alone: `pink_trace_setup` asks for `PTRACE_O_EXITKILL`, and
    `pink_trace_seize` for a flag that is none of the nine. -/
theorem exitkill_option_disagrees :
    (∃ opts, (0x100 : BitVec 32) = orOf TraceOption.flag opts) ∧
      ¬@SameOptions .x86_64 completeConfig (fun _ => none) 1 0x100 := by
  refine ⟨⟨[.exitkill], by decide⟩, ?_⟩
  rintro ⟨mask, hsetup, hseize, -⟩
  have hset := congrArg PtraceCall.data (List.singleton_inj.mp hsetup)
  have hsei := congrArg PtraceCall.data (List.singleton_inj.mp hseize)
  exact absurd (hset.trans hsei.symm) (by decide)

end PinkTrace
