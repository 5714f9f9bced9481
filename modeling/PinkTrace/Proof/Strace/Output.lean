import PinkTrace.Proof.Strace.Execve
import PinkTrace.Proof.Strace.Phase

/-!
# The output of a run

As long as no signal is there for the child, tracer and child are in step, and a run can be told
from the child's side: a call is printed from the registers and the memory the child enters it
with, its result from the registers it leaves it with.

## Which calls have a text

Not every call does. `ShownCall` says which ones are printed and as what, from the child alone; the
calls that it has no case for are

* a `socketcall` whose number has no name, and a `bind` or a `connect` that is one. With these the
  tracer does something undefined (`Faults`);
* a `bind` or a `connect` that is neither without an address nor read through attach, and one whose
  path has no end;
* an `execve` where something is at address zero, but not a string and an array of strings behind
  it.

That a child makes none of these is a hypothesis of the main result, `Scene.Tells`, and so is a
library that can fill a regset at all: where it cannot, every stop is reported as an error, and
what is printed are the registers from before the first one.

## Why the texts are parts of a scene

`Scene.text` could be computed from the stop and the child at it. It is given instead, with a
relation that says what it may be, since a text is the result of a search through the child's
memory (`HoldsArguments`) that only the relation can name without doing it.
-/

set_option autoImplicit false

namespace PinkTrace

open Lib

/-! ## What is printed of a stop -/

section

variable (regsConfig : RegsConfig) (view : View)

def View.abi : Abi .x86_64 := view.tracee.abi regsConfig

/-- The number of the system call. -/
def View.sysnum : Addr .x86_64 :=
  sysnumOf (view.abi regsConfig) (view.tracee.regs .origRax)

/-- …and its name. -/
def View.sysname : Option (Option String) :=
  pinkNameSyscall .x86_64 (view.sysnum regsConfig) (view.abi regsConfig).index

def View.arg (i : Fin pinkMaxArgs) : Addr .x86_64 :=
  argVal (view.abi regsConfig) view.tracee.regs i

/-- The text for a system call that the child is about to do. The cases are those of the choice of
    a decoder in `handle_syscall`, and within one those of the decoder that end in a text. -/
inductive ShownCall (fuel : Nat) : List Out → Prop
  | unnamed (h : view.sysname regsConfig = some none) :
      ShownCall fuel [.text (toString (view.sysnum regsConfig).toInt ++ "()")]
  | named {name : String} (h : view.sysname regsConfig = some (some name))
      (hname : name ∉ ["open", "execve", "socketcall", "bind", "connect"]) :
      ShownCall fuel [.text (name ++ "()")]
  | opens (h : view.sysname regsConfig = some (some "open")) : ShownCall fuel []
  | execve (h : view.sysname regsConfig = some (some "execve"))
      (hzero : ZeroUnreadable view.kernel) : ShownCall fuel []
  | execveZero {ps : List Nat} (h : view.sysname regsConfig = some (some "execve"))
      (hK : Attached view.kernel) (hzero : HoldsString view.kernel view.mem 0)
      (hargs : HoldsArguments view.kernel view.mem (view.abi regsConfig)
        (view.arg regsConfig 1) ps)
      (hne : ps ≠ []) (hlen : ps.length < 2 ^ 32) (hfuel : ps.length ≤ fuel) :
      ShownCall fuel ([.text "execve(\"", .chars (stringAt view.mem 0), .text "\", ["] ++
        (argumentsText "" (shownArguments (stringAt view.mem 0)
          (ps.tail.map fun p => stringAt view.mem (BitVec.ofNat _ p))) ++
            [.text "], envp[])"]))
  | subcall {subname : String} (h : view.sysname regsConfig = some (some "socketcall"))
      (hother : view.arg regsConfig 0 ∉ [-1, 2, 3])
      (hsub : pinkNameSocketSubcall ((view.arg regsConfig 0).setWidth 32).toInt = some subname) :
      ShownCall fuel (if subname = "bind" ∨ subname = "connect" then []
        else [.text (subname ++ "()")])
  | unreadable {name : String} {i : Nat} (h : view.sysname regsConfig = some (some name))
      (hname : name = "bind" ∨ name = "connect") (haddr : view.arg regsConfig 1 ≠ 0)
      (hK : Attached view.kernel) (hi : i < addressLength (view.arg regsConfig 2).toNat)
      (hr : view.kernel.readable
        (ahead (setupAddr (view.abi regsConfig) (view.arg regsConfig 1)) i) = false) :
      ShownCall fuel []
  | null {name : String} (h : view.sysname regsConfig = some (some name))
      (hname : name = "bind" ∨ name = "connect") (hnull : view.arg regsConfig 1 = 0) :
      ShownCall fuel (addressText name (view.arg regsConfig 0) [.text "NULL"] 0)
  | address {name : String} {len : Nat} {text : List Out}
      (h : view.sysname regsConfig = some (some name))
      (hname : name = "bind" ∨ name = "connect") (haddr : view.arg regsConfig 1 ≠ 0)
      (hlen : len = addressLength (view.arg regsConfig 2).toNat) (hK : Attached view.kernel)
      (hr : ∀ i, i < len → view.kernel.readable
        (ahead (setupAddr (view.abi regsConfig) (view.arg regsConfig 1)) i) = true)
      (htext :
        let u := addressBytes view.mem (view.abi regsConfig) (view.arg regsConfig 1) len
        printSockaddr ⟨leLoad u 0 2, len, u⟩ = some text) :
      ShownCall fuel (addressText name (view.arg regsConfig 0) text len)

/-- The text for a stop without a signal. That of an entry is the call, that of an exit the
    result, and at an `exec` nothing is printed. -/
inductive ShownStop (fuel : Nat) : Stop → List Out → Prop
  | enter {text : List Out} (h : ShownCall regsConfig view fuel text) :
      ShownStop fuel .enter text
  | leave : ShownStop fuel .leave ([.text " "] ++ resultText (view.abi regsConfig)
      (resultVal (view.abi regsConfig) view.tracee.regs) ++ [.text "\n"])
  | exec : ShownStop fuel .exec []

end

/-! ## One stop -/

variable {regsConfig : RegsConfig} {view : View} {fuel : Nat}

@[simp] theorem stdout_append (out out' : List Out) :
    stdout (out ++ out') = stdout out ++ stdout out' := List.filter_append ..

theorem stdout_argumentsText (sep : String) (strs : List (List UInt8)) :
    stdout (argumentsText sep strs) = argumentsText sep strs := by
  induction strs generalizing sep with
  | nil => rfl
  | cons str strs ih =>
    rw [argumentsText, stdout_append, ih]
    rfl

theorem stdout_printSockaddr {sockaddr : PinkSockaddr} {text : List Out}
    (h : printSockaddr sockaddr = some text) : stdout text = text := by
  have hpath : ∀ {path : Option (List UInt8)} {quote : String},
      (do
        let path ← path
        some [Out.text "\x7bsa_family=AF_UNIX, path=", .text quote, .chars path, .text "\"\x7d"]) =
        some text → stdout text = text := by
    intro path quote hdo
    obtain ⟨str, -, hdo⟩ := Option.bind_eq_some_iff.mp hdo
    cases hdo
    rfl
  unfold printSockaddr at h
  dsimp only at h
  split at h
  · cases h; rfl
  split at h
  · split at h
    · exact hpath h
    · exact hpath h
  split at h
  · cases h; rfl
  split at h
  · cases h; rfl
  split at h
  · cases h; rfl
  · cases h; rfl

theorem stdout_resultText (abi : Abi .x86_64) (val : Addr .x86_64) :
    stdout (resultText abi val) = resultText abi val := by
  unfold resultText
  dsimp only
  split <;> rfl

/-- The regset of a child that is there shows its registers, if the library can fill it. The old
    regset does not matter. -/
theorem processUpdate_alive (fills : regsConfig.fills = true) {t : X86Tracee}
    (alive : t.err = none) (proc : Process) :
    ∃ regs, processUpdate regsConfig t proc =
        ({ proc with regs, abi := t.abi regsConfig }, []) ∧
      Shows regs (t.abi regsConfig) t.regs := by
  obtain ⟨regs, hfill, hshows⟩ := pinkRegsetFill_shows regsConfig fills alive proc.regs
  refine ⟨regs, ?_, hshows⟩
  rw [processUpdate, hfill]
  exact congrArg (fun abi => ({ proc with regs, abi }, [])) hshows.detected

theorem decodeSyscall_address {K : Kernel .x86_64} {junk : Junk} {regs : X86Regset}
    {name : String} (hname : name = "bind" ∨ name = "connect") (s : State .x86_64) :
    name ≠ "socketcall" ∧ decodeSyscall fuel K junk regs name s =
      decodeSocketcall fuel K junk regs name s := by
  rcases hname with rfl | rfl
  · exact ⟨by decide, rfl⟩
  · exact ⟨by decide, rfl⟩

/-- The number of a subcall is the first argument, whatever the call. `pink_read_socket_subcall`
    is asked to decode, and reads a register all the same. -/
theorem decodeSocketcall_multiplexed {K : Kernel .x86_64} {junk : Junk} {regs : X86Regset}
    {abi : Abi .x86_64} {file : X86Reg → BitVec 64} (h : Shows regs abi file)
    (s : State .x86_64) :
    decodeSocketcall fuel K junk regs "socketcall" s =
      (if argVal abi file 0 = -1 ∨ argVal abi file 0 = 2 ∨ argVal abi file 0 = 3 then
        decodeAddress fuel K junk regs "socketcall" (argVal abi file 0) s
      else do
        let subname ← pinkNameSocketSubcall ((argVal abi file 0).setWidth 32).toInt
        if subname = "bind" ∨ subname = "connect" then some ([], s)
        else some ([.text (subname ++ "()")], s)) := by
  rw [decodeSocketcall, if_pos rfl, readArgument_ok h (by decide)]
  rfl

theorem stdout_addressText {text : List Out} (h : stdout text = text) (scname : String)
    (fd : Addr .x86_64) (len : Nat) :
    stdout (addressText scname fd text len) = addressText scname fd text len := by
  rw [addressText, stdout_append, stdout_append, h]
  rfl

/-- A decoder prints the text for the call. What it prints on the standard error is not part of
    the text. -/
theorem ShownCall.decode {regs : X86Regset} {text : List Out}
    (h : ShownCall regsConfig view fuel text) (hf : pathMax < fuel)
    (hshows : Shows regs (view.abi regsConfig) view.tracee.regs) {s : State .x86_64}
    (hmem : s.mem = view.mem) {name : String}
    (hname : view.sysname regsConfig = some (some name)) :
    ∃ out st, decodeSyscall fuel view.kernel view.junk regs name s = some (out, st) ∧
      stdout out = text := by
  -- one case for each decoder; the lemma about it gives what is printed, and on which stream
  cases h with
  | unnamed h =>
    rw [h] at hname
    cases hname
  | named h hplain =>
    rw [h] at hname
    cases hname
    simp only [List.mem_cons, List.not_mem_nil, or_false, not_or] at hplain
    obtain ⟨hopen, hexecve, hsocketcall, hbind, hconnect⟩ := hplain
    refine ⟨[.text (name ++ "()")], s, ?_, rfl⟩
    rw [decodeSyscall, if_neg hopen, if_neg hexecve,
      if_neg (by simp [hsocketcall, hbind, hconnect])]
  | opens h =>
    rw [h] at hname
    cases hname
    obtain ⟨what, n, st, hrun⟩ := decodeOpen_silent hshows view.kernel view.junk s hf
    exact ⟨_, st, hrun, rfl⟩
  | execve h hzero =>
    rw [h] at hname
    cases hname
    obtain ⟨what, n, st, hrun⟩ := decodeExecve_silent hshows hzero view.junk s hf
    exact ⟨_, st, hrun, rfl⟩
  | execveZero h hK hzero hargs hne hlen hfuel =>
    rw [h] at hname
    cases hname
    rw [← hmem] at hzero hargs ⊢
    obtain ⟨st, hrun⟩ := decodeExecve_arguments hshows hK hzero hargs hne hlen hf hfuel view.junk
    refine ⟨_, st, hrun, ?_⟩
    rw [stdout_append, stdout_append, stdout_argumentsText]
    rfl
  | subcall h hother hsub =>
    rw [h] at hname
    cases hname
    have hother : ¬ (argVal (view.abi regsConfig) view.tracee.regs 0 = -1 ∨
        argVal (view.abi regsConfig) view.tracee.regs 0 = 2 ∨
        argVal (view.abi regsConfig) view.tracee.regs 0 = 3) := by
      simpa [View.arg] using hother
    have hdecode : decodeSyscall fuel view.kernel view.junk regs "socketcall" s =
        decodeSocketcall fuel view.kernel view.junk regs "socketcall" s := rfl
    unfold View.arg at hsub
    rw [hdecode, decodeSocketcall_multiplexed hshows, if_neg hother, hsub]
    simp only [Option.bind_eq_bind, Option.bind_some]
    split
    · exact ⟨_, _, rfl, rfl⟩
    · exact ⟨_, _, rfl, rfl⟩
  | unreadable h hcall haddr hK hi hr =>
    rw [h] at hname
    cases hname
    obtain ⟨hne, hdecode⟩ := decodeSyscall_address hcall s
    obtain ⟨what, n, st, hrun⟩ :=
      decodeSocketcall_unreadable hshows hne haddr hK hi hr view.junk s
    exact ⟨_, st, hdecode.trans hrun, rfl⟩
  | null h hcall hnull =>
    rw [h] at hname
    cases hname
    obtain ⟨hne, hdecode⟩ := decodeSyscall_address hcall s
    exact ⟨_, s, hdecode.trans (decodeSocketcall_null hshows hne hnull view.junk s),
      stdout_addressText rfl ..⟩
  | address h hcall haddr hlen hK hr htext =>
    rw [h] at hname
    cases hname
    rw [← hmem] at htext
    obtain ⟨hne, hdecode⟩ := decodeSyscall_address hcall s
    obtain ⟨st, hrun⟩ :=
      decodeSocketcall_address hshows hne haddr hK s hlen hr htext view.junk
    exact ⟨_, st, hdecode.trans hrun, stdout_addressText (stdout_printSockaddr htext) ..⟩

/-- A call with a text has a name, or is one without a name that is printed as a number. -/
theorem ShownCall.sysname_cases {text : List Out} (h : ShownCall regsConfig view fuel text) :
    (view.sysname regsConfig = some none ∧
      text = [.text (toString (view.sysnum regsConfig).toInt ++ "()")]) ∨
    ∃ name, view.sysname regsConfig = some (some name) := by
  cases h with
  | unnamed h => exact Or.inl ⟨h, rfl⟩
  | named h _ | opens h | execve h _ | execveZero h _ _ _ _ _ _ | subcall h _ _
  | unreadable h _ _ _ _ _ | null h _ _ | address h _ _ _ _ _ _ => exact Or.inr ⟨_, h⟩

/-- The stop at which a call is entered… -/
theorem ShownCall.handle {text : List Out} (h : ShownCall regsConfig view fuel text)
    (hf : pathMax < fuel) (proc : Process)
    (hshows : Shows proc.regs (view.abi regsConfig) view.tracee.regs)
    (habi : proc.abi = view.abi regsConfig) (hin : proc.insyscall = false) (s : State .x86_64)
    (hmem : s.mem = view.mem) :
    ∃ proc' out st, handleSyscall fuel view.kernel view.junk proc s = some (proc', out, st) ∧
      stdout out = text := by
  have hnum : pinkReadSyscall proc.regs = view.sysnum regsConfig := hshows.readSyscall
  have hsysname : pinkNameSyscall .x86_64 (pinkReadSyscall proc.regs) proc.abi.index =
      view.sysname regsConfig := by
    rw [hnum, habi]
    rfl
  rcases h.sysname_cases with ⟨hname, rfl⟩ | ⟨name, hname⟩
  · rw [hname] at hsysname
    refine ⟨{ proc with insyscall := true },
      [.text (toString (view.sysnum regsConfig).toInt ++ "()")], s, ?_, rfl⟩
    rw [handleSyscall, if_neg (by rw [hin]; decide)]
    simp only [hsysname]
    rw [hnum]
    rfl
  · rw [hname] at hsysname
    obtain ⟨out, st, hrun, hout⟩ := h.decode hf hshows hmem hname
    refine ⟨{ proc with insyscall := true }, out, st, ?_, hout⟩
    rw [handleSyscall, if_neg (by rw [hin]; decide)]
    simp only [hsysname, hrun, Option.map_some]

/-- …and the one at which it is left. -/
theorem handleSyscall_leave (fuel : Nat) (K : Kernel .x86_64) (junk : Junk) (proc : Process)
    {abi : Abi .x86_64} {file : X86Reg → BitVec 64} (hshows : Shows proc.regs abi file)
    (hin : proc.insyscall = true) (s : State .x86_64) :
    ∃ proc' out, handleSyscall fuel K junk proc s = some (proc', out, s) ∧
      stdout out = [.text " "] ++ resultText abi (resultVal abi file) ++ [.text "\n"] := by
  refine ⟨_, _, if_pos hin, ?_⟩
  rw [printRet_eq hshows, stdout_append, stdout_append, stdout_resultText]
  rfl

/-! ## Runs -/

/-- How a process ends. The two changes that a run of the tracer can end with. -/
inductive Ending
  | exited (code : BitVec 8)
  | killed (sig : { sig : BitVec 7 // sig ≠ 0 ∧ sig ≠ 127 }) (core : Bool)

namespace Ending

def change : Ending → Change
  | exited code => .exited code
  | killed sig core => .killed sig core

/-- What a shell would say of it. -/
def exitCode : Ending → Int
  | exited code => code.toNat
  | killed sig _ => 128 + sig.val.toNat

/-- What the tracer prints about it. -/
def text (pid : Int) : Ending → List Out
  | exited code => [.text ("Child " ++ toString pid ++ " exited normally with return code " ++
      toString (code.toNat : Int) ++ "\n")]
  | killed sig _ => [.text ("Child " ++ toString pid ++ " exited with signal " ++
      toString (sig.val.toNat : Int) ++ "\n")]

end Ending

/-- A stop, the child at it, and a text. The text is what the tracer is to print there. -/
structure Scene where
  stop : Stop
  view : View
  text : List Out

/-- The child is there, and the text is the one for the stop. A scene with a signal has none, nor
    has one with a call that `ShownCall` leaves out. -/
structure Scene.Tells (regsConfig : RegsConfig) (fuel : Nat) (scene : Scene) : Prop where
  alive : scene.view.tracee.err = none
  shown : ShownStop regsConfig scene.view fuel scene.stop scene.text

/-- What a child stops for, from its first resume on. The stops are in an order in which
    `ptrace(2)` can make them. -/
structure Life where
  scenes : List Scene
  phases : ∃ b, inside (scenes.map Scene.stop) = some b

/-- The child lives that life, as long as it is resumed without a signal. -/
def Env.Lives (env : Env) (life : Life) : Prop :=
  ∀ (n : Nat) (scene : Scene), life.scenes[n]? = some scene →
    env.after n = .waited scene.stop.change.status scene.view

/-- The first line. -/
def bannerText (env : Env) (begin : Start) : List Out :=
  [.text ("Child " ++ toString env.pid ++ " runs in ABI:" ++
    toString (begin.tracee.abi env.regsConfig).index ++ "\n")]

/-- The variables after `n` stops. The flag is where the child is, which is what makes the next
    stop be taken for what it is. -/
structure Printed (env : Env) (begin : Start) (life : Life) (n : Nat) (v : StraceVars) :
    Prop where
  sig : v.sig = 0
  resumed : v.resumed = List.replicate n 0
  pid : v.proc.pid = env.pid
  flag : inside ((life.scenes.take n).map Scene.stop) = some v.proc.insyscall
  out : stdout v.out = bannerText env begin ++ (life.scenes.take n).flatMap Scene.text

variable {env : Env} {begin : Start} {life : Life} {n : Nat} {v : StraceVars}

theorem straceBody_syscall {status : BitVec 32} {proc proc' : Process} {out out' : List Out}
    {st : State .x86_64} (hreply : env.reply (v.resumed ++ [v.sig]) = .waited status view)
    (hended : ¬ wifexited status = true ∧ ¬ wifsignaled status = true)
    (hevent : pinkEventDecide status = 0)
    (hupdate : processUpdate env.regsConfig view.tracee v.proc = (proc, out))
    (hhandle : handleSyscall fuel view.kernel view.junk proc { v.st with mem := view.mem } =
      some (proc', out', st)) :
    straceBody fuel env v = .again ⟨proc', 0, v.resumed ++ [v.sig], st, v.out ++ out ++ out'⟩ := by
  simp only [straceBody, hreply, if_neg hended.1, if_neg hended.2, if_pos hevent, hupdate, hhandle]

theorem straceBody_exec {status : BitVec 32} {proc : Process} {out : List Out}
    (hreply : env.reply (v.resumed ++ [v.sig]) = .waited status view)
    (hended : ¬ wifexited status = true ∧ ¬ wifsignaled status = true)
    (hevent : pinkEventDecide status = 4)
    (hupdate : processUpdate env.regsConfig view.tracee v.proc = (proc, out)) :
    straceBody fuel env v = .again ⟨proc, 0, v.resumed ++ [v.sig], v.st, v.out ++ out⟩ := by
  have hzero : ¬ pinkEventDecide status = 0 := by
    rw [hevent]
    decide
  simp only [straceBody, hreply, if_neg hended.1, if_neg hended.2, if_neg hzero, if_pos hevent,
    hupdate]

/-- The last pass, at which the child is not looked at any more. -/
theorem straceBody_ending {e : Ending}
    (hreply : env.reply (v.resumed ++ [v.sig]) = .waited e.change.status view) :
    straceBody fuel env v =
      .done ⟨e.exitCode, v.out ++ e.text v.proc.pid, v.resumed ++ [v.sig], []⟩ := by
  cases e with
  | exited code =>
    obtain ⟨hexited, hcode⟩ := wifexited_exited code
    have hint : (wexitstatus (Ending.exited code).change.status).toInt = code.toNat := by
      rw [Ending.change, BitVec.toInt_eq_toNat_of_lt (by rw [hcode]; omega), hcode]
    have hexited : wifexited (Ending.exited code).change.status = true := hexited
    simp only [straceBody, hreply, if_pos hexited, hint]
    rfl
  | killed sig core =>
    obtain ⟨hexited, hsignaled, hterm⟩ := wifsignaled_killed sig core
    have hint : (wtermsig (Ending.killed sig core).change.status).toInt = sig.val.toNat := by
      rw [Ending.change, BitVec.toInt_eq_toNat_of_lt (by rw [hterm]; omega), hterm]
    have hexited : ¬ wifexited (Ending.killed sig core).change.status = true := hexited
    have hsignaled : wifsignaled (Ending.killed sig core).change.status = true := hsignaled
    simp only [straceBody, hreply, if_neg hexited, if_pos hsignaled, hint]
    rfl

theorem Printed.start (fills : env.regsConfig.fills = true) (alive : begin.tracee.err = none)
    (life : Life) : Printed env begin life 0 (straceStart env begin) := by
  obtain ⟨regs, hupdate, -⟩ := processUpdate_alive fills alive
    ⟨env.pid, begin.abi, false, pinkRegsetZero⟩
  rw [straceStart, hupdate]
  exact ⟨rfl, rfl, rfl, rfl, rfl⟩

theorem Stop.not_ended (stop : Stop) : ¬ wifexited stop.change.status = true ∧
    ¬ wifsignaled stop.change.status = true := by
  cases stop <;> exact not_ended_stopped _ _

theorem Printed.reply (hv : Printed env begin life n v) :
    env.reply (v.resumed ++ [v.sig]) = env.after n := by
  rw [Env.after, List.replicate_succ', ← hv.resumed, ← hv.sig]

theorem Life.take_succ {scene : Scene} (hscene : life.scenes[n]? = some scene) :
    life.scenes.take (n + 1) = life.scenes.take n ++ [scene] := by
  rw [List.take_add_one, hscene, Option.toList_some]

/-- The stops of a process come in order. -/
theorem Printed.next {scene : Scene} (hv : Printed env begin life n v)
    (hscene : life.scenes[n]? = some scene) :
    ∃ b, scene.stop.next v.proc.insyscall = some b := by
  obtain ⟨b, hall⟩ := life.phases
  rw [← List.take_append_drop (n + 1) life.scenes, List.map_append, inside_append,
    Life.take_succ hscene, List.map_append, List.map_singleton, inside_concat, hv.flag] at hall
  obtain ⟨b', hb', -⟩ := Option.bind_eq_some_iff.mp hall
  exact ⟨b', hb'⟩

/-- What a pass has to leave behind. The cases of the step lemma differ in the flag and the text,
    and all end here. -/
theorem Printed.succ {scene : Scene} {v' : StraceVars} (hv : Printed env begin life n v)
    (hscene : life.scenes[n]? = some scene) (hsig : v'.sig = 0)
    (hresumed : v'.resumed = v.resumed ++ [v.sig]) (hpid : v'.proc.pid = v.proc.pid)
    (hflag : scene.stop.next v.proc.insyscall = some v'.proc.insyscall)
    (hout : stdout v'.out = stdout v.out ++ scene.text) : Printed env begin life (n + 1) v' where
  sig := hsig
  resumed := by rw [hresumed, hv.resumed, hv.sig, List.replicate_succ']
  pid := hpid.trans hv.pid
  flag := by
    rw [Life.take_succ hscene, List.map_append, List.map_singleton, inside_concat, hv.flag]
    exact hflag
  out := by
    rw [hout, hv.out, Life.take_succ hscene, List.flatMap_append, List.append_assoc]
    simp

/-- The step lemma: each stop puts its text behind what was printed. The cases are those of the
    stop; the flag tells the tracer which one it is. -/
theorem Printed.again (fills : env.regsConfig.fills = true) (hlives : env.Lives life)
    (htells : ∀ scene ∈ life.scenes, scene.Tells env.regsConfig fuel) (hf : pathMax < fuel)
    (hv : Printed env begin life n v) (hn : n < life.scenes.length) :
    ∃ v', straceBody fuel env v = .again v' ∧ Printed env begin life (n + 1) v' := by
  obtain ⟨scene, hscene⟩ : ∃ scene, life.scenes[n]? = some scene :=
    ⟨life.scenes[n], List.getElem?_eq_getElem hn⟩
  have hreply := hv.reply.trans (hlives n scene hscene)
  obtain ⟨b, hnext⟩ := hv.next hscene
  obtain ⟨alive, shown⟩ := htells scene (List.mem_of_getElem? hscene)
  obtain ⟨stop, view, text⟩ := scene
  have shown : ShownStop env.regsConfig view fuel stop text := shown
  obtain ⟨regs, hupdate, hshows⟩ := processUpdate_alive fills alive v.proc
  -- the process as `handle_syscall` is given it
  let proc : Process := { v.proc with regs, abi := view.tracee.abi env.regsConfig }
  have hevent := Stop.event_eq_zero_iff stop
  cases shown with
  | enter hcall =>
    have hin := Stop.eq_of_next_enter hnext
    obtain ⟨proc', out, st, hhandle, hout⟩ :=
      hcall.handle hf proc hshows rfl hin { v.st with mem := view.mem } rfl
    have hproc := handleSyscall_proc hhandle
    refine ⟨_, straceBody_syscall hreply (Stop.not_ended _) (hevent.mpr (by decide)) hupdate
      hhandle, hv.succ hscene rfl rfl (by rw [hproc]) ?_ ?_⟩
    · rw [hproc, hin]
      rfl
    · simp [hout]
  | leave =>
    have hin := Stop.eq_of_next_leave hnext
    obtain ⟨proc', out, hhandle, hout⟩ := handleSyscall_leave fuel view.kernel view.junk proc hshows
      hin { v.st with mem := view.mem }
    have hproc := handleSyscall_proc hhandle
    refine ⟨_, straceBody_syscall hreply (Stop.not_ended _) (hevent.mpr (by decide)) hupdate
      hhandle, hv.succ hscene rfl rfl (by rw [hproc]) ?_ ?_⟩
    · rw [hproc, hin]
      rfl
    · rw [stdout_append, stdout_append, hout, List.append_assoc]
      rfl
  | exec =>
    have hin := Stop.eq_of_next_exec hnext
    refine ⟨_, straceBody_exec hreply (Stop.not_ended _) (pinkEventDecide_status _) hupdate,
      hv.succ hscene rfl rfl rfl ?_ ?_⟩
    · exact (congrArg (Stop.next · .exec) hin).trans (congrArg some hin.symm)
    · rw [stdout_append]
      rfl

/-- What is left of a run that printed a life, and how it ended. Only the standard output is
    described: what is reported as an error depends on the paths taken. -/
structure PrintsLife (env : Env) (begin : Start) (life : Life) (ending : Ending)
    (ret : StraceRet) : Prop where
  exitCode : ret.exitCode = ending.exitCode
  out : stdout ret.out = bannerText env begin ++ life.scenes.flatMap Scene.text ++
    ending.text env.pid
  resumed : ret.resumed = List.replicate (life.scenes.length + 1) 0
  kills : ret.kills = []

theorem Printed.ending {ending : Ending} {view : View}
    (hends : env.after life.scenes.length = .waited ending.change.status view)
    (hv : Printed env begin life life.scenes.length v) :
    ∃ ret, straceBody fuel env v = .done ret ∧ PrintsLife env begin life ending ret := by
  have htext : stdout (ending.text env.pid) = ending.text env.pid := by
    cases ending <;> rfl
  refine ⟨_, straceBody_ending (hv.reply.trans hends), rfl, ?_, ?_, rfl⟩
  · rw [stdout_append, hv.out, hv.pid, htext, List.take_length]
  · rw [hv.resumed, hv.sig, List.replicate_succ']

theorem strace_of_setup {passes : Nat} {cfg : TraceConfig}
    {fails : PtraceCall .x86_64 → Option Errno}
    (hsetup : (pinkTraceSetup cfg fails env.pid straceOptions).1 = .ok ())
    (haveTkill haveTgkill : Bool) (killFails : KillCall → Option Errno) :
    strace fuel passes cfg haveTkill haveTgkill fails killFails env begin =
      run (straceBody fuel env) passes (straceStart env begin) := by
  rw [strace]
  split
  · rename_i hset
    rw [hset] at hsetup
    cases hsetup
  · rfl

/-- **A run prints the child's life.** For a child that no signal is sent to and whose calls all
    have a text, the tracer ends with the child's exit code, or 128 and the signal that killed it.
    It has printed, between a first line and a last, for each system call that was entered the text
    for it, and for each that was left the text for its result. -/
theorem strace_prints_life {ending : Ending} (fills : env.regsConfig.fills = true)
    (hlives : env.Lives life) (htells : ∀ scene ∈ life.scenes, scene.Tells env.regsConfig fuel)
    (hends : env.after life.scenes.length = .waited ending.change.status view)
    (alive : begin.tracee.err = none) (hf : pathMax < fuel) {passes : Nat}
    (hpasses : life.scenes.length < passes) (cfg : TraceConfig)
    (fails : PtraceCall .x86_64 → Option Errno)
    (hsetup : (pinkTraceSetup cfg fails env.pid straceOptions).1 = .ok ())
    (haveTkill haveTgkill : Bool) (killFails : KillCall → Option Errno) :
    ∃ ret, strace fuel passes cfg haveTkill haveTgkill fails killFails env begin = some ret ∧
      PrintsLife env begin life ending ret := by
  have hstep : ∀ v, (∃ n, n ≤ life.scenes.length ∧ Printed env begin life n v) →
      Advances (fun v => ∃ n, n ≤ life.scenes.length ∧ Printed env begin life n v)
        (fun v => life.scenes.length - v.resumed.length) (PrintsLife env begin life ending) v
        (straceBody fuel env v) := by
    rintro v ⟨n, hn, hv⟩
    rcases Nat.lt_or_eq_of_le hn with hlt | rfl
    · obtain ⟨v', hbody, hv'⟩ := hv.again fills hlives htells hf hlt
      rw [hbody]
      refine ⟨⟨n + 1, hlt, hv'⟩, ?_⟩
      simp only [hv.resumed, hv'.resumed, List.length_replicate]
      omega
    · obtain ⟨ret, hbody, hret⟩ := hv.ending hends
      rw [hbody]
      exact hret
  rw [strace_of_setup hsetup]
  exact run_of_invariant hstep ⟨0, Nat.zero_le _, Printed.start fills alive life⟩
    (Nat.lt_of_le_of_lt (Nat.sub_le ..) hpasses)

/-- A child with this system call number and this result in its registers. -/
def quietView (origRax rax : BitVec 64) : View where
  tracee := ⟨fun
    | .origRax => origRax
    | .rax => rax
    | _ => 0, false, none⟩
  kernel := (allMapped .x86_64).kernel .available .available
  mem := fun _ => 0
  junk := ⟨fun _ => 0, fun _ _ => 0, 0, 0, 0, 0, fun _ => 0⟩

theorem quietView_sysname :
    (quietView 39 0).sysname ⟨true, false⟩ = some (some "getpid") ∧
    (quietView 2 0).sysname ⟨true, false⟩ = some (some "open") ∧
    (quietView 231 0).sysname ⟨true, false⟩ = some (some "exit_group") := by decide +kernel

/-- It calls `getpid`, tries to `open` a file that is not there, and exits. -/
def quietLife : Life where
  scenes := [
    ⟨.enter, quietView 39 0, [.text "getpid()"]⟩,
    ⟨.leave, quietView 39 42, [.text " "] ++ resultText .x86_64 42 ++ [.text "\n"]⟩,
    ⟨.enter, quietView 2 0, []⟩,
    ⟨.leave, quietView 2 (-2), [.text " "] ++ resultText .x86_64 (-2) ++ [.text "\n"]⟩,
    ⟨.enter, quietView 231 0, [.text "exit_group()"]⟩]
  phases := ⟨true, rfl⟩

theorem quietLife_tells : ∀ scene ∈ quietLife.scenes, scene.Tells ⟨true, false⟩ 4097 := by
  simp only [quietLife, List.forall_mem_cons]
  exact ⟨⟨rfl, .enter (.named quietView_sysname.1 (by decide))⟩, ⟨rfl, .leave⟩,
    ⟨rfl, .enter (.opens quietView_sysname.2.1)⟩, ⟨rfl, .leave⟩,
    ⟨rfl, .enter (.named quietView_sysname.2.2 (by decide))⟩, List.forall_mem_nil _⟩

/-- The child that lives it, and exits with code 3. -/
def quietEnv : Env where
  pid := 7
  regsConfig := ⟨true, false⟩
  reply resumed :=
    match quietLife.scenes[resumed.length - 1]? with
    | some scene => .waited scene.stop.change.status scene.view
    | none => .waited (Ending.exited 3).change.status (quietView 0 0)

def quietStart : Start := ⟨(quietView 0 0).tracee, .x86_64, ⟨fun _ => 0, none, []⟩⟩

theorem quietEnv_lives : Env.Lives quietEnv quietLife := by
  intro n scene hscene
  simp only [Env.after, quietEnv, List.length_replicate, Nat.add_sub_cancel, hscene]

theorem quietLife_printed : ∃ ret,
    strace 4097 6 ⟨true, true, fun _ => true⟩ true true (fun _ => none) (fun _ => none) quietEnv
      quietStart = some ret ∧
    ret.exitCode = 3 ∧
    stdout ret.out =
      [.text "Child 7 runs in ABI:0\n", .text "getpid()", .text " ", .text "= 42", .text "\n",
        .text " ", .text "= -2 (", .strerror (-2), .text ")", .text "\n", .text "exit_group()",
        .text "Child 7 exited normally with return code 3\n"] := by
  obtain ⟨ret, hrun, hret⟩ := strace_prints_life (rfl : quietEnv.regsConfig.fills = true)
    quietEnv_lives quietLife_tells
    (rfl : quietEnv.after 5 = .waited (Ending.exited 3).change.status (quietView 0 0))
    (rfl : quietStart.tracee.err = none) (by decide) (by decide : quietLife.scenes.length < 6)
    ⟨true, true, fun _ => true⟩ (fun _ => none) rfl true true fun _ => none
  exact ⟨ret, hrun, hret.exitCode, hret.out.trans (by decide +kernel)⟩

end PinkTrace
