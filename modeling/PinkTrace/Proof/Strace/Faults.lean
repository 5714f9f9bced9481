import PinkTrace.Proof.Strace.Output
import PinkTrace.Proof.Xlat

/-!
# Where the tracer goes wrong

Signals, and `socketcall`. A signal puts the tracer out of step with its child. The number of a
`socketcall` may have no name, and the name of a `bind` or `connect` among them is not looked up
before it is printed; a run that meets one of these has no meaning any more.

## Nothing about the rest of the run

Neither result asks what the child does otherwise. What is assumed of it is the order of its stops
(`Env.Plays`), and for a `socketcall` the registers and the memory it is entered with. So the calls
before it may be ones that are printed, ones that are reported as errors, or ones that the tracer
has already come to grief over: the result is then all the more `none`.

That the run ends there and not somewhere else is a statement of its own, about the states it
reaches: the one in which the child has been resumed once for every stop before the call is left
by no pass, of whatever fuel.
-/

set_option autoImplicit false

namespace PinkTrace

open Lib

variable {fuel : Nat} {env : Env} {v : StraceVars} {view : View}

/-! ## Signals -/

/-- **The tracer passes no signal on, and each one puts it out of step.** However long a run goes
    on, the child has been resumed without a signal every time. And the tracer takes the child to
    be inside of a system call exactly if it is, as long as an even number of signals were there
    for it, and exactly if it is not after an odd number. -/
theorem strace_phase (start : Start) {stops : List Stop} (hplays : env.Plays stops)
    (hv : Reaches (straceBody fuel env) (straceStart env start) v) :
    ∃ n, v.resumed = List.replicate n 0 ∧
      (n ≤ stops.length → ∀ b, inside (stops.take n) = some b →
        (v.proc.insyscall = b ↔ (stops.take n).countP Stop.isSignal % 2 = 0)) := by
  obtain ⟨-, n, hresumed, hflag⟩ :=
    hv.invariant (straceStart_inStep env start stops) fun _ _ hv hb => hv.again hplays hb
  refine ⟨n, hresumed, fun hn b hb => ?_⟩
  rw [hflag hn b hb]
  by_cases hodd : (stops.take n).countP Stop.isSignal % 2 = 1
  · rw [decide_eq_true hodd, hodd]
    cases b <;> decide
  · rw [decide_eq_false hodd, (by omega : (stops.take n).countP Stop.isSignal % 2 = 0)]
    cases b <;> decide

/-- A stop without an event goes by, in whichever phase the tracer takes it to be. That it may be
    the wrong phase is why the text is asked for whatever the stop is. -/
theorem straceBody_goes_on {stop : Stop} {text : List Out}
    (hreply : env.reply (v.resumed ++ [v.sig]) = .waited stop.change.status view)
    (hstop : stop ≠ .exec) (fills : env.regsConfig.fills = true) (alive : view.tracee.err = none)
    (hcall : ShownCall env.regsConfig view fuel text) (hf : pathMax < fuel) :
    ∃ v', straceBody fuel env v = .again v' := by
  obtain ⟨regs, hupdate, hshows⟩ := processUpdate_alive fills alive v.proc
  let proc : Process := { v.proc with regs, abi := view.tracee.abi env.regsConfig }
  have hevent := (Stop.event_eq_zero_iff stop).mpr hstop
  cases hflag : v.proc.insyscall with
  | false =>
    obtain ⟨proc', out, st, hhandle, -⟩ :=
      hcall.handle hf proc hshows rfl hflag { v.st with mem := view.mem } rfl
    exact ⟨_, straceBody_syscall hreply stop.not_ended hevent hupdate hhandle⟩
  | true =>
    obtain ⟨proc', out, hhandle, -⟩ := handleSyscall_leave fuel view.kernel view.junk proc hshows
      hflag { v.st with mem := view.mem }
    exact ⟨_, straceBody_syscall hreply stop.not_ended hevent hupdate hhandle⟩

/-- A child that gets a signal and then calls `getpid`. -/
def signalEnv : Env where
  pid := 7
  regsConfig := ⟨true, false⟩
  reply resumed :=
    if resumed.length = 1 then .waited (Stop.signal 10).change.status (quietView 39 0)
    else .waited Stop.enter.change.status (quietView 39 0)

theorem signalEnv_plays : signalEnv.Plays [.signal 10, .enter]
  | 0, _, rfl => ⟨_, rfl⟩
  | 1, _, rfl => ⟨_, rfl⟩

theorem signalEnv_out_of_step :
    inside [.signal 10, .enter] = some true ∧
    ∃ v, Reaches (straceBody 4097 signalEnv) (straceStart signalEnv quietStart) v ∧
      v.resumed = [0, 0] ∧ v.proc.insyscall = false := by
  have hcall : ShownCall signalEnv.regsConfig (quietView 39 0) 4097 [.text "getpid()"] :=
    .named quietView_sysname.1 (by decide)
  obtain ⟨v, hv⟩ := straceBody_goes_on (v := straceStart signalEnv quietStart)
    (rfl : _ = Reply.waited (Stop.signal 10).change.status (quietView 39 0)) (by decide) rfl rfl
    hcall (by decide)
  obtain ⟨hsig, hresumed, -⟩ := straceBody_flag hv
  have hlist : v.resumed ++ [v.sig] = [0, 0] := by
    rw [hresumed, hsig]
    rfl
  have hreply : signalEnv.reply (v.resumed ++ [v.sig]) =
      .waited Stop.enter.change.status (quietView 39 0) := by
    rw [hlist]
    rfl
  obtain ⟨v', hv'⟩ := straceBody_goes_on hreply (by decide) rfl rfl hcall (by decide)
  have hreaches : Reaches (straceBody 4097 signalEnv) (straceStart signalEnv quietStart) v' :=
    .again (.again .start hv) hv'
  have hresumed' : v'.resumed = [0, 0] := (straceBody_flag hv').2.1.trans hlist
  obtain ⟨n, hn, hphase⟩ := strace_phase quietStart signalEnv_plays hreaches
  obtain rfl : n = 2 := by
    have hlen := congrArg List.length (hresumed'.symm.trans hn)
    simpa using hlen.symm
  refine ⟨rfl, v', hreaches, hresumed', ?_⟩
  have hne := mt (hphase (by decide) true rfl).mp (by decide)
  simpa using hne

/-! ## `socketcall` -/

/-- A multiplexed call whose decoder does something undefined. What it passes to `strcmp` or
    `printf` is a null pointer in the first case, and a pointer that was never assigned in the
    others. -/
inductive UndefinedCall (regsConfig : RegsConfig) (view : View) : Prop
  /-- Its number has no name. -/
  | unnamed (h : view.sysname regsConfig = some (some "socketcall"))
      (hnum : ((view.arg regsConfig 0).setWidth 32).toInt < 2 ∨
        18 < ((view.arg regsConfig 0).setWidth 32).toInt)
      (hne : view.arg regsConfig 0 ≠ -1)
  /-- It is a `bind` or a `connect`, with nothing where the decoder looks for an address… -/
  | null (h : view.sysname regsConfig = some (some "socketcall"))
      (hnum : view.arg regsConfig 0 = 2 ∨ view.arg regsConfig 0 = 3)
      (hnull : view.arg regsConfig 1 = 0)
  /-- …or with something that can be read there. -/
  | unassigned {len : Nat} (h : view.sysname regsConfig = some (some "socketcall"))
      (hnum : view.arg regsConfig 0 = 2 ∨ view.arg regsConfig 0 = 3)
      (haddr : view.arg regsConfig 1 ≠ 0)
      (hlen : len = addressLength (view.arg regsConfig 2).toNat) (hK : Attached view.kernel)
      (hr : ∀ i, i < len → view.kernel.readable
        (ahead (setupAddr (view.abi regsConfig) (view.arg regsConfig 1)) i) = true)

theorem UndefinedCall.sysname {regsConfig : RegsConfig} (h : UndefinedCall regsConfig view) :
    view.sysname regsConfig = some (some "socketcall") := by
  cases h with
  | unnamed h _ _ | null h _ _ | unassigned h _ _ _ _ _ => exact h

theorem pinkNameSocketSubcall_none {subcall : Int} (h : subcall < 2 ∨ 18 < subcall) :
    pinkNameSocketSubcall subcall = none := by
  cases hname : pinkNameSocketSubcall subcall with
  | none => rfl
  | some str =>
    have := (named_subcall_iff subcall).mp ⟨str, hname⟩
    omega

/-- Once the address is there, the decoder goes for a name that it has not looked up. -/
theorem decodeAddress_unassigned {K : Kernel .x86_64} {junk : Junk} {regs : X86Regset}
    {scname : String} {subcall : BitVec 64} {fd : Option (BitVec 32)} {sockaddr : PinkSockaddr}
    {s st : State .x86_64} (hsub : subcall = 2 ∨ subcall = 3)
    (hread : pinkReadSocketAddress fuel K regs.callRegs false 1 (some junk.fd) junk.sockaddr s =
      some ⟨0, fd, sockaddr, st⟩) :
    decodeAddress fuel K junk regs scname subcall s = none := by
  have hpos : 0 < subcall.toInt := by
    rcases hsub with rfl | rfl
    · decide
    · decide
  simp only [decodeAddress, hread, Option.bind_eq_bind, Option.bind_some]
  rw [if_neg (by decide)]
  exact if_pos hpos

/-- The decoder has no result, from any state of the tracer. -/
theorem UndefinedCall.decode {regsConfig : RegsConfig} (h : UndefinedCall regsConfig view)
    {regs : X86Regset} (hshows : Shows regs (view.abi regsConfig) view.tracee.regs)
    (fuel : Nat) (s : State .x86_64) :
    decodeSyscall fuel view.kernel view.junk regs "socketcall" s = none := by
  have hdecode : decodeSyscall fuel view.kernel view.junk regs "socketcall" s =
      decodeSocketcall fuel view.kernel view.junk regs "socketcall" s := rfl
  rw [hdecode, decodeSocketcall_multiplexed hshows]
  cases h with
  | unnamed _ hnum hne =>
    have hdirect : ¬ (view.arg regsConfig 0 = -1 ∨ view.arg regsConfig 0 = 2 ∨
        view.arg regsConfig 0 = 3) := by
      rintro (h1 | h2 | h3)
      · exact hne h1
      · rw [h2] at hnum
        revert hnum
        decide
      · rw [h3] at hnum
        revert hnum
        decide
    refine (if_neg hdirect).trans ?_
    have hnone := pinkNameSocketSubcall_none hnum
    unfold View.arg at hnone
    rw [hnone]
    rfl
  | null _ hnum hnull =>
    refine (if_pos (Or.inr hnum)).trans ?_
    exact decodeAddress_unassigned hnum (readSocketAddress_null hshows hnull ..)
  | unassigned _ hnum haddr hlen hK hr =>
    refine (if_pos (Or.inr hnum)).trans ?_
    obtain ⟨st, hread⟩ := readSocketAddress_success hshows haddr hK hlen hr fuel view.junk.fd
      view.junk.sockaddr s
    exact decodeAddress_unassigned hnum hread

theorem UndefinedCall.handle {regsConfig : RegsConfig} (h : UndefinedCall regsConfig view)
    (fuel : Nat) (proc : Process)
    (hshows : Shows proc.regs (view.abi regsConfig) view.tracee.regs)
    (habi : proc.abi = view.abi regsConfig) (hin : proc.insyscall = false)
    (s : State .x86_64) : handleSyscall fuel view.kernel view.junk proc s = none := by
  have hnum : pinkReadSyscall proc.regs = view.sysnum regsConfig := hshows.readSyscall
  have hsysname : pinkNameSyscall .x86_64 (pinkReadSyscall proc.regs) proc.abi.index =
      some (some "socketcall") := by
    rw [hnum, habi]
    exact h.sysname
  rw [handleSyscall, if_neg (by rw [hin]; decide)]
  simp only [hsysname, h.decode hshows, Option.map_none]

/-- The pass on which the child enters the call. The flag has to be down, or the tracer would take
    the stop for the end of another call. -/
theorem straceBody_undefined
    (hreply : env.reply (v.resumed ++ [v.sig]) = .waited Stop.enter.change.status view)
    (fills : env.regsConfig.fills = true) (alive : view.tracee.err = none)
    (hcall : UndefinedCall env.regsConfig view) (hin : v.proc.insyscall = false) :
    straceBody fuel env v = .undef := by
  obtain ⟨regs, hupdate, hshows⟩ := processUpdate_alive fills alive v.proc
  have hevent := (Stop.event_eq_zero_iff .enter).mpr (by decide)
  have hhandle := hcall.handle fuel
    { v.proc with regs, abi := view.tracee.abi env.regsConfig } hshows rfl hin
    { v.st with mem := view.mem }
  simp only [straceBody, hreply, if_neg (Stop.not_ended .enter).1, if_neg (Stop.not_ended .enter).2,
    if_pos hevent, hupdate, hhandle]

/-- A stop is not the end of a run, so nothing but the call itself can have ended it before. -/
theorem straceBody_ne_done {stop : Stop} {ret : StraceRet}
    (hreply : env.reply (v.resumed ++ [v.sig]) = .waited stop.change.status view) :
    straceBody fuel env v ≠ .done ret := by
  intro hdone
  simp only [straceBody, hreply, if_neg stop.not_ended.1, if_neg stop.not_ended.2] at hdone
  split at hdone
  · split at hdone <;> cases hdone
  · split at hdone <;> cases hdone

/-- Outside of a system call and after an even number of signals the flag is down. -/
theorem InStep.flag_eq_false {stops : List Stop} (hv : InStep stops v)
    (houtside : inside stops = some false) (heven : stops.countP Stop.isSignal % 2 = 0)
    (hlen : v.resumed.length = stops.length) : v.proc.insyscall = false := by
  obtain ⟨-, n, hresumed, hflag⟩ := hv
  obtain rfl : n = stops.length := by
    rw [← hlen, hresumed, List.length_replicate]
  rw [List.take_length] at hflag
  rw [hflag (Nat.le_refl _) false houtside, heven]
  rfl

/-- **A `socketcall` can end a run.** After any stops with an even number of signals among them, a
    child outside of its system calls need only enter such a call: no number of passes leads to a
    result, and a run that has come so far goes no further. -/
theorem strace_undefined_on_socketcall {begin : Start} {stops : List Stop}
    (hplays : env.Plays stops) (houtside : inside stops = some false)
    (heven : stops.countP Stop.isSignal % 2 = 0)
    (henters : env.after stops.length = .waited Stop.enter.change.status view)
    (fills : env.regsConfig.fills = true) (alive : view.tracee.err = none)
    (hcall : UndefinedCall env.regsConfig view) (cfg : TraceConfig)
    (fails : PtraceCall .x86_64 → Option Errno)
    (hsetup : (pinkTraceSetup cfg fails env.pid straceOptions).1 = .ok ())
    (haveTkill haveTgkill : Bool) (killFails : KillCall → Option Errno) (fuel : Nat) :
    (∀ passes, strace fuel passes cfg haveTkill haveTgkill fails killFails env begin = none) ∧
    ∀ v, Reaches (straceBody fuel env) (straceStart env begin) v →
      v.resumed.length = stops.length → straceBody fuel env v = .undef := by
  have hundef : ∀ v, InStep stops v → v.resumed.length = stops.length →
      straceBody fuel env v = .undef := fun v hv hlen =>
    straceBody_undefined (hv.reply.trans (hlen ▸ henters)) fills alive hcall
      (hv.flag_eq_false houtside heven hlen)
  refine ⟨fun passes => ?_, fun v hreaches hlen => hundef v ?_ hlen⟩
  · rw [strace_of_setup hsetup]
    by_contra hres
    obtain ⟨ret, hrun⟩ := Option.ne_none_iff_exists'.mp hres
    -- up to the call every pass is at a stop, and the one at the call is no pass at all
    refine run_of_reached (fun v => InStep stops v ∧ v.resumed.length ≤ stops.length)
      (fun _ => False) (fun v v' ⟨hv, hle⟩ hagain => ?_) (fun v ret ⟨hv, hle⟩ hdone => ?_)
      ⟨straceStart_inStep env begin stops, Nat.zero_le _⟩ hrun
    · refine ⟨hv.again hplays hagain, ?_⟩
      have hne : v.resumed.length ≠ stops.length := by
        intro hlen
        rw [hundef v hv hlen] at hagain
        cases hagain
      rw [(straceBody_flag hagain).2.1, List.length_append, List.length_singleton]
      omega
    · rcases Nat.lt_or_eq_of_le hle with hlt | hlen
      · obtain ⟨view', hstop⟩ := hplays _ _ (List.getElem?_eq_getElem hlt)
        exact straceBody_ne_done (hv.reply.trans hstop) hdone
      · rw [hundef v hv hlen] at hdone
        cases hdone
  · exact hreaches.invariant (straceStart_inStep env begin stops)
      fun _ _ hv hagain => hv.again hplays hagain

/-- A 32-bit child that is about to make a socket. -/
def socketView : View :=
  { quietView 0 0 with
    tracee := ⟨fun
      | .origRax => 102
      | .rbx => 1
      | _ => 0, true, none⟩ }

/-- It has called `getpid` before. -/
def socketEnv : Env where
  pid := 7
  regsConfig := ⟨true, false⟩
  reply resumed :=
    if resumed.length = 1 then .waited Stop.enter.change.status (quietView 39 0)
    else if resumed.length = 2 then .waited Stop.leave.change.status (quietView 39 42)
    else .waited Stop.enter.change.status socketView

theorem socketEnv_plays : socketEnv.Plays [.enter, .leave]
  | 0, _, rfl => ⟨_, rfl⟩
  | 1, _, rfl => ⟨_, rfl⟩

theorem socketEnv_undefined :
    socketView.sysname ⟨true, false⟩ = some (some "socketcall") ∧
    ∀ passes, strace 4097 passes ⟨true, true, fun _ => true⟩ true true (fun _ => none)
      (fun _ => none) socketEnv quietStart = none := by
  have hsysname : socketView.sysname ⟨true, false⟩ = some (some "socketcall") := by
    decide +kernel
  have hcall : UndefinedCall socketEnv.regsConfig socketView :=
    .unnamed hsysname (by decide +kernel) (by decide +kernel)
  exact ⟨hsysname, (strace_undefined_on_socketcall socketEnv_plays rfl rfl rfl rfl rfl hcall _ _
    rfl _ _ _ _).1⟩

end PinkTrace
