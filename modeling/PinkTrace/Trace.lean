import PinkTrace.Kernel

/-!
# Trace options (`trace.c`, `trace.h`)

The options of a trace are flags of the library's own, `PINK_TRACE_OPTION_*`, so that a program
need not know the kernel's. They can be given in two places: to `pink_trace_setup`, for a tracee
that is already attached, and to `pink_trace_seize`, which attaches one. Of interest is what the
kernel is handed, so both are modelled with the `ptrace` requests they make next to what they
return.

The two numberings agree in the low eight bits and part at the ninth: `PINK_TRACE_OPTION_EXITKILL`
is `1 << 8`, `PTRACE_O_EXITKILL` is `1 << 20`. `pink_trace_setup` translates one option at a time,
and `pink_trace_seize` passes the word on as it is. The model has both as they are; which options
that makes a difference for is a theorem.

The signals at the end are here because `pink_trace_kill` is in the same file. It picks the most
specific of three system calls that the host has.
-/

set_option autoImplicit false

namespace PinkTrace

/-- The options of `trace.h`. -/
inductive TraceOption
  | sysgood | fork | vfork | clone | exec | vforkDone | exit | seccomp | exitkill
  deriving DecidableEq, Repr

namespace TraceOption

/-- In the order `pink_trace_setup` asks for them. -/
def all : List TraceOption :=
  [sysgood, fork, vfork, clone, exec, vforkDone, exit, seccomp, exitkill]

/-- `PINK_TRACE_OPTION_SYSGOOD` and the others: `1 << 0` to `1 << 8`, the library's numbering. -/
def flag : TraceOption → BitVec 32
  | sysgood => 1 <<< 0
  | fork => 1 <<< 1
  | vfork => 1 <<< 2
  | clone => 1 <<< 3
  | exec => 1 <<< 4
  | vforkDone => 1 <<< 5
  | exit => 1 <<< 6
  | seccomp => 1 <<< 7
  | exitkill => 1 <<< 8

/-- `PTRACE_O_TRACESYSGOOD` and the others, which are the kernel's. All but the last are where the
    library has them. -/
def ptraceO : TraceOption → BitVec 32
  | sysgood => 0x1
  | fork => 0x2
  | vfork => 0x4
  | clone => 0x8
  | exec => 0x10
  | vforkDone => 0x20
  | exit => 0x40
  | seccomp => 0x80
  | exitkill => 0x100000

end TraceOption

/-- What `configure` found out about the host's `ptrace`. An option it did not find is refused by
    `pink_trace_setup` alone. -/
structure TraceConfig where
  haveSetup : Bool
  haveSeize : Bool
  /-- `PINK_HAVE_OPTION_*`. -/
  haveOption : TraceOption → Bool

/-- Both calls are there, and so is every option: a host on which nothing is refused for being
    missing. -/
structure TraceConfig.Complete (cfg : TraceConfig) : Prop where
  setup : cfg.haveSetup = true
  seize : cfg.haveSeize = true
  option : ∀ o, cfg.haveOption o = true

/-- The requests that carry options. -/
inductive TraceRequest
  | setoptions | seize
  deriving DecidableEq, Repr

variable {arch : Arch}

/-- The arguments of one `ptrace` call. -/
structure PtraceCall (arch : Arch) where
  req : TraceRequest
  pid : Int
  addr : Addr arch
  data : Addr arch

/-- `pink_ptrace` of a request without a value: what it returns, and the calls made. Without a
    value there is nothing to be mistaken for an error, so `errno` alone decides. -/
def pinkPtraceCall (fails : PtraceCall arch → Option Errno) (c : PtraceCall arch) :
    Except Errno Unit × List (PtraceCall arch) :=
  match fails c with
  | some e => (.error (mapEio e), [c])
  | none => (.ok (), [c])

/-- The nine `if`s of `pink_trace_setup`; `none` is the `-EINVAL` of an option the host lacks.
    Bits that are no option are passed over in silence. -/
def ptraceOptions (cfg : TraceConfig) (options : BitVec 32) :
    List TraceOption → BitVec 32 → Option (BitVec 32)
  | [], mask => some mask
  | o :: rest, mask =>
    if options &&& o.flag ≠ 0 then
      if cfg.haveOption o then ptraceOptions cfg options rest (mask ||| o.ptraceO) else none
    else ptraceOptions cfg options rest mask

/-- `pink_trace_setup`. The mask is an `int` that is cast to a pointer, hence the sign extension.
    -/
def pinkTraceSetup (cfg : TraceConfig) (fails : PtraceCall arch → Option Errno) (pid : Int)
    (options : BitVec 32) : Except Errno Unit × List (PtraceCall arch) :=
  if cfg.haveSetup then
    match ptraceOptions cfg options TraceOption.all 0 with
    | some mask => pinkPtraceCall fails ⟨.setoptions, pid, 0, mask.signExtend _⟩
    | none => (.error .einval, [])
  else (.error .enosys, [])

/-- `pink_trace_seize`. There is no loop here: the word that was given is the word the kernel
    sees. -/
def pinkTraceSeize (cfg : TraceConfig) (fails : PtraceCall arch → Option Errno) (pid : Int)
    (options : BitVec 32) : Except Errno Unit × List (PtraceCall arch) :=
  if cfg.haveSeize then pinkPtraceCall fails ⟨.seize, pid, 0, options.signExtend _⟩
  else (.error .enosys, [])

/-! ## Signals -/

/-- The system calls that send a signal. -/
inductive KillCall
  | kill (pid : Int) (sig : Int)
  | tkill (tid : Int) (sig : Int)
  | tgkill (tgid tid : Int) (sig : Int)
  deriving DecidableEq, Repr

/-- One of them, and what it fails with. -/
def sendSignal (fails : KillCall → Option Errno) (c : KillCall) :
    Except Errno Unit × List KillCall :=
  match fails c with
  | some e => (.error e, [c])
  | none => (.ok (), [c])

/-- `pink_trace_kill`, of a library with `tkill` and `tgkill` or without them. A `tgid` that is
    not positive means that the caller has none, and is not an error. -/
def pinkTraceKill (haveTkill haveTgkill : Bool) (fails : KillCall → Option Errno)
    (tid tgid sig : Int) : Except Errno Unit × List KillCall :=
  if tid ≤ 0 then (.error .einval, [])
  else if tgid ≤ 0 then
    if haveTkill then sendSignal fails (.tkill tid sig) else sendSignal fails (.kill tid sig)
  else if haveTgkill then sendSignal fails (.tgkill tgid tid sig)
  else if haveTkill then sendSignal fails (.tkill tid sig)
  else sendSignal fails (.kill tid sig)

end PinkTrace
