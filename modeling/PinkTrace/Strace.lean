import PinkTrace.Event
import PinkTrace.Name
import PinkTrace.Socket
import PinkTrace.Trace
import PinkTrace.Xlat

/-!
# A tracer (`examples/pink-simple-strace.c`)

The library's own example of what it is for: a program that runs another one and prints its
system calls. The child stops when it enters a system call and when it leaves it, the tracer
cannot tell the two apart by the status, and so keeps a flag that it turns over at every stop. At
a stop it fills its regset, asks the library for the name of the call, has one of three decoders
print the arguments, and at the next stop prints the result.

Everything the tracer meets is in `Env`: what resuming the child leads to, and at each stop the
child's registers and memory. What it prints is a list of `Out`. It is the `x86_64` build, with
netlink addresses.

Where the C program does something undefined the model has no result: a null pointer that
`strcmp` is given, a pointer that was never assigned, a string without an end.

## What is not checked here, because the program does not check it

The loop looks at the status of a stop and never at its signal, so a signal for the child is a stop
like those of a system call. `process_update` may fail, and then the tracer goes on with the regset
it had. Both are kept: the model follows the program through them, and what comes of it is for the
theorems to say.
-/

set_option autoImplicit false

namespace PinkTrace

open Lib

/-! ## Output -/

/-- What is printed, in order. Everything but `perror` is for the standard output. The texts of
    the C library are kept as what they are texts of, so the model does not depend on a locale. -/
inductive Out
  /-- What the program has for text, and the numbers in it. -/
  | text (s : String)
  /-- A string of the child. -/
  | chars (s : List UInt8)
  /-- The text the C library has for this number. -/
  | strerror (errnum : Int)
  /-- The text `inet_ntop` has for these bytes. -/
  | inetNtop (af : Nat) (addr : List UInt8)
  /-- A message about this `errno`, for the standard error. -/
  | perror (s : String) (errno : Int)
  deriving DecidableEq, Repr

def Out.isStdout : Out → Bool
  | perror .. => false
  | text _ | chars _ | strerror _ | inetNtop .. => true

/-- The part for the standard output. -/
def stdout (out : List Out) : List Out := out.filter Out.isStdout

/-- `%x`. -/
def hex (n : Nat) : String := String.ofList (Nat.toDigits 16 n)

/-- `%08x`. -/
def hex08 (n : Nat) : String :=
  String.ofList (List.replicate (8 - (Nat.toDigits 16 n).length) '0') ++ hex n

/-- `%#x`, which has no `0x` in front of a zero. -/
def hexAlternate (n : Nat) : String := if n = 0 then "0" else "0x" ++ hex n

/-- `%s` of an object of `n` bytes; `none` where no NUL ends it. The C program would read on
    behind the object then. -/
def cString (b : Bytes) (n : Nat) : Option (List UInt8) :=
  (memchrNul b n).map fun k => (List.range k).map b

/-! ## What the tracer meets -/

/-- What its uninitialised variables hold. `cp` is the union of `pink_read_string_array`, by the
    element that is read. They are fresh at every stop, as the variables of a function are. -/
structure Junk where
  buf : Bytes
  cp : Nat → Bytes
  flags : BitVec 64
  fd : BitVec 32
  sockaddr : PinkSockaddr

/-- The child at a stop: its registers, its memory and what the kernel lets the tracer do with it.
    -/
structure View where
  tracee : X86Tracee
  kernel : Kernel .x86_64
  mem : Memory Arch.x86_64.longBits
  junk : Junk

/-- `struct process`. The ABI is here twice, in the regset and next to it; the second is assigned
    only after a fill that succeeded. -/
structure Process where
  pid : Int
  abi : Abi .x86_64
  insyscall : Bool
  regs : X86Regset

/-- `process_update`. Its callers do not look at what it returns, so a failed fill shows in the
    output and nowhere else. -/
def processUpdate (regsConfig : RegsConfig) (t : X86Tracee) (proc : Process) :
    Process × List Out :=
  match pinkRegsetFill regsConfig t proc.regs with
  | (.error e, regs) => ({ proc with regs }, [.perror "pink_regset_fill" e.code])
  | (.ok (), regs) => ({ proc with regs, abi := pinkReadAbi regs }, [])

/-! ## Decoders -/

/-- `print_ret`. The call it makes cannot fail on this build. What it passes to `strerror` is the
    negated error, so the text is that of a negative number. -/
def printRet (regs : X86Regset) : List Out :=
  let (ret, err) := pinkReadRetval regs
  if err ≠ 0 then
    [.text ("= " ++ toString (-err).toInt ++ " ("), .strerror (-err).toInt, .text ")"]
  else [.text ("= " ++ toString ret.toInt)]

/-- `PATH_MAX`. -/
abbrev pathMax : Nat := 4096

/-- `O_CREAT`. -/
abbrev oCreat : BitVec 64 := 0o100

/-- `print_open_flags`. The access mode is two bits, of which one combination has no name; only
    `O_CREAT` is known of the other flags. -/
def printOpenFlags (flags : BitVec 64) : List Out :=
  let access : List Out × Bool :=
    if flags &&& 3 = 0 then ([.text "O_RDONLY"], true)
    else if flags &&& 3 = 1 then ([.text "O_WRONLY"], true)
    else if flags &&& 3 = 2 then ([.text "O_RDWR"], true)
    else ([], false)
  let creat : List Out × Bool :=
    if flags &&& oCreat ≠ 0 then
      ([.text ((if access.2 then "" else "0") ++ " | O_CREAT")], true)
    else ([], access.2)
  access.1 ++ creat.1 ++
    if creat.2 then [] else [.text (hexAlternate (flags.setWidth 32).toNat)]

section

variable (fuel : Nat) (K : Kernel .x86_64) (junk : Junk) (regs : X86Regset)

/-- `decode_open`. The test after the second argument has the wrong sign, and so has what it
    reports. -/
def decodeOpen (s : State .x86_64) : Option (List Out × State .x86_64) :=
  match pinkReadArgument regs 0 with
  | .error e => some ([.perror "pink_read_argument" e.code], s)
  | .ok addr => do
    let r ← pinkReadVmDataNul fuel K regs.abi addr junk.buf pathMax s
    if r.ret < 0 then some ([.perror "pink_read_string" (-r.ret)], r.st)
    else
      match pinkReadArgument regs 1 with
      | .ok _ => some ([.perror "pink_read_argument" (-r.ret)], r.st)
      | .error _ => do
        let path ← cString r.dest pathMax
        some ([.text "open(\"", .chars path, .text "\", "] ++ printOpenFlags junk.flags ++
          [.text ")"], r.st)

/-- The variables of the loop of `decode_execve`. `i` is incremented before it is used, so the
    loop begins with the second element of `argv`. -/
structure ExecveVars where
  i : Nat
  sep : String
  buf : Bytes
  nil : Bool
  st : State .x86_64
  out : List Out

/-- One pass of it. -/
def execveBody (arg : Addr .x86_64) (v : ExecveVars) :
    Next ExecveVars (List Out × State .x86_64) :=
  let i := (v.i + 1) % 2 ^ 32
  match pinkReadStringArray fuel K (junk.cp i) regs.abi arg i v.buf pathMax (some v.nil) v.st with
  | none => .undef
  | some r =>
    if r.ret < 0 then .done (v.out ++ [.perror "pink_read_string_array" (-r.ret)], r.st)
    else
      match cString r.dest pathMax with
      | none => .undef
      | some str =>
        let out := v.out ++ [.text v.sep, .text "\"", .chars str, .text "\""]
        if r.nullptr = some true then .done (out ++ [.text "], envp[])"], r.st)
        else .again ⟨i, ", ", r.dest, false, r.st, out⟩

/-- `decode_execve`. The string it reads is the one at address zero: where the argument that it
    has just read belongs, the source has a `0`. -/
def decodeExecve (s : State .x86_64) : Option (List Out × State .x86_64) :=
  match pinkReadArgument regs 0 with
  | .error e => some ([.perror "pink_read_argument" e.code], s)
  | .ok _ => do
    let r ← pinkReadVmDataNul fuel K regs.abi 0 junk.buf pathMax s
    if r.ret < 0 then some ([.perror "pink_read_string" (-r.ret)], r.st)
    else
      match pinkReadArgument regs 1 with
      | .error e => some ([.perror "pink_read_argument" e.code], r.st)
      | .ok arg => do
        let path ← cString r.dest pathMax
        run (execveBody fuel K junk regs arg) fuel
          ⟨0, "", r.dest, false, r.st, [.text "execve(\"", .chars path, .text "\", ["]⟩

/-- The last `switch` of `decode_socketcall`. A family it does not know is printed as such; the
    numbers are those of `sys/socket.h`. -/
def printSockaddr (sockaddr : PinkSockaddr) : Option (List Out) :=
  let u := sockaddr.u
  let port := toString ((u 2).toNat * 256 + (u 3).toNat)
  if sockaddr.family = -1 then some [.text "NULL"]
  else if sockaddr.family = 1 then
    -- `sun_path` begins at the third byte of the union
    if u 2 = 0 ∧ u 3 ≠ 0 then do
      let path ← cString (fun i => u (3 + i)) (sizeofSockaddrU - 3)
      some [.text "\x7bsa_family=AF_UNIX, path=", .text "\"@", .chars path, .text "\"\x7d"]
    else do
      let path ← cString (fun i => u (2 + i)) (sizeofSockaddrU - 2)
      some [.text "\x7bsa_family=AF_UNIX, path=", .text "\"", .chars path, .text "\"\x7d"]
  else if sockaddr.family = 2 then
    some [.text ("\x7bsa_family=AF_INET, sin_port=htons(" ++ port ++
        "), sin_sockaddr=inet_addr(\""),
      .inetNtop 2 ((List.range 4).map fun i => u (4 + i)), .text "\")\x7d"]
  else if sockaddr.family = 10 then
    some [.text ("\x7bsa_family=AF_INET6, sin_port=htons(" ++ port ++
        "), sin6_sockaddr=inet_addr(\""),
      .inetNtop 10 ((List.range 16).map fun i => u (8 + i)), .text "\")\x7d"]
  else if sockaddr.family = 16 then
    some [.text ("\x7bsa_family=AF_NETLINK, nl_pid=" ++
      toString (BitVec.ofNat 32 (leLoad u 4 4)).toInt ++ ", nl_groups=" ++
      hex08 (leLoad u 8 4) ++ "\x7d")]
  else some [.text "\x7bsa_family=???\x7d"]

/-- The second half of `decode_socketcall`. `subname` is assigned in the first half, but not on
    the way to this one. -/
def decodeAddress (scname : String) (subcall : BitVec 64) (s : State .x86_64) :
    Option (List Out × State .x86_64) := do
  let r ← pinkReadSocketAddress fuel K regs.callRegs false 1 (some junk.fd) junk.sockaddr s
  if r.ret < 0 then some ([.perror "pink_read_socket_address" (-r.ret)], r.st)
  else if 0 < subcall.toInt then none
  else
    let fd ← r.fd
    let addr ← printSockaddr r.sockaddr
    some ([.text (scname ++ "(" ++ toString fd.toInt ++ ", ")] ++ addr ++
      [.text (", " ++ toString r.sockaddr.length ++ ")")], r.st)

/-- `decode_socketcall`. What it reads as the number of the subcall is the first argument. -/
def decodeSocketcall (scname : String) (s : State .x86_64) :
    Option (List Out × State .x86_64) :=
  match if scname = "socketcall" then pinkReadArgument regs 0 else .ok (-1) with
  | .error e => some ([.perror "pink_read_socket_subcall" e.code], s)
  | .ok subcall =>
    if subcall = -1 ∨ subcall = 2 ∨ subcall = 3 then
      decodeAddress fuel K junk regs scname subcall s
    else do
      let subname ← pinkNameSocketSubcall (subcall.setWidth 32).toInt
      if subname = "bind" ∨ subname = "connect" then some ([], s)
      else some ([.text (subname ++ "()")], s)

/-- The choice of a decoder in `handle_syscall`, for a call with a name. Everything without a
    decoder is printed as a name with no arguments. -/
def decodeSyscall (scname : String) (s : State .x86_64) : Option (List Out × State .x86_64) :=
  if scname = "open" then decodeOpen fuel K junk regs s
  else if scname = "execve" then decodeExecve fuel K junk regs s
  else if scname = "socketcall" ∨ scname = "bind" ∨ scname = "connect" then
    decodeSocketcall fuel K junk regs scname s
  else some ([.text (scname ++ "()")], s)

end

/-! ## The loop -/

/-- `handle_syscall`. Which half of it runs is decided by the flag alone, and the flag is turned
    over in both. -/
def handleSyscall (fuel : Nat) (K : Kernel .x86_64) (junk : Junk) (proc : Process)
    (s : State .x86_64) : Option (Process × List Out × State .x86_64) :=
  if proc.insyscall then
    some ({ proc with insyscall := false },
      [.text " "] ++ printRet proc.regs ++ [.text "\n"], s)
  else
    let proc := { proc with insyscall := true }
    let scno := pinkReadSyscall proc.regs
    match pinkNameSyscall .x86_64 scno proc.abi.index with
    | none => none
    | some none => some (proc, [.text (toString scno.toInt ++ "()")], s)
    | some (some scname) =>
      (decodeSyscall fuel K junk proc.regs scname s).map fun (out, s) => (proc, out, s)

/-- What it leads to when the child is resumed. -/
inductive Reply
  /-- `pink_trace_syscall` fails. -/
  | gone (e : Errno)
  /-- `waitpid` fails. -/
  | lost (e : Errno)
  /-- `waitpid` returns, and this is the child then. -/
  | waited (status : BitVec 32) (view : View)

/-- A child, and the rest of the world. The child is a function of what it was resumed with, so it
    may be any program, and two runs that resume it alike see the same one. -/
structure Env where
  pid : Int
  regsConfig : RegsConfig
  /-- The reply to the last of these resumes, by the signals the child was resumed with. -/
  reply : List Int → Reply

/-- The variables of the loop of `main`; `resumed` are the signals passed to
    `pink_trace_syscall`, oldest first. -/
structure StraceVars where
  proc : Process
  sig : Int
  resumed : List Int
  st : State .x86_64
  out : List Out

/-- What is left of a run: the exit code, what was printed, the signals that the child was
    resumed with and the ones sent with `kill(2)` and the like. -/
structure StraceRet where
  exitCode : Int
  out : List Out
  resumed : List Int
  kills : List KillCall

/-- `ESRCH`. -/
def Errno.esrch : Errno := ⟨3, by decide⟩

/-- `ECHILD`. -/
def Errno.echild : Errno := ⟨10, by decide⟩

/-- One pass of the loop of `main`. The signal of a stop is never looked at, and `sig` is always
    zero: so no signal is ever delivered to the child. -/
def straceBody (fuel : Nat) (env : Env) (v : StraceVars) : Next StraceVars StraceRet :=
  let resumed := v.resumed ++ [v.sig]
  match env.reply resumed with
  | .gone e =>
    .done ⟨if mapEio e = .esrch then 0 else 1,
      v.out ++ [.perror "pink_trace_syscall" (mapEio e).code], resumed, []⟩
  | .lost e =>
    .done ⟨if e = .echild then 0 else 1, v.out ++ [.perror "waitpid" e.code], resumed, []⟩
  | .waited status view =>
    if wifexited status then
      let exitCode := (wexitstatus status).toInt
      .done ⟨exitCode, v.out ++ [.text ("Child " ++ toString v.proc.pid ++
        " exited normally with return code " ++ toString exitCode ++ "\n")], resumed, []⟩
    else if wifsignaled status then
      let termsig := (wtermsig status).toInt
      .done ⟨128 + termsig, v.out ++ [.text ("Child " ++ toString v.proc.pid ++
        " exited with signal " ++ toString termsig ++ "\n")], resumed, []⟩
    else if pinkEventDecide status = 0 then
      let (proc, out) := processUpdate env.regsConfig view.tracee v.proc
      match handleSyscall fuel view.kernel view.junk proc { v.st with mem := view.mem } with
      | none => .undef
      | some (proc, out', st) => .again ⟨proc, 0, resumed, st, v.out ++ out ++ out'⟩
    else if pinkEventDecide status = 4 then
      let (proc, out) := processUpdate env.regsConfig view.tracee v.proc
      .again ⟨proc, 0, resumed, v.st, v.out ++ out⟩
    else .again ⟨v.proc, 0, resumed, v.st, v.out⟩

/-- The stopped child that the parent finds after its first `waitpid`, and what its variables
    hold. The ABI is one of them, since a failed fill leaves it unassigned. -/
structure Start where
  tracee : X86Tracee
  abi : Abi .x86_64
  st : State .x86_64

/-- The variables when the loop is reached. -/
def straceStart (env : Env) (start : Start) : StraceVars :=
  let (proc, out) := processUpdate env.regsConfig start.tracee
    ⟨env.pid, start.abi, false, pinkRegsetZero⟩
  ⟨{ proc with insyscall := false }, 0, [], start.st,
    out ++ [.text ("Child " ++ toString proc.pid ++ " runs in ABI:" ++
      toString proc.abi.index ++ "\n")]⟩

/-- What `main` sets up: `PINK_TRACE_OPTION_SYSGOOD | PINK_TRACE_OPTION_EXEC`. -/
def straceOptions : BitVec 32 := TraceOption.sysgood.flag ||| TraceOption.exec.flag

/-- `SIGKILL`. -/
abbrev sigkill : Int := 9

/-- The parent's branch of `main`, from the first stop of the child on: at most `passes` passes of
    its loop. If the options cannot be set, the child is killed and nothing is traced. -/
def strace (fuel passes : Nat) (cfg : TraceConfig) (haveTkill haveTgkill : Bool)
    (fails : PtraceCall .x86_64 → Option Errno) (killFails : KillCall → Option Errno) (env : Env)
    (start : Start) : Option StraceRet :=
  match pinkTraceSetup cfg fails env.pid straceOptions with
  | (.error e, _) =>
    some ⟨1, [.perror "pink_trace_setup" e.code], [],
      (pinkTraceKill haveTkill haveTgkill killFails env.pid (-1) sigkill).2⟩
  | (.ok (), _) => run (straceBody fuel env) passes (straceStart env start)

end PinkTrace
