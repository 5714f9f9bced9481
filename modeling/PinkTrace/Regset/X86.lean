import PinkTrace.Kernel
import PinkTrace.Lib.Overlay
import PinkTrace.Retval

/-!
# The registers of an x86_64 build (`regset.c`, `read.c`, `write.c`, `private.h`)

A `struct pink_regset` is a snapshot. `pink_regset_fill` takes it, the `pink_read_*` functions
answer from it without asking the kernel again, and the `pink_write_*` functions go past it to
the tracee, one register at a time through `PTRACE_POKEUSER`. So nothing that was written is
visible before the next fill.

The snapshot is a union of two structs. Which of the two it holds is told by `iov_len`, and an
ABI is derived from that and, for a 64-bit layout, from one bit of the system call number. There
are two ways to take it. With `PTRACE_GETREGSET` the kernel picks the layout; without it the
64-bit registers are fetched, a 32-bit tracee is recognised by its code segment, and the 64-bit
struct is rewritten into the 32-bit one *in place*.

## What `configure` decides

Both ways depend on a macro, and `RegsConfig` has the two of them as the C code gets to see them.
`configure.ac` looks for both requests. But `system.h.in`, through which its findings reach the C
code, has a line for `PINK_HAVE_GETREGSET` and none for `PINK_HAVE_GETREGS`, and an undefined
macro counts as `0` in an `#if`. So no build that `configure` makes has `haveGetregs` set, and
without `PTRACE_GETREGSET` every fill of such a build ends in the `-ENOSYS` of
`pink_trace_get_regs`. The parameter stays a parameter here: what the code behind the macro does
is a question of its own.

The kernel's side is `X86Tracee`: 64-bit registers, of which a 32-bit tracee shows the low
halves.
-/

set_option autoImplicit false

namespace PinkTrace

open Lib

/-! ## The two layouts -/

/-- The fields of `struct user_regs_struct`, which are also the registers `sys/reg.h` numbers. -/
inductive X86Reg
  | r15 | r14 | r13 | r12 | rbp | rbx | r11 | r10 | r9 | r8 | rax | rcx | rdx | rsi | rdi
  | origRax | rip | cs | eflags | rsp | ss | fsBase | gsBase | ds | es | fs | gs
  deriving DecidableEq, Repr

namespace X86Reg

/-- In the order of the struct. -/
def all : List X86Reg :=
  [r15, r14, r13, r12, rbp, rbx, r11, r10, r9, r8, rax, rcx, rdx, rsi, rdi, origRax, rip, cs,
    eflags, rsp, ss, fsBase, gsBase, ds, es, fs, gs]

def index (r : X86Reg) : Nat := all.idxOf r

/-- The register at an offset into the user area. -/
def atOffset? (off : Nat) : Option X86Reg := if off % 8 = 0 then all[off / 8]? else none

theorem all_index (r : X86Reg) : all[r.index]? = some r := by
  cases r <;> rfl

theorem atOffset?_index (r : X86Reg) : atOffset? (8 * r.index) = some r := by
  cases r <;> rfl

end X86Reg

/-- The fields of `struct i386_user_regs_struct`. -/
inductive I386Reg
  | ebx | ecx | edx | esi | edi | ebp | eax | xds | xes | xfs | xgs | origEax | eip | xcs
  | eflags | esp | xss
  deriving DecidableEq, Repr

namespace I386Reg

def all : List I386Reg :=
  [ebx, ecx, edx, esi, edi, ebp, eax, xds, xes, xfs, xgs, origEax, eip, xcs, eflags, esp, xss]

def index (r : I386Reg) : Nat := all.idxOf r

/-- The register whose low half it is. -/
def wide : I386Reg → X86Reg
  | ebx => .rbx | ecx => .rcx | edx => .rdx | esi => .rsi | edi => .rdi | ebp => .rbp
  | eax => .rax | xds => .ds | xes => .es | xfs => .fs | xgs => .gs | origEax => .origRax
  | eip => .rip | xcs => .cs | eflags => .eflags | esp => .rsp | xss => .ss

theorem all_index (r : I386Reg) : all[r.index]? = some r := by
  cases r <;> rfl

end I386Reg

/-- `sizeof(struct user_regs_struct)`, and with it that of the union. -/
def sizeofX86_64Regs : Nat := 8 * X86Reg.all.length

/-- `sizeof(struct i386_user_regs_struct)`. -/
def sizeofI386Regs : Nat := 4 * I386Reg.all.length

/-- `struct pink_regset`. The union is kept as bytes and not as one of two structs, since the
    legacy path writes through one member what it reads through the other. -/
structure X86Regset where
  /-- The bytes of `x86_regs_union`. -/
  union : Bytes
  /-- `x86_io.iov_len`. -/
  iovLen : Nat
  abi : Abi .x86_64

/-- `pink_regset_zero`, as every new regset is. Its `iov_len` is that of neither layout, but only
    a fill looks at that, and assigns it first. -/
def pinkRegsetZero : X86Regset := ⟨fun _ => 0, 0, .x86_64⟩

namespace X86Regset

/-- A field of `x86_regs_union.x86_64_r`. -/
def x86_64R (rs : X86Regset) (r : X86Reg) : BitVec 64 :=
  BitVec.ofNat 64 (leLoad rs.union (8 * r.index) 8)

/-- A field of `x86_regs_union.i386_r`. -/
def i386R (rs : X86Regset) (r : I386Reg) : BitVec 32 :=
  BitVec.ofNat 32 (leLoad rs.union (4 * r.index) 4)

end X86Regset

/-! ## The kernel's side -/

/-- A stopped tracee: its registers, whether it runs 32-bit code, and what every request to it
    fails with once it is gone. The registers are 64 bits wide in either case, as they are in the
    processor. -/
structure X86Tracee where
  regs : X86Reg → BitVec 64
  compat : Bool
  err : Option Errno

namespace X86Tracee

def set (t : X86Tracee) (r : X86Reg) (v : BitVec 64) : X86Tracee :=
  { t with regs := fun r' => if r' = r then v else t.regs r' }

/-- The registers as a `struct user_regs_struct`. -/
def image64 (t : X86Tracee) : Bytes :=
  leArray 8 fun k => match X86Reg.all[k]? with
    | some r => (t.regs r).toNat
    | none => 0

/-- The registers as a `struct i386_user_regs_struct`. -/
def image32 (t : X86Tracee) : Bytes :=
  leArray 4 fun k => match I386Reg.all[k]? with
    | some r => (t.regs r.wide).toNat
    | none => 0

end X86Tracee

/-- `PINK_HAVE_GETREGSET` and `PINK_HAVE_GETREGS`, as `#if` has them. -/
structure RegsConfig where
  haveGetregset : Bool
  haveGetregs : Bool
  deriving DecidableEq, Repr

/-- Whether a library built so has a way to fill a regset at all. -/
def RegsConfig.fills (cfg : RegsConfig) : Bool := cfg.haveGetregset || cfg.haveGetregs

/-- `pink_trace_get_regs` into the union. The kernel gives the 64-bit struct to a 64-bit tracer,
    whatever the tracee runs; `iov_len` does not take part. -/
def pinkTraceGetRegs (cfg : RegsConfig) (t : X86Tracee) (rs : X86Regset) :
    Except Errno X86Regset :=
  ifHave cfg.haveGetregs <|
  match t.err with
  | some e => .error (mapEio e)
  | none => .ok { rs with union := copy rs.union 0 t.image64 sizeofX86_64Regs }

/-- `pink_trace_get_regset` of `NT_PRSTATUS` into the union: as much of the tracee's own layout
    as `iov_len` has room for, and `iov_len` says how much that was. -/
def pinkTraceGetRegset (cfg : RegsConfig) (t : X86Tracee) (rs : X86Regset) :
    Except Errno X86Regset :=
  ifHave cfg.haveGetregset <|
  match t.err with
  | some e => .error (mapEio e)
  | none =>
    let (image, size) :=
      if t.compat then (t.image32, sizeofI386Regs) else (t.image64, sizeofX86_64Regs)
    let len := min rs.iovLen size
    .ok { rs with union := copy rs.union 0 image len, iovLen := len }

/-- `pink_write_word_user`. An offset that is not that of a register is refused with `EIO`, which
    comes out as `EFAULT`. -/
def pinkWriteWordUser (t : X86Tracee) (off : Nat) (val : BitVec 64) : Except Errno X86Tracee :=
  match t.err with
  | some e => .error (mapEio e)
  | none =>
    match X86Reg.atOffset? off with
    | some r => .ok (t.set r val)
    | none => .error (mapEio .eio)

/-! ## `pink_regset_fill` -/

/-- `__X32_SYSCALL_BIT`. -/
abbrev x32SyscallBit : BitVec 64 := 0x40000000

/-- The assignments of the legacy path, in the order of the source. The order is part of the
    meaning: source and target share their bytes, and each assignment reads what the ones before
    have left. -/
def overlaid : List I386Reg :=
  [.ebx, .ecx, .edx, .esi, .edi, .ebp, .eax, .origEax, .eip, .esp]

/-- `i386_regs.ebx = x86_64_regs.rbx` and the nine that follow, in place. The fields of the 32-bit
    struct that are not in the list keep bytes of the 64-bit one. -/
def overlayI386 (u : Bytes) : Bytes :=
  overlay 4 8 u (overlaid.map fun r => (4 * r.index, 8 * r.wide.index))

/-- The end of `pink_regset_fill`. The length is asked first, so a 32-bit tracee is never taken
    for x32; of the others the bit in the system call number decides. -/
def detectAbi (rs : X86Regset) : X86Regset :=
  if rs.iovLen = sizeofI386Regs then { rs with abi := .i386 }
  else if rs.x86_64R .origRax &&& x32SyscallBit ≠ 0 then { rs with abi := .x32 }
  else { rs with abi := .x86_64 }

/-- `pink_regset_fill`. A fill that fails has still assigned `iov_len`; everything else of the
    regset is as it was, and the readers go on reading it. -/
def pinkRegsetFill (cfg : RegsConfig) (t : X86Tracee) (rs : X86Regset) :
    Except Errno Unit × X86Regset :=
  let rs := { rs with iovLen := sizeofX86_64Regs }
  if cfg.haveGetregset then
    match pinkTraceGetRegset cfg t rs with
    | .error e => (.error e, rs)
    | .ok rs => (.ok (), detectAbi rs)
  else
    match pinkTraceGetRegs cfg t rs with
    | .error e => (.error e, rs)
    | .ok rs =>
      if rs.x86_64R .cs = 0x23 then
        (.ok (), detectAbi { rs with union := overlayI386 rs.union, iovLen := sizeofI386Regs })
      else (.ok (), detectAbi rs)

/-! ## Readers -/

/-- `pink_read_abi`. -/
def pinkReadAbi (rs : X86Regset) : Abi .x86_64 := rs.abi

/-- `pink_read_syscall`, which cannot fail on this build. For x32 the bit is subtracted, which
    comes to clearing it as long as it is set; and only a number that has it makes a fill decide
    for x32. -/
def pinkReadSyscall (rs : X86Regset) : BitVec 64 :=
  match rs.abi with
  | .i386 => (rs.i386R .origEax).setWidth 64
  | .x32 => rs.x86_64R .origRax - x32SyscallBit
  | .x86_64 => rs.x86_64R .origRax

/-- `pink_read_retval`: the value and the error. A 32-bit result is sign-extended, so that a
    failed call is negative as a `long` too. -/
def pinkReadRetval (rs : X86Regset) : BitVec 64 × BitVec 32 :=
  let rax : BitVec 64 :=
    match rs.abi with
    | .i386 => (rs.i386R .eax).signExtend 64
    | .x86_64 | .x32 => rs.x86_64R .rax
  @classifyRetval .x86_64 rax rs.abi

/-- The fields `pink_read_argument` reads for `PINK_ABI_X86_64` and `PINK_ABI_X32`. -/
def readArgX86_64 : Fin pinkMaxArgs → X86Reg
  | 0 => .rdi | 1 => .rsi | 2 => .rdx | 3 => .r10 | 4 => .r8 | 5 => .r9

/-- …and for `PINK_ABI_I386`. -/
def readArgI386 : Fin pinkMaxArgs → I386Reg
  | 0 => .ebx | 1 => .ecx | 2 => .edx | 3 => .esi | 4 => .edi | 5 => .ebp

/-- `pink_read_argument`. -/
def pinkReadArgument (rs : X86Regset) (argIndex : Nat) : Except Errno (BitVec 64) :=
  if h : argIndex < pinkMaxArgs then
    match rs.abi with
    | .i386 => .ok ((rs.i386R (readArgI386 ⟨argIndex, h⟩)).signExtend 64)
    | .x86_64 | .x32 => .ok (rs.x86_64R (readArgX86_64 ⟨argIndex, h⟩))
  else .error .einval

/-! ## Writers -/

/-- `pink_write_syscall`. -/
def pinkWriteSyscall (t : X86Tracee) (_ : X86Regset) (sysnum : BitVec 64) :
    Except Errno X86Tracee :=
  pinkWriteWordUser t (8 * X86Reg.origRax.index) sysnum

/-- `pink_write_retval`. An error is negated as an `int` and then widened; the value is dropped in
    that case. -/
def pinkWriteRetval (t : X86Tracee) (_ : X86Regset) (retval : BitVec 64) (error : BitVec 32) :
    Except Errno X86Tracee :=
  let retval := if error ≠ 0 then (-error).signExtend 64 else retval
  pinkWriteWordUser t (8 * X86Reg.rax.index) retval

/-- The registers `pink_write_argument` writes for `PINK_ABI_X86_64` and `PINK_ABI_X32`. -/
def writeArgX86_64 : Fin pinkMaxArgs → X86Reg
  | 0 => .rdi | 1 => .rsi | 2 => .rdx | 3 => .r10 | 4 => .r8 | 5 => .r9

/-- …and for `PINK_ABI_I386`. -/
def writeArgI386 : Fin pinkMaxArgs → X86Reg
  | 0 => .rbx | 1 => .rcx | 2 => .rdx | 3 => .rsi | 4 => .rdi | 5 => .rbp

/-- `pink_write_argument`. The ABI that selects the register is that of the snapshot, and the
    register is always written whole, 64 bits of it. -/
def pinkWriteArgument (t : X86Tracee) (rs : X86Regset) (argIndex : Nat) (argval : BitVec 64) :
    Except Errno X86Tracee :=
  if h : argIndex < pinkMaxArgs then
    match rs.abi with
    | .i386 => pinkWriteWordUser t (8 * (writeArgI386 ⟨argIndex, h⟩).index) argval
    | .x86_64 | .x32 => pinkWriteWordUser t (8 * (writeArgX86_64 ⟨argIndex, h⟩).index) argval
  else .error .einval

end PinkTrace
