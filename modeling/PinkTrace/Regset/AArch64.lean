import PinkTrace.Kernel
import PinkTrace.Lib.Overlay
import PinkTrace.Retval

/-!
# The registers of an AArch64 build (`regset.c`, `read.c`, `write.c`, `private.h`)

As on `x86_64`, a `struct pink_regset` is a union of two layouts, and `iov_len` tells which of
them the kernel filled in. What differs is how it is written. There is no request for a single
register, so `pink_write_argument` and `pink_write_retval` first assign to the *caller's* regset
and then hand all of it to the kernel. And a result and the first argument are one register.

Two things are not written that way. The return value of a 32-bit tracee goes through
`PTRACE_POKEUSER`, which the kernel may not know. The system call number has a register set of its
own, of one `int`, into which `pink_write_syscall` puts the low 16 bits of what it was given.

## A write is a write of everything

To hand all of a regset to the kernel is to write every register, with what the snapshot has for
it. If the tracee has changed since the fill, that change is undone, and it does not matter
whether another regset of the same tracer made it. `RegsetSession` models this across calls. In
this file it is only visible in that a writer returns a regset: `Written` has the caller's
snapshot next to the result, and a call that failed has assigned to it all the same.

The kernel may also refuse what it is handed. `validPstate` is its say in that, and is a
parameter, since which processor states are those of a user process depends on the kernel.
-/

set_option autoImplicit false

namespace PinkTrace

namespace Aarch64

open Lib

/-- `struct user_pt_regs` is `regs[31]`, `sp`, `pc` and `pstate`. -/
abbrev userPtRegs : Nat := 34

/-- `sizeof(struct user_pt_regs)`, and with it that of the union. -/
def sizeofAarch64Regs : Nat := 8 * userPtRegs

/-- `sizeof(struct arm_pt_regs)`, which is `uregs[18]`. -/
def sizeofArmRegs : Nat := 4 * 18

/-- `struct pink_regset`. -/
structure Regset where
  /-- The bytes of `arm_regs_union`. -/
  union : Bytes
  /-- `aarch64_io.iov_len`. -/
  iovLen : Nat
  abi : Abi .aarch64

namespace Regset

/-- `arm_regs_union.aarch64_r.regs[k]`, and behind them `sp`, `pc` and `pstate`. -/
def aarch64R (rs : Regset) (k : Nat) : BitVec 64 := BitVec.ofNat 64 (leLoad rs.union (8 * k) 8)

/-- `arm_regs_union.arm_r.uregs[k]`. -/
def armR (rs : Regset) (k : Nat) : BitVec 32 := BitVec.ofNat 32 (leLoad rs.union (4 * k) 4)

/-- Assign to `arm_regs_union.aarch64_r.regs[k]`. Like all assignments here it goes to the bytes,
    and shows in both layouts. -/
def setAarch64R (rs : Regset) (k : Nat) (v : BitVec 64) : Regset :=
  { rs with union := leStore rs.union (8 * k) 8 v.toNat }

/-- Assign to `arm_regs_union.arm_r.uregs[k]`. -/
def setArmR (rs : Regset) (k : Nat) (v : BitVec 32) : Regset :=
  { rs with union := leStore rs.union (4 * k) 4 v.toNat }

end Regset

/-! ## The kernel's side -/

/-- A stopped tracee: the words of its `user_pt_regs`, the first argument as it was on entry, the
    number of its system call, whether it runs 32-bit code, and what a request to it may fail
    with: every request once it is gone, one for registers that are not those of a user process,
    and `PTRACE_POKEUSER` in any case where the kernel has no such request. -/
structure Tracee where
  regs : Nat → BitVec 64
  origX0 : BitVec 64
  syscallno : BitVec 32
  compat : Bool
  err : Option Errno
  validPstate : BitVec 64 → Bool
  pokeuserErr : Option Errno

namespace Tracee

/-- The word of `user_pt_regs` that a 32-bit tracee shows as `uregs[k]`, `k ≠ 17`. The last one
    has no word: it is the first argument as it was on entry. -/
def compatIndex (k : Nat) : Nat :=
  if k = 15 then 32 else if k = 16 then 33 else k

/-- The registers as a `struct user_pt_regs`. -/
def image64 (t : Tracee) : Bytes := leArray 8 fun k => (t.regs k).toNat

/-- The registers as a `struct arm_pt_regs`. Each is the low half of a word; the upper halves of a
    32-bit tracee are not visible anywhere. -/
def image32 (t : Tracee) : Bytes :=
  leArray 4 fun k => if k = 17 then t.origX0.toNat else (t.regs (compatIndex k)).toNat

/-- Set the first `n` words of `user_pt_regs`. The others stay, as when a request comes with a
    short `iov_len`. -/
def setWords (t : Tracee) (n : Nat) (word : Nat → BitVec 64) : Tracee :=
  { t with regs := fun k => if k < n then word k else t.regs k }

/-- Set the first `n` words a 32-bit tracee shows. What is set is zero-extended, so a register
    that was written this way has no upper half. -/
def setCompatWords (t : Tracee) (n : Nat) (word : Nat → BitVec 32) : Tracee :=
  { t with
    regs := fun k =>
      if k < 15 ∧ k < n then (word k).setWidth 64
      else if k = 32 ∧ 15 < n then (word 15).setWidth 64
      else if k = 33 ∧ 16 < n then (word 16).setWidth 64
      else t.regs k
    origX0 := if 17 < n then (word 17).setWidth 64 else t.origX0 }

end Tracee

/-- `pink_trace_get_regset` of `NT_PRSTATUS` into the union: as much of the tracee's own layout as
    `iov_len` has room for. -/
def pinkTraceGetRegset (t : Tracee) (rs : Regset) : Except Errno Regset :=
  match t.err with
  | some e => .error (mapEio e)
  | none =>
    let (image, size) :=
      if t.compat then (t.image32, sizeofArmRegs) else (t.image64, sizeofAarch64Regs)
    let len := min rs.iovLen size
    .ok { rs with union := copy rs.union 0 image len, iovLen := len }

/-- `pink_trace_set_regset` of `NT_PRSTATUS` from the union. `iov_len` has to be a number of the
    tracee's words, and what comes out has to be the state of a user process. -/
def pinkTraceSetRegset (t : Tracee) (rs : Regset) : Except Errno Tracee :=
  match t.err with
  | some e => .error (mapEio e)
  | none =>
    let size := if t.compat then 4 else 8
    if rs.iovLen % size ≠ 0 then .error .einval
    else
      let t' := if t.compat then t.setCompatWords (rs.iovLen / 4) rs.armR
        else t.setWords (rs.iovLen / 8) rs.aarch64R
      if t.validPstate (t'.regs 33) then .ok t' else .error .einval

/-- `pink_trace_set_regset` of `NT_ARM_SYSTEM_CALL`. It does not touch the registers, so
    `pink_read_syscall`, which reads one, does not see it. -/
def setSystemCall (t : Tracee) (n : BitVec 32) : Except Errno Tracee :=
  match t.err with
  | some e => .error (mapEio e)
  | none => .ok { t with syscallno := n }

/-- `pink_write_word_user`. -/
def pinkWriteWordUser (t : Tracee) (off : Nat) (val : BitVec 64) : Except Errno Tracee :=
  match t.err, t.pokeuserErr with
  | some e, _ | none, some e => .error (mapEio e)
  | none, none =>
    if off % 8 = 0 ∧ off / 8 < userPtRegs then
      .ok { t with regs := fun k => if k = off / 8 then val else t.regs k }
    else .error (mapEio .eio)

/-! ## `pink_regset_fill` -/

/-- `pink_regset_fill`, of a library with `PTRACE_GETREGSET` or without it; `none` is the
    `abort()` at a length that is neither layout's. -/
def pinkRegsetFill (haveGetregset : Bool) (t : Tracee) (rs : Regset) :
    Option (Except Errno Unit × Regset) :=
  if haveGetregset then
    let rs := { rs with iovLen := sizeofAarch64Regs }
    match pinkTraceGetRegset t rs with
    | .error e => some (.error e, rs)
    | .ok rs =>
      if rs.iovLen = sizeofAarch64Regs then some (.ok (), { rs with abi := .aarch64 })
      else if rs.iovLen = sizeofArmRegs then some (.ok (), { rs with abi := .arm })
      else none
  else some (.error .enosys, rs)

/-! ## Readers -/

/-- `pink_read_syscall`. -/
def pinkReadSyscall (rs : Regset) : BitVec 64 :=
  match rs.abi with
  | .aarch64 => rs.aarch64R 8
  | .arm => (rs.armR 7).setWidth 64

/-- `pink_read_retval`: the value and the error. The register of a 32-bit tracee is *not*
    sign-extended here, unlike on `x86_64`, so a failed call is a large positive number until the
    test cuts it to 32 bits. -/
def pinkReadRetval (rs : Regset) : BitVec 64 × BitVec 32 :=
  match rs.abi with
  | .arm => @classifyRetval .aarch64 ((rs.armR 0).setWidth 64) .arm
  | .aarch64 => @classifyRetval .aarch64 (rs.aarch64R 0) .aarch64

/-- `pink_read_argument`. -/
def pinkReadArgument (rs : Regset) (argIndex : Nat) : Except Errno (BitVec 64) :=
  if argIndex < pinkMaxArgs then
    match rs.abi with
    | .aarch64 => .ok (rs.aarch64R argIndex)
    | .arm => .ok ((rs.armR argIndex).setWidth 64)
  else .error .einval

/-! ## Writers

The result is that of the call, the caller's regset afterwards and, of a call that succeeds, the
tracee. -/

/-- What a writer leaves behind. -/
structure Written where
  result : Except Errno Tracee
  regset : Regset

/-- `pink_write_syscall`: `n = (uint16_t) sysnum`. -/
def pinkWriteSyscall (t : Tracee) (rs : Regset) (sysnum : BitVec 64) : Written :=
  ⟨setSystemCall t ((sysnum.setWidth 16).setWidth 32), rs⟩

/-- `pink_write_retval`. The two ABIs go different ways, and only the 64-bit one assigns to the
    regset. -/
def pinkWriteRetval (t : Tracee) (rs : Regset) (retval : BitVec 64) (error : BitVec 32) :
    Written :=
  let retval := if error ≠ 0 then (-error).signExtend 64 else retval
  match rs.abi with
  | .arm => ⟨pinkWriteWordUser t 0 retval, rs⟩
  | .aarch64 =>
    let rs := rs.setAarch64R 0 retval
    ⟨pinkTraceSetRegset t rs, rs⟩

/-- `pink_write_argument`. -/
def pinkWriteArgument (t : Tracee) (rs : Regset) (argIndex : Nat) (argval : BitVec 64) :
    Written :=
  if argIndex < pinkMaxArgs then
    let rs :=
      match rs.abi with
      | .aarch64 => rs.setAarch64R argIndex argval
      | .arm => rs.setArmR argIndex (argval.setWidth 32)
    ⟨pinkTraceSetRegset t rs, rs⟩
  else ⟨.error .einval, rs⟩

end Aarch64

end PinkTrace
