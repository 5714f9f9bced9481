import PinkTrace.Arch
import PinkTrace.Tables.Arm
import PinkTrace.Tables.Errno
import PinkTrace.Tables.PowerPC
import PinkTrace.Tables.X86

/-!
# Names and numbers (`name.c`)

System calls, errors and signals by name and by number, each in the table of an ABI. An ABI
arrives as a `short` and is checked (`abi < 0 || abi >= PINK_ABIS_SUPPORTED`); `NULL` and `-1` are
the answers to a question the tables cannot answer. The outer `Option` of every function here is
`none` if the code would read past the end of a table.

The system call tables are not indexed by the number itself. ARM has calls numbered far behind all
others, and `shuffle_scno` exchanges those with the rows at the end of its table, before a number
is looked up and after a name has been found.

## One definition for six functions

`pink_name_syscall`, `pink_name_errno` and `pink_name_signal` are the same code around another
table, and so are the three lookups. `nameIn` and `lookupIn` are that code. What is left of each
function is its table and, for system calls, the shuffle.

Note that the shuffle depends on the *build* and not on the ABI: on AArch64 it is applied to the
numbers of 64-bit tracees as well, whose table has no rows to exchange.
-/

set_option autoImplicit false

namespace PinkTrace

open Lib
open Abi (pinkAbiDefault)

variable {arch : Arch}

/-- The ABIs of a build, in the order of `errnoent_vec`, `signalent_vec` and `sysent_vec`. The
    position of an ABI is its number. -/
def Abi.all : (arch : Arch) → List (Abi arch)
  | .x86_64 => [.x86_64, .i386, .x32]
  | .aarch64 => [.aarch64, .arm]
  | .arm | .i386 | .powerpc | .powerpc64 => [pinkAbiDefault _]

/-- `abi < 0 || abi >= PINK_ABIS_SUPPORTED`, and the row that is selected behind it. The inner
    `none` is an ABI that was refused, the outer one an access behind the end, which the check is
    there to prevent. -/
def abiRow (arch : Arch) (abi : Int) : Option (Option (Abi arch)) :=
  if abi < 0 ∨ (arch.pinkAbisSupported : Int) ≤ abi then some none
  else (Abi.all arch)[abi.toNat]?.map some

/-! ## The tables of a build -/

/-- `PINK_ARCH_POWERPC`. -/
def Arch.isPowerpc : Arch → Bool
  | .powerpc | .powerpc64 => true
  | _ => false

/-- `errnoent_vec`. The rows of all ABIs are the same table. -/
def errnoentVec (_ : Abi arch) : NameTable String := errnoent arch.isPowerpc

/-- `signalent_vec`, which has one table for everybody too. -/
def signalentVec (_ : Abi arch) : NameTable String := signalent

/-- `sysent_vec`. -/
def sysentVec : Abi arch → NameTable String
  | .aarch64 => syscallentAarch64
  | .arm => syscallentArm
  | .x86_64 => syscallentX86_64
  | .i386 => syscallentI386
  | .x32 => syscallentX32
  | .only _ =>
    match arch with
    | .arm => syscallentArm
    | .powerpc | .powerpc64 => syscallentPowerpc
    -- the two builds with several ABIs have no ABI of this form
    | .i386 | .aarch64 | .x86_64 => syscallentI386

/-! ## `shuffle_scno` -/

/-- `ARM_FIRST_SHUFFLED_SYSCALL`. -/
abbrev armFirstShuffledSyscall : Nat := 388

/-- `ARM_SECOND_SHUFFLED_SYSCALL`. -/
abbrev armSecondShuffledSyscall : Nat := armFirstShuffledSyscall + 1

/-- `ARM_LAST_SPECIAL_SYSCALL`. -/
abbrev armLastSpecialSyscall : Nat := 5

/-- `shuffle_scno`, which is the identity on every build but the two ARM ones. It exchanges two
    ranges, so the same function serves both directions. The comparisons are unsigned: a negative
    number is large, and stays what it is. -/
def shuffleScno (arch : Arch) (scno : Addr arch) : Addr arch :=
  if arch = .arm ∨ arch = .aarch64 then
    if scno.toNat < armFirstShuffledSyscall then scno
    else if scno.toNat = armFirstShuffledSyscall then BitVec.ofNat _ 0x000ffff0
    else if scno.toNat = 0x000ffff0 then BitVec.ofNat _ armFirstShuffledSyscall
    else if 0x000f0000 ≤ scno.toNat ∧ scno.toNat ≤ 0x000f0000 + armLastSpecialSyscall then
      scno - BitVec.ofNat _ 0x000f0000 + BitVec.ofNat _ armSecondShuffledSyscall
    else if scno.toNat ≤ armSecondShuffledSyscall + armLastSpecialSyscall then
      scno + BitVec.ofNat _ 0x000f0000 - BitVec.ofNat _ armSecondShuffledSyscall
    else scno
  else scno

/-! ## The six functions -/

/-- The three `pink_name_*` functions: the row of a number in an ABI's table. A row may be there
    and have no name. -/
def nameIn (vec : Abi arch → NameTable String) (i : Int) (abi : Int) : Option (Option String) :=
  match abiRow arch abi with
  | none => none
  | some none => some none
  | some (some abi) => (vec abi).nameOf i

/-- The three `pink_lookup_*` functions: the row of a name in an ABI's table. A `NULL` or empty
    name has none. The name is checked before the ABI, but no caller can tell. -/
def lookupIn (vec : Abi arch → NameTable String) (name : Option String) (abi : Int) :
    Option (Option Nat) :=
  match name with
  | none => some none
  | some name =>
    if name = "" then some none
    else
      match abiRow arch abi with
      | none => none
      | some none => some none
      | some (some abi) => (vec abi).search name

/-- `pink_name_syscall`. The number is shuffled as an unsigned one and compared with the bounds of
    the table as a signed one. -/
def pinkNameSyscall (arch : Arch) (scno : Addr arch) (abi : Int) : Option (Option String) :=
  nameIn (sysentVec : Abi arch → _) (shuffleScno arch scno).toInt abi

/-- `pink_lookup_syscall`. What was found is shuffled back; the `-1` for nothing is not. -/
def pinkLookupSyscall (arch : Arch) (name : Option String) (abi : Int) : Option (Addr arch) :=
  (lookupIn (sysentVec : Abi arch → _) name abi).map fun
    | some scno => shuffleScno arch (BitVec.ofNat _ scno)
    | none => -1

/-- `pink_name_errno`. -/
def pinkNameErrno (arch : Arch) (errNo : Int) (abi : Int) : Option (Option String) :=
  nameIn (errnoentVec : Abi arch → _) errNo abi

/-- The number of an error or a signal, `-1` if it has none. No row has that number, so the answer
    is unambiguous. -/
def numberOf (found : Option (Option Nat)) : Option Int :=
  found.map fun
    | some i => i
    | none => -1

/-- `pink_lookup_errno`. -/
def pinkLookupErrno (arch : Arch) (name : Option String) (abi : Int) : Option Int :=
  numberOf (lookupIn (errnoentVec : Abi arch → _) name abi)

/-- `pink_name_signal`. -/
def pinkNameSignal (arch : Arch) (sig : Int) (abi : Int) : Option (Option String) :=
  nameIn (signalentVec : Abi arch → _) sig abi

/-- `pink_lookup_signal`. -/
def pinkLookupSignal (arch : Arch) (name : Option String) (abi : Int) : Option Int :=
  numberOf (lookupIn (signalentVec : Abi arch → _) name abi)

end PinkTrace
