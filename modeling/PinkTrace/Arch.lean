import PinkTrace.Lib.Span

/-!
# Builds and their ABIs (`abi.c`, `abi.h`, `private.h`)

One pinktrace library is compiled per host, and what `configure` settles there is a constant of
the whole library: how wide a `long` is, how many system call ABIs a tracee may use, and how wide
a word of each of them is. `Arch` is that choice.

Two builds are missing on purpose. `configure` refuses `ia64`, and the `x32` host build does not
compile (`pink_read_retval` calls `is_negated_errno_x32` with one of its two arguments). `powerpc`
appears twice because `configure` calls a 64-bit PowerPC host `powerpc` as well: it never sets
`PINK_ARCH_POWERPC64`, so that build has 64-bit longs and still only one ABI.

## Why an ABI is a type over the build

In the C code an ABI is a `short`. The functions of `name.c` check it before they index a table
with it, and `pink_abi_wordsize` does not. But everything behind a regset gets an ABI that a fill
has put there, and a fill assigns no others than those of the build. `Abi arch` has exactly these,
so an index out of the table cannot be written down and no function needs a value for it. Where
the `short` of a caller matters, in `name.c`, it is an `Int` and the check is modelled with it.
-/

set_option autoImplicit false

namespace PinkTrace

/-- The host the library is compiled for. -/
inductive Arch
  | aarch64 | arm | i386 | powerpc | powerpc64 | x86_64
  deriving DecidableEq, Repr

namespace Arch

/-- `sizeof(long)`. A `size_t` and a pointer have the same size on all of these hosts, so this one
    number is the data model. -/
def sizeofLong : Arch → Nat
  | aarch64 | powerpc64 | x86_64 => 8
  | arm | i386 | powerpc => 4

/-- The number of bits of a `long`, and of a `size_t` and a pointer with it. -/
def longBits (arch : Arch) : Nat := 8 * arch.sizeofLong

/-- `PINK_ABIS_SUPPORTED`. The preprocessor drops the code that tells ABIs apart where this is 1;
    here the same condition is a test. -/
def pinkAbisSupported : Arch → Nat
  | aarch64 => 2
  | x86_64 => 3
  | _ => 1

/-- The two data models, each with the size of its address space. Most arithmetic below starts
    by splitting on this. -/
theorem sizes (arch : Arch) :
    (arch.sizeofLong = 4 ∧ 2 ^ arch.longBits = 4294967296) ∨
      (arch.sizeofLong = 8 ∧ 2 ^ arch.longBits = 18446744073709551616) := by
  cases arch <;> decide

/-- Half of the address space is negative as a `long`. Stated as a product, since a bound on a
    length is met in both forms. -/
theorem two_mul_long_max (arch : Arch) :
    2 * 2 ^ (arch.longBits - 1) = 2 ^ arch.longBits := by
  cases arch <;> decide

/-- `2^31` bytes fit an `ssize_t` on every build. That is the bound most results ask of a length:
    it keeps a 32-bit count from wrapping as well. -/
theorem lt_long_max (arch : Arch) {n : Nat} (h : n < 2 ^ 31) : n < 2 ^ (arch.longBits - 1) :=
  Nat.lt_of_lt_of_le h (by cases arch <;> decide)

theorem sizeofLong_pos (arch : Arch) : 0 < arch.sizeofLong := by
  cases arch <;> decide

/-- `sizeof(long)` is a power of two, as its use in the masks below needs: `addr & (sizeof(long) -
    1)` is a residue for no other number. -/
theorem sizeofLong_eq_two_pow (arch : Arch) :
    ∃ e, e ≤ arch.longBits ∧ arch.sizeofLong = 2 ^ e := by
  cases arch
  case aarch64 | powerpc64 | x86_64 => exact ⟨3, by decide, rfl⟩
  case arm | i386 | powerpc => exact ⟨2, by decide, rfl⟩

end Arch

/-- `PINK_MAX_ARGS`. -/
abbrev pinkMaxArgs : Nat := 6

/-- A `long` carrying an address. Arithmetic on it wraps, and none of the code looks whether it
    has. -/
abbrev Addr (arch : Arch) := BitVec arch.longBits

/-- The system call ABI of a tracee. A build knows only its own: an ABI of another one, or a
    number at or past `PINK_ABIS_SUPPORTED`, cannot be written down. -/
inductive Abi : Arch → Type
  /-- `PINK_ABI_DEFAULT` of a build with a single ABI. -/
  | only {arch : Arch} (h : arch.pinkAbisSupported = 1) : Abi arch
  /-- `PINK_ABI_AARCH64` and `PINK_ABI_ARM`. -/
  | aarch64 : Abi .aarch64
  | arm : Abi .aarch64
  /-- `PINK_ABI_X86_64`, `PINK_ABI_I386` and `PINK_ABI_X32`. -/
  | x86_64 : Abi .x86_64
  | i386 : Abi .x86_64
  | x32 : Abi .x86_64
  deriving DecidableEq

namespace Abi

variable {arch : Arch}

/-- The number `abi.h` defines the ABI as. -/
def index : Abi arch → Nat
  | only _ | aarch64 | x86_64 => 0
  | arm | i386 => 1
  | x32 => 2

/-- The number of an ABI passes the check of the functions that take one. -/
theorem index_lt (abi : Abi arch) : abi.index < arch.pinkAbisSupported := by
  cases abi with
  | only h => rw [h]; exact Nat.one_pos
  | _ => decide

/-- `PINK_ABI_DEFAULT`, the host's own ABI. -/
def pinkAbiDefault : (arch : Arch) → Abi arch
  | .aarch64 => aarch64
  | .x86_64 => x86_64
  | .arm | .i386 | .powerpc | .powerpc64 => only rfl

end Abi

open Abi (pinkAbiDefault)

/-- `pink_abi_wordsize`: the word size of an ABI, out of the build's `ABI<n>_WORDSIZE`. -/
def pinkAbiWordsize {arch : Arch} : Abi arch → Nat
  | .only _ => arch.sizeofLong
  | .aarch64 => 8
  | .arm => 4
  | .x86_64 => 8
  | .i386 => 4
  | .x32 => 4

/-- The host's own ABI has the host's word size. -/
theorem pinkAbiWordsize_default (arch : Arch) :
    pinkAbiWordsize (pinkAbiDefault arch) = arch.sizeofLong := by
  cases arch <;> rfl

/-- A word is as wide as a `long`, or four bytes of it. Nothing in between exists, which is why
    `addr & 0xffffffff` is the only truncation there is. -/
theorem pinkAbiWordsize_cases {arch : Arch} (abi : Abi arch) :
    pinkAbiWordsize abi = arch.sizeofLong ∨
      pinkAbiWordsize abi = 4 ∧ pinkAbiWordsize abi < arch.sizeofLong := by
  cases abi with
  | only _ => exact .inl rfl
  | _ => decide

/-- Only the two builds with a 32-bit ABI under a 64-bit host have a word size that differs
    from `sizeof(long)`, and both pass the guard of `setup_addr`. -/
theorem multi_of_wordsize_lt {arch : Arch} {abi : Abi arch}
    (h : pinkAbiWordsize abi < arch.sizeofLong) :
    1 < arch.pinkAbisSupported ∧ 4 < arch.sizeofLong := by
  cases abi with
  | only _ => exact absurd h (Nat.lt_irrefl _)
  | _ => decide

end PinkTrace
