import PinkTrace.Lib.Overlay
import PinkTrace.Vm

/-!
# String arrays (`read.c`)

`pink_read_string_array` follows one pointer of an `argv`-like array: it reads the pointer, a word
of the tracee's own width, and then the string behind it. The pointer is read into a union nobody
initialised, and whether that went well is judged by `errno` alone.

Both of these are visible in the model. The bytes of the union are a parameter, so that a result
which depends on them cannot be proved by accident; and the test is on `errno`, so that a read
which came back short counts as one that succeeded. An error is reported as `0`, which is what a
string of no bytes would return too.
-/

set_option autoImplicit false

namespace PinkTrace

open Lib

variable {arch : Arch}

/-- The number an unsigned object of `n` bytes holds. PowerPC has its highest byte first, the
    other hosts their lowest. -/
def loadUnsigned (arch : Arch) (obj : Bytes) (n : Nat) : Nat :=
  match arch with
  | .powerpc | .powerpc64 => leLoad (fun i => obj (n - 1 - i)) 0 n
  | .aarch64 | .arm | .i386 | .x86_64 => leLoad obj 0 n

/-- `wsize < sizeof(cp.p64) ? cp.p32 : cp.p64`, of the bytes of `cp`. A 32-bit pointer is
    zero-extended: it was declared `unsigned int`. -/
def pointerOf (arch : Arch) (cp : Bytes) (wsize : Nat) : Addr arch :=
  BitVec.ofNat _ (if wsize < arch.sizeofLong then loadUnsigned arch cp 4
    else loadUnsigned arch cp arch.sizeofLong)

/-- What reading a string of an array leaves behind. `nullptr` is `none` for a null pointer, and
    otherwise what it points to; it keeps its old value on the way out through an error. -/
structure StringArrayRet (arch : Arch) where
  ret : Int
  dest : Bytes
  nullptr : Option Bool
  st : State arch

/-- `pink_read_string_array`. `cp` is what the uninitialised union holds. -/
def pinkReadStringArray (fuel : Nat) (K : Kernel arch) (cp : Bytes) (abi : Abi arch)
    (arg : Addr arch) (arrIndex : Nat) (dest : Bytes) (destLen : Nat) (nullptr : Option Bool)
    (s : State arch) : Option (StringArrayRet arch) := do
  let wsize := pinkAbiWordsize abi
  let arg := arg + BitVec.ofNat _ (arrIndex * wsize)
  let r ← pinkReadVmData fuel K abi arg cp wsize { s with errno := none }
  -- `if (errno) return 0`: the count is not looked at
  if r.st.errno ≠ none then some ⟨0, dest, nullptr, r.st⟩
  else if pointerOf arch r.dest wsize = 0 then
    some ⟨0, dest, nullptr.map fun _ => true, r.st⟩
  else
    let q ← pinkReadVmDataNul fuel K abi (pointerOf arch r.dest wsize) dest destLen r.st
    some ⟨q.ret, q.dest, nullptr.map fun _ => false, q.st⟩

end PinkTrace
