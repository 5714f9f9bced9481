import PinkTrace.Kernel

/-!
# What the transfers are for

The contract of the readers and writers in terms of tracee memory alone, with no loop, no word and
no system call in it: what a string is and how long it is counted, and what a write leaves alone.
The files under `Proof/Vm` measure the code against these.

Nothing here was read off `vm.c`. A string read is specified by the first NUL in *memory*, not by
the chunk or the word it was found in, and so the same definition serves for both paths, also
where they disagree about it.

Ranges wrap at the end of the address space, as addresses do: `ahead addr i` is the `i`-th byte,
and `gap b addr` the distance at which a byte comes up.
-/

set_option autoImplicit false

namespace PinkTrace

open Lib

variable {arch : Arch} {mem : Memory arch.longBits} {addr : Addr arch} {m k : Nat}

/-! ## Strings -/

/-- How many bytes of memory from an address on come before the first NUL among `m` of them; `m`
    if there is none. One number for both outcomes keeps the case split out of most statements. -/
def firstNul (mem : Memory arch.longBits) (addr : Addr arch) (m : Nat) : Nat :=
  leading (fun i => mem (ahead addr i) != 0) m

theorem firstNul_le (mem : Memory arch.longBits) (addr : Addr arch) (m : Nat) :
    firstNul mem addr m ≤ m := leading_le _ m

/-- The bytes in front of it are none… -/
theorem ne_of_lt_firstNul {i : Nat} (h : i < firstNul mem addr m) : mem (ahead addr i) ≠ 0 := by
  simpa using leading_holds (p := fun i => mem (ahead addr i) != 0) h

/-- …and the one at it is one, provided it is inside of the range. -/
theorem firstNul_nul (h : firstNul mem addr m < m) :
    mem (ahead addr (firstNul mem addr m)) = 0 := by
  have hstop := leading_stops h
  simpa [firstNul] using hstop

/-- How a loop that went through to the end learns where the NUL is: nowhere. -/
theorem firstNul_of_forall (h : ∀ i, i < m → mem (ahead addr i) ≠ 0) : firstNul mem addr m = m :=
  leading_eq_of_forall fun i hi => by simpa using h i hi

/-- How a loop that met a NUL learns that it is the first: all the bytes it has passed were none.
    -/
theorem firstNul_of_nul (hk : k < m) (h0 : mem (ahead addr k) = 0)
    (h : ∀ i, i < k → mem (ahead addr i) ≠ 0) : firstNul mem addr m = k :=
  leading_unique (Nat.le_of_lt hk) (fun i hi => by simpa using h i hi) (fun _ => by simp [h0])

/-- In a shorter range the first NUL is where it was, or out of it. -/
theorem firstNul_of_le (hk : k ≤ m) : firstNul mem addr k = min (firstNul mem addr m) k :=
  leading_of_le hk

/-- The count a string read of at most `m` bytes is to return: `k + 1` if the first NUL is at
    offset `k < m`, and `m` if there is none. -/
def stringCount (mem : Memory arch.longBits) (addr : Addr arch) (m : Nat) : Nat :=
  if firstNul mem addr m < m then firstNul mem addr m + 1 else m

/-- The count as one expression. The definition says what is meant, this form is the one that
    arithmetic can use. -/
theorem stringCount_eq_min (mem : Memory arch.longBits) (addr : Addr arch) (m : Nat) :
    stringCount mem addr m = min (firstNul mem addr m + 1) m := by
  unfold stringCount
  split <;> omega

theorem stringCount_le (mem : Memory arch.longBits) (addr : Addr arch) (m : Nat) :
    stringCount mem addr m ≤ m := by
  rw [stringCount_eq_min]
  omega

/-! ## Writes -/

/-- Every byte outside `[addr, addr + len)` is the same in both memories. Nothing is said of the
    bytes inside: what a write does there is for a statement of its own. -/
def Untouched (mem mem' : Memory arch.longBits) (addr : Addr arch) (len : Nat) : Prop :=
  ∀ b, len ≤ gap b addr → mem' b = mem b

end PinkTrace
