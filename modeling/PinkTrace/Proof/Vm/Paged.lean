import PinkTrace.Proof.Vm.Lread

/-!
# Transfers in front of a page-granular tracee

`AddressSpace.kernel` gives both paths the same view of the tracee: a word can be peeked exactly
when its page is readable, a byte can be reached exactly when its page is. Since a word never
straddles a page, the two granularities agree on a range as long as the range is accessible
throughout, and this file is that bridge: `Readable` and `Writable` ranges have their words
peekable and pokable, and attach transfers them whole.

Two facts carry it. A word lies in the page of any of its bytes (`page_wordBase`), and every word
that a loop visits holds a byte of the range (`exists_byte_of_lt_rounds`); a word that rounding
alone had brought in might be on a page nobody asked about.
-/

set_option autoImplicit false

namespace PinkTrace

open Lib
open Abi (pinkAbiDefault)

variable {arch : Arch}

def allMapped (arch : Arch) : AddressSpace arch where
  readable _ := true
  writable _ := true
  faultsEio _ := false

/-! ## Words and pages -/

namespace AddressSpace

/-- A word does not straddle a page. So to ask for the page of a word is to ask for the page of
    any of its bytes. -/
theorem page_wordBase (addr : Addr arch) : page (wordBase addr) = page addr := by
  have hskew : skew addr = addr.toNat % arch.sizeofLong := rfl
  rw [page, page, toNat_wordBase]
  rcases arch.sizes with ⟨hw, -⟩ | ⟨hw, -⟩ <;>
    · rw [hw] at hskew; omega

theorem page_wordAt (addr : Addr arch) (i : Nat) :
    page (wordAt addr ((skew addr + i) / arch.sizeofLong)) = page (ahead addr i) := by
  rw [← wordBase_ahead_eq, page_wordBase]

variable {sp : AddressSpace arch} {addr : Addr arch} {len : Nat}

/-- Every pass handles a byte of the range, and that byte names the pass. -/
theorem exists_byte_of_lt_rounds {k : Nat} (hk : k < Cursor.rounds addr len) :
    ∃ i, i < len ∧ (skew addr + i) / arch.sizeofLong = k := by
  have hpos := Cursor.word_position hk
  have hlen := Cursor.lt_rounds_iff.mp hk
  have hres : (Cursor.after addr len k).residue < arch.sizeofLong :=
    Nat.lt_of_le_of_lt (Nat.sub_le ..) (skew_lt addr)
  refine ⟨(Cursor.after addr len k).off, ?_, ?_⟩
  · simp only [Cursor.after] at hlen ⊢
    omega
  · rw [← hpos, Nat.mul_add_div arch.sizeofLong_pos, Nat.div_eq_of_lt hres, Nat.add_zero]

theorem div_lt_rounds (addr : Addr arch) {i : Nat} (hi : i < len) :
    (skew addr + i) / arch.sizeofLong < Cursor.rounds addr len := by
  have hskew := skew_lt addr
  rw [Cursor.rounds, if_neg (by omega)]
  rcases arch.sizes with ⟨hw, -⟩ | ⟨hw, -⟩ <;>
    · rw [hw] at hskew ⊢; omega

theorem peekErr_of_readable (readv writev : Attach) (h : sp.Readable addr len) {k : Nat}
    (hk : k < Cursor.rounds addr len) :
    (sp.kernel readv writev).peekErr (wordAt addr k) = none := by
  obtain ⟨i, hi, rfl⟩ := exists_byte_of_lt_rounds hk
  simp only [kernel, page_wordAt, h i hi, if_true]

theorem pokeErr_of_writable (readv writev : Attach) (h : sp.Writable addr len) {k : Nat}
    (hk : k < Cursor.rounds addr len) :
    (sp.kernel readv writev).pokeErr (wordAt addr k) = none := by
  obtain ⟨i, hi, rfl⟩ := exists_byte_of_lt_rounds hk
  simp only [kernel, page_wordAt, h i hi, if_true]

/-- An unreadable byte makes its word fail, and the pass that handles that word is known. -/
theorem peekErr_of_unreadable (readv writev : Attach) {i : Nat}
    (h : sp.readable (page (ahead addr i)) = false) :
    (sp.kernel readv writev).peekErr (wordAt addr ((skew addr + i) / arch.sizeofLong)) =
      some (sp.fault (wordAt addr ((skew addr + i) / arch.sizeofLong))) := by
  simp only [kernel, page_wordAt, h]
  simp

end AddressSpace

/-! ## `ssize_t` and `setup_addr` -/

/-- A `size_t` as an `ssize_t`: the upper half of its range comes out negative. -/
theorem toSsize_eq {n : Nat} (h : n < 2 ^ arch.longBits) :
    toSsize arch n = if n < 2 ^ (arch.longBits - 1) then (n : Int)
      else (n : Int) - (2 ^ arch.longBits : Nat) := by
  have hmax := arch.two_mul_long_max
  have hmod : (n : Int) % (2 ^ arch.longBits : Nat) = n := by
    rw [← Int.natCast_emod, Nat.mod_eq_of_lt h]
  rw [toSsize, Int.bmod_def, hmod]
  split <;> split <;> omega

theorem toSsize_of_lt {n : Nat} (h : n < 2 ^ (arch.longBits - 1)) : toSsize arch n = n := by
  have hmax := arch.two_mul_long_max
  rw [toSsize_eq (by omega), if_pos h]

/-- `setup_addr` takes an address modulo the tracee's own address space. For the host's own ABI
    that changes nothing, which is the simp lemma below. -/
theorem toNat_setupAddr (abi : Abi arch) (addr : Addr arch) :
    (setupAddr abi addr).toNat = addr.toNat % 2 ^ (8 * pinkAbiWordsize abi) := by
  rcases pinkAbiWordsize_cases abi with heq | ⟨-, hlt⟩
  · have hkeep : setupAddr abi addr = addr := by simp [setupAddr, heq]
    rw [hkeep, heq]
    exact (Nat.mod_eq_of_lt addr.isLt).symm
  · rw [setupAddr, if_pos (multi_of_wordsize_lt hlt)]
    simp only [if_pos hlt]
    exact toNat_and_mask addr (Nat.mul_le_mul_left 8 (Nat.le_of_lt hlt))

@[simp] theorem setupAddr_default (addr : Addr arch) :
    setupAddr (pinkAbiDefault arch) addr = addr := by
  simp [setupAddr, pinkAbiWordsize_default]

end PinkTrace
