import PinkTrace.Proof.Vm.Lread

/-!
# `pink_vm_lread_nul`

The word-wise string reader walks the same words as `pink_vm_lread` and copies the same bytes, so
its run reuses that closed form; what is new is where it stops. A pass scans its whole word from
the residue on, also past the end of the buffer, and the first NUL found is reported as `(dest -
orig_dest) + residue - 1`: the distance copied by the passes *before*, plus the index of the NUL
*in its word*. In the first word that index still counts the bytes below the address, and nowhere
does the sum count the NUL.

## What the three results are split by

Not by what the string looks like, but by what the loop meets first: the end of the range, a NUL,
or a word it cannot peek. Each theorem assumes that the other two come later. That is why the
readability premise of `pinkVmLreadNul_found` stops at the word of the NUL, and why the NUL
premise of `pinkVmLreadNul_error` stops at the faulty word: a string that ends in front of an
unmapped page is read, and this is what it is read by.

What the values come to is left to `doneAfter_add_mod`; which of them are right is the subject of
`WordStrings`.
-/

set_option autoImplicit false

namespace PinkTrace

open Lib

variable {arch : Arch} {K : Kernel arch} {addr : Addr arch} {len fuel k : Nat}

/-! ## Scanning a word -/

/-- A byte of the word that a pass has peeked, by its place in the range. The subtraction is
    exact, as the byte is not below the address. -/
theorem word_byte (mem : Memory arch.longBits) (hk : k < Cursor.rounds addr len) {j : Nat}
    (hr : (Cursor.after addr len k).residue ≤ j) (hj : j < arch.sizeofLong) :
    (Word.ofBytes (mem.from (wordAt addr k)) : Word arch).x j =
      mem (ahead addr (arch.sizeofLong * k + j - skew addr)) := by
  have hpos := Cursor.word_position hk
  rw [Word.x_ofBytes _ hj, Memory.from, wordAt, ahead_ahead, ← ahead_wordBase_add addr]
  congr 2
  omega

/-- Without a NUL up to the end of its word a pass finds nothing… -/
theorem scanNul_none {mem : Memory arch.longBits} (hk : k < Cursor.rounds addr len)
    (h : ∀ i, skew addr + i < arch.sizeofLong * (k + 1) → mem (ahead addr i) ≠ 0) :
    scanNul (Word.ofBytes (mem.from (wordAt addr k)) : Word arch)
      (Cursor.after addr len k).residue = none := by
  have hpos := Cursor.word_position hk
  rw [Nat.mul_succ] at h
  refine List.find?_range'_eq_none.mpr fun j hr hj => ?_
  have hbyte := word_byte mem hk hr (by omega)
  have hne := h (arch.sizeofLong * k + j - skew addr) (by omega)
  rw [hbyte]
  simpa using hne

/-- …and otherwise it finds the first of the range, at its index in the word. The pass is named by
    the byte, not by a counter. -/
theorem scanNul_some {mem : Memory arch.longBits} {i : Nat}
    (hk : (skew addr + i) / arch.sizeofLong < Cursor.rounds addr len)
    (h0 : mem (ahead addr i) = 0) (h : ∀ i', i' < i → mem (ahead addr i') ≠ 0) :
    scanNul (Word.ofBytes (mem.from (wordAt addr ((skew addr + i) / arch.sizeofLong))) : Word arch)
      (Cursor.after addr len ((skew addr + i) / arch.sizeofLong)).residue =
        some ((skew addr + i) % arch.sizeofLong) := by
  have hpos := Cursor.word_position hk
  have hmod := Nat.mod_lt (skew addr + i) arch.sizeofLong_pos
  have hdiv := Nat.div_add_mod (skew addr + i) arch.sizeofLong
  have hr : (Cursor.after addr len ((skew addr + i) / arch.sizeofLong)).residue ≤
      (skew addr + i) % arch.sizeofLong := by
    simp only [Cursor.after]
    omega
  refine List.find?_range'_eq_some.mpr ⟨?_, ?_, fun j hrj hj => ?_⟩
  · rw [word_byte mem hk hr hmod, hdiv, Nat.add_sub_cancel_left, h0]
    rfl
  · rw [List.mem_range'_1]
    omega
  · have hne := h (arch.sizeofLong * ((skew addr + i) / arch.sizeofLong) + j - skew addr)
      (by omega)
    rw [word_byte mem hk hrj (by omega)]
    simpa using hne

/-! ## What a pass does -/

theorem lreadNulBody_done {v : LreadVars arch} (h : v.cur.len = 0) :
    lreadNulBody K v = .done ⟨toSsize arch v.cur.count, v.dest, v.st⟩ := if_pos h

theorem lreadNulBody_error {v : LreadVars arch} {e : Errno} {st : State arch}
    (h : v.cur.len ≠ 0) (hp : pinkReadWordData K v.cur.aligned v.st = (.error e, st)) :
    lreadNulBody K v = .done ⟨-1, v.dest, { st with errno := some e }⟩ := by
  simp only [lreadNulBody, if_neg h, hp]

theorem lreadNulBody_again {v : LreadVars arch} {u : Word arch} {st : State arch}
    (h : v.cur.len ≠ 0) (hp : pinkReadWordData K v.cur.aligned v.st = (.ok u, st))
    (hs : scanNul u v.cur.residue = none) :
    lreadNulBody K v = .again ⟨v.cur.next,
      copy v.dest v.cur.off (fun i => u.x (v.cur.residue + i)) v.cur.m, st⟩ := by
  simp only [lreadNulBody, if_neg h, hp, hs]

theorem lreadNulBody_found {v : LreadVars arch} {u : Word arch} {st : State arch} {j : Nat}
    (h : v.cur.len ≠ 0) (hp : pinkReadWordData K v.cur.aligned v.st = (.ok u, st))
    (hs : scanNul u v.cur.residue = some j) :
    lreadNulBody K v = .done ⟨toSsize arch (v.cur.off + j),
      copy v.dest v.cur.off (fun i => u.x (v.cur.residue + i)) v.cur.m, st⟩ := by
  simp only [lreadNulBody, if_neg h, hp, hs]

/-- The step lemma of `pink_vm_lread_nul`. Over that of `pink_vm_lread` it asks for the bytes up
    to the end of the word to be no NULs. -/
theorem lreadNulBody_after {dest : Bytes} {s : State arch} (hk : k < Cursor.rounds addr len)
    (h : K.peekErr (wordAt addr k) = none)
    (hz : ∀ i, skew addr + i < arch.sizeofLong * (k + 1) → s.mem (ahead addr i) ≠ 0) :
    lreadNulBody K (lreadAfter addr dest len s k) =
      .again (lreadAfter addr dest len s (k + 1)) := by
  rw [lreadAfter_succ hk]
  exact lreadNulBody_again (Cursor.lt_rounds_iff.mp hk) (peek_lreadAfter dest len s h)
    (scanNul_none hk hz)

/-! ## Whole runs -/

/-- **No NUL in the words of the range**: the range is read, as by `pink_vm_lread`. -/
theorem pinkVmLreadNul_none (dest : Bytes) (s : State arch) (hf : len < fuel)
    (h : ∀ k, k < Cursor.rounds addr len → K.peekErr (wordAt addr k) = none)
    (hz : ∀ i, skew addr + i < arch.sizeofLong * Cursor.rounds addr len →
      s.mem (ahead addr i) ≠ 0) :
    pinkVmLreadNul fuel K addr dest len s = some
      ⟨toSsize arch (len % 2 ^ 32), copy dest 0 (s.mem.from addr) len,
        peeked s addr (Cursor.rounds addr len)⟩ := by
  have hdone : lreadNulBody K (lreadAfter addr dest len s (Cursor.rounds addr len)) = .done
      ⟨toSsize arch (len % 2 ^ 32), copy dest 0 (s.mem.from addr) len,
        peeked s addr (Cursor.rounds addr len)⟩ := by
    rw [lreadNulBody_done (Cursor.len_after_rounds addr len)]
    simp only [lreadAfter, Cursor.after, filled, Cursor.doneAfter_rounds]
  have hstep : ∀ k, k < Cursor.rounds addr len → lreadNulBody K (lreadAfter addr dest len s k) =
      .again (lreadAfter addr dest len s (k + 1)) := fun k hk =>
    lreadNulBody_after hk (h k hk) fun i hi =>
      hz i (Nat.lt_of_lt_of_le hi (Nat.mul_le_mul_left _ hk))
  rw [pinkVmLreadNul, ← lreadAfter_zero addr dest len s]
  exact run_rounds_done (lreadAfter addr dest len s) hstep hdone
    (Nat.lt_of_le_of_lt (Cursor.rounds_le addr len) hf)

/-- **The first NUL at offset `i`, in the `q`-th word**: that word's share is still copied, and
    the value is the bytes copied before it plus the index in it. Only the words up to that one
    have to be readable. -/
theorem pinkVmLreadNul_found {i q : Nat} (dest : Bytes) (s : State arch) (hf : len < fuel)
    (hq : (skew addr + i) / arch.sizeofLong = q) (hk : q < Cursor.rounds addr len)
    (h : ∀ k, k ≤ q → K.peekErr (wordAt addr k) = none)
    (h0 : s.mem (ahead addr i) = 0) (hz : ∀ i', i' < i → s.mem (ahead addr i') ≠ 0) :
    pinkVmLreadNul fuel K addr dest len s = some
      ⟨toSsize arch (Cursor.doneAfter addr len q + (skew addr + i) % arch.sizeofLong),
        filled s.mem addr dest len (q + 1), peeked s addr (q + 1)⟩ := by
  subst hq
  have hdone := lreadNulBody_found (v := lreadAfter addr dest len s _)
    (Cursor.lt_rounds_iff.mp hk) (peek_lreadAfter dest len s (h _ (Nat.le_refl _)))
    (scanNul_some hk h0 hz)
  simp only [lreadAfter, copy_word hk] at hdone
  have hstep : ∀ k, k < (skew addr + i) / arch.sizeofLong →
      lreadNulBody K (lreadAfter addr dest len s k) =
        .again (lreadAfter addr dest len s (k + 1)) := fun k hlt =>
    lreadNulBody_after (Nat.lt_trans hlt hk) (h k (Nat.le_of_lt hlt)) fun i' hi' => hz i' (by
      have hsucc : k + 1 ≤ (skew addr + i) / arch.sizeofLong := hlt
      have hle := Nat.le_trans (Nat.mul_le_mul_left arch.sizeofLong hsucc)
        (Nat.mul_div_le (skew addr + i) arch.sizeofLong)
      omega)
  rw [pinkVmLreadNul, ← lreadAfter_zero addr dest len s]
  exact run_rounds_done (lreadAfter addr dest len s) hstep hdone
    (Nat.lt_of_lt_of_le hk (Nat.le_trans (Cursor.rounds_le addr len) (Nat.le_of_lt hf)))

/-- **A fault before any NUL** abandons the read. -/
theorem pinkVmLreadNul_error {j : Nat} {e : Errno} (dest : Bytes) (s : State arch)
    (hf : len < fuel) (hj : j < Cursor.rounds addr len)
    (h : ∀ k, k < j → K.peekErr (wordAt addr k) = none)
    (hz : ∀ i, skew addr + i < arch.sizeofLong * j → s.mem (ahead addr i) ≠ 0)
    (he : K.peekErr (wordAt addr j) = some e) :
    pinkVmLreadNul fuel K addr dest len s = some
      ⟨-1, filled s.mem addr dest len j,
        { peeked s addr (j + 1) with errno := some (mapEio e) }⟩ := by
  have hdone := lreadNulBody_error (v := lreadAfter addr dest len s j)
    (Cursor.lt_rounds_iff.mp hj) (peek_lreadAfter_error dest len s he)
  have hstep : ∀ k, k < j → lreadNulBody K (lreadAfter addr dest len s k) =
      .again (lreadAfter addr dest len s (k + 1)) := fun k hk =>
    lreadNulBody_after (Nat.lt_trans hk hj) (h k hk) fun i hi =>
      hz i (Nat.lt_of_lt_of_le hi (Nat.mul_le_mul_left _ hk))
  rw [pinkVmLreadNul, ← lreadAfter_zero addr dest len s]
  exact run_rounds_done (lreadAfter addr dest len s) hstep hdone
    (Nat.lt_of_lt_of_le hj (Nat.le_trans (Cursor.rounds_le addr len) (Nat.le_of_lt hf)))

/-- What the value at a NUL comes to: the NUL's offset, unless it lies in the first word, where
    the skew is counted as well. -/
theorem doneAfter_add_mod {i : Nat}
    (h : (skew addr + i) / arch.sizeofLong < Cursor.rounds addr len) :
    Cursor.doneAfter addr len ((skew addr + i) / arch.sizeofLong) +
        (skew addr + i) % arch.sizeofLong =
      if skew addr + i < arch.sizeofLong then skew addr + i else i := by
  have hpos := Cursor.word_position h
  have hskew := skew_lt addr
  have hdiv := Nat.div_add_mod (skew addr + i) arch.sizeofLong
  split
  · rename_i hlt
    rw [Nat.div_eq_of_lt hlt, Nat.mod_eq_of_lt hlt]
    simp [Cursor.doneAfter]
  · rename_i hge
    -- past the first word the residue is gone
    have hres : (Cursor.after addr len ((skew addr + i) / arch.sizeofLong)).residue = 0 := by
      have hone : 1 ≤ (skew addr + i) / arch.sizeofLong :=
        (Nat.one_le_div_iff arch.sizeofLong_pos).mpr (Nat.le_of_not_lt hge)
      have hle := Nat.mul_le_mul_left arch.sizeofLong hone
      simp only [Cursor.after]
      omega
    simp only [Cursor.after] at hpos hres
    omega

end PinkTrace
