import PinkTrace.Proof.Vm.Cursor

/-!
# `pink_vm_lread`

The run of the word-wise reader, in closed form (`lreadAfter`) and then as two theorems with no
loop left in them: `pinkVmLread_ok` when every word overlapping the range can be peeked,
`pinkVmLread_error` when the `j`-th is the first that cannot. The second is where the reader's
convention shows: whatever was copied before the fault stays in the buffer, and the value returned
is `-1`.

The two premises exclude each other and leave nothing out, so `pinkVmLread_cases` is all there is
to know about the function. Both are stated with every component of the result (value, buffer,
errno, log), although few uses need more than two: a later file can then ask a new question
without opening the loop again.
-/

set_option autoImplicit false

namespace PinkTrace

open Lib

variable {arch : Arch}

/-- The state once the first `k` words of a range have been peeked. Memory is never changed by a
    reader, and `errno` is cleared by the first peek that succeeds. -/
def peeked (s : State arch) (addr : Addr arch) (k : Nat) : State arch where
  mem := s.mem
  errno := if k = 0 then s.errno else none
  log := s.log ++ (List.range k).map fun j => .peekData (wordAt addr j)

theorem peeked_zero (s : State arch) (addr : Addr arch) : peeked s addr 0 = s := by
  simp [peeked]

theorem pinkReadWordData_peeked {K : Kernel arch} {addr : Addr arch} {k : Nat} (s : State arch)
    (h : K.peekErr (wordAt addr k) = none) :
    pinkReadWordData K (wordAt addr k) (peeked s addr k) =
      (.ok (.ofBytes (s.mem.from (wordAt addr k))), peeked s addr (k + 1)) := by
  rw [pinkReadWordData_ok _ h]
  simp [peeked, List.range_succ]

theorem pinkReadWordData_peeked_error {K : Kernel arch} {addr : Addr arch} {k : Nat} {e : Errno}
    (s : State arch) (h : K.peekErr (wordAt addr k) = some e) :
    pinkReadWordData K (wordAt addr k) (peeked s addr k) =
      (.error (mapEio e), { peeked s addr (k + 1) with errno := some (mapEio e) }) := by
  rw [pinkReadWordData_error _ h]
  simp [peeked, List.range_succ]

/-- What the buffer holds after `k` passes: the first bytes of the range, and behind them what was
    there before. -/
def filled (mem : Memory arch.longBits) (addr : Addr arch) (dest : Bytes) (len k : Nat) :
    Bytes :=
  copy dest 0 (mem.from addr) (Cursor.doneAfter addr len k)

/-- **The copying step**: `memcpy(dest, &u.x[residue], m)` of the `k`-th word extends the
    filled part by exactly that word's share of the range. -/
theorem copy_word {mem : Memory arch.longBits} {addr : Addr arch} {dest : Bytes} {len k : Nat}
    (hk : k < Cursor.rounds addr len) :
    copy (filled mem addr dest len k) (Cursor.after addr len k).off
        (fun i => (Word.ofBytes (mem.from (wordAt addr k)) : Word arch).x
          ((Cursor.after addr len k).residue + i)) (Cursor.after addr len k).m
      = filled mem addr dest len (k + 1) := by
  have hpos := Cursor.word_position hk
  have hadd := Cursor.off_add_m hk
  have hle := Cursor.residue_add_m_le addr len k
  have hoff : (Cursor.after addr len k).off = Cursor.doneAfter addr len k := rfl
  funext i
  rcases Nat.lt_or_ge i (Cursor.after addr len k).off with hi | hi
  · rw [copy_of_not (by omega), filled, filled, copy_of_lt (Nat.zero_le i) (by omega),
      copy_of_lt (Nat.zero_le i) (by omega)]
  · rcases Nat.lt_or_ge i (Cursor.doneAfter addr len (k + 1)) with hi' | hi'
    · -- the byte lies in the `k`-th word: read it there, and measure both from the base
      rw [copy_of_lt hi (by omega), Word.x_ofBytes _ (by omega), filled,
        copy_of_lt (Nat.zero_le i) (by omega)]
      simp only [Memory.from, wordAt, ahead_ahead]
      rw [Nat.sub_zero, ← ahead_wordBase_add addr i]
      congr 2
      omega
    · rw [copy_of_not (by omega), filled, filled, copy_of_not (by omega),
        copy_of_not (by omega)]

/-- The variables after `k` passes, the three parts side by side. It is a definition and not an
    existential, so that two runs over the same range can be compared by equality. -/
def lreadAfter (addr : Addr arch) (dest : Bytes) (len : Nat) (s : State arch) (k : Nat) :
    LreadVars arch where
  cur := .after addr len k
  dest := filled s.mem addr dest len k
  st := peeked s addr k

theorem lreadAfter_zero (addr : Addr arch) (dest : Bytes) (len : Nat) (s : State arch) :
    lreadAfter addr dest len s 0 = ⟨.start addr len, dest, s⟩ := by
  have hdest : filled s.mem addr dest len 0 = dest := by
    simp [filled, Cursor.doneAfter]
  rw [lreadAfter, Cursor.after_zero, hdest, peeked_zero]

/-! ## What a pass of `pink_vm_lread` does -/

theorem lreadBody_done {K : Kernel arch} {v : LreadVars arch} (h : v.cur.len = 0) :
    lreadBody K v = .done ⟨toSsize arch v.cur.count, v.dest, v.st⟩ := if_pos h

theorem lreadBody_error {K : Kernel arch} {v : LreadVars arch} {e : Errno} {st : State arch}
    (h : v.cur.len ≠ 0) (hp : pinkReadWordData K v.cur.aligned v.st = (.error e, st)) :
    lreadBody K v = .done ⟨-1, v.dest, { st with errno := some e }⟩ := by
  rw [lreadBody, if_neg h, hp]

theorem lreadBody_again {K : Kernel arch} {v : LreadVars arch} {u : Word arch}
    {st : State arch} (h : v.cur.len ≠ 0)
    (hp : pinkReadWordData K v.cur.aligned v.st = (.ok u, st)) :
    lreadBody K v = .again ⟨v.cur.next,
      copy v.dest v.cur.off (fun i => u.x (v.cur.residue + i)) v.cur.m, st⟩ := by
  rw [lreadBody, if_neg h, hp]

theorem lreadAfter_succ {addr : Addr arch} {dest : Bytes} {len k : Nat} {s : State arch}
    (hk : k < Cursor.rounds addr len) :
    lreadAfter addr dest len s (k + 1) = ⟨(Cursor.after addr len k).next,
      copy (filled s.mem addr dest len k) (Cursor.after addr len k).off
        (fun i => (Word.ofBytes (s.mem.from (wordAt addr k)) : Word arch).x
          ((Cursor.after addr len k).residue + i)) (Cursor.after addr len k).m,
      peeked s addr (k + 1)⟩ := by
  rw [lreadAfter, Cursor.after_next hk, copy_word hk]

theorem aligned_lreadAfter (addr : Addr arch) (dest : Bytes) (len : Nat) (s : State arch)
    (k : Nat) : (lreadAfter addr dest len s k).cur.aligned = wordAt addr k :=
  Cursor.aligned_after addr len k

theorem peek_lreadAfter {K : Kernel arch} {addr : Addr arch} {k : Nat} (dest : Bytes)
    (len : Nat) (s : State arch) (h : K.peekErr (wordAt addr k) = none) :
    pinkReadWordData K (lreadAfter addr dest len s k).cur.aligned
        (lreadAfter addr dest len s k).st =
      (.ok (.ofBytes (s.mem.from (wordAt addr k))), peeked s addr (k + 1)) := by
  rw [aligned_lreadAfter]
  exact pinkReadWordData_peeked s h

theorem peek_lreadAfter_error {K : Kernel arch} {addr : Addr arch} {k : Nat} {e : Errno}
    (dest : Bytes) (len : Nat) (s : State arch) (h : K.peekErr (wordAt addr k) = some e) :
    pinkReadWordData K (lreadAfter addr dest len s k).cur.aligned
        (lreadAfter addr dest len s k).st =
      (.error (mapEio e), { peeked s addr (k + 1) with errno := some (mapEio e) }) := by
  rw [aligned_lreadAfter]
  exact pinkReadWordData_peeked_error s h

/-- The step lemma of `pink_vm_lread`. The premise is about one word, so it serves the run that
    succeeds and the one that fails later. -/
theorem lreadBody_after {K : Kernel arch} {addr : Addr arch} {dest : Bytes} {len k : Nat}
    {s : State arch} (hk : k < Cursor.rounds addr len)
    (h : K.peekErr (wordAt addr k) = none) :
    lreadBody K (lreadAfter addr dest len s k) = .again (lreadAfter addr dest len s (k + 1)) := by
  rw [lreadAfter_succ hk]
  exact lreadBody_again (Cursor.lt_rounds_iff.mp hk) (peek_lreadAfter dest len s h)

/-- **A range whose words can all be peeked is read exactly.** The value is the length as the
    32-bit counter has it, converted to `ssize_t`. -/
theorem pinkVmLread_ok {K : Kernel arch} {addr : Addr arch} {len fuel : Nat} (dest : Bytes)
    (s : State arch) (hf : len < fuel)
    (h : ∀ k, k < Cursor.rounds addr len → K.peekErr (wordAt addr k) = none) :
    pinkVmLread fuel K addr dest len s = some
      ⟨toSsize arch (len % 2 ^ 32), copy dest 0 (s.mem.from addr) len,
        peeked s addr (Cursor.rounds addr len)⟩ := by
  have hdone : lreadBody K (lreadAfter addr dest len s (Cursor.rounds addr len)) = .done
      ⟨toSsize arch (len % 2 ^ 32), copy dest 0 (s.mem.from addr) len,
        peeked s addr (Cursor.rounds addr len)⟩ := by
    rw [lreadBody_done (Cursor.len_after_rounds addr len)]
    simp only [lreadAfter, Cursor.after, filled, Cursor.doneAfter_rounds]
  rw [pinkVmLread, ← lreadAfter_zero addr dest len s]
  exact run_rounds_done (lreadAfter addr dest len s) (fun k hk => lreadBody_after hk (h k hk))
    hdone (Nat.lt_of_le_of_lt (Cursor.rounds_le addr len) hf)

/-- **A fault on any word abandons the read**, whatever was copied before it. -/
theorem pinkVmLread_error {K : Kernel arch} {addr : Addr arch} {len fuel j : Nat} {e : Errno}
    (dest : Bytes) (s : State arch) (hf : len < fuel) (hj : j < Cursor.rounds addr len)
    (h : ∀ k, k < j → K.peekErr (wordAt addr k) = none)
    (he : K.peekErr (wordAt addr j) = some e) :
    pinkVmLread fuel K addr dest len s = some
      ⟨-1, filled s.mem addr dest len j,
        { peeked s addr (j + 1) with errno := some (mapEio e) }⟩ := by
  have hdone := lreadBody_error (v := lreadAfter addr dest len s j)
    (Cursor.lt_rounds_iff.mp hj) (peek_lreadAfter_error dest len s he)
  rw [pinkVmLread, ← lreadAfter_zero addr dest len s]
  exact run_rounds_done (lreadAfter addr dest len s)
    (fun k hk => lreadBody_after (Nat.lt_trans hk hj) (h k hk)) hdone
    (Nat.lt_of_lt_of_le hj (Nat.le_trans (Cursor.rounds_le addr len) (Nat.le_of_lt hf)))

/-- Everything `pink_vm_lread` can do: all words can be peeked, or there is a first that cannot.
    -/
theorem pinkVmLread_cases {len fuel : Nat} (K : Kernel arch) (addr : Addr arch) (dest : Bytes)
    (s : State arch) (hf : len < fuel) :
    ((∀ k, k < Cursor.rounds addr len → K.peekErr (wordAt addr k) = none) ∧
      pinkVmLread fuel K addr dest len s = some
        ⟨toSsize arch (len % 2 ^ 32), copy dest 0 (s.mem.from addr) len,
          peeked s addr (Cursor.rounds addr len)⟩) ∨
    ∃ j e, j < Cursor.rounds addr len ∧ (∀ k, k < j → K.peekErr (wordAt addr k) = none) ∧
      K.peekErr (wordAt addr j) = some e ∧
      pinkVmLread fuel K addr dest len s = some
        ⟨-1, filled s.mem addr dest len j,
          { peeked s addr (j + 1) with errno := some (mapEio e) }⟩ := by
  rcases forall_none_or_first (fun k => K.peekErr (wordAt addr k)) (Cursor.rounds addr len) with
    hall | ⟨j, e, hj, hbefore, he⟩
  · exact Or.inl ⟨hall, pinkVmLread_ok dest s hf hall⟩
  · exact Or.inr ⟨j, e, hj, hbefore, he, pinkVmLread_error dest s hf hj hbefore he⟩

end PinkTrace
