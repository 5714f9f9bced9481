import PinkTrace.Proof.Vm.Paged

/-!
# `pink_vm_lwrite`

The run of the word-wise writer in closed form, and the memory it leaves.

The writer can only store whole words, and it does not fetch the words it stores into. Each pass
builds its word in an uninitialised union from `memcpy(u.x, &src[residue], m)`, which puts the
residue on the wrong side of the copy: the first word gets `src` from `residue` on at *its* start,
instead of `src` from the start at `residue`. `lwriteWord` is that word, and `poked_eq` says what
every byte of tracee memory is after `k` passes: byte `o % sizeof(long)` of word `o /
sizeof(long)` for a byte at distance `o` from the first word, if `k` words reach that far, and
otherwise what it was.

## Why the contents of the union are a parameter

What an uninitialised object holds is not known, and a single value for it would make theorems
true that no program can rely on. `junk` gives each pass its own contents. A result that does not
mention it, such as `poked_of_aligned`, holds for all of them; and where a byte does come out of
the union the result says so as an equality with `junk`, from which a caller can pick the contents
that refute whatever was hoped for.

The run itself (`pinkVmLwrite_ok`, `pinkVmLwrite_error`) says nothing about bytes: it ends in
`pokedState`, and the second half of the file is about that.
-/

set_option autoImplicit false

namespace PinkTrace

open Lib

variable {arch : Arch}

/-- The word the `k`-th pass stores: as many bytes of `src` as the pass has to hand over, and then
    the union's own. -/
def lwriteWord (addr : Addr arch) (src : Bytes) (len : Nat) (junk : Nat → Word arch) (k : Nat) :
    Word arch :=
  lwriteUnion src (junk k) (.after addr len k)

/-- Tracee memory after `k` passes. Recursive, as the passes are; `poked_eq` is what to use of it.
    -/
def poked (mem : Memory arch.longBits) (addr : Addr arch) (src : Bytes) (len : Nat)
    (junk : Nat → Word arch) : Nat → Memory arch.longBits
  | 0 => mem
  | k + 1 => (poked mem addr src len junk k).store (wordAt addr k)
      (lwriteWord addr src len junk k).x arch.sizeofLong

/-- The state after `k` passes. The log has the words in order, which is all that tells the passes
    apart from outside. -/
def pokedState (s : State arch) (addr : Addr arch) (src : Bytes) (len : Nat)
    (junk : Nat → Word arch) (k : Nat) : State arch where
  mem := poked s.mem addr src len junk k
  errno := if k = 0 then s.errno else none
  log := s.log ++ (List.range k).map fun j => .pokeData (wordAt addr j)

def lwriteAfter (addr : Addr arch) (src : Bytes) (len : Nat) (junk : Nat → Word arch)
    (s : State arch) (k : Nat) : LwriteVars arch :=
  ⟨.after addr len k, k, pokedState s addr src len junk k⟩

theorem lwriteAfter_zero (addr : Addr arch) (src : Bytes) (len : Nat) (junk : Nat → Word arch)
    (s : State arch) : lwriteAfter addr src len junk s 0 = ⟨.start addr len, 0, s⟩ := by
  simp [lwriteAfter, Cursor.after_zero, pokedState, poked]

/-! ## What a pass does -/

theorem lwriteBody_done {K : Kernel arch} {src : Bytes} {junk : Nat → Word arch}
    {v : LwriteVars arch} (h : v.cur.len = 0) :
    lwriteBody K src junk v = .done ⟨toSsize arch v.cur.count, v.st⟩ := if_pos h

theorem lwriteBody_again {K : Kernel arch} {src : Bytes} {junk : Nat → Word arch}
    {v : LwriteVars arch} {u : Word arch} {st : State arch} (h : v.cur.len ≠ 0)
    (hp : pinkWriteWordData K v.cur.aligned (lwriteUnion src (junk v.round) v.cur) v.st =
      (.ok u, st)) :
    lwriteBody K src junk v = .again ⟨v.cur.next, v.round + 1, st⟩ := by
  rw [lwriteBody, if_neg h, hp]

theorem lwriteBody_error {K : Kernel arch} {src : Bytes} {junk : Nat → Word arch}
    {v : LwriteVars arch} {e : Errno} {st : State arch} (h : v.cur.len ≠ 0)
    (hp : pinkWriteWordData K v.cur.aligned (lwriteUnion src (junk v.round) v.cur) v.st =
      (.error e, st)) :
    lwriteBody K src junk v =
      .done ⟨toSsize arch (if 0 < v.cur.count then v.cur.count else 2 ^ 32 - 1),
        { st with errno := some e }⟩ := by
  rw [lwriteBody, if_neg h, hp]

theorem poke_lwriteAfter {K : Kernel arch} {addr : Addr arch} {k : Nat} (src : Bytes)
    (len : Nat) (junk : Nat → Word arch) (s : State arch)
    (h : K.pokeErr (wordAt addr k) = none) :
    pinkWriteWordData K (lwriteAfter addr src len junk s k).cur.aligned
        (lwriteWord addr src len junk k) (lwriteAfter addr src len junk s k).st =
      (.ok Word.zero, pokedState s addr src len junk (k + 1)) := by
  rw [show (lwriteAfter addr src len junk s k).cur.aligned = wordAt addr k from
    Cursor.aligned_after addr len k, pinkWriteWordData_ok _ _ h]
  simp only [pokedState, poked, lwriteAfter, List.range_succ, List.map_append, List.map_cons,
    List.map_nil, List.append_assoc, if_neg (Nat.succ_ne_zero k)]

theorem poke_lwriteAfter_error {K : Kernel arch} {addr : Addr arch} {k : Nat} {e : Errno}
    (src : Bytes) (len : Nat) (junk : Nat → Word arch) (s : State arch)
    (h : K.pokeErr (wordAt addr k) = some e) :
    pinkWriteWordData K (lwriteAfter addr src len junk s k).cur.aligned
        (lwriteWord addr src len junk k) (lwriteAfter addr src len junk s k).st =
      (.error (mapEio e), { pokedState s addr src len junk k with
        errno := some (mapEio e)
        log := s.log ++ (List.range (k + 1)).map fun j => .pokeData (wordAt addr j) }) := by
  rw [show (lwriteAfter addr src len junk s k).cur.aligned = wordAt addr k from
    Cursor.aligned_after addr len k, pinkWriteWordData_error _ _ h]
  simp [pokedState, lwriteAfter, List.range_succ]

/-- The step lemma of `pink_vm_lwrite`. It asks for one word to be pokable and says nothing about
    what is stored. -/
theorem lwriteBody_after {K : Kernel arch} {addr : Addr arch} {src : Bytes} {len k : Nat}
    {junk : Nat → Word arch} {s : State arch} (hk : k < Cursor.rounds addr len)
    (h : K.pokeErr (wordAt addr k) = none) :
    lwriteBody K src junk (lwriteAfter addr src len junk s k) =
      .again (lwriteAfter addr src len junk s (k + 1)) := by
  rw [lwriteBody_again (Cursor.lt_rounds_iff.mp hk) (poke_lwriteAfter src len junk s h)]
  simp only [lwriteAfter, Cursor.after_next hk]

/-- **A range whose words can all be poked is written to the end**, whatever ends up in it. -/
theorem pinkVmLwrite_ok {K : Kernel arch} {addr : Addr arch} {len fuel : Nat} (src : Bytes)
    (junk : Nat → Word arch) (s : State arch) (hf : len < fuel)
    (h : ∀ k, k < Cursor.rounds addr len → K.pokeErr (wordAt addr k) = none) :
    pinkVmLwrite fuel K junk addr src len s = some ⟨toSsize arch (len % 2 ^ 32),
      pokedState s addr src len junk (Cursor.rounds addr len)⟩ := by
  have hdone : lwriteBody K src junk (lwriteAfter addr src len junk s (Cursor.rounds addr len))
      = .done ⟨toSsize arch (len % 2 ^ 32),
          pokedState s addr src len junk (Cursor.rounds addr len)⟩ := by
    rw [lwriteBody_done (Cursor.len_after_rounds addr len)]
    simp only [lwriteAfter, Cursor.after, Cursor.doneAfter_rounds]
  rw [pinkVmLwrite, ← lwriteAfter_zero addr src len junk s]
  exact run_rounds_done (lwriteAfter addr src len junk s)
    (fun k hk => lwriteBody_after hk (h k hk)) hdone
    (Nat.lt_of_le_of_lt (Cursor.rounds_le addr len) hf)

/-- **A fault on the `j`-th word ends the write there.** The value is an `unsigned int`: the
    count so far, or what `-1` becomes as one. -/
theorem pinkVmLwrite_error {K : Kernel arch} {addr : Addr arch} {len fuel j : Nat} {e : Errno}
    (src : Bytes) (junk : Nat → Word arch) (s : State arch) (hf : len < fuel)
    (hj : j < Cursor.rounds addr len)
    (h : ∀ k, k < j → K.pokeErr (wordAt addr k) = none)
    (he : K.pokeErr (wordAt addr j) = some e) :
    pinkVmLwrite fuel K junk addr src len s = some
      ⟨toSsize arch (if 0 < Cursor.doneAfter addr len j % 2 ^ 32
          then Cursor.doneAfter addr len j % 2 ^ 32 else 2 ^ 32 - 1),
        { pokedState s addr src len junk j with
          errno := some (mapEio e)
          log := s.log ++ (List.range (j + 1)).map fun k => .pokeData (wordAt addr k) }⟩ := by
  have hdone := lwriteBody_error (v := lwriteAfter addr src len junk s j)
    (Cursor.lt_rounds_iff.mp hj) (poke_lwriteAfter_error src len junk s he)
  rw [pinkVmLwrite, ← lwriteAfter_zero addr src len junk s]
  exact run_rounds_done (lwriteAfter addr src len junk s)
    (fun k hk => lwriteBody_after (Nat.lt_trans hk hj) (h k hk)) hdone
    (Nat.lt_of_lt_of_le hj (Nat.le_trans (Cursor.rounds_le addr len) (Nat.le_of_lt hf)))

/-! ## The memory it leaves -/

/-- A byte lies in the `k`-th word exactly if its distance from the base is in the `k`-th
    interval. The premise keeps the words from wrapping onto each other. -/
theorem gap_wordAt {addr b : Addr arch} {k : Nat}
    (h : arch.sizeofLong * (k + 1) ≤ 2 ^ arch.longBits) :
    gap b (wordAt addr k) < arch.sizeofLong ↔
      arch.sizeofLong * k ≤ gap b (wordBase addr) ∧
        gap b (wordBase addr) < arch.sizeofLong * (k + 1) := by
  have hlt := gap_lt b (wordBase addr)
  rw [Nat.mul_succ] at h ⊢
  rw [wordAt]
  rcases Nat.lt_or_ge (gap b (wordBase addr)) (arch.sizeofLong * k) with ho | ho
  · rw [gap_ahead_right_of_lt ho (by have := arch.sizeofLong_pos; omega)]
    omega
  · rw [gap_ahead_right ho]
    omega

/-- **Every byte of tracee memory after `k` passes.** One equation for the bytes in the range, the
    neighbours that share a word with it, and all others. -/
theorem poked_eq (mem : Memory arch.longBits) (addr : Addr arch) (src : Bytes) (len : Nat)
    (junk : Nat → Word arch) {k : Nat} (h : arch.sizeofLong * k ≤ 2 ^ arch.longBits)
    (b : Addr arch) :
    poked mem addr src len junk k b =
      if gap b (wordBase addr) < arch.sizeofLong * k then
        (lwriteWord addr src len junk (gap b (wordBase addr) / arch.sizeofLong)).x
          (gap b (wordBase addr) % arch.sizeofLong)
      else mem b := by
  induction k with
  | zero => simp [poked]
  | succ k ih =>
    have hin : gap b (wordAt addr k) < arch.sizeofLong ↔ _ := gap_wordAt h
    have hk : arch.sizeofLong * k ≤ 2 ^ arch.longBits :=
      Nat.le_trans (Nat.mul_le_mul_left _ (Nat.le_succ k)) h
    rw [poked, Memory.store]
    split
    · -- inside the word stored last
      rename_i hg
      obtain ⟨hlo, hhi⟩ := hin.mp hg
      have hdiv : gap b (wordBase addr) / arch.sizeofLong = k :=
        Nat.div_eq_of_lt_le (by rwa [Nat.mul_comm]) (by rwa [Nat.mul_comm])
      have hmod := Nat.div_add_mod (gap b (wordBase addr)) arch.sizeofLong
      rw [hdiv] at hmod
      rw [if_pos hhi, hdiv, wordAt, gap_ahead_right hlo]
      congr 1
      omega
    · -- outside it, where nothing changed since the pass before
      rename_i hg
      rw [hin, Nat.mul_succ] at hg
      rw [ih hk, Nat.mul_succ]
      by_cases ho : gap b (wordBase addr) < arch.sizeofLong * k
      · rw [if_pos ho, if_pos (by omega)]
      · rw [if_neg ho, if_neg (by omega)]

/-- A byte below `m` of its word comes from `src`; the index is off by the residue of the first
    word, counted twice. -/
theorem lwriteWord_src {addr : Addr arch} {src : Bytes} {len k j : Nat}
    (junk : Nat → Word arch) (hj : j < arch.sizeofLong) (hm : j < (Cursor.after addr len k).m) :
    (lwriteWord addr src len junk k).x j =
      src ((Cursor.after addr len k).off + (Cursor.after addr len k).residue + j) := by
  rw [Word.x_of_lt hj]
  exact if_pos hm

/-- …and one that is not comes from the union, in the place it had there. -/
theorem lwriteWord_junk {addr : Addr arch} {src : Bytes} {len k j : Nat}
    (junk : Nat → Word arch) (hj : j < arch.sizeofLong) (hm : (Cursor.after addr len k).m ≤ j) :
    (lwriteWord addr src len junk k).x j = junk k ⟨j, hj⟩ := by
  rw [Word.x_of_lt hj]
  exact if_neg (by simpa using hm)

/-- The same for a byte of the words of the whole range, by its distance from the base. -/
theorem poked_ahead (mem : Memory arch.longBits) (addr : Addr arch) (src : Bytes) {len o : Nat}
    (junk : Nat → Word arch) (hs : len < 2 ^ (arch.longBits - 1))
    (ho : o < arch.sizeofLong * Cursor.rounds addr len) :
    poked mem addr src len junk (Cursor.rounds addr len) (ahead (wordBase addr) o) =
      (lwriteWord addr src len junk (o / arch.sizeofLong)).x (o % arch.sizeofLong) := by
  have hfit := Cursor.mul_rounds_le addr hs
  rw [poked_eq mem addr src len junk hfit, gap_ahead _ (Nat.lt_of_lt_of_le ho hfit), if_pos ho]

/-- From an aligned address the word-wise writer puts every byte where it belongs. -/
theorem poked_of_aligned (mem : Memory arch.longBits) {addr : Addr arch} (src : Bytes)
    {len i : Nat} (junk : Nat → Word arch) (hs : len < 2 ^ (arch.longBits - 1))
    (h0 : skew addr = 0) (hi : i < len) :
    poked mem addr src len junk (Cursor.rounds addr len) (ahead addr i) = src i := by
  have hpos : 0 < len := Nat.zero_lt_of_lt hi
  have hend := (Cursor.mul_rounds addr hpos).1
  have hmod := Nat.mod_lt i arch.sizeofLong_pos
  have hdiv := Nat.div_add_mod i arch.sizeofLong
  rw [← ahead_wordBase_add, h0, Nat.zero_add, poked_ahead mem addr src junk hs (by omega)]
  rw [lwriteWord_src junk hmod]
  · congr 1
    simp only [Cursor.after, Cursor.doneAfter, h0]
    omega
  · simp only [Cursor.after, Cursor.doneAfter, Cursor.m, h0]
    omega

/-- From any other the last byte of the first word's share is left to the union. The existential
    is outside of the quantifier over `junk`: it is the same byte for all contents. -/
theorem poked_of_skewed (mem : Memory arch.longBits) {addr : Addr arch} (src : Bytes)
    {len : Nat} (hpos : 0 < len) (hs : len < 2 ^ (arch.longBits - 1)) (hk : skew addr ≠ 0) :
    ∃ i, i < len ∧ ∃ j : Fin arch.sizeofLong, ∀ junk,
      poked mem addr src len junk (Cursor.rounds addr len) (ahead addr i) = junk 0 j := by
  have hskew := skew_lt addr
  have hend := (Cursor.mul_rounds addr hpos).1
  have hm : (Cursor.after addr len 0).m = min (arch.sizeofLong - skew addr) len := by
    simp [Cursor.after, Cursor.doneAfter, Cursor.m]
  have hlast : skew addr + (min (arch.sizeofLong - skew addr) len - 1) < arch.sizeofLong := by
    omega
  refine ⟨min (arch.sizeofLong - skew addr) len - 1, by omega, ⟨_, hlast⟩, fun junk => ?_⟩
  rw [← ahead_wordBase_add, poked_ahead mem addr src junk hs (by omega), Nat.div_eq_of_lt hlast,
    Nat.mod_eq_of_lt hlast]
  exact lwriteWord_junk junk hlast (by omega)

end PinkTrace
