import PinkTrace.Lib.Span

/-!
# Bytes in a stream

A stream holds bytes as a list, a program holds them behind a pointer, and a transfer moves some
of them from one to the other: at least one, and no more than there are, but otherwise as many as
it likes (`moved`). This library has the passage between the two views, and what it needs of
`take` and `drop` to follow a transfer that arrives in pieces.

The sizes of the pieces are given from outside and not chosen by the transfer, so that a theorem
for all of them is a theorem for every behaviour of the other side. A size of zero is read as one,
and a size that is too large as what there is: every number is then a legal behaviour, and no
schedule has to be excluded.
-/

set_option autoImplicit false

namespace Lib

/-- The first `n` bytes behind a pointer, in order. A pointer has no length, so the length is the
    caller's. -/
def listOf (b : Bytes) (n : Nat) : List UInt8 := (List.range n).map b

/-- The bytes behind a pointer to the start of a list. Behind the end of it is a zero, which no
    transfer of the list's own length ever reads. -/
def bytesOf (l : List UInt8) : Bytes := fun i => l.getD i 0

@[simp] theorem length_listOf (b : Bytes) (n : Nat) : (listOf b n).length = n := by
  simp [listOf]

/-- A buffer is a shorter buffer and the rest of it, seen through a pointer that was advanced. -/
theorem listOf_add (b : Bytes) (m n : Nat) :
    listOf b (m + n) = listOf b m ++ listOf (fun i => b (m + i)) n := by
  simp [listOf, List.range_add]

theorem take_listOf (b : Bytes) {m n : Nat} (h : m ≤ n) : (listOf b n).take m = listOf b m := by
  obtain ⟨d, rfl⟩ := Nat.le.dest h
  rw [listOf_add, List.take_left' (length_listOf b m)]

theorem bytesOf_listOf (b : Bytes) {i n : Nat} (hi : i < n) : bytesOf (listOf b n) i = b i := by
  simp [bytesOf, listOf, hi]

/-- What a transfer that has got to `k` sees next. -/
theorem bytesOf_take_drop (l : List UInt8) (k : Nat) {i m : Nat} (hi : i < m) :
    bytesOf ((l.drop k).take m) i = bytesOf l (k + i) := by
  simp [bytesOf, hi]

/-- A copy depends on the bytes that are copied only. The source may be another pointer altogether
    behind them. -/
theorem copy_congr {dst src src' : Bytes} {off m : Nat} (h : ∀ i, i < m → src i = src' i) :
    copy dst off src m = copy dst off src' m := by
  funext i
  by_cases hi : off ≤ i ∧ i < off + m
  · rw [copy_of_lt hi.1 hi.2, copy_of_lt hi.1 hi.2, h _ (by omega)]
  · rw [copy_of_not hi, copy_of_not hi]

/-! ## Pieces -/

/-- How many bytes a transfer of at most `limit` moves when asked for a piece of `n`: never more
    than there are, and never none of some. -/
def moved (n limit : Nat) : Nat := min (max n 1) limit

theorem moved_le (n limit : Nat) : moved n limit ≤ limit := Nat.min_le_right ..

theorem moved_pos (n : Nat) {limit : Nat} (h : 0 < limit) : 0 < moved n limit := by
  unfold moved
  omega

end Lib
