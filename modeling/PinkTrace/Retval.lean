import PinkTrace.Name

/-!
# Negated error numbers (`read.c`)

A system call reports failure in band: the register that carries its value holds a small negative
number instead. `is_negated_errno` tells the two apart by one unsigned comparison, made in 32 bits
for an ABI whose words are narrower than the `long` of the build. What it decides is a question
about a *signed* number of that width, and `isNegatedErrno_iff` says so.

## One window for all builds

How many errors there are is a property of the table, and all tables have 531 rows. So the test
accepts the numbers from `-530` to `-1` on every build, and the architectures differ only in how
they come by the number they ask about. That part is in `Regset`, and each of them hands its
number to `classifyRetval`.

The writers go the other way, from an error to a register, each in its own fashion. What they have
in common is `classifyRetval_of_error`: if the register comes back as the negation of an error in
the window, that error is what a reader gets. The premise is about `signedRetval`, so that a build
which extends the register's sign and one which does not can both meet it.
-/

set_option autoImplicit false

namespace PinkTrace

variable {arch : Arch}

/-- `nerrnos0`, `nerrnos1` and `nerrnos2`: the lengths of the tables. One more than the largest
    error, as the rows begin with zero. -/
def nerrnos (abi : Abi arch) : Nat := (errnoentVec abi).length

/-- The condition, partly the preprocessor's, under which both sides become `unsigned int`. The
    first two conjuncts are those of the `#if`, the last is the test behind it. -/
def truncates (abi : Abi arch) : Bool :=
  decide (1 < arch.pinkAbisSupported ∧ 4 < arch.sizeofLong ∧
    pinkAbiWordsize abi < arch.sizeofLong)

/-- `is_negated_errno`. The bound is negated as an unsigned number, so that one comparison asks
    for both ends of the window. -/
def isNegatedErrno (val : Addr arch) (abi : Abi arch) : Bool :=
  let max := -BitVec.ofNat arch.longBits (nerrnos abi)
  if truncates abi then decide (max.setWidth 32 < val.setWidth 32) else decide (max < val)

/-- What every build but `ia64` makes of a result: `myrval` and `myerror`. -/
def classifyRetval (val : Addr arch) (abi : Abi arch) : Addr arch × BitVec 32 :=
  if isNegatedErrno val abi then (-1, (-val).setWidth 32) else (val, 0)

/-! ## What it decides -/

/-- The value as the signed number `is_negated_errno` takes it for. The C code has no such
    variable; this is the reading under which its comparison makes sense. -/
def signedRetval (val : Addr arch) (abi : Abi arch) : Int :=
  if truncates abi then (val.setWidth 32).toInt else val.toInt

set_option maxRecDepth 10000 in
/-- All tables are equally long. The two cases are the two variants of row 58, neither of which
    changes the count. -/
theorem nerrnos_eq (abi : Abi arch) : nerrnos abi = 531 := by
  cases h : arch.isPowerpc
  · rw [nerrnos, errnoentVec, h]
    rfl
  · rw [nerrnos, errnoentVec, h]
    rfl

/-- An unsigned comparison with a negated number is a signed window, provided the window is
    smaller than the negative half of the type. -/
theorem neg_ofNat_lt_iff {w n : Nat} (h0 : 0 < n) (h : 2 * n < 2 ^ w) (v : BitVec w) :
    -BitVec.ofNat w n < v ↔ -(n : Int) < v.toInt ∧ v.toInt < 0 := by
  have hv := v.isLt
  have hmax : (-BitVec.ofNat w n).toNat = 2 ^ w - n := by
    rw [BitVec.toNat_neg, BitVec.toNat_ofNat, Nat.mod_eq_of_lt (by omega : n < 2 ^ w),
      Nat.mod_eq_of_lt (by omega)]
  rw [BitVec.lt_def, hmax, BitVec.toInt_eq_toNat_cond]
  split <;> omega

/-- **A value is taken for an error exactly if, as a signed number of the ABI's width, it is
    the negation of an error number.** -/
theorem isNegatedErrno_iff (val : Addr arch) (abi : Abi arch) :
    isNegatedErrno val abi = true ↔
      -(nerrnos abi : Int) < signedRetval val abi ∧ signedRetval val abi < 0 := by
  have h0 : 0 < nerrnos abi := by
    rw [nerrnos_eq]
    decide
  unfold isNegatedErrno signedRetval
  cases htrunc : truncates abi with
  | true =>
    have hwide : 32 ≤ arch.longBits := by
      cases arch <;> decide
    have hmax : (-BitVec.ofNat arch.longBits (nerrnos abi)).setWidth 32
        = -BitVec.ofNat 32 (nerrnos abi) := by
      rw [BitVec.setWidth_neg_of_le hwide, BitVec.setWidth_ofNat_of_le hwide]
    simp only [if_true, decide_eq_true_eq]
    rw [hmax]
    exact neg_ofNat_lt_iff h0 (by rw [nerrnos_eq]; decide) _
  | false =>
    simp only [Bool.false_eq_true, if_false, decide_eq_true_eq]
    refine neg_ofNat_lt_iff h0 ?_ _
    rw [nerrnos_eq]
    rcases arch.sizes with ⟨-, hM⟩ | ⟨-, hM⟩ <;> rw [hM] <;> decide

/-! ## The error in a value

The error is the negated value cut to an `int`, in every build, while the test that found it was
made in the width of the ABI. That the two fit is because the numbers in question are small. -/

/-- A number that fits an `int` survives the conversion to one. The bounds are `int`'s own, so
    this covers the window with room to spare. -/
theorem toInt_setWidth_of_small {val : Addr arch} (hlo : -2 ^ 31 ≤ val.toInt)
    (hhi : val.toInt < 2 ^ 31) : (val.setWidth 32).toInt = val.toInt := by
  have hlt := val.isLt
  rw [BitVec.toInt_eq_toNat_cond] at hlo hhi ⊢
  rw [BitVec.toInt_eq_toNat_cond, BitVec.toNat_setWidth]
  rcases arch.sizes with ⟨-, hM⟩ | ⟨-, hM⟩ <;>
    · rw [hM] at hlt hlo hhi ⊢
      split at hlo <;> split <;> omega

theorem longBits_ge (arch : Arch) : 32 ≤ arch.longBits := by
  cases arch <;> decide

/-- The error of a result in the window is its negation. -/
theorem toInt_error {val : Addr arch} {abi : Abi arch}
    (h : -(nerrnos abi : Int) < signedRetval val abi ∧ signedRetval val abi < 0) :
    ((-val).setWidth 32).toInt = -signedRetval val abi := by
  have hlow : (val.setWidth 32).toInt = signedRetval val abi := by
    unfold signedRetval at h ⊢
    split
    · rfl
    · rename_i hwide
      rw [nerrnos_eq, if_neg hwide] at h
      exact toInt_setWidth_of_small (by omega) (by omega)
  rw [nerrnos_eq] at h
  rw [BitVec.setWidth_neg_of_le (longBits_ge arch), BitVec.toInt_neg, hlow]
  exact Int.bmod_eq_of_le (by omega) (by omega)

/-- A value that is the negation of an error comes out as that error. The writers of all builds
    lead here, each with its own reason for the premise about the sign. -/
theorem classifyRetval_of_error {val : Addr arch} {abi : Abi arch} {error : BitVec 32}
    (hpos : 0 < error.toInt) (hlt : error.toInt < nerrnos abi)
    (hsigned : signedRetval val abi = -error.toInt) : classifyRetval val abi = (-1, error) := by
  have hwindow : -(nerrnos abi : Int) < signedRetval val abi ∧ signedRetval val abi < 0 := by
    omega
  have hback : (-val).setWidth 32 = error := by
    apply BitVec.eq_of_toInt_eq
    rw [toInt_error hwindow, hsigned, Int.neg_neg]
  rw [classifyRetval, if_pos ((isNegatedErrno_iff val abi).mpr hwindow), hback]

/-! ## Errors through a `long` -/

/-- An `int` that was converted to a `long` and back. Every error goes this way when it is written
    and read again. -/
theorem setWidth_signExtend_of_le {w : Nat} (hw : 32 ≤ w) (x : BitVec 32) :
    (x.signExtend w).setWidth 32 = x := by
  apply BitVec.eq_of_getLsbD_eq
  intro i hi
  rw [BitVec.getLsbD_setWidth, BitVec.getLsbD_signExtend, if_pos hi, decide_eq_true hi,
    decide_eq_true (by omega : i < w), Bool.true_and, Bool.true_and]

end PinkTrace
