import PinkTrace.Proof.Regset.Readings

/-!
# Writing and reading back

A writer changes one register of the tracee, and the change is seen by the next fill. So what
there is to know about a writer is which of the readings its register feeds: itself and nothing
else, for all three writers and both full-fledged ABIs. The laws are stated on the whole of
`Readings`, as an update of one field of it; that the others stay is part of the equation.

One register feeds two readings. The system call number also decides between `PINK_ABI_X86_64` and
`PINK_ABI_X32`: `pink_read_syscall` takes the bit out that tells them apart, and
`pink_write_syscall` does not put it back.

## How a law is proved

In three steps, each with its own section. A write is an update of one register
(`pinkWriteWordUser_reg`). A fill shows the registers, so the readings after it are `readingsOf`
the updated ones (`refilled_set`). And `readingsOf` of an update is an update of the readings
(`readingsOf_set_origRax`, `_rax`, `_arg`), provided the register is neither the code segment nor
one that another reading uses. The last step is where the choice of registers matters, and it is
the only one that looks at them.

What a value comes back as is a matter apart: a 32-bit tracee keeps the low half, an error is
negated and taken back, and a number that looks like an error is read as one.
-/

set_option autoImplicit false

namespace PinkTrace

variable {t : X86Tracee} {rs rs' : X86Regset} {abi : Abi .x86_64} {cfg : RegsConfig}

/-- The readings after a write, once the regset has been filled again. An error of the write or of
    the fill is the result. -/
def refilled (cfg : RegsConfig) (rs : X86Regset) (written : Except Errno X86Tracee) :
    Except Errno Readings :=
  match written with
  | .error e => .error e
  | .ok t =>
    match pinkRegsetFill cfg t rs with
    | (.error e, _) => .error e
    | (.ok (), rs) => .ok rs.readings

/-! ## One register -/

theorem pinkWriteWordUser_reg (alive : t.err = none) (r : X86Reg) (v : BitVec 64) :
    pinkWriteWordUser t (8 * r.index) v = .ok (t.set r v) := by
  simp only [pinkWriteWordUser, alive, X86Reg.atOffset?_index]

theorem refilled_set (fills : cfg.fills = true) (alive : t.err = none) (r : X86Reg)
    (v : BitVec 64) (rs : X86Regset) :
    refilled cfg rs (.ok (t.set r v))
      = .ok (readingsOf ((t.set r v).abi cfg) (t.set r v).regs) := by
  have hset : (t.set r v).err = none := alive
  obtain ⟨rs', hfill, hshows⟩ := pinkRegsetFill_shows cfg fills hset rs
  simp only [refilled, hfill, hshows.readings]

theorem regs_set_self (r : X86Reg) (v : BitVec 64) : (t.set r v).regs r = v := if_pos rfl

theorem regs_set_of_ne {r r' : X86Reg} (v : BitVec 64) (h : r' ≠ r) :
    (t.set r v).regs r' = t.regs r' := if_neg h

/-- A write that leaves the code segment and the system call number alone does not change the ABI.
    -/
theorem abi_set {r : X86Reg} (v : BitVec 64) (hcs : X86Reg.cs ≠ r) (horig : X86Reg.origRax ≠ r) :
    (t.set r v).abi cfg = t.abi cfg := by
  rw [X86Tracee.abi, X86Tracee.abi, X86Tracee.runsI386, X86Tracee.runsI386,
    regs_set_of_ne v hcs, regs_set_of_ne v horig]
  rfl

/-! ## Which readings a register feeds -/

/-- The registers of the arguments are none of the three that mean something else… -/
theorem argReg_ne (abi : Abi .x86_64) (i : Fin pinkMaxArgs) :
    X86Reg.cs ≠ argReg abi i ∧ X86Reg.origRax ≠ argReg abi i ∧ X86Reg.rax ≠ argReg abi i := by
  cases abi with
  | only h => exact absurd h (by decide)
  | _ => revert i; decide

/-- …and each is that of one argument. -/
theorem argReg_inj (abi : Abi .x86_64) {i j : Fin pinkMaxArgs}
    (hreg : argReg abi i = argReg abi j) : i = j := by
  cases abi with
  | only h => exact absurd h (by decide)
  | _ => revert i j; decide

theorem argumentOf_set_of_ne {r : X86Reg} (v : BitVec 64) (h : ∀ i, argReg abi i ≠ r) :
    argumentOf abi (t.set r v).regs = argumentOf abi t.regs := by
  funext i
  unfold argumentOf
  split
  · rw [regs_set_of_ne v (h _)]
  · rfl

/-- One argument is written, and read as the ABI has it; the others stay. -/
theorem argumentOf_set_arg (i : Fin pinkMaxArgs) (v : BitVec 64) :
    argumentOf abi (t.set (argReg abi i) v).regs
      = fun j : Nat => if j = i then .ok (asLong abi v) else argumentOf abi t.regs j := by
  funext j
  unfold argumentOf
  by_cases hj : j < pinkMaxArgs
  · rw [dif_pos hj, dif_pos hj]
    by_cases heq : j = i
    · subst heq
      rw [if_pos rfl, regs_set_self]
    · rw [if_neg heq, regs_set_of_ne]
      intro hreg
      exact heq (congrArg Fin.val (argReg_inj abi hreg))
  · rw [dif_neg hj, dif_neg hj, if_neg]
    rintro rfl
    exact hj i.isLt

theorem readingsOf_set_origRax (v : BitVec 64) : readingsOf abi (t.set .origRax v).regs
    = { readingsOf abi t.regs with sysnum := sysnumOf abi v } := by
  have harg := argumentOf_set_of_ne (t := t) v fun i => ((argReg_ne abi i).2.1).symm
  rw [readingsOf, harg, regs_set_self, regs_set_of_ne v (by decide)]
  rfl

theorem readingsOf_set_rax (v : BitVec 64) : readingsOf abi (t.set .rax v).regs
    = { readingsOf abi t.regs with retval := @classifyRetval .x86_64 (asLong abi v) abi } := by
  have harg := argumentOf_set_of_ne (t := t) v fun i => ((argReg_ne abi i).2.2).symm
  rw [readingsOf, harg, regs_set_self, regs_set_of_ne v (by decide)]
  rfl

theorem readingsOf_set_arg (i : Fin pinkMaxArgs) (v : BitVec 64) :
    readingsOf abi (t.set (argReg abi i) v).regs = { readingsOf abi t.regs with
      argument := fun j : Nat =>
        if j = i then .ok (asLong abi v) else argumentOf abi t.regs j } := by
  obtain ⟨-, horig, hrax⟩ := argReg_ne abi i
  rw [readingsOf, argumentOf_set_arg, regs_set_of_ne v horig, regs_set_of_ne v hrax]
  rfl

/-! ## What the values come back as -/

theorem sysnumOf_of_lt (hne : abi ≠ .x32) {n : BitVec 64} (hn : n.toNat < 2 ^ 30) :
    sysnumOf abi n = n := by
  cases abi with
  | only h => exact absurd h (by decide)
  | x86_64 => rfl
  | x32 => exact absurd rfl hne
  | i386 =>
    apply BitVec.eq_of_toNat_eq
    rw [sysnumOf, BitVec.toNat_setWidth, BitVec.toNat_setWidth]
    omega

/-- A number below the x32 bit does not have it. That is what the bound on the numbers is for. -/
theorem and_x32SyscallBit {n : BitVec 64} (hn : n.toNat < 2 ^ 30) : n &&& x32SyscallBit = 0 := by
  have hmask : x32SyscallBit = BitVec.twoPow 64 30 := by decide
  have hbit : n.getLsbD 30 = false := Nat.testBit_lt_two_pow hn
  rw [hmask, BitVec.and_twoPow, hbit, if_neg (by decide)]
  rfl

theorem setWidth_signExtend (x : BitVec 32) : (x.signExtend 64).setWidth 32 = x :=
  setWidth_signExtend_of_le (by decide) x

/-- An `int` that was widened survives a 32-bit tracee. -/
theorem asLong_signExtend (abi : Abi .x86_64) (x : BitVec 32) :
    asLong abi (x.signExtend 64) = x.signExtend 64 := by
  cases abi with
  | only h => exact absurd h (by decide)
  | i386 => rw [asLong, setWidth_signExtend]
  | _ => rfl

/-- So does its sign, whichever width the comparison is made in. -/
theorem signedRetval_signExtend (abi : Abi .x86_64) (x : BitVec 32) :
    @signedRetval .x86_64 (x.signExtend 64) abi = x.toInt := by
  unfold signedRetval
  split
  · exact congrArg BitVec.toInt (setWidth_signExtend x)
  · exact BitVec.toInt_signExtend_of_le (by decide)

theorem signedRetval_asLong (hne : abi ≠ .x32) (v : BitVec 64) :
    @signedRetval .x86_64 (asLong abi v) abi = (asLong abi v).toInt := by
  cases abi with
  | only h => exact absurd h (by decide)
  | x86_64 => rfl
  | x32 => exact absurd rfl hne
  | i386 =>
    rw [asLong, signedRetval_signExtend, BitVec.toInt_signExtend_of_le (by decide)]

/-- An error that was written is read as that error. The bounds are those of the table: there is
    no window for any other. -/
theorem classifyRetval_written (abi : Abi .x86_64) {e : BitVec 32} (h1 : 1 ≤ e.toInt)
    (hlt : e.toInt < nerrnos abi) :
    @classifyRetval .x86_64 (asLong abi ((-e).signExtend 64)) abi = (-1, e) := by
  have hneg : (-e).toInt = -e.toInt := by
    have hmax := e.toInt_lt
    rw [BitVec.toInt_neg, Int.bmod_eq_of_le] <;> omega
  rw [asLong_signExtend]
  exact classifyRetval_of_error h1 hlt ((signedRetval_signExtend abi (-e)).trans hneg)

/-- A value that is not in the window is read as it is. Not for x32, where the comparison is made
    in half of the value. -/
theorem classifyRetval_asLong (hne : abi ≠ .x32) {v : BitVec 64}
    (hv : ¬(1 - (nerrnos abi : Int) ≤ (asLong abi v).toInt ∧ (asLong abi v).toInt ≤ -1)) :
    @classifyRetval .x86_64 (asLong abi v) abi = (asLong abi v, 0) := by
  refine if_neg fun herr => hv ?_
  have hwindow := (isNegatedErrno_iff _ _).mp herr
  rw [signedRetval_asLong hne] at hwindow
  omega

/-! ## The laws -/

/-- The law of arguments, for every ABI. -/
theorem refilled_writeArgument (hfill : pinkRegsetFill cfg t rs = (.ok (), rs'))
    (i : Fin pinkMaxArgs) (v : BitVec 64) :
    refilled cfg rs' (pinkWriteArgument t rs' i v) = .ok { rs'.readings with
      argument := fun j => if j = i then .ok (asLong rs'.abi v) else rs'.readings.argument j } := by
  obtain ⟨alive, fills⟩ := pinkRegsetFill_alive hfill
  have hshows := shows_of_fill hfill
  have hwrite : pinkWriteArgument t rs' i v
      = .ok (t.set (argReg (t.abi cfg) i) v) := by
    unfold pinkWriteArgument
    rw [dif_pos i.isLt, hshows.detected]
    cases t.abi cfg with
    | only h => exact absurd h (by decide)
    | _ => exact pinkWriteWordUser_reg alive _ v
  obtain ⟨hcs, horig, -⟩ := argReg_ne (t.abi cfg) i
  rw [hwrite, refilled_set fills alive, abi_set v hcs horig, readingsOf_set_arg, hshows.readings,
    hshows.detected]
  rfl

/-- The law of results, before it is said what the result is classified as. -/
theorem refilled_writeRetval (hfill : pinkRegsetFill cfg t rs = (.ok (), rs'))
    (rv : BitVec 64) (e : BitVec 32) :
    refilled cfg rs' (pinkWriteRetval t rs' rv e) = .ok { rs'.readings with
      retval := @classifyRetval .x86_64
        (asLong rs'.abi (if e ≠ 0 then (-e).signExtend 64 else rv)) rs'.abi } := by
  obtain ⟨alive, fills⟩ := pinkRegsetFill_alive hfill
  have hshows := shows_of_fill hfill
  rw [pinkWriteRetval, pinkWriteWordUser_reg alive, refilled_set fills alive,
    abi_set _ (by decide) (by decide), readingsOf_set_rax, hshows.readings, hshows.detected]

/-- The number may change the ABI, so this law is not an update yet. -/
theorem refilled_writeSyscall (hfill : pinkRegsetFill cfg t rs = (.ok (), rs'))
    (n : BitVec 64) :
    refilled cfg rs' (pinkWriteSyscall t rs' n)
      = .ok (readingsOf ((t.set .origRax n).abi cfg) (t.set .origRax n).regs) := by
  obtain ⟨alive, fills⟩ := pinkRegsetFill_alive hfill
  rw [pinkWriteSyscall, pinkWriteWordUser_reg alive, refilled_set fills alive]

/-- A number without the x32 bit leaves a 32-bit tracee one, and makes any other a 64-bit one. -/
theorem abi_set_origRax {n : BitVec 64} (hn : n.toNat < 2 ^ 30) :
    (t.set .origRax n).abi cfg
      = if t.abi cfg = .i386 then .i386 else .x86_64 := by
  have hruns : (t.set .origRax n).runsI386 cfg = t.runsI386 cfg := by
    rw [X86Tracee.runsI386, X86Tracee.runsI386, regs_set_of_ne n (by decide)]
    rfl
  rw [X86Tracee.abi, X86Tracee.abi, hruns, regs_set_self, and_x32SyscallBit hn]
  cases t.runsI386 cfg with
  | true => rfl
  | false =>
    rw [if_neg (by decide), if_neg (by simp), if_neg]
    rw [if_neg (by decide)]
    split
    · simp
    · simp

/-- **The accessors of a filled regset are independent get/put pairs.** The numbers are those
    without the x32 bit, and the ABI is one of the two that do not have it. A writer does not
    touch the regset, so what it did is looked at after another fill. Of a result that was written
    two cases are described, an error and a success that does not look like one; the others change
    nothing else either. -/
theorem accessors_independent (cfg : RegsConfig) (t : X86Tracee) (rs rs' : X86Regset)
    (hfill : pinkRegsetFill cfg t rs = (.ok (), rs'))
    (habi : rs'.abi = .x86_64 ∨ rs'.abi = .i386) :
    (∀ n : BitVec 64, n.toNat < 2 ^ 30 →
      refilled cfg rs' (pinkWriteSyscall t rs' n)
        = .ok { rs'.readings with sysnum := n }) ∧
    (∀ (i : Nat) (v : BitVec 64), i < pinkMaxArgs →
      refilled cfg rs' (pinkWriteArgument t rs' i v) = .ok { rs'.readings with
        argument := fun j =>
          if j = i then .ok (asLong rs'.abi v) else rs'.readings.argument j }) ∧
    (∀ (rv : BitVec 64) (e : BitVec 32), ∃ q,
      refilled cfg rs' (pinkWriteRetval t rs' rv e)
        = .ok { rs'.readings with retval := q } ∧
      (1 ≤ e.toInt → e.toInt < nerrnos rs'.abi → q = (-1, e)) ∧
      (e = 0 →
        ¬(1 - (nerrnos rs'.abi : Int) ≤ (asLong rs'.abi rv).toInt ∧
          (asLong rs'.abi rv).toInt ≤ -1) →
        q = (asLong rs'.abi rv, 0))) := by
  have hshows := shows_of_fill hfill
  have hne : rs'.abi ≠ .x32 := by
    rcases habi with h | h <;> rw [h] <;> simp
  refine ⟨?_, ?_, ?_⟩
  · intro n hn
    -- a number without the x32 bit does not change which ABI the next fill detects
    have hkeep : (t.set .origRax n).abi cfg = rs'.abi := by
      rw [abi_set_origRax hn, ← hshows.detected]
      rcases habi with h | h <;> rw [h] <;> simp
    rw [refilled_writeSyscall hfill, hkeep, readingsOf_set_origRax, sysnumOf_of_lt hne hn,
      hshows.readings, hshows.detected]
  · intro i v hi
    exact refilled_writeArgument hfill ⟨i, hi⟩ v
  · intro rv e
    refine ⟨_, refilled_writeRetval hfill rv e, ?_, ?_⟩
    · intro h1 hlt
      have he : e ≠ 0 := by
        rintro rfl
        exact absurd h1 (by decide)
      rw [if_pos he]
      exact classifyRetval_written rs'.abi h1 hlt
    · intro he hv
      rw [if_neg (by simp [he])]
      exact classifyRetval_asLong hne hv

def compatRegset : X86Regset := (pinkRegsetFill ⟨true, false⟩ compatTracee pinkRegsetZero).2

theorem compatTracee_accessors :
    pinkRegsetFill ⟨true, false⟩ compatTracee pinkRegsetZero = (.ok (), compatRegset) ∧
    compatRegset.abi = .i386 ∧
    refilled ⟨true, false⟩ compatRegset (pinkWriteSyscall compatTracee compatRegset 4)
      = .ok { compatRegset.readings with sysnum := 4 } ∧
    refilled ⟨true, false⟩ compatRegset (pinkWriteArgument compatTracee compatRegset 5 0xffffffff)
      = .ok { compatRegset.readings with
        argument := fun j =>
          if j = 5 then .ok (asLong compatRegset.abi 0xffffffff)
          else compatRegset.readings.argument j } ∧
    refilled ⟨true, false⟩ compatRegset (pinkWriteRetval compatTracee compatRegset 0 2)
      = .ok { compatRegset.readings with retval := (-1, 2) } := by
  obtain ⟨hsyscall, hargument, hretval⟩ :=
    accessors_independent ⟨true, false⟩ compatTracee pinkRegsetZero compatRegset rfl (.inr rfl)
  obtain ⟨q, hq, herror, -⟩ := hretval 0 2
  rw [herror (by decide) (by rw [nerrnos_eq]; decide)] at hq
  exact ⟨rfl, rfl, hsyscall 4 (by decide), hargument 5 0xffffffff (by decide), hq⟩

/-! ## The number of an x32 call -/

/-- Changing the system call of an x32 tracee is to leave it an x32 tracee, about to make the
    call that was asked for. -/
def KeepsX32 (cfg : RegsConfig) (t : X86Tracee) (rs : X86Regset) (n : BitVec 64) : Prop :=
  ∃ r, refilled cfg rs (pinkWriteSyscall t rs n) = .ok r ∧ r.abi = .x32 ∧ r.sysnum = n

theorem refilled_writeSyscall_abi (hfill : pinkRegsetFill cfg t rs = (.ok (), rs'))
    (habi : rs'.abi = .x32) {n : BitVec 64} (hn : n.toNat < 2 ^ 30) {r : Readings}
    (hr : refilled cfg rs' (pinkWriteSyscall t rs' n) = .ok r) : r.abi = .x86_64 := by
  rw [refilled_writeSyscall hfill, abi_set_origRax hn, ← (shows_of_fill hfill).detected, habi,
    if_neg (by simp)] at hr
  rw [← Except.ok.inj hr]
  rfl

/-- **No x32 tracee survives `pink_write_syscall`**: whatever number is written, also the one just
    read, the next fill sees a 64-bit call. `pink_read_syscall` takes the bit off that makes a
    call one of x32, and nothing puts it back. -/
theorem write_syscall_never_keeps_x32 (cfg : RegsConfig) (t : X86Tracee)
    (rs rs' : X86Regset) (hfill : pinkRegsetFill cfg t rs = (.ok (), rs'))
    (habi : rs'.abi = .x32) (n : BitVec 64) (hn : n.toNat < 2 ^ 30) :
    ¬KeepsX32 cfg t rs' n := by
  rintro ⟨r, hr, hx32, -⟩
  rw [refilled_writeSyscall_abi hfill habi hn hr] at hx32
  exact absurd hx32 (by simp)

/-- An x32 tracee in `getpid`. -/
def x32Tracee : X86Tracee where
  regs := fun
    | .origRax => 0x40000027
    | _ => 0
  compat := false
  err := none

def x32Regset : X86Regset := (pinkRegsetFill ⟨true, false⟩ x32Tracee pinkRegsetZero).2

theorem x32Tracee_getpid_lost :
    x32Regset.abi = .x32 ∧ ¬KeepsX32 ⟨true, false⟩ x32Tracee x32Regset 39 :=
  ⟨by decide +kernel, write_syscall_never_keeps_x32 ⟨true, false⟩ x32Tracee pinkRegsetZero x32Regset
    (by rfl) (by decide +kernel) 39 (by decide)⟩

/-- The number that was read is written back, and the tracee makes another call. -/
theorem x32Tracee_written_back : pinkReadAbi x32Regset = .x32 ∧
    pinkReadSyscall x32Regset = 39 ∧
    ∃ r, refilled ⟨true, false⟩ x32Regset (pinkWriteSyscall x32Tracee x32Regset 39) = .ok r ∧
      r.abi = .x86_64 ∧ ¬KeepsX32 ⟨true, false⟩ x32Tracee x32Regset 39 := by
  have hfill : pinkRegsetFill ⟨true, false⟩ x32Tracee pinkRegsetZero = (.ok (), x32Regset) := rfl
  have habi : x32Regset.abi = .x32 := by decide +kernel
  have hr := refilled_writeSyscall hfill 39
  have hr64 := refilled_writeSyscall_abi hfill habi (by decide) hr
  refine ⟨habi, by decide +kernel, _, hr, hr64, ?_⟩
  rintro ⟨r, hr', hx32, -⟩
  rw [refilled_writeSyscall_abi hfill habi (by decide) hr'] at hx32
  exact absurd hx32 (by simp)

end PinkTrace
