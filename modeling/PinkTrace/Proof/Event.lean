import PinkTrace.Event
import PinkTrace.Lib.Span

/-!
# A status tells what happened

The bit masks of the macros are remainders and quotients, so a status can be taken apart by
arithmetic.

That is done once, in the first section, for any `int`. What a change looks like is a sum, so the
second section has only to divide sums by powers of two. `WIFEXITED` and `WIFSIGNALED` look at the
low seven bits and share them out but for 127; `WIFSTOPPED` looks at eight, and asks for the 127
that is left. The eighth bit is what tells it from `WIFCONTINUED`.
-/

set_option autoImplicit false

namespace PinkTrace

open Lib

variable (status : BitVec 32)

/-! ## The macros, by arithmetic -/

theorem toNat_wtermsig : (wtermsig status).toNat = status.toNat % 2 ^ 7 :=
  toNat_and_mask (e := 7) status (by decide)

theorem toNat_wexitstatus : (wexitstatus status).toNat = status.toNat / 2 ^ 8 % 2 ^ 8 := by
  have hshift : wexitstatus status = (status >>> 8) &&& 0xff := BitVec.ushiftRight_and_distrib ..
  have hmask : ((status >>> 8) &&& 0xff).toNat = (status >>> 8).toNat % 2 ^ 8 :=
    toNat_and_mask (e := 8) (status >>> 8) (by decide)
  rw [hshift, hmask, BitVec.toNat_ushiftRight, Nat.shiftRight_eq_div_pow]

theorem toNat_pinkEventDecide : (pinkEventDecide status).toNat = status.toNat / 2 ^ 16 := by
  rw [pinkEventDecide, BitVec.toNat_ushiftRight, Nat.shiftRight_eq_div_pow]

theorem wifexited_iff : wifexited status = true ↔ status.toNat % 2 ^ 7 = 0 := by
  rw [wifexited, beq_iff_eq, ← BitVec.toNat_inj, toNat_wtermsig]
  rfl

/-- The `signed char` overflows for 127 alone. So "killed" is what is neither of the two reserved
    values. -/
theorem wifsignaled_iff : wifsignaled status = true ↔
    status.toNat % 2 ^ 7 ≠ 0 ∧ status.toNat % 2 ^ 7 ≠ 127 := by
  have hchar : ∀ low : BitVec 7, 0 < ((((low.setWidth 32 : BitVec 32) + 1).setWidth 8).sshiftRight
      1).toInt ↔ low.toNat ≠ 0 ∧ low.toNat ≠ 127 := by decide
  have hlow : ((wtermsig status).setWidth 7).setWidth 32 = wtermsig status := by
    apply BitVec.eq_of_toNat_eq
    rw [BitVec.toNat_setWidth, BitVec.toNat_setWidth, toNat_wtermsig]
    omega
  have hval := hchar ((wtermsig status).setWidth 7)
  rw [hlow, BitVec.toNat_setWidth, toNat_wtermsig, Nat.mod_mod] at hval
  rw [wifsignaled, decide_eq_true_iff, hval]

theorem wifstopped_iff : wifstopped status = true ↔ status.toNat % 2 ^ 8 = 127 := by
  have hmask : (status &&& 0xff).toNat = status.toNat % 2 ^ 8 :=
    toNat_and_mask (e := 8) status (by decide)
  rw [wifstopped, beq_iff_eq, ← BitVec.toNat_inj, hmask]
  rfl

theorem wcoredump_eq : wcoredump status = decide (status.toNat / 2 ^ 7 % 2 = 1) := by
  have hbit : status &&& 0x80 = if status.getLsbD 7 then BitVec.twoPow 32 7 else 0 :=
    BitVec.and_twoPow status 7
  rw [wcoredump, hbit, BitVec.getLsbD, Nat.testBit_eq_decide_div_mod_eq]
  by_cases h : status.toNat / 2 ^ 7 % 2 = 1
  · rw [decide_eq_true h]
    rfl
  · rw [decide_eq_false h]
    rfl

/-! ## The round trip -/

theorem toNat_status_exited (code : BitVec 8) :
    (Change.exited code).status.toNat = code.toNat * 2 ^ 8 := by
  have hcode := code.isLt
  rw [Change.status, BitVec.toNat_ofNat]
  omega

theorem toNat_status_killed (sig : { sig : BitVec 7 // sig ≠ 0 ∧ sig ≠ 127 }) (core : Bool) :
    (Change.killed sig core).status.toNat = core.toNat * 2 ^ 7 + sig.val.toNat := by
  have hsig := sig.val.isLt
  have hcore := core.toNat_lt
  rw [Change.status, BitVec.toNat_ofNat]
  omega

theorem toNat_status_stopped (sig : BitVec 8) (event : BitVec 16) :
    (Change.stopped sig event).status.toNat =
      event.toNat * 2 ^ 16 + sig.toNat * 2 ^ 8 + 0x7f := by
  have hsig := sig.isLt
  have hevent := event.isLt
  rw [Change.status, BitVec.toNat_ofNat]
  omega

theorem wifexited_exited (code : BitVec 8) :
    wifexited (Change.exited code).status = true ∧
      (wexitstatus (Change.exited code).status).toNat = code.toNat := by
  have hval := toNat_status_exited code
  have hcode := code.isLt
  rw [wifexited_iff, toNat_wexitstatus]
  omega

theorem ofStatus_exited (code : BitVec 8) :
    Change.ofStatus (Change.exited code).status = some (.exited code) := by
  obtain ⟨hexited, hcode⟩ := wifexited_exited code
  have hback : (wexitstatus (Change.exited code).status).setWidth 8 = code := by
    apply BitVec.eq_of_toNat_eq
    rw [BitVec.toNat_setWidth, hcode]
    exact Nat.mod_eq_of_lt code.isLt
  rw [Change.ofStatus, if_pos hexited, hback]

theorem wifsignaled_killed (sig : { sig : BitVec 7 // sig ≠ 0 ∧ sig ≠ 127 }) (core : Bool) :
    ¬ wifexited (Change.killed sig core).status = true ∧
      wifsignaled (Change.killed sig core).status = true ∧
      (wtermsig (Change.killed sig core).status).toNat = sig.val.toNat := by
  have hval := toNat_status_killed sig core
  have hsig := sig.val.isLt
  have hne : sig.val.toNat ≠ 0 ∧ sig.val.toNat ≠ 127 :=
    ⟨fun h => sig.property.1 (BitVec.eq_of_toNat_eq h),
      fun h => sig.property.2 (BitVec.eq_of_toNat_eq h)⟩
  rw [wifexited_iff, wifsignaled_iff, toNat_wtermsig]
  omega

theorem ofStatus_killed (sig : { sig : BitVec 7 // sig ≠ 0 ∧ sig ≠ 127 }) (core : Bool) :
    Change.ofStatus (Change.killed sig core).status = some (.killed sig core) := by
  have hval := toNat_status_killed sig core
  have hsig := sig.val.isLt
  obtain ⟨hexited, hsignaled, hterm⟩ := wifsignaled_killed sig core
  have hback : (wtermsig (Change.killed sig core).status).setWidth 7 = sig.val := by
    apply BitVec.eq_of_toNat_eq
    rw [BitVec.toNat_setWidth, hterm]
    exact Nat.mod_eq_of_lt hsig
  have hcore : wcoredump (Change.killed sig core).status = core := by
    rw [wcoredump_eq, hval]
    cases core with
    | false => exact decide_eq_false (by simp only [Bool.toNat_false]; omega)
    | true => exact decide_eq_true (by simp only [Bool.toNat_true]; omega)
  rw [Change.ofStatus, if_neg hexited, if_pos hsignaled, dif_pos (hback ▸ sig.property), hcore]
  congr 2
  exact Subtype.ext hback

/-- A process that has stopped has not ended. -/
theorem not_ended_stopped (sig : BitVec 8) (event : BitVec 16) :
    ¬ wifexited (Change.stopped sig event).status = true ∧
      ¬ wifsignaled (Change.stopped sig event).status = true := by
  have hval := toNat_status_stopped sig event
  rw [wifexited_iff, wifsignaled_iff]
  omega

theorem ofStatus_stopped (sig : BitVec 8) (event : BitVec 16) :
    Change.ofStatus (Change.stopped sig event).status = some (.stopped sig event) := by
  have hval := toNat_status_stopped sig event
  have hsig := sig.isLt
  obtain ⟨hexited, hsignaled⟩ := not_ended_stopped sig event
  have hstopped : wifstopped (Change.stopped sig event).status = true := by
    rw [wifstopped_iff]
    omega
  have hback : (wexitstatus (Change.stopped sig event).status).setWidth 8 = sig := by
    apply BitVec.eq_of_toNat_eq
    rw [BitVec.toNat_setWidth, toNat_wexitstatus]
    omega
  have hevent : (pinkEventDecide (Change.stopped sig event).status).setWidth 16 = event := by
    apply BitVec.eq_of_toNat_eq
    rw [BitVec.toNat_setWidth, toNat_pinkEventDecide]
    have hlt := event.isLt
    omega
  rw [Change.ofStatus, if_neg hexited, if_neg hsignaled, if_pos hstopped, hback, hevent]

theorem pinkEventDecide_status (c : Change) : pinkEventDecide c.status = c.event := by
  apply BitVec.eq_of_toNat_eq
  rw [toNat_pinkEventDecide]
  cases c with
  | exited code =>
    have hcode := code.isLt
    rw [toNat_status_exited]
    exact Nat.div_eq_of_lt (by omega)
  | killed sig core =>
    have hsig := sig.val.isLt
    have hcore := core.toNat_lt
    rw [toNat_status_killed]
    exact Nat.div_eq_of_lt (by omega)
  | stopped sig event =>
    have hsig := sig.isLt
    have hevent := event.isLt
    rw [toNat_status_stopped, Change.event, BitVec.toNat_setWidth]
    omega
  | continued => decide

/-- **Every change is read back from its status**: the exit code; the signal that killed, and
    whether there is a core; or the signal and the event of a stop. So no two changes look alike,
    and `pink_event_decide` finds the event of a stop, and none in any other change. -/
theorem wait_status_read_back (c : Change) :
    Change.ofStatus c.status = some c ∧ pinkEventDecide c.status = c.event := by
  refine ⟨?_, pinkEventDecide_status c⟩
  cases c with
  | exited code => exact ofStatus_exited code
  | killed sig core => exact ofStatus_killed sig core
  | stopped sig event => exact ofStatus_stopped sig event
  | continued => decide

end PinkTrace
