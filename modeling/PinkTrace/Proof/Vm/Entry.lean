import PinkTrace.Proof.Vm.Lwrite

/-!
# Readable and writable ranges, path by path

What each of the transfer functions does with a range that is accessible throughout, and what the
entry points of `read.c` and `write.c` make of them: with attach they are the `pink_vm_c*`
functions, without it the `pink_vm_l*` ones, entered after a failed attach. A reader of a readable
range is exact on either path (`pinkReadVmData_of_readable`). The writers have no such theorem in
common, and that is the subject of the next two files.

## How the paths are told apart

`Detached` is a property of the kernel and not of the run: attach fails with one of the two errnos
that select the fallback. For the functions that make a single attach request this settles the
path before anything is read, so `pinkReadVmData_detached` and `pinkReadVmData_cread` are
equations. They ask for a length that is an `ssize_t`. With a longer one the request is refused
for its length, and a library on a kernel that forbids attach does not learn that it is forbidden.
-/

set_option autoImplicit false

namespace PinkTrace

open Lib
open Abi (pinkAbiDefault)

variable {arch : Arch} {sp : AddressSpace arch} {addr : Addr arch} {len fuel : Nat}

/-! ## The six functions on accessible ranges -/

/-- The word-wise reader on a readable range, with the state it ends in left open. -/
theorem pinkVmLread_of_readable (readv writev : Attach) (dest : Bytes) (s : State arch)
    (hf : len < fuel) (h32 : len < 2 ^ 32) (hs : len < 2 ^ (arch.longBits - 1))
    (h : sp.Readable addr len) :
    ∃ r, pinkVmLread fuel (sp.kernel readv writev) addr dest len s = some r ∧ r.ret = len ∧
      r.dest = copy dest 0 (s.mem.from addr) len := by
  refine ⟨_, pinkVmLread_ok dest s hf
    (fun k hk => AddressSpace.peekErr_of_readable readv writev h hk), ?_, rfl⟩
  rw [Nat.mod_eq_of_lt h32]
  exact toSsize_of_lt hs

/-- The attach reader on one. Here nothing is left open: one request, one answer. -/
theorem pinkVmCread_of_readable (writev : Attach) (abi : Abi arch) (addr : Addr arch)
    (dest : Bytes) (s : State arch) (hs : len < 2 ^ (arch.longBits - 1))
    (h : sp.Readable (setupAddr abi addr) len) :
    pinkVmCread (sp.kernel .available writev) abi addr dest len s =
      ⟨len, copy dest 0 (s.mem.from (setupAddr abi addr)) len,
        { s with log := s.log ++ [.vmReadv (setupAddr abi addr) len] }⟩ := by
  have herr : (sp.kernel .available writev).readvErr = none := rfl
  have hreach : reach (sp.kernel .available writev).readable (setupAddr abi addr) len = len :=
    leading_eq_of_forall h
  simp only [pinkVmCread, processVmReadv, attachFailure_of_lt hs, herr, hreach]
  rw [if_neg (by omega)]
  rfl

theorem pinkVmCwrite_of_writable (readv : Attach) (abi : Abi arch) (addr : Addr arch)
    (src : Bytes) (s : State arch) (hs : len < 2 ^ (arch.longBits - 1))
    (h : sp.Writable (setupAddr abi addr) len) :
    pinkVmCwrite (sp.kernel readv .available) abi addr src len s =
      ⟨len, { s with mem := s.mem.store (setupAddr abi addr) src len,
                     log := s.log ++ [.vmWritev (setupAddr abi addr) len] }⟩ := by
  have herr : (sp.kernel readv .available).writevErr = none := rfl
  have hreach : reach (sp.kernel readv .available).writable (setupAddr abi addr) len = len :=
    leading_eq_of_forall h
  simp only [pinkVmCwrite, processVmWritev, attachFailure_of_lt hs, herr, hreach]
  rw [if_neg (by omega)]
  rfl

/-! ## The entry points -/

/-- Attach reads are missing or forbidden, with one of the two errnos that say so. -/
def Detached (K : Kernel arch) : Prop := K.readvErr = some .enosys ∨ K.readvErr = some .eperm

instance (K : Kernel arch) : Decidable (Detached K) := inferInstanceAs (Decidable (_ ∨ _))

/-- Where attach is missing, `pink_read_vm_data` is `pink_vm_lread`, after a failed attach… -/
theorem pinkReadVmData_detached {K : Kernel arch} (hK : Detached K)
    (hlen : len < 2 ^ (arch.longBits - 1)) (abi : Abi arch) (dest : Bytes) (s : State arch) :
    pinkReadVmData fuel K abi addr dest len s = pinkVmLread fuel K addr dest len
      { mem := s.mem, errno := K.readvErr,
        log := s.log ++ [.vmReadv (setupAddr abi addr) len] } := by
  rcases hK with herr | herr <;>
    simp [pinkReadVmData, pinkVmCread, processVmReadv, attachFailure_of_lt hlen, herr,
      attachMissing]

/-- …and everywhere else it is `pink_vm_cread`. -/
theorem pinkReadVmData_cread {K : Kernel arch} (hK : ¬ Detached K)
    (hlen : len < 2 ^ (arch.longBits - 1)) (abi : Abi arch) (dest : Bytes) (s : State arch) :
    pinkReadVmData fuel K abi addr dest len s =
      some (pinkVmCread K abi addr dest len { s with errno := none }) := by
  have hfound : attachMissing (pinkVmCread K abi addr dest len { s with errno := none }).st =
      false := by
    simp only [pinkVmCread, processVmReadv, attachFailure_of_lt hlen]
    cases herr : K.readvErr with
    | none =>
      dsimp only
      split <;> rfl
    | some e =>
      simp only [Detached, herr, not_or] at hK
      simp [attachMissing, hK.1, hK.2]
  rw [pinkReadVmData]
  simp [hfound]

theorem Attach.detached {missing : Attach} (hm : missing ≠ .available) (writev : Attach) :
    Detached (sp.kernel missing writev) := by
  cases missing with
  | available => exact absurd rfl hm
  | enosys => exact Or.inl rfl
  | eperm => exact Or.inr rfl

/-- The same in front of a page-granular tracee, by the availability. -/
theorem pinkReadVmData_missing {missing : Attach} (writev : Attach)
    (hm : missing ≠ .available) (hlen : len < 2 ^ (arch.longBits - 1)) (abi : Abi arch)
    (dest : Bytes) (s : State arch) :
    pinkReadVmData fuel (sp.kernel missing writev) abi addr dest len s =
      pinkVmLread fuel (sp.kernel missing writev) addr dest len
        { mem := s.mem, errno := missing.err,
          log := s.log ++ [.vmReadv (setupAddr abi addr) len] } :=
  pinkReadVmData_detached (Attach.detached hm writev) hlen abi dest s

theorem not_detached {K : Kernel arch} (hK : K.readvErr = none) : ¬ Detached K := by
  rw [Detached, hK]
  simp

theorem pinkReadVmData_available (writev : Attach) (hlen : len < 2 ^ (arch.longBits - 1))
    (abi : Abi arch) (dest : Bytes) (s : State arch) :
    pinkReadVmData fuel (sp.kernel .available writev) abi addr dest len s =
      some (pinkVmCread (sp.kernel .available writev) abi addr dest len
        { s with errno := none }) :=
  pinkReadVmData_cread (not_detached rfl) hlen abi dest s

/-- Where attach is missing the writer is `pink_vm_lwrite`. The address is the caller's own:
    `setup_addr` was applied to the request that failed, and to that only. -/
theorem pinkWriteVmData_missing {missing : Attach} (readv : Attach)
    (hm : missing ≠ .available) (hlen : len < 2 ^ (arch.longBits - 1))
    (junk : Nat → Word arch) (abi : Abi arch) (src : Bytes) (s : State arch) :
    pinkWriteVmData fuel (sp.kernel readv missing) junk abi addr src len s =
      pinkVmLwrite fuel (sp.kernel readv missing) junk addr src len
        { mem := s.mem, errno := missing.err,
          log := s.log ++ [.vmWritev (setupAddr abi addr) len] } := by
  have herr : (sp.kernel readv missing).writevErr = missing.err := rfl
  cases missing with
  | available => exact absurd rfl hm
  | enosys | eperm =>
    simp [pinkWriteVmData, pinkVmCwrite, processVmWritev, attachFailure_of_lt hlen, herr,
      Attach.err, attachMissing]

theorem pinkWriteVmData_available (readv : Attach) (hlen : len < 2 ^ (arch.longBits - 1))
    (junk : Nat → Word arch) (abi : Abi arch) (src : Bytes) (s : State arch) :
    pinkWriteVmData fuel (sp.kernel readv .available) junk abi addr src len s =
      some (pinkVmCwrite (sp.kernel readv .available) abi addr src len
        { s with errno := none }) := by
  have herr : (sp.kernel readv .available).writevErr = none := rfl
  have hfound : attachMissing (pinkVmCwrite (sp.kernel readv .available) abi addr src len
      { s with errno := none }).st = false := by
    simp only [pinkVmCwrite, processVmWritev, attachFailure_of_lt hlen, herr]
    split <;> rfl
  rw [pinkWriteVmData]
  simp [hfound]

/-- **A readable range of the host's own ABI is read exactly, whichever path is taken.** For the
    host's own, because `setup_addr` may change an address of any other. -/
theorem pinkReadVmData_of_readable (readv writev : Attach) (dest : Bytes) (s : State arch)
    (hf : len < fuel) (h32 : len < 2 ^ 32) (hs : len < 2 ^ (arch.longBits - 1))
    (h : sp.Readable addr len) :
    ∃ r, pinkReadVmData fuel (sp.kernel readv writev) (pinkAbiDefault arch) addr dest len s =
      some r ∧ r.ret = len ∧ r.dest = copy dest 0 (s.mem.from addr) len := by
  by_cases hm : readv = .available
  · subst hm
    rw [pinkReadVmData_available writev hs]
    have hread := pinkVmCread_of_readable writev (pinkAbiDefault arch) addr dest
      { s with errno := none } hs (by rwa [setupAddr_default])
    rw [setupAddr_default] at hread
    exact ⟨_, rfl, by rw [hread], by rw [hread]⟩
  · rw [pinkReadVmData_missing writev hm hs]
    exact pinkVmLread_of_readable readv writev dest _ hf h32 hs h

/-- A range that was read as a whole is reported as such. -/
theorem pinkReadVmDataFull_complete {K : Kernel arch} {abi : Abi arch} {dest : Bytes}
    {s : State arch} {r : ReadRet arch}
    (h : pinkReadVmData fuel K abi addr dest len { s with errno := none } = some r)
    (hret : r.ret = len) :
    pinkReadVmDataFull fuel K abi addr dest len s = some { r with ret := 0 } := by
  have hnonneg : ¬ (len : Int) < 0 := by omega
  simp only [pinkReadVmDataFull, h, Option.bind_eq_bind, Option.bind_some, hret, if_neg hnonneg,
    ne_eq, not_true_eq_false, if_false]

/-! ## Attach that transfers what it can reach -/

/-- Cross memory attach is there, and a request transfers everything it can reach. Linux does so;
    a kernel that does not is still within its documentation. -/
structure Attached (K : Kernel arch) : Prop where
  readvErr : K.readvErr = none
  transfer : ∀ k p, K.transfer k p = p

theorem AddressSpace.attached (sp : AddressSpace arch) (writev : Attach) :
    Attached (sp.kernel .available writev) := ⟨rfl, fun _ _ => rfl⟩

section

variable {K : Kernel arch}

/-- The attach reader by what can be reached, in one equation: nothing is an error, and everything
    else is a count. -/
theorem pinkVmCread_attached (hK : Attached K) (abi : Abi arch) (addr : Addr arch)
    (dest : Bytes) (s : State arch) (hpos : 0 < len) (hs : len < 2 ^ (arch.longBits - 1)) :
    pinkVmCread K abi addr dest len s =
      ⟨if reach K.readable (setupAddr abi addr) len = 0 then -1
        else (reach K.readable (setupAddr abi addr) len : Int),
        copy dest 0 (s.mem.from (setupAddr abi addr)) (reach K.readable (setupAddr abi addr) len),
        { s with
          errno := if reach K.readable (setupAddr abi addr) len = 0 then some .efault else s.errno
          log := s.log ++ [.vmReadv (setupAddr abi addr) len] }⟩ := by
  simp only [pinkVmCread, processVmReadv, attachFailure_of_lt hs, hK.readvErr, hK.transfer]
  by_cases h0 : reach K.readable (setupAddr abi addr) len = 0
  · simp [h0, hpos]
  · simp [h0]

/-- **An attached reader delivers the readable part of a range**, and reports the range as read
    exactly when that is all of it. -/
theorem pinkReadVmDataFull_attached (hK : Attached K) (fuel : Nat) (abi : Abi arch)
    (addr : Addr arch) (dest : Bytes) (s : State arch) (hpos : 0 < len)
    (hs : len < 2 ^ (arch.longBits - 1)) :
    ∃ st, st.mem = s.mem ∧ pinkReadVmDataFull fuel K abi addr dest len s = some
      ⟨if reach K.readable (setupAddr abi addr) len = len then 0
        else -(Errno.efault.code : Int),
        copy dest 0 (s.mem.from (setupAddr abi addr))
          (reach K.readable (setupAddr abi addr) len), st⟩ := by
  have hread := pinkVmCread_attached hK abi addr dest { s with errno := none } hpos hs
  have hentry : pinkReadVmData fuel K abi addr dest len { s with errno := none } =
      some (pinkVmCread K abi addr dest len { s with errno := none }) :=
    pinkReadVmData_cread (not_detached hK.readvErr) hs abi dest _
  refine ⟨(pinkVmCread K abi addr dest len { s with errno := none }).st, by rw [hread], ?_⟩
  simp only [pinkReadVmDataFull, hentry, Option.bind_eq_bind, Option.bind_some, hread]
  by_cases h0 : reach K.readable (setupAddr abi addr) len = 0
  · simp [h0, Nat.ne_of_lt hpos]
  · have hnonneg : ¬ (reach K.readable (setupAddr abi addr) len : Int) < 0 := by omega
    rw [if_neg h0, if_neg hnonneg]
    by_cases hfull : reach K.readable (setupAddr abi addr) len = len
    · simp [hfull]
    · rw [if_pos (by omega), if_neg hfull]

end

/-! ## What a writer can return -/

/-- No value of type `ssize_t` is as large as a length that is not one, so such a length is never
    reported… -/
theorem toSsize_lt (arch : Arch) (n : Nat) : toSsize arch n < 2 ^ (arch.longBits - 1) := by
  unfold toSsize
  rw [Int.bmod_def]
  cases arch <;> simp only [Arch.longBits, Arch.sizeofLong] <;> omega

theorem pinkVmLwrite_ret_lt {K : Kernel arch} {junk : Nat → Word arch} {src : Bytes}
    {s : State arch} {w : WriteRet arch} (h : pinkVmLwrite fuel K junk addr src len s = some w) :
    w.ret < 2 ^ (arch.longBits - 1) := by
  refine run_post (fun w => w.ret < 2 ^ (arch.longBits - 1)) (fun v b hb => ?_) h
  unfold lwriteBody at hb
  split at hb
  · cases hb
    exact toSsize_lt arch _
  · split at hb
    · cases hb
      exact toSsize_lt arch _
    · exact absurd hb (by simp)

/-- …by either path. Results about "a write that reports the whole length" hold of such a length
    for that reason alone. -/
theorem pinkWriteVmData_ret_ne {readv writev : Attach} {junk : Nat → Word arch} {abi : Abi arch}
    {src : Bytes} {s : State arch} {w : WriteRet arch} (hlen : 2 ^ (arch.longBits - 1) ≤ len)
    (h : pinkWriteVmData fuel (sp.kernel readv writev) junk abi addr src len s = some w) :
    w.ret ≠ len := by
  intro hret
  rw [pinkWriteVmData] at h
  split at h
  · have hlt := pinkVmLwrite_ret_lt h
    rw [hret] at hlt
    have : ((2 ^ (arch.longBits - 1) : Nat) : Int) ≤ len := by exact_mod_cast hlen
    push_cast at this
    omega
  · -- attach refuses the length before it looks at anything
    obtain rfl := Option.some.inj h
    obtain ⟨e, he⟩ := attachFailure_of_le hlen (sp.kernel readv writev).writevErr
    simp only [pinkVmCwrite, processVmWritev, he] at hret
    omega

end PinkTrace
