import PinkTrace.Proof.Vm.CreadNul
import PinkTrace.Proof.Vm.LreadNul

/-!
# String reads return

`pink_read_vm_data_nul` of a buffer of an ordinary size comes back in front of every kernel,
whatever of the string can be reached and by which path. And it comes back with a failure where
neither path gets at the first byte.

"Ordinary" is below `2^31`. From there on the chunked reader need not come back, and `CreadNul`
says when. Nothing is assumed of the kernel beyond what `Kernel` has as fields. This is what the
tracer is built on: it reads strings of a child that may pass it any pointer.
-/

set_option autoImplicit false

namespace PinkTrace

open Lib

variable {arch : Arch} {K : Kernel arch} {len fuel : Nat}

/-! ## Word by word -/

/-- A pass of a word-wise loop leaves fewer bytes, from any cursor with a residue inside of a
    word. Termination needs no more than this, so the closed form is not used. -/
theorem Cursor.next_lt {c : Cursor arch} (hres : c.residue < arch.sizeofLong) (h : c.len ≠ 0) :
    c.next.len < c.len ∧ c.next.residue < arch.sizeofLong := by
  have hpos := arch.sizeofLong_pos
  have hm : 0 < c.m := by
    unfold Cursor.m
    omega
  have hlen : c.next.len = c.len - c.m := rfl
  have hzero : c.next.residue = 0 := rfl
  omega

/-- The word-wise reader returns whatever it meets. -/
theorem pinkVmLreadNul_returns (K : Kernel arch) (addr : Addr arch) (dest : Bytes)
    (s : State arch) (hf : len < fuel) : ∃ r, pinkVmLreadNul fuel K addr dest len s = some r := by
  have hstart : (Cursor.start addr len).residue < arch.sizeofLong := by
    rw [start_residue]
    exact skew_lt addr
  -- each pass that goes round takes at least one byte off the length
  have hstep : ∀ v : LreadVars arch, v.cur.residue < arch.sizeofLong →
      Advances (fun v : LreadVars arch => v.cur.residue < arch.sizeofLong) (fun v => v.cur.len)
        (fun _ : ReadRet arch => True) v (lreadNulBody K v) := by
    intro v hres
    unfold lreadNulBody
    split
    · trivial
    · rename_i hne
      obtain ⟨hless, hnext⟩ := Cursor.next_lt hres hne
      split
      · trivial
      · dsimp only
        split
        · trivial
        · exact ⟨hnext, hless⟩
  obtain ⟨r, hrun, -⟩ := run_of_invariant hstep (s := ⟨.start addr len, dest, s⟩) hstart hf
  exact ⟨r, hrun⟩

/-! ## The entry point -/

/-- Attach that fails for every request fails for the first. -/
theorem pinkVmCreadNul_failing {e : Errno} (hK : K.readvErr = some e) (hpos : 0 < len)
    (hlen : len < 2 ^ 31) (hf : 0 < fuel) (abi : Abi arch) (addr : Addr arch) (dest : Bytes)
    (s : State arch) :
    ∃ log, pinkVmCreadNul fuel K abi addr dest len s =
      some ⟨-1, dest, ⟨s.mem, some e, log⟩⟩ := by
  obtain ⟨c, hc, hcpos, hcle⟩ := chunkLen_spec (setupAddr abi addr) hpos hlen
  obtain ⟨fuel, rfl⟩ : ∃ n, fuel = n + 1 := ⟨fuel - 1, by omega⟩
  have hfail : attachFailure arch K.readvErr (BitVec.ofInt arch.longBits (c : Int)).toNat =
      some e := by
    rw [toNat_ofInt_chunk (by omega), attachFailure_of_lt (arch.lt_long_max (by omega)), hK]
  exact ⟨_, run_done (creadNulBody_refused (v := ⟨0, setupAddr abi addr, len, 0, dest, s⟩)
    (Nat.ne_of_gt hpos) hc hfail) fuel⟩

/-- With attach a string read is the chunked one; where attach fails it is the word-wise one, or
    over. -/
theorem pinkReadVmDataNul_failing {e : Errno} (hK : K.readvErr = some e) (hpos : 0 < len)
    (hlen : len < 2 ^ 31) (hf : 0 < fuel) (abi : Abi arch) (addr : Addr arch) (dest : Bytes)
    (s : State arch) :
    ∃ st : State arch, st.mem = s.mem ∧ (pinkReadVmDataNul fuel K abi addr dest len s =
        pinkVmLreadNul fuel K addr dest len st ∨
      pinkReadVmDataNul fuel K abi addr dest len s = some ⟨-1, dest, st⟩) := by
  obtain ⟨log, hrun⟩ := pinkVmCreadNul_failing hK hpos hlen hf abi addr dest
    { s with errno := none }
  refine ⟨⟨s.mem, some e, log⟩, rfl, ?_⟩
  rw [pinkReadVmDataNul, hrun, Option.bind_eq_bind, Option.bind_some]
  split
  · exact Or.inl rfl
  · exact Or.inr rfl

/-- **A string read returns**, in front of any kernel and of any memory. -/
theorem pinkReadVmDataNul_returns (K : Kernel arch) (abi : Abi arch) (addr : Addr arch)
    (dest : Bytes) (s : State arch) (hpos : 0 < len) (hlen : len < 2 ^ 31) (hf : len < fuel) :
    ∃ r, pinkReadVmDataNul fuel K abi addr dest len s = some r := by
  cases hK : K.readvErr with
  | none =>
    obtain ⟨r, hrun, -⟩ :=
      pinkVmCreadNul_spec abi addr dest { s with errno := none } hK hpos hlen hf
    exact ⟨r, by rw [pinkReadVmDataNul_cread hK, hrun]⟩
  | some e =>
    obtain ⟨st, -, hwords | hover⟩ :=
      pinkReadVmDataNul_failing hK hpos hlen (Nat.zero_lt_of_lt hf) abi addr dest s
    · rw [hwords]
      exact pinkVmLreadNul_returns K addr dest st hf
    · exact ⟨_, hover⟩

/-- Where neither path reaches the first byte, the read fails. Both premises are needed: the paths
    ask about different addresses if the ABI is not the host's. -/
theorem pinkReadVmDataNul_unreadable (abi : Abi arch) (addr : Addr arch)
    (hattach : K.readable (setupAddr abi addr) = false) (hpeek : K.peekErr (wordBase addr) ≠ none)
    (dest : Bytes) (s : State arch) (hpos : 0 < len) (hlen : len < 2 ^ 31) (hf : len < fuel) :
    ∃ r, pinkReadVmDataNul fuel K abi addr dest len s = some r ∧ r.ret = -1 := by
  cases hK : K.readvErr with
  | none =>
    obtain ⟨r, hrun, hreads⟩ :=
      pinkVmCreadNul_spec abi addr dest { s with errno := none } hK hpos hlen hf
    have hret := hreads.ret
    rw [if_pos ((reach_eq_zero hpos).mpr hattach)] at hret
    exact ⟨r, by rw [pinkReadVmDataNul_cread hK, hrun], hret⟩
  | some e =>
    obtain ⟨st, -, hwords | hover⟩ :=
      pinkReadVmDataNul_failing hK hpos hlen (Nat.zero_lt_of_lt hf) abi addr dest s
    · obtain ⟨e', he'⟩ := Option.ne_none_iff_exists'.mp hpeek
      have hfirst : wordAt addr 0 = wordBase addr := ahead_zero _
      have hrounds : 0 < Cursor.rounds addr len := by
        have := (Cursor.mul_rounds addr hpos).1
        exact Nat.pos_of_ne_zero fun h0 => by rw [h0] at this; omega
      rw [hwords, pinkVmLreadNul_error dest st hf hrounds
        (fun k hk => absurd hk (Nat.not_lt_zero k)) (fun i hi => absurd hi (by omega))
        (hfirst ▸ he')]
      exact ⟨_, rfl, rfl⟩
    · exact ⟨_, hover, rfl⟩

end PinkTrace
