import PinkTrace.Regset.X86

/-!
# What a filled regset shows

The readers never look at the tracee, only at bytes that `pink_regset_fill` left behind, so the
first thing to know about a fill is what those bytes are worth. `Shows` says it without
mentioning bytes: which ABI was detected, and which registers can be read in the layout of that
ABI. Both ways to fill a regset end in it (`pinkRegsetFill_shows`), and nothing after this module
depends on which of the two was taken.

That a fill ends at all well is no matter of course. The tracee has to be there, and the library
has to have been built with one of the two requests. `pinkRegsetFill_ok_iff` says that nothing
else is needed, so a theorem that starts from a filled regset need not ask for either: they
follow.

Under the 32-bit ABI only ten of the seventeen fields are covered. The legacy path assigns no
others, and what the remaining bytes hold after it is the debris of the 64-bit struct.
-/

set_option autoImplicit false

namespace PinkTrace

open Lib

variable {t : X86Tracee} {rs rs' : X86Regset}

/-! ## The tracee, seen from outside -/

/-- Whether a fill takes the tracee for a 32-bit one: from its layout, or from its code segment.
    The two may disagree, for a process that switches between the modes; nothing here assumes that
    they do not. -/
def X86Tracee.runsI386 (t : X86Tracee) (cfg : RegsConfig) : Bool :=
  if cfg.haveGetregset then t.compat else decide (t.regs .cs = 0x23)

/-- The ABI a fill detects. A function of the tracee and the configuration, so it can be named
    before there is a regset. -/
def X86Tracee.abi (t : X86Tracee) (cfg : RegsConfig) : Abi .x86_64 :=
  if t.runsI386 cfg then .i386
  else if t.regs .origRax &&& x32SyscallBit ≠ 0 then .x32
  else .x86_64

/-- What can be read out of a regset: all registers whole, or ten of them by halves. It is the
    interface of this file; bytes are not mentioned after it. -/
structure Shows (rs : X86Regset) (abi : Abi .x86_64) (regs : X86Reg → BitVec 64) : Prop where
  detected : rs.abi = abi
  wide : abi ≠ .i386 → ∀ r, rs.x86_64R r = regs r
  narrow : abi = .i386 → ∀ r ∈ overlaid, rs.i386R r = (regs r.wide).setWidth 32

/-! ## Fields of an image -/

theorem X86Reg.index_lt (r : X86Reg) : 8 * r.index + 8 ≤ sizeofX86_64Regs := by
  cases r <;> decide

theorem I386Reg.index_lt (r : I386Reg) : 4 * r.index + 4 ≤ sizeofI386Regs := by
  cases r <;> decide

theorem ofNat_mod_eq_setWidth (v : BitVec 64) :
    BitVec.ofNat 32 (v.toNat % 256 ^ 4) = v.setWidth 32 := by
  apply BitVec.eq_of_toNat_eq
  rw [BitVec.toNat_ofNat, BitVec.toNat_setWidth]
  omega

/-- A field of the 64-bit struct, after the kernel has copied its image into the union… -/
theorem x86_64R_of_image {u : Bytes} (h : rs.union = copy u 0 t.image64 sizeofX86_64Regs)
    (r : X86Reg) : rs.x86_64R r = t.regs r := by
  have hin := r.index_lt
  have hlt := (t.regs r).isLt
  have hfield : leLoad rs.union (8 * r.index) 8 = (t.regs r).toNat := by
    rw [h, leLoad_copy (Nat.zero_le _) (by omega), Nat.sub_zero, X86Tracee.image64,
      leLoad_leArray (by decide), X86Reg.all_index]
    exact Nat.mod_eq_of_lt hlt
  rw [X86Regset.x86_64R, hfield, BitVec.ofNat_toNat, BitVec.setWidth_eq]

/-- …and one of the 32-bit struct. There the register is cut to its low half, which is all that
    the image has. -/
theorem i386R_of_image {u : Bytes} (h : rs.union = copy u 0 t.image32 sizeofI386Regs)
    (r : I386Reg) : rs.i386R r = (t.regs r.wide).setWidth 32 := by
  have hin := r.index_lt
  have hfield : leLoad rs.union (4 * r.index) 4 = (t.regs r.wide).toNat % 256 ^ 4 := by
    rw [h, leLoad_copy (Nat.zero_le _) (by omega), Nat.sub_zero, X86Tracee.image32,
      leLoad_leArray (by decide), I386Reg.all_index]
  rw [X86Regset.i386R, hfield, ofNat_mod_eq_setWidth]

/-- **The order is right**: each of the ten fields of the 32-bit struct ends up with the low half
    of its register, although both structs lie in the same bytes. What has to be seen is that no
    assignment overwrites what a later one reads; `Lib.Overlay` reduces that to a check of
    offsets. -/
theorem i386R_overlayI386 (h : ∀ r, rs.x86_64R r = t.regs r) {r : I386Reg} (hr : r ∈ overlaid) :
    { rs with union := overlayI386 rs.union, iovLen := sizeofI386Regs }.i386R r
      = (t.regs r.wide).setWidth 32 := by
  have hfield : (t.regs r.wide).toNat = leLoad rs.union (8 * r.wide.index) 8 := by
    rw [← h, X86Regset.x86_64R, BitVec.toNat_ofNat]
    exact Nat.mod_eq_of_lt (leLoad_lt rs.union (8 * r.wide.index) 8)
  rw [← ofNat_mod_eq_setWidth, hfield, X86Regset.i386R, overlayI386,
    overlay_load (by decide) (List.mem_map_of_mem hr)]

/-! ## The two paths -/

/-- The end of a fill, given what the union holds: the length of the 32-bit struct settles the
    ABI… -/
theorem detectAbi_narrow {regs : X86Reg → BitVec 64} (hlen : rs.iovLen = sizeofI386Regs)
    (h : ∀ r ∈ overlaid, rs.i386R r = (regs r.wide).setWidth 32) :
    Shows (detectAbi rs) .i386 regs := by
  rw [detectAbi, if_pos hlen]
  exact ⟨rfl, fun hne => absurd rfl hne, fun _ => h⟩

/-- …and otherwise the system call number does. -/
theorem detectAbi_wide {regs : X86Reg → BitVec 64} (hlen : rs.iovLen = sizeofX86_64Regs)
    (h : ∀ r, rs.x86_64R r = regs r) :
    Shows (detectAbi rs) (if regs .origRax &&& x32SyscallBit ≠ 0 then .x32 else .x86_64)
      regs := by
  rw [detectAbi, if_neg (by rw [hlen]; decide), h]
  split
  · exact ⟨rfl, fun _ => h, fun heq => absurd heq (by simp)⟩
  · exact ⟨rfl, fun _ => h, fun heq => absurd heq (by simp)⟩

/-- **A fill of a tracee that is still there succeeds, and shows its registers**, in a library
    that has one of the two requests. -/
theorem pinkRegsetFill_shows (cfg : RegsConfig) (fills : cfg.fills = true)
    (alive : t.err = none) (rs : X86Regset) :
    ∃ rs', pinkRegsetFill cfg t rs = (.ok (), rs') ∧ Shows rs' (t.abi cfg) t.regs := by
  obtain ⟨haveGetregset, haveGetregs⟩ := cfg
  cases haveGetregset with
  | true =>
    simp only [pinkRegsetFill, pinkTraceGetRegset, ifHave, alive, if_true, X86Tracee.abi,
      X86Tracee.runsI386]
    cases t.compat with
    | true => exact ⟨_, rfl, detectAbi_narrow (by rfl) fun r _ => i386R_of_image rfl r⟩
    | false => exact ⟨_, rfl, detectAbi_wide (by rfl) (x86_64R_of_image rfl)⟩
  | false =>
    -- without the first request, `fills` is the second
    have hgetregs : haveGetregs = true := fills
    have hfields : ∀ r, { rs with
        union := copy rs.union 0 t.image64 sizeofX86_64Regs,
        iovLen := sizeofX86_64Regs }.x86_64R r = t.regs r := x86_64R_of_image rfl
    simp only [pinkRegsetFill, pinkTraceGetRegs, ifHave, hgetregs, alive, if_true,
      Bool.false_eq_true, if_false, X86Tracee.abi, X86Tracee.runsI386, hfields,
      decide_eq_true_eq]
    split
    · exact ⟨_, rfl, detectAbi_narrow rfl fun r hr => i386R_overlayI386 hfields hr⟩
    · exact ⟨_, rfl, detectAbi_wide rfl hfields⟩

/-- A library with neither request refuses every fill, whatever the tracee. What the readers find
    in the regset afterwards is what was there before. -/
theorem pinkRegsetFill_refused {cfg : RegsConfig} (h : cfg.fills = false) (t : X86Tracee)
    (rs : X86Regset) :
    pinkRegsetFill cfg t rs = (.error .enosys, { rs with iovLen := sizeofX86_64Regs }) := by
  obtain ⟨hgetregset, hgetregs⟩ := Bool.or_eq_false_iff.mp h
  simp [pinkRegsetFill, pinkTraceGetRegs, ifHave, hgetregset, hgetregs]

/-- **When a fill succeeds.** The direction used is the one from left to right: whoever holds a
    filled regset knows that the tracee was there and that the library can fill another. -/
theorem pinkRegsetFill_ok_iff {cfg : RegsConfig} :
    (pinkRegsetFill cfg t rs).1 = .ok () ↔ t.err = none ∧ cfg.fills = true := by
  constructor
  · intro h
    have fills : cfg.fills = true := by
      cases hfills : cfg.fills with
      | true => rfl
      | false =>
        rw [pinkRegsetFill_refused hfills] at h
        cases h
    refine ⟨?_, fills⟩
    cases herr : t.err with
    | none => rfl
    | some e =>
      obtain ⟨haveGetregset, haveGetregs⟩ := cfg
      cases haveGetregset with
      | true => simp [pinkRegsetFill, pinkTraceGetRegset, ifHave, herr] at h
      | false =>
        have hgetregs : haveGetregs = true := fills
        simp [pinkRegsetFill, pinkTraceGetRegs, ifHave, hgetregs, herr] at h
  · rintro ⟨alive, fills⟩
    obtain ⟨rs', hfill, -⟩ := pinkRegsetFill_shows cfg fills alive rs
    rw [hfill]

theorem pinkRegsetFill_alive {cfg : RegsConfig}
    (h : pinkRegsetFill cfg t rs = (.ok (), rs')) : t.err = none ∧ cfg.fills = true :=
  pinkRegsetFill_ok_iff.mp (congrArg Prod.fst h)

/-- …so whatever filled regset one starts from shows the tracee it was filled from. -/
theorem shows_of_fill {cfg : RegsConfig} (h : pinkRegsetFill cfg t rs = (.ok (), rs')) :
    Shows rs' (t.abi cfg) t.regs := by
  obtain ⟨alive, fills⟩ := pinkRegsetFill_alive h
  obtain ⟨rs'', h'', hshows⟩ := pinkRegsetFill_shows cfg fills alive rs
  rw [h, Prod.mk.injEq] at h''
  rw [h''.2]
  exact hshows

end PinkTrace
