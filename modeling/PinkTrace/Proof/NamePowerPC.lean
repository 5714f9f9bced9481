import PinkTrace.Proof.Name

/-!
# The numbers written in the PowerPC table

Every line of `linux/powerpc/syscallent.h` has a number in a comment, but a call has the number of
its row, and a row ends at a comma. Line 319, `perf_event_open`, has none. So the table is made of
three parts (`syscallentPowerpc_eq`): the lines before it, a row that is this line and the next
joined together, and the lines behind these two, one row early.

A line of the first part stands where its comment says. One of the third does not, because its
name stands in the row before and a name stands in one row only. The socket calls are among them.

The lines are data of the model next to the rows, and `rowsOf_powerpcLines` is what makes them
more than a second table: reading the lines as a compiler does gives the rows. So a statement
about comments, which no compiler sees, is one about the file.
-/

set_option autoImplicit false

namespace PinkTrace

open Lib
open Abi (pinkAbiDefault)
open NameTable (Line rowsOf rowsOf_append rowsOf_joined)

variable {arch : Arch}

/-! ## Lines and rows -/

set_option maxRecDepth 100000

/-- Joining the literals that have no comma between them gives the table that the functions use.
    -/
theorem rowsOf_powerpcLines : rowsOf "" powerpcLines = syscallentPowerpc := by
  decide +kernel

/-- The number in the comment of a line is its position, but for `readahead`, which repeats that
    of the line before. That one is why the results exclude it by name. -/
theorem annotation_eq {k : Nat} {l : Line} (h : powerpcLines[k]? = some l) :
    l.annotation = if k = 191 then 190 else k := by
  have hall : powerpcLines.map Line.annotation = (List.range 355).set 191 190 := by
    decide +kernel
  have hk := congrArg (fun ns : List Nat => ns[k]?) hall
  simp only [List.getElem?_map, h, Option.map_some, List.getElem?_set, List.length_range] at hk
  split at hk
  · rename_i heq
    rw [if_pos heq.symm]
    simpa using hk
  · rename_i hne
    rw [if_neg (Ne.symm hne)]
    obtain ⟨hlt, hval⟩ := List.getElem?_eq_some_iff.mp hk.symm
    simpa using hval.symm

/-- The table, line by line. -/
theorem syscallentPowerpc_eq : syscallentPowerpc =
    (powerpcLines.take 319).map (fun l => some l.literal) ++
      some "perf_event_openpreadv" :: (powerpcLines.drop 321).map (fun l => some l.literal) := by
  have hdrop : powerpcLines.drop 319 =
      ⟨"perf_event_open", 319, false⟩ :: ⟨"preadv", 320, true⟩ :: powerpcLines.drop 321 := by
    decide +kernel
  have hbefore : ∀ l ∈ powerpcLines.take 319, l.comma = true := by
    decide +kernel
  have hbehind : ∀ l ∈ powerpcLines.drop 321, l.comma = true := by
    decide +kernel
  have hend : rowsOf "" (powerpcLines.drop 321) =
      (powerpcLines.drop 321).map (fun l => some l.literal) := by
    have hrows := rowsOf_append hbehind []
    rwa [List.append_nil, rowsOf, if_pos rfl, List.append_nil] at hrows
  calc syscallentPowerpc
      = rowsOf "" (powerpcLines.take 319 ++ powerpcLines.drop 319) := by
        rw [List.take_append_drop, rowsOf_powerpcLines]
    _ = (powerpcLines.take 319).map (fun l => some l.literal) ++
          rowsOf "" (powerpcLines.drop 319) := rowsOf_append hbefore _
    _ = (powerpcLines.take 319).map (fun l => some l.literal) ++
          some ("perf_event_open" ++ "preadv") :: rowsOf "" (powerpcLines.drop 321) := by
        rw [hdrop, rowsOf_joined rfl rfl]
    _ = _ := by
        rw [hend]
        rfl

section

variable {k : Nat} {l : Line}

theorem length_take_lines : ((powerpcLines.take 319).map (fun l => some l.literal)).length = 319 :=
  rfl

/-- Up to the missing comma a line is a row. -/
theorem row_of_lt (h : powerpcLines[k]? = some l) (hk : k < 319) :
    syscallentPowerpc[k]? = some (some l.literal) := by
  rw [syscallentPowerpc_eq, List.getElem?_append_left (by rwa [length_take_lines]),
    List.getElem?_map, List.getElem?_take_of_lt hk, h, Option.map_some]

/-- Behind the joined row a line's name is one row early. -/
theorem row_of_gt (h : powerpcLines[k]? = some l) (hk : 320 < k) :
    syscallentPowerpc[k - 1]? = some (some l.literal) := by
  obtain ⟨j, rfl⟩ : ∃ j, k = 321 + j := ⟨k - 321, by omega⟩
  have hpast : 319 ≤ 321 + j - 1 := by omega
  have hindex : 321 + j - 1 - 319 = j + 1 := by omega
  rw [syscallentPowerpc_eq, List.getElem?_append_right (by rwa [length_take_lines]),
    length_take_lines, hindex, List.getElem?_cons_succ, List.getElem?_map, List.getElem?_drop, h,
    Option.map_some]

/-- A line's name stands in the row of the line's position exactly before the joined row. Behind
    it there is a name, but it is the next line's. -/
theorem row_eq_iff (h : powerpcLines[k]? = some l) :
    syscallentPowerpc[k]?.join = some l.literal ↔ k < 319 := by
  constructor
  · intro hrow
    rw [Option.join_eq_some_iff] at hrow
    refine Nat.lt_of_not_le fun hge => ?_
    rcases Nat.lt_or_ge 320 k with hgt | hle
    · have hsame := syscallentPowerpc_sound.distinct hrow (row_of_gt h hgt)
      omega
    · -- the two lines of the joined row
      obtain rfl | rfl : k = 319 ∨ k = 320 := by omega
      · obtain rfl : (⟨"perf_event_open", 319, false⟩ : Line) = l := Option.some.inj h
        exact absurd hrow (by decide +kernel)
      · obtain rfl : (⟨"preadv", 320, true⟩ : Line) = l := Option.some.inj h
        exact absurd hrow (by decide +kernel)
  · intro hk
    rw [row_of_lt h hk]
    rfl

end

/-! ## The two functions -/

/-- The number in a line's comment has the line's name, and the name has that number. The two
    halves fail together, as `standsAsAnnotated_iff_row` shows. -/
def StandsAsAnnotated (arch : Arch) (l : Line) : Prop :=
  pinkNameSyscall arch (BitVec.ofNat _ l.annotation) (pinkAbiDefault arch).index =
      some (some l.literal) ∧
    pinkLookupSyscall arch (some l.literal) (pinkAbiDefault arch).index =
      some (BitVec.ofNat _ l.annotation)

theorem sysentVec_powerpc (harch : arch.isPowerpc = true) :
    sysentVec (pinkAbiDefault arch) = syscallentPowerpc := by
  cases arch with
  | powerpc | powerpc64 => rfl
  | aarch64 | arm | i386 | x86_64 => exact absurd harch (by decide)

theorem not_arm_of_powerpc (harch : arch.isPowerpc = true) : ¬ (arch = .arm ∨ arch = .aarch64) := by
  rintro (rfl | rfl) <;> exact absurd harch (by decide)

/-- Both directions come down to one row. -/
theorem standsAsAnnotated_iff_row (harch : arch.isPowerpc = true) {l : Line}
    (hsmall : l.annotation < 2 ^ 31) :
    StandsAsAnnotated arch l ↔ syscallentPowerpc[l.annotation]?.join = some l.literal := by
  have hint : (BitVec.ofNat arch.longBits l.annotation).toInt = l.annotation :=
    toInt_ofNat_of_lt hsmall
  rw [StandsAsAnnotated, pinkLookupSyscall_eq_some (by omega), and_self_iff,
    pinkNameSyscall_row (not_arm_of_powerpc harch) hint, sysentVec_powerpc harch]

theorem standsAsAnnotated_iff_lt (harch : arch.isPowerpc = true) {l : Line}
    (hl : l ∈ powerpcLines) (hne : l.literal ≠ "readahead") :
    StandsAsAnnotated arch l ↔ l.annotation < 319 := by
  obtain ⟨k, hk⟩ := List.mem_iff_getElem?.mp hl
  obtain ⟨hlt, -⟩ := List.getElem?_eq_some_iff.mp hk
  have hother : k ≠ 191 := by
    rintro rfl
    obtain rfl : (⟨"readahead", 190, true⟩ : Line) = l := Option.some.inj hk
    exact hne rfl
  have hann := annotation_eq hk
  rw [if_neg hother] at hann
  have hlength : powerpcLines.length = 355 := rfl
  rw [standsAsAnnotated_iff_row harch (by omega), hann]
  exact row_eq_iff hk

/-- A number that is smaller, or greater, than every number in a comment. The row that is lost at
    the end is inside: it has a comment and no name. -/
def OutsideAnnotations (n : Int) : Prop :=
  (∀ l ∈ powerpcLines, n < l.annotation) ∨ ∀ l ∈ powerpcLines, (l.annotation : Int) < n

theorem pinkNameSyscall_outside (harch : arch.isPowerpc = true) {n : Addr arch}
    (hn : OutsideAnnotations n.toInt) :
    pinkNameSyscall arch n (pinkAbiDefault arch).index = some none := by
  have hfirst : (⟨"restart_syscall", 0, true⟩ : Line) ∈ powerpcLines := by
    decide +kernel
  have hlast : (⟨"finit_module", 354, true⟩ : Line) ∈ powerpcLines := by
    decide +kernel
  have hrange : n.toInt < 0 ∨ 354 < n.toInt := by
    rcases hn with hn | hn
    · exact Or.inl (hn _ hfirst)
    · exact Or.inr (hn _ hlast)
  obtain ⟨name, hname⟩ := Option.isSome_iff_exists.mp
    ((syscall_inverse arch (pinkAbiDefault arch).index).name_in_range n)
  cases name with
  | none => exact hname
  | some s =>
    obtain ⟨k, hk, hrow⟩ := (pinkNameSyscall_eq_some (not_arm_of_powerpc harch)).mp hname
    rw [sysentVec_powerpc harch, Option.join_eq_some_iff] at hrow
    obtain ⟨hlt, -⟩ := List.getElem?_eq_some_iff.mp hrow
    have hlength : syscallentPowerpc.length = 354 := rfl
    omega

/-- **The PowerPC table is positioned as annotated up to the missing comma**, and names nothing
    outside of the annotated range. Line 319 itself is among those that do not stand where they
    should: its name is part of a longer one. The number of `readahead` is a misprint, and it is
    left out. -/
theorem standsAsAnnotated_iff (harch : arch.isPowerpc = true) :
    (∀ l ∈ powerpcLines, l.literal ≠ "readahead" →
      (StandsAsAnnotated arch l ↔ l.annotation < 319)) ∧
    ∀ n : Addr arch, OutsideAnnotations n.toInt →
      pinkNameSyscall arch n (pinkAbiDefault arch).index = some none :=
  ⟨fun _ hl hne => standsAsAnnotated_iff_lt harch hl hne,
    fun _ hn => pinkNameSyscall_outside harch hn⟩

/-- `socket` is annotated 326; that number names `bind`, and the name has the number 325. -/
theorem socket_one_row_early :
    (⟨"socket", 326, true⟩ : Line) ∈ powerpcLines ∧
    pinkNameSyscall .powerpc64 326 (pinkAbiDefault .powerpc64).index = some (some "bind") ∧
    pinkLookupSyscall .powerpc64 (some "socket") (pinkAbiDefault .powerpc64).index = some 325 ∧
    ¬ StandsAsAnnotated .powerpc64 ⟨"socket", 326, true⟩ := by
  have hname : pinkNameSyscall .powerpc64 326 (pinkAbiDefault .powerpc64).index =
      some (some "bind") := by
    decide +kernel
  refine ⟨by decide +kernel, hname, ?_, ?_⟩
  · exact (pinkLookupSyscall_eq_some (by decide)).mpr (by decide +kernel)
  · rintro ⟨hsocket, -⟩
    have hsame := hname.symm.trans hsocket
    exact absurd hsame (by decide +kernel)

theorem socketcall_stands_as_annotated :
    (⟨"socketcall", 102, true⟩ : Line) ∈ powerpcLines ∧
    StandsAsAnnotated .powerpc64 ⟨"socketcall", 102, true⟩ := by
  have hline : (⟨"socketcall", 102, true⟩ : Line) ∈ powerpcLines := by
    decide +kernel
  exact ⟨hline, ((standsAsAnnotated_iff rfl).1 _ hline (by decide +kernel)).mpr (by decide)⟩

end PinkTrace
