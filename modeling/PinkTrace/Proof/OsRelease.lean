import Mathlib.Data.List.Infix
import PinkTrace.OsRelease

/-!
# What the version number says

Every release that begins as the comment in the driver has it, `X.Y` or `X.Y.Z` with whatever
behind, is read. The third component is put in place by an *or*, without a look at its size, so
the number is the one `KERNEL_VERSION` would give as long as the component fits its byte. From 256
on, and stable kernels do get there, it runs over into the second, and the number no longer orders
releases; it never runs over into the first.

## Texts and releases

A `Release` is what the text stands for, with the bounds under which the driver reads it as one.
Its fields are the assumptions, so the theorems have none: `Release.text` writes the components
out in decimal, and the loop is run on that. The run is three passes at most, one per component,
and is done by the lemmas about a pass rather than by induction.

The last section is about texts that need not come from a release. There the number means nothing
in particular, and what can be said is that the driver comes to an end, and that what it goes on
with is at least version 1.
-/

set_option autoImplicit false

namespace PinkTrace

open Lib

/-! ## Numbers in a text -/

/-- A number that was written out is read back, if the text behind it does not go on with a digit.
    -/
theorem atoi_digits {n : Nat} (hn : n < 2 ^ 31) {rest : List Char}
    (hrest : ¬ rest.head?.any Char.isDigit = true) :
    atoi (Nat.toDigits 10 n ++ rest) = some (BitVec.ofNat 32 n) := by
  have hdigits : ∀ c ∈ Nat.toDigits 10 n, c.isDigit = true := fun c hc =>
    Nat.isDigit_of_mem_toDigits (by decide) (by decide) hc
  have htail : rest.takeWhile Char.isDigit = [] := by
    cases rest with
    | nil => rfl
    | cons c rest => exact List.takeWhile_cons_of_neg hrest
  rw [atoi, List.takeWhile_append_of_pos hdigits, htail, List.append_nil,
    Nat.ofDigitChars_ten_toDigits, if_pos hn]

/-- …and that text is what is left. -/
theorem dropWhile_digits (n : Nat) {rest : List Char}
    (hrest : ¬ rest.head?.any Char.isDigit = true) :
    (Nat.toDigits 10 n ++ rest).dropWhile Char.isDigit = rest := by
  have hdigits : ∀ c ∈ Nat.toDigits 10 n, c.isDigit = true := fun c hc =>
    Nat.isDigit_of_mem_toDigits (by decide) (by decide) hc
  rw [List.dropWhile_append_of_pos hdigits]
  cases rest with
  | nil => rfl
  | cons c rest => exact List.dropWhile_cons_of_neg hrest

theorem head_digits (n : Nat) (rest : List Char) :
    (Nat.toDigits 10 n ++ rest).head?.any Char.isDigit = true := by
  obtain ⟨c, cs, hcs⟩ := List.exists_cons_of_ne_nil (Nat.toDigits_ne_nil (n := n) (b := 10))
  rw [hcs]
  exact Nat.isDigit_of_mem_toDigits (by decide) (by decide) (hcs ▸ List.mem_cons_self)

/-- A component behind the ones before it. An OR and no sum: a component of nine bits or more does
    not carry, it mixes. -/
def shiftIn (rel : BitVec 32) (n : Nat) : BitVec 32 := rel <<< 8 ||| BitVec.ofNat 32 n

section

variable {n : Nat} {rel : BitVec 32} (release : List Char)

theorem osReleaseBody_full (hn : n < 2 ^ 31) {rest : List Char}
    (hrest : ¬ rest.head?.any Char.isDigit = true)
    (hrel : kernelVersion 1 0 0 ≤ (shiftIn rel n).toNat) :
    osReleaseBody release ⟨rel, Nat.toDigits 10 n ++ rest⟩ =
      .done (.ok (shiftIn rel n)) := by
  rw [osReleaseBody, if_pos (head_digits n rest), atoi_digits hn hrest]
  exact if_pos hrel

theorem osReleaseBody_dot (hn : n < 2 ^ 31) (p : List Char)
    (hrel : ¬ kernelVersion 1 0 0 ≤ (shiftIn rel n).toNat) :
    osReleaseBody release ⟨rel, Nat.toDigits 10 n ++ '.' :: p⟩ =
      .again ⟨shiftIn rel n, p⟩ := by
  have hdot : ¬ ('.' :: p).head?.any Char.isDigit = true := Bool.false_ne_true
  rw [osReleaseBody, if_pos (head_digits n _), atoi_digits hn hdot]
  refine (if_neg hrel).trans ?_
  rw [dropWhile_digits n hdot]
  rfl

theorem osReleaseBody_short (hn : n < 2 ^ 31) {rest : List Char}
    (hrest : ¬ rest.head?.any Char.isDigit = true) (hdot : rest.head? ≠ some '.')
    (hrel : ¬ kernelVersion 1 0 0 ≤ (shiftIn rel n).toNat)
    (htwo : kernelVersion 0 1 0 ≤ (shiftIn rel n).toNat) :
    osReleaseBody release ⟨rel, Nat.toDigits 10 n ++ rest⟩ =
      .done (.ok ((shiftIn rel n) <<< 8)) := by
  rw [osReleaseBody, if_pos (head_digits n _), atoi_digits hn hrest]
  refine (if_neg hrel).trans ?_
  rw [dropWhile_digits n hrest]
  split
  · exact absurd rfl hdot
  · exact if_pos htwo

end

/-! ## Releases -/

/-- A release: `X.Y` or `X.Y.Z`, and the text behind it. -/
structure Release where
  major : Nat
  minor : Nat
  patch : Option Nat
  rest : List Char
  major_pos : 0 < major
  major_lt : major < 256
  minor_lt : minor < 256
  patch_lt : ∀ c, patch = some c → c < 65536
  /-- The text behind does not go on with a number… -/
  rest_digit : ¬ rest.head?.any Char.isDigit = true
  /-- …and is not another component. -/
  rest_dot : patch = none → rest.head? ≠ some '.'

namespace Release

def tail (r : Release) : List Char :=
  match r.patch with
  | none => r.rest
  | some c => '.' :: (Nat.toDigits 10 c ++ r.rest)

def text (r : Release) : List Char :=
  Nat.toDigits 10 r.major ++ '.' :: (Nat.toDigits 10 r.minor ++ r.tail)

/-- The third component; `X.Y` means `X.Y.0`. -/
def level (r : Release) : Nat := r.patch.getD 0

/-- The order in which kernels come out: by the first component in which two releases differ. -/
def Before (r r' : Release) : Prop :=
  r.major < r'.major ∨ r.major = r'.major ∧
    (r.minor < r'.minor ∨ r.minor = r'.minor ∧ r.level < r'.level)

theorem level_lt (r : Release) : r.level < 65536 := by
  unfold level
  cases hp : r.patch with
  | none => decide
  | some c => exact r.patch_lt c hp

/-- The second component as the driver sees it: with the upper bits of the third mixed into it. -/
def minorSeen (r : Release) : Nat := r.minor ||| r.level / 256

theorem minorSeen_lt (r : Release) : r.minorSeen < 256 :=
  Nat.or_lt_two_pow (n := 8) r.minor_lt (by have := r.level_lt; omega)

theorem minorSeen_eq {r : Release} (h : r.level < 256) : r.minorSeen = r.minor := by
  rw [minorSeen, Nat.div_eq_of_lt h, Nat.or_zero]

/-- The number for it. `kernelVersion` of what the driver sees, so the theorems can go on to
    compare numbers of that form. -/
def code (r : Release) : Nat := kernelVersion r.major r.minorSeen (r.level % 256)

end Release

theorem shiftEight_toNat {rel : BitVec 32} (h : rel.toNat < 2 ^ 16) :
    (rel <<< 8).toNat = rel.toNat * 256 := by
  rw [BitVec.toNat_shiftLeft, Nat.shiftLeft_eq]
  omega

theorem shiftIn_toNat {rel : BitVec 32} {n : Nat} (hrel : rel.toNat < 2 ^ 16) (hn : n < 2 ^ 16) :
    (shiftIn rel n).toNat = (rel.toNat ||| n / 256) * 256 + n % 256 := by
  have hshift : rel.toNat <<< 8 % 2 ^ 32 = rel.toNat <<< 8 := by
    rw [Nat.shiftLeft_eq]
    omega
  have hsplit : n = (n / 256) <<< 8 ||| n % 256 := by
    rw [← Nat.shiftLeft_add_eq_or_of_lt (i := 8) (by omega), Nat.shiftLeft_eq]
    omega
  calc (shiftIn rel n).toNat
      = rel.toNat <<< 8 ||| n := by
        rw [shiftIn, BitVec.toNat_or, BitVec.toNat_shiftLeft, BitVec.toNat_ofNat, hshift,
          Nat.mod_eq_of_lt (by omega : n < 2 ^ 32)]
    _ = (rel.toNat ||| n / 256) <<< 8 ||| n % 256 := by
        rw [Nat.shiftLeft_or_distrib, Nat.or_assoc, ← hsplit]
    _ = (rel.toNat ||| n / 256) * 256 + n % 256 := by
        rw [← Nat.shiftLeft_add_eq_or_of_lt (i := 8) (by omega), Nat.shiftLeft_eq]

theorem shiftIn_byte {rel : BitVec 32} {n : Nat} (hrel : rel.toNat < 2 ^ 16) (hn : n < 256) :
    (shiftIn rel n).toNat = rel.toNat * 256 + n := by
  rw [shiftIn_toNat hrel (by omega), Nat.div_eq_of_lt hn, Nat.or_zero, Nat.mod_eq_of_lt hn]

/-- The third pass: the number of a release, from that of its first two components. -/
theorem Release.code_eq (r : Release) :
    (r.major * 256 + r.minor ||| r.level / 256) * 256 + r.level % 256 = r.code := by
  have hlevel := r.level_lt
  have hor : r.major * 256 + r.minor ||| r.level / 256 = r.major * 256 + r.minorSeen := by
    have hminor := Nat.shiftLeft_add_eq_or_of_lt (i := 8) r.minor_lt r.major
    have hseen := Nat.shiftLeft_add_eq_or_of_lt (i := 8) r.minorSeen_lt r.major
    rw [Nat.shiftLeft_eq] at hminor hseen
    rw [hminor, Nat.or_assoc]
    exact hseen.symm
  rw [hor, code, kernelVersion, Nat.shiftLeft_eq, Nat.shiftLeft_eq]
  omega

/-- Every release is read, in three passes at most. A release without a third component ends in
    the second, with a shift in its place. -/
theorem getOsRelease_text (r : Release) {fuel : Nat} (hf : 3 ≤ fuel) :
    ∃ rel, getOsRelease fuel (.ok r.text) = some (.ok rel) ∧ rel.toNat = r.code := by
  obtain ⟨fuel, rfl⟩ : ∃ n, fuel = n + 3 := ⟨fuel - 3, by omega⟩
  have hmajor := r.major_lt
  have hminor := r.minor_lt
  have hpos := r.major_pos
  have hcode := r.code_eq
  have hfull : kernelVersion 1 0 0 = 65536 := rfl
  have htwo : kernelVersion 0 1 0 = 256 := rfl
  have h₁ : (shiftIn 0 r.major).toNat = r.major := by
    rw [shiftIn_byte (by decide) hmajor]
    exact Nat.zero_add _
  have h₂ : (shiftIn (shiftIn 0 r.major) r.minor).toNat = r.major * 256 + r.minor := by
    rw [shiftIn_byte (by omega) hminor, h₁]
  -- one component alone is less than version 1, so the first pass goes on at the dot
  have hfirst : osReleaseBody r.text ⟨0, r.text⟩ =
      .again ⟨shiftIn 0 r.major, Nat.toDigits 10 r.minor ++ r.tail⟩ :=
    osReleaseBody_dot _ (by omega) _ (by omega)
  rw [getOsRelease, run_again hfirst]
  unfold Release.tail
  cases hp : r.patch with
  | none =>
    have hlevel : r.level = 0 := by
      rw [Release.level, hp, Option.getD_none]
    have hsecond := osReleaseBody_short r.text (by omega) r.rest_digit (r.rest_dot hp)
      (by omega : ¬ kernelVersion 1 0 0 ≤ (shiftIn (shiftIn 0 r.major) r.minor).toNat) (by omega)
    refine ⟨_, run_done hsecond _, ?_⟩
    rw [hlevel, Nat.zero_div, Nat.or_zero, Nat.zero_mod, Nat.add_zero] at hcode
    rw [shiftEight_toNat (by omega), h₂, hcode]
  | some c =>
    have hc := r.patch_lt c hp
    have hlevel : r.level = c := by
      rw [Release.level, hp, Option.getD_some]
    have h₃ : (shiftIn (shiftIn (shiftIn 0 r.major) r.minor) c).toNat = r.code := by
      rw [shiftIn_toNat (by omega) hc, h₂, ← hlevel, hcode]
    have hlarge : kernelVersion 1 0 0 ≤ r.code := by
      rw [hfull, Release.code, kernelVersion, Nat.shiftLeft_eq]
      omega
    have hsecond := osReleaseBody_dot r.text (by omega) (Nat.toDigits 10 c ++ r.rest)
      (by omega : ¬ kernelVersion 1 0 0 ≤ (shiftIn (shiftIn 0 r.major) r.minor).toNat)
    have hthird := osReleaseBody_full r.text (by omega) r.rest_digit (h₃ ▸ hlarge)
    exact ⟨_, (run_again hsecond _).trans (run_done hthird _), h₃⟩

/-- The number orders releases as long as their third components fit. -/
theorem Release.code_lt_iff {r r' : Release} (h : r.level < 256) (h' : r'.level < 256) :
    r.code < r'.code ↔ r.Before r' := by
  have hminor := r.minor_lt
  have hminor' := r'.minor_lt
  simp only [code, minorSeen_eq h, minorSeen_eq h', kernelVersion, Nat.shiftLeft_eq,
    Nat.mod_eq_of_lt h, Nat.mod_eq_of_lt h', Before]
  omega

/-- It can be compared with the first of a series in any case, whatever the third component is.
    The one comparison in the tests is of that kind. -/
theorem Release.code_lt_series (r : Release) (x : Nat) :
    r.code < kernelVersion x 0 0 ↔ r.major < x := by
  have hseen := r.minorSeen_lt
  simp only [code, kernelVersion, Nat.shiftLeft_eq]
  omega

/-- **The driver's number is good for what it is compared with.** Every release is read. The
    number is on the right side of `KERNEL_VERSION(x,0,0)` for every `x`; and it orders releases
    as they came out, if their third components are below 256. -/
theorem os_release_order (r r' : Release) {fuel : Nat} (hf : 3 ≤ fuel) :
    ∃ rel rel', getOsRelease fuel (.ok r.text) = some (.ok rel) ∧
      getOsRelease fuel (.ok r'.text) = some (.ok rel') ∧
      (∀ x, rel.toNat < kernelVersion x 0 0 ↔ r.major < x) ∧
      (r.level < 256 → r'.level < 256 → (rel.toNat < rel'.toNat ↔ r.Before r')) := by
  obtain ⟨rel, hrel, hcode⟩ := getOsRelease_text r hf
  obtain ⟨rel', hrel', hcode'⟩ := getOsRelease_text r' hf
  refine ⟨rel, rel', hrel, hrel', fun x => ?_, fun h h' => ?_⟩
  · rw [hcode]
    exact r.code_lt_series x
  · rw [hcode, hcode']
    exact Release.code_lt_iff h h'

theorem os_release_order_stable : ∃ rel rel',
    getOsRelease 3 (.ok "3.2.9-some-garbage".toList) = some (.ok rel) ∧
    getOsRelease 3 (.ok "4.19-rc1".toList) = some (.ok rel') ∧ rel.toNat < rel'.toNat := by
  let r : Release := ⟨3, 2, some 9, "-some-garbage".toList, by decide, by decide, by decide,
    by decide, by decide, by decide⟩
  let r' : Release := ⟨4, 19, none, "-rc1".toList, by decide, by decide, by decide, by decide,
    by decide, by decide⟩
  have htext : r.text = "3.2.9-some-garbage".toList := by decide +kernel
  have htext' : r'.text = "4.19-rc1".toList := by decide +kernel
  obtain ⟨rel, rel', hrel, hrel', -, horder⟩ := os_release_order r r' (Nat.le_refl 3)
  rw [htext] at hrel
  rw [htext'] at hrel'
  exact ⟨rel, rel', hrel, hrel', (horder (by decide) (by decide)).mpr (Or.inl (by decide))⟩

/-- The release that the driver takes it for. It is a release itself, with a third component that
    fits. -/
def Release.seen (r : Release) : Release :=
  { r with
    minor := r.minorSeen
    patch := some (r.level % 256)
    minor_lt := r.minorSeen_lt
    patch_lt := by
      rintro c ⟨⟩
      omega
    rest_dot := nofun }

theorem Release.seen_level (r : Release) : r.seen.level = r.level % 256 := rfl

theorem Release.seen_code (r : Release) : r.seen.code = r.code := by
  have hlt : r.seen.level < 256 := Nat.mod_lt _ (by decide)
  rw [code, code, minorSeen_eq hlt, seen_level, Nat.mod_mod]
  rfl

/-- **A third component from 256 on is mistaken.** The release is read as an earlier one of its
    series, or as one of a series that is later. Which of the two depends on whether the bits
    above the lowest eight are in the second component already, as they are put there by a bitwise
    or. -/
theorem os_release_mistaken (r : Release) (h : 256 ≤ r.level) {fuel : Nat} (hf : 3 ≤ fuel) :
    getOsRelease fuel (.ok r.text) = getOsRelease fuel (.ok r.seen.text) ∧
      (if r.minorSeen = r.minor then r.seen.Before r else r.Before r.seen) := by
  obtain ⟨rel, hrel, hcode⟩ := getOsRelease_text r hf
  obtain ⟨rel', hrel', hcode'⟩ := getOsRelease_text r.seen hf
  constructor
  · have heq : rel = rel' := BitVec.eq_of_toNat_eq (by rw [hcode, hcode', r.seen_code])
    rw [hrel, hrel', heq]
  · split
    case isTrue hsame =>
      refine Or.inr ⟨rfl, Or.inr ⟨hsame, ?_⟩⟩
      rw [r.seen_level]
      omega
    case isFalse hother =>
      have hle : r.minor ≤ r.minorSeen := Nat.left_le_or
      exact Or.inr ⟨rfl, Or.inl (Nat.lt_of_le_of_ne hle (Ne.symm hother))⟩

theorem os_release_mistaken_stable :
    getOsRelease 3 (.ok "4.9.256".toList) = getOsRelease 3 (.ok "4.9.0".toList) := by
  let r : Release := ⟨4, 9, some 256, [], by decide, by decide, by decide, by decide, by decide,
    by decide⟩
  have htext : r.text = "4.9.256".toList := by decide +kernel
  have hseen : r.seen.text = "4.9.0".toList := by decide +kernel
  have hsame := (os_release_mistaken r (by decide) (Nat.le_refl 3)).1
  rwa [htext, hseen] at hsame

example : getOsRelease 3 (.ok "4.4.256".toList) = getOsRelease 3 (.ok "4.5.0".toList) := by
  decide +kernel

/-! ## Any text -/

/-- **Any text is read or refused.** If the numbers in it are of type `int`, the driver comes to
    an end with it, and what it goes on with is at least version 1. For a larger number `atoi` is
    undefined, and that is all that is assumed of the text. -/
theorem os_release_returns {release : List Char}
    (hfit : ∀ p, p <:+ release → (atoi p).isSome = true) {fuel : Nat}
    (hf : release.length < fuel) :
    ∃ res, getOsRelease fuel (.ok release) = some res ∧
      (res = .error (.bad release) ∨ ∃ rel, res = .ok rel ∧ kernelVersion 1 0 0 ≤ rel.toNat) := by
  -- the text that is left gets shorter: a pass that goes on has read a dot
  have hstep : ∀ v : OsReleaseVars, v.p <:+ release →
      Advances (fun v => v.p <:+ release) (fun v => v.p.length)
        (fun res => res = .error (.bad release) ∨
          ∃ rel, res = .ok rel ∧ kernelVersion 1 0 0 ≤ rel.toNat) v (osReleaseBody release v) := by
    intro v hv
    unfold osReleaseBody
    split
    case isFalse => exact Or.inl rfl
    obtain ⟨n, hn⟩ := Option.isSome_iff_exists.mp (hfit v.p hv)
    rw [hn]
    dsimp only
    split
    case isTrue hlarge => exact Or.inr ⟨_, rfl, hlarge⟩
    case isFalse hsmall =>
      have hdrop : v.p.dropWhile Char.isDigit <:+ v.p := List.dropWhile_suffix _
      split
      case h_1 p hp =>
        rw [hp] at hdrop
        exact ⟨((List.suffix_cons _ _).trans hdrop).trans hv, hdrop.length_le⟩
      case h_2 =>
        split
        case isTrue htwo =>
          refine Or.inr ⟨_, rfl, ?_⟩
          have hone : kernelVersion 1 0 0 = 65536 := rfl
          have hsecond : kernelVersion 0 1 0 = 256 := rfl
          rw [shiftEight_toNat (by omega)]
          omega
        case isFalse => exact Or.inl rfl
  exact run_of_invariant hstep List.suffix_rfl hf

theorem os_release_returns_next : ∃ res,
    getOsRelease 10 (.ok "next-2013".toList) = some res ∧
      (res = .error (.bad "next-2013".toList) ∨
        ∃ rel, res = .ok rel ∧ kernelVersion 1 0 0 ≤ rel.toNat) := by
  have hfit : ∀ p, p <:+ "next-2013".toList → (atoi p).isSome = true := by
    intro p hp
    rw [← List.mem_tails] at hp
    revert p
    decide +kernel
  exact os_release_returns hfit (by decide)

end PinkTrace
