import Mathlib.Data.List.TakeWhile
import Scenario.Matcher.Verdict
import Scenario.Pattern.Search
import Scenario.Proofs.Scope.Pieces
import Scenario.Proofs.Text.Nearest

/-!
# Membership of integers — compared as nearest numbers

Membership checks compare texts as numbers, and numbers are read in the
format binary64. So two texts that denote integers (`Denotes`) are the same
value exactly if the nearest integers of the format are alike:
`membership_of_integers`. Texts of one integer always pass, in whatever way
they spell it, and an integer of at most 53 bits is told from every other;
wider ones need not be (`membership_of_wide_integers`).
-/

namespace Scenario
namespace Matcher

open Text Text.Binary64

/-! ## Texts of integers -/

/-- An integer as it is written: a sign or none, and decimal digits. -/
inductive Numeral : List Char → Int → Prop
  | bare {digits : List Char} (some_digit : digits ≠ []) (all_digits : digits.all Char.isDigit) :
      Numeral digits (Nat.ofDigitChars 10 digits 0)
  | plus {digits : List Char} (some_digit : digits ≠ []) (all_digits : digits.all Char.isDigit) :
      Numeral ('+' :: digits) (Nat.ofDigitChars 10 digits 0)
  | minus {digits : List Char} (some_digit : digits ≠ []) (all_digits : digits.all Char.isDigit) :
      Numeral ('-' :: digits) (-Nat.ofDigitChars 10 digits 0)

/-- A text denotes an integer if it is one as written, with blanks around
it. -/
def Denotes (text : String) (n : Int) : Prop :=
  ∃ before core after, text.toList = before ++ core ++ after ∧ Blanks before ∧ Blanks after ∧
    Numeral core n

section Digits

variable {digits : List Char}

/-- Lower case leaves a digit as it is. -/
theorem toLower_of_isDigit {c : Char} (h : c.isDigit = true) : c.toLower = c := by
  simp only [Char.isDigit, Bool.and_eq_true, decide_eq_true_eq, UInt32.le_iff_toNat_le] at h
  refine dif_neg ?_
  rintro ⟨hupper, -⟩
  exact absurd (UInt32.le_iff_toNat_le.mp hupper |>.trans h.2) (by decide)

/-- Digits spell no word. -/
theorem map_toLower_ne_cons (hall : digits.all Char.isDigit = true) {c : Char}
    (hc : c.isDigit = false) (word : List Char) : digits.map Char.toLower ≠ c :: word := by
  intro heq
  cases digits with
  | nil => cases heq
  | cons d rest =>
    rw [List.all_cons, Bool.and_eq_true] at hall
    rw [List.map_cons, toLower_of_isDigit hall.1] at heq
    cases heq
    rw [hc] at hall
    exact Bool.false_ne_true hall.1

/-- Digits have no sign before them. -/
theorem readSign_digits (hall : digits.all Char.isDigit = true) :
    readSign digits = (false, digits) := by
  unfold readSign
  split
  · next rest => simp at hall
  · next rest => simp at hall
  · rfl

/-- The decimal of nothing but digits is their number. -/
theorem readDecimal_digits (hsome : digits ≠ []) (hall : digits.all Char.isDigit = true) :
    readDecimal digits = some (Nat.ofDigitChars 10 digits 0, 0) := by
  have htake : digits.takeWhile Char.isDigit = digits :=
    List.takeWhile_eq_self_iff.mpr (List.all_eq_true.mp hall)
  have hdrop : digits.dropWhile Char.isDigit = [] :=
    List.dropWhile_eq_nil_iff.mpr (List.all_eq_true.mp hall)
  simp [readDecimal, htake, hdrop, hsome, readExponent]

end Digits

/-- **A numeral is read** as a sign and the number of its digits. -/
theorem Numeral.ofText? {core : List Char} {n : Int} (h : Numeral core n) :
    ∃ s magnitude, n = signed s magnitude ∧
      Binary64.ofText? core = some (ofDecimal s magnitude 0) := by
  have hread : ∀ s digits, digits ≠ [] → digits.all Char.isDigit = true →
      readSign core = (s, digits) →
      Binary64.ofText? core = some (ofDecimal s (Nat.ofDigitChars 10 digits 0) 0) := by
    intro s digits hsome hall hsign
    have hword := @map_toLower_ne_cons digits hall
    simp [Binary64.ofText?, hsign, hword, readDecimal_digits hsome hall]
  cases h with
  | bare hsome hall =>
    exact ⟨false, _, rfl, hread false core hsome hall (readSign_digits hall)⟩
  | plus hsome hall => exact ⟨false, _, rfl, hread false _ hsome hall rfl⟩
  | minus hsome hall => exact ⟨true, _, rfl, hread true _ hsome hall rfl⟩

/-- The characters of a numeral are signs and digits. -/
theorem Numeral.mem {core : List Char} {n : Int} (h : Numeral core n) {c : Char} (hc : c ∈ core) :
    c = '+' ∨ c = '-' ∨ c.isDigit = true := by
  cases h with
  | bare _ hall => exact .inr (.inr (List.all_eq_true.mp hall c hc))
  | plus _ hall =>
    rcases List.mem_cons.mp hc with heq | hmem
    · exact .inl heq
    · exact .inr (.inr (List.all_eq_true.mp hall c hmem))
  | minus _ hall =>
    rcases List.mem_cons.mp hc with heq | hmem
    · exact .inr (.inl heq)
    · exact .inr (.inr (List.all_eq_true.mp hall c hmem))

/-- A digit is not blank. -/
theorem isBlank_of_isDigit {c : Char} (h : c.isDigit = true) : isBlank c = false := by
  simp only [Char.isDigit, Bool.and_eq_true, decide_eq_true_eq, UInt32.le_iff_toNat_le,
    Char.toNat_val] at h
  have hbounds : '0'.toNat = 48 ∧ '9'.toNat = 57 := by decide
  simp [isBlank]
  omega

/-- A numeral has no blanks, so no blank ends. -/
theorem Numeral.trimmed_eq {core : List Char} {n : Int} (h : Numeral core n) :
    trimmed core = core := by
  have hnone : ∀ c ∈ core, ¬ isBlank c = true := by
    intro c hc
    rcases h.mem hc with rfl | rfl | hdigit
    · decide
    · decide
    · simp [isBlank_of_isDigit hdigit]
  have hskip : ∀ cs : List Char, (∀ c ∈ cs, ¬ isBlank c = true) → cs.dropWhile isBlank = cs := by
    intro cs h
    cases cs with
    | nil => rfl
    | cons c cs => exact List.dropWhile_cons_of_neg (h c List.mem_cons_self)
  rw [trimmed, skipBlank, hskip core hnone, dropBlankEnd, hskip core.reverse, List.reverse_reverse]
  exact fun c hc => hnone c (List.mem_reverse.mp hc)

/-- **The text of an integer is read as its nearest integer.** -/
theorem Denotes.read {text : String} {n : Int} (h : Denotes text n) :
    ∃ s magnitude x, n = signed s magnitude ∧
      Binary64.ofText? (trimmed text.toList) = some x ∧ Spells s (rounded magnitude) x := by
  obtain ⟨before, core, after, htext, hbefore, hafter, hcore⟩ := h
  obtain ⟨s, magnitude, hn, hread⟩ := hcore.ofText?
  refine ⟨s, magnitude, _, hn, ?_, spells_ofDecimal s magnitude⟩
  have htrim : trimmed text.toList = core := by
    rw [htext, List.append_assoc, trimmed, hbefore.skipBlank_append, ← trimmed,
      trimmed_append_blanks hcore.trimmed_eq hafter]
  rw [htrim, hread]

/-- There is nothing to fill in in it. -/
theorem Denotes.fill {text : String} {n : Int} (h : Denotes text n) (scope : Scope) :
    scope.fill text = text := by
  obtain ⟨before, core, after, htext, hbefore, hafter, hcore⟩ := h
  refine scope.fill_of_no_marker fun hmarker => ?_
  have hmem : '$' ∈ before ++ core ++ after := htext ▸ hmarker.mem List.mem_cons_self
  simp only [List.mem_append] at hmem
  rcases hmem with (hfront | hmid) | hback
  · exact absurd (hbefore _ hfront) (by decide)
  · rcases hcore.mem hmid with heq | heq | hdigit
    · cases heq
    · cases heq
    · cases hdigit
  · exact absurd (hafter _ hback) (by decide)

/-! ## The verdict -/

/-- Two texts of integers are the same value if their nearest integers are
alike. -/
theorem sameValue_iff {a b : String} {m n : Int} (ha : Denotes a m) (hb : Denotes b n) :
    sameValue a.toList b.toList = true ↔ ∃ r s, Nearest m r ∧ Nearest n s ∧ Alike r s := by
  obtain ⟨s, magnitude, x, rfl, hx, hspells⟩ := ha.read
  obtain ⟨t, magnitude', y, rfl, hy, hspells'⟩ := hb.read
  have hself : x.same x = true := (hspells.same_iff hspells).mpr (.inl rfl)
  have hnumbers : sameValue a.toList b.toList = true ↔ x.same y = true := by
    rw [sameValue, hx, hy, Bool.or_eq_true, beq_iff_eq]
    -- equal texts are the same number: neither of them is `nan`
    refine or_iff_right_of_imp fun htexts => ?_
    rw [← htexts, hx] at hy
    cases hy
    exact hself
  rw [hnumbers, hspells.same_iff hspells']
  simp only [nearest_signed_iff, exists_eq_left, exists_and_left]

/-- **Integers are members if their nearest numbers are.** In every scope, a
check for membership with the text of one integer passes on the text of
another exactly if the nearest integers of the format are alike. So it passes
on every text of the same integer, and if one of the two has at most 53 bits,
on no other. -/
theorem membership_of_integers [PatternLibrary] (scope : Scope) {kind : Check} {a b : String}
    {m n : Int} (hkind : kind = .isOneOf ∨ kind = .isIn) (ha : Denotes a m) (hb : Denotes b n) :
    ((Predicate.check kind [a]).holds scope (some b) = true ↔
      ∃ r s, Nearest m r ∧ Nearest n s ∧ Alike r s) ∧
    (m = n → (Predicate.check kind [a]).holds scope (some b) = true) ∧
    (m.natAbs < 2 ^ mantissaBits ∨ n.natAbs < 2 ^ mantissaBits →
      ((Predicate.check kind [a]).holds scope (some b) = true ↔ m = n)) := by
  have hholds : (Predicate.check kind [a]).holds scope (some b) = true ↔
      ∃ r s, Nearest m r ∧ Nearest n s ∧ Alike r s := by
    have hsame : (Predicate.check kind [a]).holds scope (some b) =
        sameValue b.toList a.toList := by
      rw [Predicate.holds, List.map_singleton, ha.fill]
      rcases hkind with rfl | rfl <;> simp [Check.passes]
    rw [hsame, sameValue_iff hb ha, exists_comm]
    refine exists_congr fun r => exists_congr fun s => ?_
    rw [alike_comm (r := s)]
    tauto
  have hequal : m = n → ∃ r s, Nearest m r ∧ Nearest n s ∧ Alike r s := by
    rintro rfl
    obtain ⟨r, hr⟩ := exists_nearest m
    exact ⟨r, r, hr, hr, .inl rfl⟩
  refine ⟨hholds, fun heq => hholds.mpr (hequal heq), fun hbits => ?_⟩
  refine ⟨fun h => ?_, fun heq => hholds.mpr (hequal heq)⟩
  obtain ⟨r, s, hr, hs, halike⟩ := hholds.mp h
  rcases hbits with hm | hn
  · exact eq_of_alike hr hs hm halike
  · exact (eq_of_alike hs hr hn (alike_comm.mp halike)).symm

/-- One integer in two spellings, and another. -/
theorem membership_of_integers_spellings :
    Denotes "7" 7 ∧ Denotes " +007" 7 ∧ Denotes "-7 " (-7) ∧
      (Predicate.check .isOneOf ["7"]).holds .empty (some " +007") = true ∧
      ¬ (Predicate.check .isIn ["7"]).holds .empty (some "-7 ") = true := by
  have hplain : Denotes "7" 7 :=
    ⟨[], ['7'], [], rfl, .nil, .nil, .bare (by decide) (by decide)⟩
  have hplus : Denotes " +007" 7 :=
    ⟨[' '], ['+', '0', '0', '7'], [], rfl, by simp [Blanks]; decide, .nil,
      .plus (by decide) (by decide)⟩
  have hminus : Denotes "-7 " (-7) :=
    ⟨[], ['-', '7'], [' '], rfl, .nil, by simp [Blanks]; decide, .minus (by decide) (by decide)⟩
  have hequal := membership_of_integers .empty (.inl rfl) hplain hplus
  have hother := membership_of_integers .empty (.inr rfl) hplain hminus
  refine ⟨hplain, hplus, hminus, hequal.2.1 rfl, fun h => ?_⟩
  have := (hother.2.2 (.inl (by decide))).mp h
  omega

/-- **Wider integers need not be told apart**: halfway between two integers of
the format stands one that is read as the even one. -/
theorem membership_of_wide_integers :
    Denotes "9007199254740993" 9007199254740993 ∧ Denotes "9007199254740992" 9007199254740992 ∧
      (9007199254740993 : Int) ≠ 9007199254740992 ∧
      (Predicate.check .isOneOf ["9007199254740993"]).holds .empty (some "9007199254740992") =
        true := by
  refine ⟨⟨[], "9007199254740993".toList, [], by simp, .nil, .nil,
      .bare (by decide) (by decide)⟩,
    ⟨[], "9007199254740992".toList, [], by simp, .nil, .nil, .bare (by decide) (by decide)⟩,
    by decide, ?_⟩
  rw [Predicate.holds, List.map_singleton, Scope.fill_empty]
  decide +kernel

end Matcher
end Scenario
