import Scenario.Pattern.Search
import Scenario.Proofs.Matcher.Evidence

/-!
# Nested calls — where one is reported

A check takes literals, and an argument that begins like a call of a matcher
is refused as a nested call. The evidence that readings show of their mistakes
(`shows_readExpression`) is in this case the call itself, so a nested call is
reported exactly where one begins (`blames_readExpression`).

A call begins with the name of a matcher and an opening parenthesis, and
blanks may stand between them: `EqualTo(StartsWith (a))` is refused like
`EqualTo(StartsWith(a))`.
-/

namespace Scenario
namespace Matcher

open Text (Blanks)

/-! ## What stands where a reading fails -/

/-- **What a reading blames**: the mistake it fails with and the text from
the place of that mistake are in a given relation. -/
def Reading.Blames {α : Type} (P : Mistake → List Char → Prop) : Reading α → Prop
  | done _ _ => True
  | failed mistake place _ => P mistake place

/-- A nested call is found at the beginning of a call. -/
def AtCall (mistake : Mistake) (place : List Char) : Prop :=
  mistake.kind = .nestedCallInLeaf → Grammar.BeginsCall place

/-- **A nested call is blamed where a call begins**: that is its evidence. -/
theorem blames_readExpression [PatternLibrary] (text : List Char) :
    (readExpression text).Blames AtCall := by
  have hshows := shows_readExpression text
  cases hread : readExpression text with
  | done predicate rest => exact trivial
  | failed mistake place rest =>
    intro hkind
    rw [hread] at hshows
    obtain ⟨before, -, -, hevidence⟩ := hshows
    rw [hkind] at hevidence
    exact hevidence

/-! ## Parsing -/

/-- **A nested call is reported where a call begins**: at the byte reported
stand the name of a matcher, blanks if any, and an opening parenthesis. -/
theorem begins_of_nestedCall [PatternLibrary] {expression : String} {e : ParseError}
    (h : parse expression = .error e) (hkind : e.mistake.kind = .nestedCallInLeaf) :
    ∃ (before : List Char) (matcher : MatcherName) (blank inside : List Char),
      expression.toList = before ++ (matcher.name.toList ++ (blank ++ '(' :: inside)) ∧
      Blanks blank ∧ e.position = Text.byteSize before := by
  have hblames := blames_readExpression expression.toList
  have hstays := stays_readExpression expression.toList
  rw [parse, Parser.next, Parser.start] at h
  dsimp only at h
  cases hread : readExpression expression.toList with
  | done predicate rest =>
    rw [hread] at h
    cases h
  | failed mistake place rest =>
    rw [hread] at h hblames hstays
    cases h
    obtain ⟨matcher, blank, inside, hblank, hplace⟩ := hblames hkind
    obtain ⟨before, hbefore⟩ := hstays.1
    refine ⟨before, matcher, blank, inside, ?_, hblank, ?_⟩
    · rw [← hplace, hbefore]
    · show Text.byteSize expression.toList - Text.byteSize place = _
      rw [← hbefore, Text.byteSize_append, Nat.add_sub_cancel]

/-- The place is named also where it stands in a list of calls, behind a
character of two bytes and before a blank of three. -/
theorem begins_of_nestedCall_ideographic :
    parse "AllOf(EqualTo(é), IsIn(1, Not\u3000(a)))" = .error ⟨.nestedCall, 27⟩ ∧
      ∃ (before : List Char) (matcher : MatcherName) (blank inside : List Char),
        "AllOf(EqualTo(é), IsIn(1, Not\u3000(a)))".toList =
          before ++ (matcher.name.toList ++ (blank ++ '(' :: inside)) ∧
        Blanks blank ∧ 27 = Text.byteSize before := by
  have hparse : parse "AllOf(EqualTo(é), IsIn(1, Not\u3000(a)))" = .error ⟨.nestedCall, 27⟩ := by
    decide +kernel
  exact ⟨hparse, begins_of_nestedCall hparse rfl⟩

/-- **The blanks do occur.** The argument of `EqualTo(StartsWith (a))` is
refused at its first byte, and the name there is followed by a space. -/
theorem nestedCall_before_blank :
    parse "EqualTo(StartsWith (a))" = .error ⟨.nestedCall, 8⟩ ∧
      ¬ ∃ (before : List Char) (matcher : MatcherName) (inside : List Char),
        "EqualTo(StartsWith (a))".toList = before ++ (matcher.name.toList ++ '(' :: inside) ∧
        Text.byteSize before = 8 := by
  refine ⟨by decide +kernel, ?_⟩
  rintro ⟨before, matcher, inside, htext, hbefore⟩
  have hplace : Text.dropBytes 8 "EqualTo(StartsWith (a))".toList =
      some (matcher.name.toList ++ '(' :: inside) := by
    rw [htext, ← hbefore, Text.dropBytes_byteSize]
  have hgap : Text.dropBytes 8 "EqualTo(StartsWith (a))".toList =
      some "StartsWith (a))".toList := by
    decide
  -- the name is read whole, so what follows it would be the parenthesis
  have hafter := (Grammar.span_name matcher Blanks.nil inside).2
  rw [List.nil_append, ← Option.some.inj (hgap.symm.trans hplace)] at hafter
  have hblank : "StartsWith (a))".toList.dropWhile isNameChar = " (a))".toList := by
    decide
  rw [hblank] at hafter
  cases hafter

end Matcher
end Scenario
