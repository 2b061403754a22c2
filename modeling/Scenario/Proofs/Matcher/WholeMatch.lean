import Scenario.Proofs.Matcher.Inlining
import Scenario.Proofs.Pattern.Anchoring

/-!
# Whole matches — patterns that are checked against the whole text

A library is described by the parts of texts that its patterns match
(`PatternLibrary.Describes`): a test looks for any such part, and a pattern in a
group between the anchors has no match but of the whole text. With every library
that is described, the check of a pattern that can be compiled by itself passes on
the texts that the pattern matches from the first to the last character
(`matchesPattern_whole`). The library of the program is one
(`Pattern.describes_spans`).

What is compiled when the check is read is not the pattern by itself. The check of a
pattern may be refused, and that of a text which is no pattern may be read and then
match other texts (`matchesPattern_beyond_group`).
-/

namespace Scenario

/-- **A library is described** by a relation of patterns and texts with the places
where a match begins and ends. -/
structure PatternLibrary.Describes [PatternLibrary]
    (Spans : String → List Char → Nat → Nat → Prop) : Prop where
  /-- A test looks for a match that begins anywhere. -/
  search : ∀ {pattern test}, compile pattern = .ok test → ∀ text,
    test text = true ↔ ∃ i j, i ≤ text.length ∧ Spans pattern text i j
  /-- A pattern as a group between the anchors matches what the pattern does, but only
  from the beginning of the text to its end. -/
  anchors : ∀ {pattern test whole}, compile pattern = .ok test →
    compileWhole pattern = .ok whole → ∀ {text i j}, i ≤ text.length →
      (Spans (anchored pattern) text i j ↔ i = 0 ∧ j = text.length ∧ Spans pattern text i j)

/-! ## Checks -/

namespace Matcher

section

variable [PatternLibrary] {pattern : String}

/-- **Without variables a check with a pattern is read** exactly if the pattern can be
compiled between the anchors, and then as it is written. -/
theorem parse_matchesPattern_iff (hmarker : ¬ ['$', '{'] <:+: pattern.toList) {t : Predicate} :
    parse (Predicate.check .matchesPattern [pattern]).text = .ok t ↔
      t = .check .matchesPattern [pattern] ∧
        (PatternLibrary.compileWhole pattern).isOk = true := by
  have hwellFormed : (Predicate.check .matchesPattern [pattern]).WellFormed ↔
      Check.matchesPattern.Admits [pattern] := by
    simp [Predicate.WellFormed, Predicate.nodes, Predicate.Sound]
  rw [parse_text_eq_ok_iff, hwellFormed]
  refine and_congr_right fun _ => ⟨fun hadmits => ?_, fun hcompiles => ⟨rfl, fun _ => ?_⟩⟩
  · exact (hadmits.patterns rfl pattern List.mem_cons_self).resolve_left hmarker
  · exact List.forall_mem_singleton.mpr (.inr hcompiles)

/-- A pattern that is compiled is asked about the text. -/
theorem holds_matchesPattern (hmarker : ¬ ['$', '{'] <:+: pattern.toList)
    {test : List Char → Bool} (hcode : PatternLibrary.compileWhole pattern = .ok test)
    (scope : Scope) (value : String) :
    (Predicate.check .matchesPattern [pattern]).holds scope (some value) = test value.toList := by
  rw [Predicate.holds, List.map_singleton, scope.fill_of_no_marker hmarker]
  simp [Check.passes, matchesPattern, hcode]

/-- **A pattern is matched as a whole.** Suppose that a pattern names no variables,
and can be compiled by itself. Where the check with it is read, it passes on a text,
in every scope, exactly if the pattern matches the text from its first to its last
character. -/
theorem matchesPattern_whole {Spans : String → List Char → Nat → Nat → Prop}
    (hlibrary : PatternLibrary.Describes Spans) (hmarker : ¬ ['$', '{'] <:+: pattern.toList)
    {alone : List Char → Bool} (halone : PatternLibrary.compile pattern = .ok alone)
    {t : Predicate} (ht : parse (Predicate.check .matchesPattern [pattern]).text = .ok t)
    (scope : Scope) (value : String) :
    t.holds scope (some value) = true ↔ Spans pattern value.toList 0 value.toList.length := by
  obtain ⟨rfl, hcompiles⟩ := (parse_matchesPattern_iff hmarker).mp ht
  obtain ⟨whole, hwhole⟩ : ∃ whole, PatternLibrary.compileWhole pattern = .ok whole := by
    cases hcode : PatternLibrary.compileWhole pattern with
    | ok whole => exact ⟨whole, rfl⟩
    | error detail => rw [hcode] at hcompiles; cases hcompiles
  rw [holds_matchesPattern hmarker hwhole, hlibrary.search hwhole]
  constructor
  · rintro ⟨i, j, hi, hspan⟩
    obtain ⟨rfl, rfl, hinner⟩ := (hlibrary.anchors halone hwhole hi).mp hspan
    exact hinner
  · intro hspan
    exact ⟨0, _, Nat.zero_le _,
      (hlibrary.anchors halone hwhole (Nat.zero_le _)).mpr ⟨rfl, rfl, hspan⟩⟩

end

end Matcher

/-! ## The library of the program -/

namespace Pattern

/-- **The parts of a text that a pattern matches.** -/
def Spans (pattern : String) (text : List Char) (i j : Nat) : Prop :=
  ∃ r, Means pattern.toList r ∧ Regex.Matches text r i j

theorem exists_means_of_compile {pattern : String} {test : List Char → Bool}
    (h : PatternLibrary.compile pattern = .ok test) :
    ∃ r, Means pattern.toList r ∧ test = r.occursIn := by
  have hmap : (compile pattern.toList).map Regex.occursIn = .ok test := h
  cases hcode : compile pattern.toList with
  | ok r =>
    rw [hcode] at hmap
    cases hmap
    exact ⟨r, (compile_eq_ok_iff.mp hcode).1, rfl⟩
  | error detail =>
    rw [hcode] at hmap
    cases hmap

theorem spans_iff {pattern : String} {r : Regex} (h : Means pattern.toList r) {text : List Char}
    {i j : Nat} : Spans pattern text i j ↔ Regex.Matches text r i j :=
  ⟨fun ⟨_, hmeans, hmatch⟩ => h.unique hmeans ▸ hmatch, fun hmatch => ⟨r, h, hmatch⟩⟩

/-- **The library of the program is described** by what its expressions match. -/
theorem describes_spans : PatternLibrary.Describes Spans where
  search := by
    intro pattern test hcompile text
    obtain ⟨r, hr, rfl⟩ := exists_means_of_compile hcompile
    simp only [occursIn_iff hr.ordered, spans_iff hr]
  anchors := by
    intro pattern test whole hcompile hwhole text i j hi
    obtain ⟨r, hr, -⟩ := exists_means_of_compile hcompile
    obtain ⟨code, hcode, -⟩ := exists_means_of_compile hwhole
    have hanchored : Means (anchored pattern.toList) code := toList_anchored pattern ▸ hcode
    rcases means_anchored hanchored with ⟨r', hr', rfl⟩ | ⟨-, hnone⟩
    · obtain rfl := hr'.unique hr
      rw [spans_iff hcode, spans_iff hr, matches_whole_iff hi]
    · exact absurd hr (hnone r)

end Pattern

namespace Matcher

/-- **Between the anchors a text can be another pattern, or none.** The parenthesis
in `a)|(?:b` closes the group of the anchors, and what comes before it may stand at
the beginning of any text. The comment in `(?x)a#` takes the parenthesis of the group
with it. -/
theorem matchesPattern_beyond_group :
    ((PatternLibrary.compile "a)|(?:b").isOk = false ∧
      parse "MatchesPattern('a)|(?:b')" = .ok (.check .matchesPattern ["a)|(?:b"]) ∧
      (Predicate.check .matchesPattern ["a)|(?:b"]).holds .empty (some "ax") = true) ∧
    (PatternLibrary.compile "(?x)a#").isOk = true ∧
      ∀ t, parse "MatchesPattern('(?x)a#')" ≠ .ok t := by
  refine ⟨⟨by decide +kernel, by decide +kernel, by decide +kernel⟩, by decide +kernel, ?_⟩
  intro t ht
  have hrefused : (parse "MatchesPattern('(?x)a#')").isOk = false := by decide +kernel
  rw [ht] at hrefused
  cases hrefused

end Matcher
end Scenario
