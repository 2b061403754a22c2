import Scenario.Matcher.Verdict
import Scenario.Pattern.Search
import Scenario.Proofs.Scope.Pieces
import Scenario.Proofs.Unicode.Membership

/-!
# Ignoring case — when it only widens a match

Checks that ignore case compare texts in lower case, and lower case is a
matter of the whole text: a capital sigma becomes final at the end of a word
(`lowerChar`). So a part in lower case need not be a part of the whole text
in lower case. It is one where its capital sigmas are `Settled`, each final
in the part exactly if it is in the whole (`lowerPart_eq_iff`), and no
other character depends on what is around it.

`ignoringCase_passes` draws the consequence for checks: an exact check that
passes does so at some place in the value, and the one that ignores case
passes as well if the sigmas are settled there.
-/

namespace Scenario
namespace Text

/-! ## Part of a text in lower case -/

/-- A part of a text in lower case, given what stands before it, the nearest
character first, and after it. -/
def lowerPart : List Char → List Char → List Char → List Char
  | _, [], _ => []
  | before, c :: cs, after => lowerChar before c (cs ++ after) ++ lowerPart (c :: before) cs after

/-- A text in lower case is a part of it and the rest. -/
theorem lowerFrom_append (before part after : List Char) :
    lowerFrom before (part ++ after) =
      lowerPart before part after ++ lowerFrom (part.reverse ++ before) after := by
  induction part generalizing before with
  | nil => rfl
  | cons c cs ih =>
    rw [List.cons_append, lowerFrom, ih, lowerPart, List.append_assoc, List.reverse_cons,
      List.append_assoc, List.singleton_append]

theorem lowerFrom_eq_lowerPart (before part : List Char) :
    lowerFrom before part = lowerPart before part [] := by
  have happ := lowerFrom_append before part []
  rwa [List.append_nil, lowerFrom, List.append_nil] at happ

/-- Only a capital sigma depends on what is around it. -/
theorem lowerChar_of_ne {c : Char} (h : c ≠ 'Σ') (before after before' after' : List Char) :
    lowerChar before c after = lowerChar before' c after' := by
  rw [lowerChar, lowerChar, if_neg h, if_neg h]

/-- And only in which sigma it becomes, not in their number. -/
theorem length_lowerChar (before after before' after' : List Char) (c : Char) :
    (lowerChar before c after).length = (lowerChar before' c after').length := by
  by_cases hc : c = 'Σ'
  · have hone : ∀ front back, (lowerChar front c back).length = 1 := by
      intro front back
      rw [lowerChar, if_pos hc]
      split <;> rfl
    rw [hone, hone]
  · rw [lowerChar_of_ne hc before after before' after']

theorem length_lowerPart (part before after before' after' : List Char) :
    (lowerPart before part after).length = (lowerPart before' part after').length := by
  induction part generalizing before before' with
  | nil => rfl
  | cons c cs ih =>
    rw [lowerPart, lowerPart, List.length_append, List.length_append,
      ih (c :: before) (c :: before'),
      length_lowerChar before (cs ++ after) before' (cs ++ after') c]

/-! ## Settled sigmas -/

/-- A capital sigma is final between two texts, the nearest character of the
first one first, if the word goes back there and does not go on. -/
def FinalSigma (before after : List Char) : Prop :=
  casedNext before = true ∧ casedNext after = false

instance (before after : List Char) : Decidable (FinalSigma before after) :=
  inferInstanceAs (Decidable (_ ∧ _))

/-- **The capital sigmas of a part are settled** between two texts: each of
them is final there exactly if it is final in the part alone. -/
def Settled (before part after : List Char) : Prop :=
  ∀ lead trail, part = lead ++ 'Σ' :: trail →
    (FinalSigma (lead.reverse ++ before.reverse) (trail ++ after) ↔ FinalSigma lead.reverse trail)

/-- A part without capital sigmas has none to settle. -/
theorem Settled.of_not_mem {part : List Char} (h : 'Σ' ∉ part) (before after : List Char) :
    Settled before part after := by
  intro lead trail heq
  rw [heq] at h
  exact absurd (List.mem_append_right lead List.mem_cons_self) h

/-- And nothing is unsettled where nothing stands around the part. -/
theorem Settled.alone (part : List Char) : Settled [] part [] := by
  intro lead trail _
  rw [List.reverse_nil, List.append_nil, List.append_nil]

/-- The lower case of a sigma tells whether it is final. -/
theorem lowerChar_sigma_eq_iff {before after before' after' : List Char} :
    lowerChar before 'Σ' after = lowerChar before' 'Σ' after' ↔
      (FinalSigma before after ↔ FinalSigma before' after') := by
  have hform : ∀ front back,
      lowerChar front 'Σ' back = if FinalSigma front back then ['ς'] else ['σ'] := by
    intro front back
    rw [lowerChar, if_pos rfl]
    refine ite_congr ?_ (fun _ => rfl) (fun _ => rfl)
    rw [FinalSigma, Bool.and_eq_true, Bool.not_eq_true']
  rw [hform, hform]
  by_cases h : FinalSigma before after <;> by_cases h' : FinalSigma before' after' <;> simp [h, h']

/-- **A part has its own lower case in a text exactly if its sigmas are
settled there.** The induction moves characters from the part to the text
read before it. -/
theorem lowerPart_eq_iff_of_read (read before part after : List Char) :
    lowerPart (read ++ before) part after = lowerPart read part [] ↔
      ∀ lead trail, part = lead ++ 'Σ' :: trail →
        (FinalSigma (lead.reverse ++ (read ++ before)) (trail ++ after) ↔
          FinalSigma (lead.reverse ++ read) trail) := by
  induction part generalizing read with
  | nil => simp [lowerPart]
  | cons c cs ih =>
    rw [lowerPart, lowerPart, List.append_nil]
    have htail := ih (c :: read)
    rw [List.cons_append] at htail
    -- both forms of a sigma have one length, so the lower case is compared by characters
    constructor
    · intro hlower lead trail heq
      obtain ⟨hhead, hrest⟩ := List.append_inj hlower (length_lowerChar _ _ _ _ c)
      rw [htail] at hrest
      cases lead with
      | nil =>
        obtain ⟨rfl, rfl⟩ := List.cons.inj heq
        exact lowerChar_sigma_eq_iff.mp hhead
      | cons d lead =>
        obtain ⟨rfl, rfl⟩ := List.cons.inj heq
        have hmoved := hrest lead trail rfl
        simpa using hmoved
    · intro h
      have hhead : lowerChar (read ++ before) c (cs ++ after) = lowerChar read c cs := by
        by_cases hc : c = 'Σ'
        · subst hc
          exact lowerChar_sigma_eq_iff.mpr (h [] cs rfl)
        · exact lowerChar_of_ne hc _ _ _ _
      rw [hhead, htail.mpr]
      intro lead trail heq
      have hmoved := h (c :: lead) trail (by rw [heq, List.cons_append])
      simpa using hmoved

theorem lowerPart_eq_iff {before part after : List Char} :
    lowerPart before.reverse part after = lowercase part ↔ Settled before part after := by
  have hread := lowerPart_eq_iff_of_read [] before.reverse part after
  simp only [List.nil_append, List.append_nil] at hread
  rw [lowercase, lowerFrom_eq_lowerPart, hread, Settled]

/-- The lower case of a text, cut where a part of it stands. -/
theorem lowercase_append_append (before part after : List Char) :
    lowercase (before ++ (part ++ after)) =
      lowerPart [] before (part ++ after) ++ (lowerPart before.reverse part after ++
        lowerFrom (part.reverse ++ before.reverse) after) := by
  rw [lowercase, lowerFrom_append, List.append_nil, lowerFrom_append]

end Text

namespace Matcher

open Text

/-! ## Checks that ignore case -/

/-- The check that ignores case in the place of an exact one. -/
def Check.ignoringCase? : Check → Option Check
  | equalTo => some equalToIgnoringCase
  | containsString => some containsStringIgnoringCase
  | startsWith => some startsWithIgnoringCase
  | endsWith => some endsWithIgnoringCase
  | _ => none

/-- **Where an exact check finds what is expected**: what may stand before
and after the expected text in a value that passes. -/
inductive Occurrence : Check → List Char → List Char → Prop
  /-- It is the whole value. -/
  | equalTo : Occurrence .equalTo [] []
  /-- It is at the beginning. -/
  | startsWith (after : List Char) : Occurrence .startsWith [] after
  /-- It is at the end. -/
  | endsWith (before : List Char) : Occurrence .endsWith before []
  /-- It is anywhere. -/
  | containsString (before after : List Char) : Occurrence .containsString before after

section

variable {scope : Scope} {value : Option String} {x : String} {strict loose : Check}
  {before after : List Char}

/-- **An exact check passes exactly where the expected text is found.** -/
theorem holds_iff_occurrence [PatternLibrary] (hpair : strict.ignoringCase? = some loose) :
    (Predicate.check strict [x]).holds scope value = true ↔
      ∃ before after, Occurrence strict before after ∧
        (value.getD "").toList = before ++ ((scope.fill x).toList ++ after) := by
  rw [Predicate.holds, List.map_singleton, Check.passes.eq_def]
  dsimp only [List.headD_cons]
  constructor
  · intro h
    cases strict with
    | equalTo => exact ⟨[], [], .equalTo, by rw [List.append_nil]; exact eq_of_beq h⟩
    | startsWith =>
      obtain ⟨after, heq⟩ := List.isPrefixOf_iff_prefix.mp h
      exact ⟨[], after, .startsWith after, heq.symm⟩
    | endsWith =>
      obtain ⟨before, heq⟩ := List.isSuffixOf_iff_suffix.mp h
      exact ⟨before, [], .endsWith before, by rw [List.append_nil, heq]⟩
    | containsString =>
      obtain ⟨before, after, heq⟩ := occursIn_eq_true_iff.mp h
      exact ⟨before, after, .containsString before after, by rw [← heq, List.append_assoc]⟩
    | _ => cases hpair
  · rintro ⟨before, after, hplace, hvalue⟩
    rw [hvalue]
    cases hplace with
    | equalTo => rw [List.nil_append, List.append_nil]; exact beq_self_eq_true _
    | startsWith => exact List.isPrefixOf_iff_prefix.mpr (List.prefix_append _ _)
    | endsWith =>
      rw [List.append_nil]
      exact List.isSuffixOf_iff_suffix.mpr (List.suffix_append _ _)
    | containsString => exact occursIn_eq_true_iff.mpr ⟨before, after, List.append_assoc _ _ _⟩

/-- **It is found in lower case too where its sigmas are settled**, and then
the check that ignores case passes as well. -/
theorem Occurrence.loose_holds [PatternLibrary] (h : Occurrence strict before after)
    (hpair : strict.ignoringCase? = some loose)
    (hvalue : (value.getD "").toList = before ++ ((scope.fill x).toList ++ after))
    (hsettled : Settled before (scope.fill x).toList after) :
    (Predicate.check loose [x]).holds scope value = true := by
  rw [Predicate.holds, List.map_singleton, Check.passes.eq_def]
  dsimp only [List.headD_cons]
  rw [hvalue, lowercase_append_append, lowerPart_eq_iff.mpr hsettled]
  cases h with
  | equalTo => cases hpair; simp [lowerPart, lowerFrom]
  | startsWith => cases hpair; exact List.isPrefixOf_iff_prefix.mpr (List.prefix_append _ _)
  | endsWith =>
    cases hpair
    rw [List.append_nil, lowerFrom, List.append_nil]
    exact List.isSuffixOf_iff_suffix.mpr (List.suffix_append _ _)
  | containsString =>
    cases hpair
    exact occursIn_eq_true_iff.mpr ⟨_, _, List.append_assoc _ _ _⟩

/-- At an end of the value it is found in lower case only if they are. -/
theorem Occurrence.settled [PatternLibrary] (h : Occurrence strict before after)
    (hpair : strict.ignoringCase? = some loose) (hend : strict ≠ .containsString)
    (hvalue : (value.getD "").toList = before ++ ((scope.fill x).toList ++ after))
    (hloose : (Predicate.check loose [x]).holds scope value = true) :
    Settled before (scope.fill x).toList after := by
  rw [Predicate.holds, List.map_singleton, Check.passes.eq_def] at hloose
  dsimp only [List.headD_cons] at hloose
  rw [hvalue, lowercase_append_append] at hloose
  rw [← lowerPart_eq_iff]
  -- what is found at an end has the length of the part there, so it is that part
  have hlength : (lowercase (scope.fill x).toList).length =
      (lowerPart before.reverse (scope.fill x).toList after).length := by
    rw [lowercase, lowerFrom_eq_lowerPart, length_lowerPart]
  cases h with
  | equalTo => exact lowerPart_eq_iff.mpr (.alone _)
  | startsWith =>
    cases hpair
    obtain ⟨rest, heq⟩ := List.isPrefixOf_iff_prefix.mp hloose
    rw [lowerPart, List.nil_append] at heq
    exact (List.append_inj_left heq hlength).symm
  | endsWith =>
    cases hpair
    obtain ⟨lead, heq⟩ := List.isSuffixOf_iff_suffix.mp hloose
    rw [List.append_nil, lowerFrom, List.append_nil] at heq
    exact (List.append_inj_right' heq hlength).symm
  | containsString => exact absurd rfl hend

end

/-- **Ignoring case widens a match where the capital sigmas are settled.** An
exact check passes where its argument, with the variables filled in, is found
in the value. If the sigmas of the argument take the same form there as in the
argument alone, the check that ignores case passes too; for the whole value,
its beginning and its end it passes exactly then. So it always does for the
whole value, and for an argument without a capital sigma. -/
theorem ignoringCase_passes [PatternLibrary] (scope : Scope) (x : String) (value : Option String) :
    (∀ strict loose, strict.ignoringCase? = some loose →
      ((Predicate.check strict [x]).holds scope value = true ↔
        ∃ before after, Occurrence strict before after ∧
          (value.getD "").toList = before ++ ((scope.fill x).toList ++ after))) ∧
    (∀ strict loose before after, strict.ignoringCase? = some loose →
      Occurrence strict before after →
      (value.getD "").toList = before ++ ((scope.fill x).toList ++ after) →
      (Settled before (scope.fill x).toList after →
        (Predicate.check loose [x]).holds scope value = true) ∧
      (strict ≠ .containsString → (Predicate.check loose [x]).holds scope value = true →
        Settled before (scope.fill x).toList after)) ∧
    ∀ strict loose, strict.ignoringCase? = some loose →
      strict = .equalTo ∨ 'Σ' ∉ (scope.fill x).toList →
      (Predicate.check strict [x]).holds scope value = true →
      (Predicate.check loose [x]).holds scope value = true := by
  refine ⟨fun strict loose hpair => holds_iff_occurrence hpair,
    fun strict loose before after hpair h hvalue => ⟨h.loose_holds hpair hvalue,
      fun hend => h.settled hpair hend hvalue⟩, ?_⟩
  intro strict loose hpair hsafe hstrict
  obtain ⟨before, after, h, hvalue⟩ := (holds_iff_occurrence hpair).mp hstrict
  refine h.loose_holds hpair hvalue ?_
  rcases hsafe with rfl | hsigma
  · cases h
    exact .alone _
  · exact .of_not_mem hsigma before after

/-! ## A sigma that is not settled -/

/-- The capital alpha has a case. -/
theorem isCased_alpha : Unicode.isCased 'Α' = true := by
  have hlower : Unicode.Proper [Unicode.Category.lowercaseLetter,
      Unicode.Listed.otherLowercase].flatten := by
    decide +kernel
  have hupper : Unicode.Proper [Unicode.Category.uppercaseLetter,
      Unicode.Listed.otherUppercase].flatten := by
    decide +kernel
  have htitle : Unicode.Proper [Unicode.Category.titlecaseLetter].flatten := by
    decide +kernel
  have hlowerRising := (Unicode.CharSet.ofRanges_spec hlower).1
  have hupperRising := (Unicode.CharSet.ofRanges_spec hupper).1
  have halpha : Unicode.uppercase.contains 'Α' = true :=
    (Unicode.CharSet.contains_ofRanges hupper).mpr ⟨(0x391, 0x3A1), by decide +kernel, by decide⟩
  have hletters := (Unicode.CharSet.contains_union hlowerRising hupperRising).mpr (.inr halpha)
  have hcased : Unicode.cased.contains 'Α' = true :=
    (Unicode.CharSet.contains_union (Unicode.CharSet.union_spec hlowerRising hupperRising).1
      (Unicode.CharSet.ofRanges_spec htitle).1).mpr (.inl hletters)
  rw [Unicode.isCased, hcased]
  decide

/-- And case rules do not pass over it. -/
theorem isCaseIgnorable_alpha : Unicode.isCaseIgnorable 'Α' = false := by
  have hnot : ¬ Unicode.caseIgnorable.contains 'Α' = true := by
    rw [Unicode.caseIgnorable, Unicode.CharSet.ofTables,
      Unicode.CharSet.contains_ofRanges (by decide +kernel), Unicode.Covers]
    decide +kernel
  rw [Unicode.isCaseIgnorable, Bool.eq_false_iff.mpr hnot]
  decide

/-- **Without settled sigmas a check that ignores case can fail.** `ΑΣ` stands
at the beginning of `ΑΣΑ`, but in lower case it ends in a final sigma, and
the longer word has none. -/
theorem ignoringCase_unsettled :
    (Predicate.check .startsWith ["ΑΣ"]).holds .empty (some "ΑΣΑ") = true ∧
      (Predicate.check .startsWithIgnoringCase ["ΑΣ"]).holds .empty (some "ΑΣΑ") = false := by
  have halpha : ∀ before after, lowerChar before 'Α' after = ['α'] := by
    intro before after
    rw [lowerChar, if_neg (by decide), if_neg (by decide)]
    decide +kernel
  have hnext : casedNext ['Α'] = true := by
    have hstop : ¬ Unicode.isCaseIgnorable 'Α' = true := by
      rw [isCaseIgnorable_alpha]
      exact Bool.false_ne_true
    rw [casedNext, List.dropWhile_cons_of_neg hstop]
    exact isCased_alpha
  have hnone : casedNext [] = false := rfl
  have hpart : lowercase ['Α', 'Σ'] = ['α', 'ς'] := by
    rw [lowercase, lowerFrom, lowerFrom, lowerFrom, halpha, lowerChar, hnext, hnone]
    rfl
  have hwhole : lowercase ['Α', 'Σ', 'Α'] = ['α', 'σ', 'α'] := by
    rw [lowercase, lowerFrom, lowerFrom, lowerFrom, lowerFrom, halpha, halpha, lowerChar, hnext]
    rfl
  have htexts : "ΑΣ".toList = ['Α', 'Σ'] ∧ "ΑΣΑ".toList = ['Α', 'Σ', 'Α'] := by
    constructor <;> cbv
  rw [Predicate.holds, Predicate.holds, List.map_singleton, Scope.fill_empty]
  simp only [Check.passes, List.headD_cons, Option.getD_some, htexts, hpart, hwhole]
  decide

end Matcher
end Scenario
