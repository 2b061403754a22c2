import Scenario.Pattern.Search
import Scenario.Proofs.Matcher.Resumption

/-!
# Evidence — what stands where a mistake is reported

A mistake is reported at a place of the expression, and `Evidence` says by its
kind what stands there, or right before it, and how this agrees with the words
of the mistake. A reading *shows* the evidence (`Reading.Shows`) if it fails
with it at an end of the text it was given, and one reader after another shows
it if each does (`Reading.Shows.andThen`).

A mistake in the arguments of a call is reported where the call begins, long
after its name was read, so the evidence comes from the head of the call
(`Predicate.Fault.evidence`). And the reader of expressions never runs out of
fuel, which would look like a missing parenthesis in the middle of a text: the
fuel of each reader is more than the text it is given (`shows_readLiterals`,
`shows_read`).
-/

namespace Scenario
namespace Matcher

open Text (skipBlank Blanks isBlank)

/-- A text does not begin with a blank. -/
def Unblanked (place : List Char) : Prop := ∀ c, place.head? = some c → isBlank c = false

theorem unblanked_skipBlank (cs : List Char) : Unblanked (skipBlank cs) := by
  intro c hc
  obtain ⟨rest, hrest⟩ := List.head?_eq_some_iff.mp hc
  exact Text.isBlank_eq_false_of_skipBlank hrest

/-- A separator takes a character. -/
theorem length_lt_of_readSeparator {cs rest : List Char} {closed : Bool}
    (h : readSeparator cs = .done closed rest) : rest.length < cs.length := by
  obtain ⟨blank, -, rfl⟩ := Grammar.readSeparator_eq_done_iff.mp h
  simp only [List.length_append, List.length_cons]
  omega

section

variable [PatternLibrary]

/-! ## Evidence -/

/-- **The evidence of a mistake** of some kind with some words: what stands
before the place it is reported at, and from there on. -/
def Evidence (reason : String) (before place : List Char) : MistakeKind → Prop
  -- the name that is quoted stands there, and no matcher has it
  | .unknownMatcher => ∃ name : String, reason = s!"unknown matcher '{name}'" ∧
      place.takeWhile isNameChar = name.toList ∧ name ≠ "" ∧ isMatcherName name = false
  -- the name of the matcher stands there, and it does not take so many
  | .invalidArity => ∃ (matcher : MatcherName) (count : Nat),
      reason = s!"{matcher.name}() takes {matcher.arity.text}, got {count}" ∧
      place.takeWhile isNameChar = matcher.name.toList ∧ matcher.arity.accepts count = false
  -- the check of a pattern stands there, and the library refuses the one quoted, in the
  -- words that come after it
  | .invalidPattern => ∃ pattern detail : String,
      reason = s!"invalid pattern '{pattern}': {detail}" ∧
      place.takeWhile isNameChar = "MatchesPattern".toList ∧
      PatternLibrary.compileWhole pattern = .error detail
  -- a quote stands there, and behind it none that is not escaped
  | .unterminatedQuote => ∃ inside, place = '\'' :: inside ∧
      ∀ raw value rest, Grammar.QuotedText raw value → inside ≠ raw ++ '\'' :: rest
  -- a matcher is called there
  | .nestedCallInLeaf => Grammar.BeginsCall place
  | .unbalancedParentheses => place = [] ∨ place.head? = some ')'
  | .unexpectedInput =>
    -- the character that is said to be found
    (∃ found : Char, place.head? = some found ∧
      (reason = s!"unexpected '{found}' after expression" ∨
        reason = s!"expected matcher name, found '{found}'" ∨
        reason = s!"expected ',' or ')', found '{found}'")) ∨
    -- or the end or a quote, where a call is expected
    (reason = "expected a matcher call, found a literal" ∧
      (place = [] ∨ place.head? = some '\'')) ∨
    -- or no parenthesis, and before it, blanks aside, the name that is quoted
    ∃ (matcher : MatcherName) (lead blank : List Char),
      reason = s!"expected '(' after '{matcher.name}'" ∧ place.head? ≠ some '(' ∧
      before = lead ++ (matcher.name.toList ++ blank) ∧ Blanks blank

/-- More text before the place does not matter. -/
theorem Evidence.prepend {reason : String} {before place : List Char} {kind : MistakeKind}
    (h : Evidence reason before place kind) (lead : List Char) :
    Evidence reason (lead ++ before) place kind := by
  cases kind with
  | unexpectedInput =>
    rcases h with hfound | hliteral | ⟨matcher, front, blank, hreason, hplace, rfl, hb⟩
    · exact .inl hfound
    · exact .inr (.inl hliteral)
    · exact .inr (.inr ⟨matcher, lead ++ front, blank, hreason, hplace, by simp, hb⟩)
  | _ => exact h

/-! ## Readings that show the evidence -/

namespace Reading

variable {α β : Type} {cs text : List Char}

/-- **A reading shows the evidence** of its mistake: it is reported at an end of
the text, not at a blank, and there the evidence is. -/
def Shows (cs : List Char) : Reading α → Prop
  | done _ _ => True
  | failed mistake place _ => ∃ before, before ++ place = cs ∧ Unblanked place ∧
      Evidence mistake.reason before place mistake.kind

/-- It then does so in any text with that one at its end. -/
theorem Shows.of_suffix {r : Reading α} (h : r.Shows cs) (hcs : cs <:+ text) : r.Shows text := by
  cases r with
  | done value rest => exact trivial
  | failed mistake place rest =>
    obtain ⟨before, rfl, hplace, hevidence⟩ := h
    obtain ⟨lead, rfl⟩ := hcs
    exact ⟨lead ++ before, List.append_assoc _ _ _, hplace, hevidence.prepend lead⟩

/-- **One reader after another** shows the evidence if both do. -/
theorem Shows.andThen {r : Reading α} {next : α → List Char → Reading β} (h : r.Shows cs)
    (hnext : ∀ value rest, r = .done value rest → (next value rest).Shows cs) :
    (r.andThen next).Shows cs := by
  cases r with
  | done value rest => exact hnext value rest rfl
  | failed mistake place rest => exact h

end Reading

open Reading (Shows)

variable {cs : List Char}

/-! ## Separators and literals -/

theorem shows_readSeparator (text : List Char) : (readSeparator text).Shows text := by
  obtain ⟨before, hbefore⟩ := skipBlank_suffix text
  have hplace := unblanked_skipBlank text
  rw [readSeparator]
  split
  · exact trivial
  · exact trivial
  · next heq => exact ⟨before, heq ▸ hbefore, heq ▸ hplace, .inl rfl⟩
  · next c rest _ _ heq =>
    exact ⟨before, heq ▸ hbefore, heq ▸ hplace, .inl ⟨c, rfl, .inr (.inr rfl)⟩⟩

/-- **Literals**: a quote is not closed anywhere behind, or a call begins. -/
theorem shows_readLiteral (text : List Char) : (readLiteral text).Shows text := by
  obtain ⟨before, hbefore⟩ := skipBlank_suffix text
  have hplace := unblanked_skipBlank text
  rw [readLiteral]
  dsimp only
  split
  · next inside heq =>
    split
    · next hnone =>
      refine ⟨before, hbefore, hplace, inside, heq, fun raw value rest hraw hinside => ?_⟩
      rw [hinside, Grammar.readQuoted_of_quotedText hraw] at hnone
      cases hnone
    · split <;> exact trivial
  · split
    · next hbegins => exact ⟨before, hbefore, hplace, Grammar.beginsCall_eq_true_iff.mp hbegins⟩
    · exact trivial

/-- Lists of literals, with more fuel than there is text. -/
theorem shows_readLiterals {fuel : Nat} (hf : cs.length < fuel) :
    (readLiterals fuel cs).Shows cs := by
  induction fuel generalizing cs with
  | zero => exact absurd hf (Nat.not_lt_zero _)
  | succ fuel ih =>
    refine (shows_readLiteral cs).andThen fun value rest hliteral => ?_
    have hrest : rest <:+ cs := (stays_readLiteral cs).suffix hliteral
    refine ((shows_readSeparator rest).of_suffix hrest).andThen fun closed more hseparator => ?_
    cases closed with
    | true => exact trivial
    | false =>
      have hmore : more <:+ cs := ((stays_readSeparator rest).suffix hseparator).trans hrest
      have hlt := length_lt_of_readSeparator hseparator
      have hle := hrest.length_le
      have hnext : (readLiterals fuel more).Shows more := ih (by omega)
      exact (hnext.of_suffix hmore).andThen fun values left _ => trivial

/-! ## Calls -/

/-- **The head of a call**: no name, a name that is none of a matcher, or no
parenthesis behind it. -/
theorem shows_readHead (hcs : Unblanked cs) : (readHead cs).Shows cs := by
  have hspan : cs.takeWhile isNameChar ++ cs.dropWhile isNameChar = cs :=
    List.takeWhile_append_dropWhile
  rw [readHead]
  split
  · next hempty =>
    -- without a name the text is what follows the name
    have hname : cs.takeWhile isNameChar = [] := by
      have h := congrArg String.toList (String.isEmpty_iff.mp hempty)
      rwa [String.toList_ofList] at h
    rw [hname, List.nil_append] at hspan
    have hplace : Unblanked (cs.dropWhile isNameChar) := by rwa [hspan]
    split
    · next heq => exact ⟨[], hspan, hplace, .inr (.inl ⟨rfl, .inl heq⟩)⟩
    · next rest heq => exact ⟨[], hspan, hplace, .inr (.inl ⟨rfl, .inr (by rw [heq]; rfl)⟩)⟩
    · next c rest _ heq =>
      exact ⟨[], hspan, hplace, .inl ⟨c, by rw [heq]; rfl, .inr (.inl rfl)⟩⟩
  · next hname =>
    split
    · next hnone =>
      refine ⟨[], rfl, hcs, _, rfl, String.toList_ofList.symm, fun h => ?_, ?_⟩
      · rw [h] at hname
        exact hname rfl
      · rw [isMatcherName, hnone, Option.isSome_none]
    · next matcher hsome =>
      split
      · exact trivial
      · next hother =>
        obtain ⟨blank, hb, heq⟩ := Text.exists_blanks_append_skipBlank (cs.dropWhile isNameChar)
        have hmatcher := MatcherName.name_of_ofName? hsome
        refine ⟨cs.takeWhile isNameChar ++ blank, ?_, unblanked_skipBlank _,
          .inr (.inr ⟨matcher, [], blank, ?_, ?_, ?_, hb⟩)⟩
        · rw [List.append_assoc, ← heq, hspan]
        · rw [hmatcher]
          rfl
        · intro hhead
          obtain ⟨inside, hinside⟩ := List.head?_eq_some_iff.mp hhead
          exact hother inside hinside
        · rw [hmatcher, String.toList_ofList, List.nil_append]

theorem shows_readItems {α : Type} {read : List Char → Reading (List α)} {text : List Char}
    (h : (read (skipBlank text)).Shows (skipBlank text)) : (readItems read text).Shows text := by
  rw [readItems]
  split
  · exact trivial
  · exact h.of_suffix (skipBlank_suffix text)

/-- **A faulty node shows its fault** where its name stands. -/
theorem Predicate.Fault.evidence {p : Predicate} {mistake : Mistake} (h : p.Fault mistake)
    {place : List Char} (hname : place.takeWhile isNameChar = p.name.toList)
    (before : List Char) : Evidence mistake.reason before place mistake.kind := by
  cases h with
  | @arguments kind args haccepts => exact ⟨.check kind, args.length, rfl, hname, haccepts⟩
  | @parts kind parts haccepts => exact ⟨.combinator kind, parts.length, rfl, hname, haccepts⟩
  | @pattern pattern detail _ herror => exact ⟨pattern, detail, rfl, hname, herror⟩

/-- And the check at the end of a call reports it there. -/
theorem shows_checked {α : Type} {mistake? : α → Option Mistake} {make : α → Predicate}
    {value : α} {rest : List Char} (hmake : (make value).mistake? = mistake? value)
    (hcs : Unblanked cs) (hname : cs.takeWhile isNameChar = (make value).name.toList) :
    (checked mistake? cs make value rest).Shows cs := by
  rw [checked]
  cases hmistake : mistake? value with
  | none => exact trivial
  | some mistake =>
    have hfault := Predicate.fault_of_mistake? (hmake.trans hmistake)
    exact ⟨[], rfl, hcs, hfault.evidence hname []⟩

/-- **Calls and lists of calls**, the two readers taking turns, with more fuel
than there is text. -/
theorem shows_read (fuel : Nat) :
    (∀ cs, Unblanked cs → cs.length < fuel → (readCall fuel cs).Shows cs) ∧
      ∀ cs : List Char, cs.length + 1 < fuel → (readCalls fuel cs).Shows cs := by
  induction fuel with
  | zero =>
    exact ⟨fun _ _ hf => absurd hf (Nat.not_lt_zero _), fun _ hf => absurd hf (Nat.not_lt_zero _)⟩
  | succ fuel ih =>
    obtain ⟨ihCall, ihCalls⟩ := ih
    constructor
    · intro cs hcs hf
      rw [readCall]
      refine (shows_readHead hcs).andThen fun matcher inside hhead => ?_
      have hinside : inside <:+ cs := (stays_readHead cs).suffix hhead
      obtain ⟨blank, hb, heq⟩ := Grammar.readHead_eq_done_iff.mp hhead
      have hname : cs.takeWhile isNameChar = matcher.name.toList := by
        rw [heq]
        exact (Grammar.span_name matcher hb inside).1
      have hlt : inside.length + 1 < cs.length := by
        rw [heq]
        exact Grammar.length_lt_of_head matcher blank inside
      have hskip := Text.skipBlank_length_le inside
      cases matcher with
      | combinator kind =>
        have hitems : (readItems (readCalls fuel) inside).Shows inside :=
          shows_readItems (ihCalls (skipBlank inside) (by omega))
        exact (hitems.of_suffix hinside).andThen fun parts rest _ => shows_checked rfl hcs hname
      | check kind =>
        have hitems : (readItems (readLiterals (inside.length + 1)) inside).Shows inside :=
          shows_readItems (shows_readLiterals (by omega))
        exact (hitems.of_suffix hinside).andThen fun args rest _ => shows_checked rfl hcs hname
    · intro cs hf
      rw [readCalls]
      have hskip := skipBlank_suffix cs
      have hpart := ihCall (skipBlank cs) (unblanked_skipBlank cs)
        (by have := hskip.length_le; omega)
      refine (hpart.of_suffix hskip).andThen fun part rest hcall => ?_
      have hrest : rest <:+ cs := (((stays_read fuel).1 (skipBlank cs)).suffix hcall).trans hskip
      refine ((shows_readSeparator rest).of_suffix hrest).andThen fun closed more hseparator => ?_
      cases closed with
      | true => exact trivial
      | false =>
        have hmore : more <:+ cs := ((stays_readSeparator rest).suffix hseparator).trans hrest
        have hlt := length_lt_of_readSeparator hseparator
        have hle := hrest.length_le
        have hnext := ihCalls more (by omega)
        exact (hnext.of_suffix hmore).andThen fun parts left _ => trivial

/-- **The reader of expressions shows the evidence** of every mistake. -/
theorem shows_readExpression (text : List Char) : (readExpression text).Shows text := by
  have hskip := skipBlank_suffix text
  have hlt : (skipBlank text).length < text.length + 1 := Nat.lt_succ_of_le hskip.length_le
  have hcall := (shows_read _).1 (skipBlank text) (unblanked_skipBlank text) hlt
  refine (hcall.of_suffix hskip).andThen fun predicate rest hread => ?_
  have hrest : rest <:+ text := (((stays_read _).1 (skipBlank text)).suffix hread).trans hskip
  obtain ⟨before, hbefore⟩ := (skipBlank_suffix rest).trans hrest
  have hplace := unblanked_skipBlank rest
  split
  · exact trivial
  · next c more heq =>
    refine ⟨before, heq ▸ hbefore, heq ▸ hplace, ?_⟩
    by_cases hc : c = ')'
    · subst hc
      exact .inr rfl
    · rw [Mistake.kind, if_neg hc]
      exact .inl ⟨c, rfl, .inl rfl⟩

/-! ## Parsing -/

/-- **Errors point at their evidence.** The position reported is where some first
part of the expression ends. It is the end of the whole, or the place of a
character that is not blank, and what stands there is evidence of the mistake.
-/
theorem evidence_of_error {expression : String} {e : ParseError}
    (h : parse expression = .error e) :
    ∃ before place : List Char, expression.toList = before ++ place ∧
      e.position = Text.byteSize before ∧ e.position ≤ expression.utf8ByteSize ∧
      (e.position = expression.utf8ByteSize ∧ place = [] ∨
        ∃ c rest, place = c :: rest ∧ isBlank c = false) ∧
      Evidence e.mistake.reason before place e.mistake.kind := by
  obtain ⟨place, rest, hread, hposition⟩ := parse_eq_error_iff.mp h
  have hshows := shows_readExpression expression.toList
  rw [hread] at hshows
  obtain ⟨before, hbefore, hplace, hevidence⟩ := hshows
  have hsize : expression.utf8ByteSize = Text.byteSize before + Text.byteSize place := by
    rw [← Text.byteSize_toList, ← hbefore, Text.byteSize_append]
  rw [Text.byteSize_toList, hsize, Nat.add_sub_cancel] at hposition
  refine ⟨before, place, hbefore.symm, hposition, by omega, ?_, hevidence⟩
  cases place with
  | nil =>
    rw [Text.byteSize_nil, Nat.add_zero] at hsize
    exact .inl ⟨hposition.trans hsize.symm, rfl⟩
  | cons c more => exact .inr ⟨c, more, rfl, hplace c rfl⟩

end

/-- The name stands before the place, behind a character of two bytes, with a
blank of three bytes in between. -/
theorem evidence_of_error_ideographic :
    parse "AllOf(EqualTo(é), Not\u3000x" = .error ⟨.openingExpected "Not", 25⟩ ∧
      ∃ before place : List Char, "AllOf(EqualTo(é), Not\u3000x".toList = before ++ place ∧
        25 = Text.byteSize before ∧ 25 ≤ "AllOf(EqualTo(é), Not\u3000x".utf8ByteSize ∧
        (25 = "AllOf(EqualTo(é), Not\u3000x".utf8ByteSize ∧ place = [] ∨
          ∃ c rest, place = c :: rest ∧ isBlank c = false) ∧
        Evidence "expected '(' after 'Not'" before place .unexpectedInput := by
  have hparse : parse "AllOf(EqualTo(é), Not\u3000x" = .error ⟨.openingExpected "Not", 25⟩ := by
    decide +kernel
  exact ⟨hparse, evidence_of_error hparse⟩

end Matcher
end Scenario
