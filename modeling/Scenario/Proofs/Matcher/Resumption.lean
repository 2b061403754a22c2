import Scenario.Proofs.Matcher.Acceptance
import Scenario.Proofs.Text.Offset

/-!
# Resumption — a parser that is called again

A parser keeps what it has not read, also when it fails. Whatever stops a
reader, what it leaves unread and the place it reports are ends of the text
it was given (`Reading.Stays`). This is so of one reader after another if it is
so of each (`Reading.Stays.andThen`), and thus of calls within calls
(`stays_read`) and of a whole expression (`stays_readExpression`).

So a parser always stands between two characters, and never goes back. A
reader knows only the text that is left, so a call does what a new parser
does on that text (`Parser.next_eq`), and after a success there is none.
-/

namespace Scenario
namespace Matcher

open Text (skipBlank)

/-! ## Readers stay in their text -/

namespace Reading

variable {α β : Type} {cs text place rest : List Char} {mistake : Mistake} {value : α}

/-- **A reading stays in a text**: what it leaves unread is an end of it, and
so is the place at which it fails. -/
def Stays (cs : List Char) : Reading α → Prop
  | done _ rest => rest <:+ cs
  | failed _ place rest => place <:+ cs ∧ rest <:+ cs

/-- It then stays in any text with that one at its end. -/
theorem Stays.of_suffix {r : Reading α} (h : r.Stays cs) (hcs : cs <:+ text) : r.Stays text := by
  cases r with
  | done value rest => exact h.trans hcs
  | failed mistake place rest => exact ⟨h.1.trans hcs, h.2.trans hcs⟩

/-- If it is done, what it leaves is an end of the text. -/
theorem Stays.suffix {r : Reading α} (h : r.Stays cs) (hr : r = .done value rest) : rest <:+ cs := by
  rw [hr] at h
  exact h

/-- **One reader after another** stays in the text of the first, if the
second does whatever is left to it. -/
theorem Stays.andThen {r : Reading α} {next : α → List Char → Reading β} (h : r.Stays cs)
    (hnext : ∀ value rest, rest <:+ cs → (next value rest).Stays cs) : (r.andThen next).Stays cs := by
  cases r with
  | done value rest => exact hnext value rest h
  | failed mistake place rest => exact h

end Reading

open Reading (Stays)

variable {cs : List Char}

theorem skipBlank_suffix (cs : List Char) : skipBlank cs <:+ cs := List.dropWhile_suffix _

theorem stays_readSeparator (text : List Char) : (readSeparator text).Stays text := by
  have hskip := skipBlank_suffix text
  rw [readSeparator]
  split
  · next rest heq => exact (List.suffix_cons _ _).trans (heq ▸ hskip)
  · next rest heq => exact (List.suffix_cons _ _).trans (heq ▸ hskip)
  · exact ⟨List.nil_suffix, List.nil_suffix⟩
  · next c rest _ _ heq => exact ⟨heq ▸ hskip, heq ▸ hskip⟩

theorem stays_readBare (cs : List Char) : (readBare cs).Stays cs := by
  rw [readBare]
  obtain ⟨heq, -⟩ := Grammar.bareSpan_spec (show bareSpan 0 cs = _ from rfl)
  exact ⟨_, heq.symm⟩

theorem stays_readLiteral (text : List Char) : (readLiteral text).Stays text := by
  have hskip := skipBlank_suffix text
  rw [readLiteral]
  dsimp only
  split
  · next inside heq =>
    split
    · exact ⟨hskip, List.nil_suffix⟩
    · next value rest hquoted =>
      -- what follows the closing quote, or the whole argument again
      obtain ⟨raw, -, hinside⟩ := Grammar.readQuoted_eq_some_iff.mp hquoted
      have hrest : rest <:+ text := by
        rw [heq, hinside] at hskip
        have hquote : rest <:+ '\'' :: rest := List.suffix_cons _ _
        exact (hquote.trans (List.suffix_append _ _)).trans ((List.suffix_cons _ _).trans hskip)
      split
      · exact (skipBlank_suffix rest).trans hrest
      · exact (skipBlank_suffix rest).trans hrest
      · exact (skipBlank_suffix rest).trans hrest
      · exact (stays_readBare _).of_suffix hskip
  · split
    · exact ⟨hskip, hskip⟩
    · exact (stays_readBare _).of_suffix hskip

theorem stays_readLiterals (fuel : Nat) (cs : List Char) : (readLiterals fuel cs).Stays cs := by
  induction fuel generalizing cs with
  | zero => exact ⟨List.suffix_rfl, List.suffix_rfl⟩
  | succ fuel ih =>
    refine (stays_readLiteral cs).andThen fun value rest hrest => ?_
    refine ((stays_readSeparator rest).of_suffix hrest).andThen fun closed more hmore => ?_
    cases closed with
    | true => exact hmore
    | false => exact ((ih more).of_suffix hmore).andThen fun values left hleft => hleft

theorem stays_readHead (cs : List Char) : (readHead cs).Stays cs := by
  have hrest : cs.dropWhile isNameChar <:+ cs := List.dropWhile_suffix _
  have hskip := (skipBlank_suffix (cs.dropWhile isNameChar)).trans hrest
  rw [readHead]
  split
  · split <;> exact ⟨hrest, hrest⟩
  · split
    · exact ⟨List.suffix_rfl, hrest⟩
    · split
      · next inside heq => exact (List.suffix_cons _ _).trans (heq ▸ hskip)
      · exact ⟨hskip, hskip⟩

theorem stays_readItems {α : Type} {read : List Char → Reading (List α)}
    (hread : ∀ cs, (read cs).Stays cs) (text : List Char) : (readItems read text).Stays text := by
  have hskip := skipBlank_suffix text
  rw [readItems]
  split
  · next rest heq => exact (List.suffix_cons _ _).trans (heq ▸ hskip)
  · exact (hread _).of_suffix hskip

/-- A mistake in a call is reported where the call begins. -/
theorem stays_checked {α β : Type} {mistake? : α → Option Mistake} {make : α → β} {value : α}
    {rest : List Char} (h : rest <:+ cs) : (checked mistake? cs make value rest).Stays cs := by
  rw [checked]
  split
  · exact ⟨List.suffix_rfl, h⟩
  · exact h

variable [PatternLibrary]

/-- **Calls and lists of calls stay in their text**: the two readers take
turns, with less fuel each time. -/
theorem stays_read (fuel : Nat) :
    (∀ cs, (readCall fuel cs).Stays cs) ∧ ∀ cs, (readCalls fuel cs).Stays cs := by
  induction fuel with
  | zero =>
    exact ⟨fun _ => ⟨List.suffix_rfl, List.suffix_rfl⟩, fun _ => ⟨List.suffix_rfl, List.suffix_rfl⟩⟩
  | succ fuel ih =>
    obtain ⟨ihCall, ihCalls⟩ := ih
    constructor
    · intro cs
      rw [readCall]
      refine (stays_readHead cs).andThen fun matcher inside hinside => ?_
      cases matcher with
      | combinator kind =>
        have hitems := (stays_readItems ihCalls inside).of_suffix hinside
        exact hitems.andThen fun parts rest hrest => stays_checked hrest
      | check kind =>
        have hitems := (stays_readItems (stays_readLiterals (inside.length + 1)) inside).of_suffix hinside
        exact hitems.andThen fun args rest hrest => stays_checked hrest
    · intro cs
      rw [readCalls]
      have hpart := (ihCall (skipBlank cs)).of_suffix (skipBlank_suffix cs)
      refine hpart.andThen fun part rest hrest => ?_
      refine ((stays_readSeparator rest).of_suffix hrest).andThen fun closed more hmore => ?_
      cases closed with
      | true => exact hmore
      | false => exact ((ihCalls more).of_suffix hmore).andThen fun parts left hleft => hleft

/-- **And so does the reader of expressions.** -/
theorem stays_readExpression (text : List Char) : (readExpression text).Stays text := by
  have hcall := ((stays_read (text.length + 1)).1 (skipBlank text)).of_suffix (skipBlank_suffix text)
  refine hcall.andThen fun predicate rest hrest => ?_
  have hskip := (skipBlank_suffix rest).trans hrest
  split
  · exact List.nil_suffix
  · next heq => exact ⟨heq ▸ hskip, heq ▸ hskip⟩

/-- In a text of which nothing is left there is no call. -/
theorem readExpression_nil : readExpression [] = .failed .literalForCall [] [] := rfl

/-! ## Parsers -/

/-- **An expression is refused exactly if its reading fails**, at the byte where
the place of the mistake begins. -/
theorem parse_eq_error_iff {expression : String} {e : ParseError} :
    parse expression = .error e ↔ ∃ place rest,
      readExpression expression.toList = .failed e.mistake place rest ∧
        e.position = Text.byteSize expression.toList - Text.byteSize place := by
  rw [parse, Parser.next, Parser.start]
  dsimp only [Parser.offsetOf]
  constructor
  · intro h
    split at h
    · cases h
    · next mistake place rest hread =>
      cases h
      exact ⟨place, rest, hread, rfl⟩
  · rintro ⟨place, rest, hread, hposition⟩
    rw [hread]
    dsimp only
    rw [← hposition]

/-- **A mistake is reported between two characters** of the expression. -/
theorem exists_append_of_parse_eq_error {expression : String} {e : ParseError}
    (h : parse expression = .error e) :
    ∃ lead rest : String, expression = lead ++ rest ∧ lead.utf8ByteSize = e.position := by
  obtain ⟨place, left, hread, hposition⟩ := parse_eq_error_iff.mp h
  have hstays := stays_readExpression expression.toList
  rw [hread] at hstays
  obtain ⟨lead, hlead⟩ := hstays.1
  refine ⟨.ofList lead, .ofList place, ?_, ?_⟩
  · rw [← String.ofList_append, hlead, String.ofList_toList]
  · rw [hposition, ← hlead, Text.byteSize_append, Nat.add_sub_cancel, ← Text.byteSize_toList,
      String.toList_ofList]

/-- The same mistake, so many bytes further on. -/
def ParseError.shifted (bytes : Nat) (e : ParseError) : ParseError :=
  { e with position := bytes + e.position }

namespace Parser

/-- The byte offset that a parser stands at. -/
def position (p : Parser) : Nat := p.offsetOf p.rest

/-- The parser of an expression after it was called a number of times. -/
def called (expression : String) : Nat → Parser
  | 0 => start expression
  | n + 1 => (called expression n).next.2

variable {p : Parser} {expression : String}

/-- A call keeps the expression, and what it leaves is an end of what was
left before. -/
theorem next_stays (p : Parser) : p.next.2.source = p.source ∧ p.next.2.rest <:+ p.rest := by
  have hstays := stays_readExpression p.rest
  rw [next]
  cases hread : readExpression p.rest with
  | done predicate rest =>
    rw [hread] at hstays
    exact ⟨rfl, hstays⟩
  | failed mistake place rest =>
    rw [hread] at hstays
    exact ⟨rfl, hstays.2⟩

/-- What is left after some calls is an end of the expression. -/
theorem called_stays (expression : String) (n : Nat) :
    (called expression n).source = expression.toList ∧
      (called expression n).rest <:+ expression.toList := by
  induction n with
  | zero => exact ⟨rfl, List.suffix_rfl⟩
  | succ n ih =>
    obtain ⟨hsource, hrest⟩ := next_stays (called expression n)
    exact ⟨hsource.trans ih.1, hrest.trans ih.2⟩

/-- **A call does what a new parser does on what is left**, with mistakes
reported that much further on. -/
theorem next_eq (h : p.rest <:+ p.source) :
    p.next.1 = (parse (.ofList p.rest)).mapError (·.shifted p.position) := by
  have hstays := stays_readExpression p.rest
  rw [parse, next, next, start, String.toList_ofList]
  dsimp only
  cases hread : readExpression p.rest with
  | done predicate rest => rfl
  | failed mistake place rest =>
    rw [hread] at hstays
    have hplace := Text.byteSize_le_of_suffix hstays.1
    have hrest := Text.byteSize_le_of_suffix h
    have hoffset : p.offsetOf place = p.position + (Text.byteSize p.rest - Text.byteSize place) := by
      rw [position, offsetOf, offsetOf]
      omega
    show Except.error (ParseError.mk mistake (p.offsetOf place)) = _
    rw [hoffset]
    rfl

/-- A call that succeeds leaves nothing unread. -/
theorem rest_of_next_eq_ok {t : Predicate} (h : p.next.1 = .ok t) : p.next.2.rest = [] := by
  rw [next] at h ⊢
  cases hread : readExpression p.rest with
  | done predicate rest => exact (Grammar.readExpression_eq_done_iff.mp hread).2
  | failed mistake place rest =>
    rw [hread] at h
    cases h

/-- With nothing left to read, a call fails and leaves nothing. -/
theorem next_of_rest_eq_nil (h : p.rest = []) :
    p.next.1 = .error ⟨.literalForCall, p.position⟩ ∧ p.next.2.rest = [] := by
  have hread : readExpression p.rest = .failed .literalForCall [] [] := by
    rw [h, readExpression_nil]
  rw [next, hread, position, h]
  exact ⟨rfl, rfl⟩

/-- Nothing is left once a call has succeeded. -/
theorem rest_called_of_ok {n : Nat} {t : Predicate} (h : (called expression n).next.1 = .ok t)
    {m : Nat} (hm : n < m) : (called expression m).rest = [] := by
  induction m, hm using Nat.le_induction with
  | base => exact rest_of_next_eq_ok h
  | succ m _ ih => exact (next_of_rest_eq_nil ih).2

/-- **A parser stands between two characters of its expression**, those before
it having been read. -/
theorem called_between (expression : String) (n : Nat) :
    ∃ read unread : String, expression = read ++ unread ∧
      (called expression n).position = read.utf8ByteSize ∧
      (called expression n).rest = unread.toList := by
  obtain ⟨hsource, front, hrest⟩ := called_stays expression n
  refine ⟨.ofList front, .ofList (called expression n).rest, ?_, ?_, ?_⟩
  · rw [← String.ofList_append, hrest, String.ofList_toList]
  · rw [← Text.byteSize_toList, String.toList_ofList, position, offsetOf, hsource, ← hrest,
      Text.byteSize_append, Nat.add_sub_cancel]
  · rw [String.toList_ofList]

/-- **It never goes back.** -/
theorem position_called_le (expression : String) (n : Nat) :
    (called expression n).position ≤ (called expression (n + 1)).position := by
  obtain ⟨hsource, hrest⟩ := next_stays (called expression n)
  rw [called, position, position, offsetOf, offsetOf, hsource]
  exact Nat.sub_le_sub_left (Text.byteSize_le_of_suffix hrest) _

/-- **After a success it stands at the end**, and each call fails there for
want of a call to read. -/
theorem called_of_ok {n : Nat} {t : Predicate} (h : (called expression n).next.1 = .ok t) {m : Nat}
    (hm : n < m) : (called expression m).position = expression.utf8ByteSize ∧
      (called expression m).next.1 = .error ⟨.literalForCall, expression.utf8ByteSize⟩ := by
  have hrest := rest_called_of_ok h hm
  have hposition : (called expression m).position = expression.utf8ByteSize := by
    rw [position, offsetOf, hrest, (called_stays expression m).1, Text.byteSize_nil,
      Text.byteSize_toList, Nat.sub_zero]
  refine ⟨hposition, ?_⟩
  rw [(next_of_rest_eq_nil hrest).1, hposition]

/-- **Calling a parser again does no harm**, whatever the expression and
however often. Before each call, and so after each one, the parser has read
some first characters of the expression. The call does what a new parser does
on the others, with mistakes reported that much further on, and the parser
does not go back. After a success the expression is read to its end, and from
then on each call fails there with an unexpected end; so one call at most
succeeds. -/
theorem next_resumes (expression : String) :
    (∀ n, ∃ read unread : String, expression = read ++ unread ∧
      (called expression n).position = read.utf8ByteSize ∧
      (called expression n).next.1 = (parse unread).mapError (·.shifted read.utf8ByteSize)) ∧
    (∀ n, (called expression n).position ≤ (called expression (n + 1)).position ∧
      (called expression n).position ≤ expression.utf8ByteSize) ∧
    (∀ n t, (called expression n).next.1 = .ok t → ∀ m > n,
      (called expression m).position = expression.utf8ByteSize ∧
      ∃ mistake, (called expression m).next.1 = .error ⟨mistake, expression.utf8ByteSize⟩ ∧
        mistake.kind = .unexpectedInput) ∧
    ∀ m n t u, (called expression m).next.1 = .ok t → (called expression n).next.1 = .ok u →
      m = n := by
  refine ⟨fun n => ?read, fun n => ⟨position_called_le expression n, ?_⟩, fun n t hok m hm => ?_,
    fun m n t u hm hn => ?once⟩
  case read =>
    obtain ⟨read, unread, heq, hposition, hrest⟩ := called_between expression n
    have hsource := (called_stays expression n).1
    refine ⟨read, unread, heq, hposition, ?_⟩
    rw [← hposition, next_eq (hsource ▸ (called_stays expression n).2), hrest,
      String.ofList_toList]
  · obtain ⟨read, unread, rfl, hposition, -⟩ := called_between expression n
    rw [hposition, String.utf8ByteSize_append]
    exact Nat.le_add_right _ _
  · obtain ⟨hposition, herror⟩ := called_of_ok hok hm
    exact ⟨hposition, .literalForCall, herror, rfl⟩
  case once =>
    -- the later of the two would have failed
    rcases Nat.lt_trichotomy m n with hlt | heq | hlt
    · rw [(called_of_ok hm hlt).2] at hn
      cases hn
    · exact heq
    · rw [(called_of_ok hn hlt).2] at hm
      cases hm

end Parser

end Matcher
end Scenario
