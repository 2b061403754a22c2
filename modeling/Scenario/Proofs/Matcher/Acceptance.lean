import Scenario.Proofs.Matcher.Literal

/-!
# The reader accepts exactly the grammar

Every successful reading has a derivation behind it (`call_of_readCall`), by
induction on the fuel, and every derivation is read with enough of it
(`readable_of_call`), by induction on the derivation. The fuel a call needs
is the length of its text: a nested call is at least a name and a
parenthesis shorter, and each further item a comma.

`parse_eq_ok_iff` is the two together: an expression is parsed to a
predicate exactly if it derives it.
-/

namespace Scenario
namespace Matcher

/-! ## Readings in sequence -/

namespace Reading

variable {α β : Type}

@[simp] theorem andThen_done (value : α) (rest : List Char) (next : α → List Char → Reading β) :
    (done value rest).andThen next = next value rest := rfl

@[simp] theorem andThen_failed (mistake : Mistake) (place rest : List Char)
    (next : α → List Char → Reading β) :
    (failed mistake place rest).andThen next = failed mistake place rest := rfl

/-- A reading in two steps is done if both are. -/
theorem andThen_eq_done_iff {r : Reading α} {next : α → List Char → Reading β} {b : β}
    {rest : List Char} :
    r.andThen next = done b rest ↔ ∃ a mid, r = done a mid ∧ next a mid = done b rest := by
  cases r with
  | done a mid =>
    constructor
    · exact fun h => ⟨a, mid, rfl, h⟩
    · rintro ⟨_, _, heq, h⟩
      cases heq
      exact h
  | failed mistake place left =>
    constructor
    · exact fun h => nomatch h
    · rintro ⟨_, _, heq, -⟩
      cases heq

end Reading

namespace Grammar

open Text (Blanks skipBlank)

theorem checked_eq_done_iff {α β : Type} {mistake? : α → Option Mistake}
    {place rest rest' : List Char} {make : α → β} {value : α} {b : β} :
    checked mistake? place make value rest = .done b rest' ↔
      mistake? value = none ∧ make value = b ∧ rest = rest' := by
  unfold checked
  cases mistake? value <;> simp

/-! ## Separators and heads -/

/-- **A separator is read**, with the blanks before it. -/
theorem readSeparator_eq_done_iff {cs more : List Char} {closed : Bool} :
    readSeparator cs = .done closed more ↔
      ∃ blank, Blanks blank ∧ cs = blank ++ (if closed then ')' else ',') :: more := by
  constructor
  · intro h
    obtain ⟨blank, hb, heq⟩ := Text.exists_blanks_append_skipBlank cs
    unfold readSeparator at h
    refine ⟨blank, hb, ?_⟩
    split at h
    · next hskip => cases h; rw [heq, hskip]; rfl
    · next hskip => cases h; rw [heq, hskip]; rfl
    · cases h
    · cases h
  · rintro ⟨blank, hb, rfl⟩
    unfold readSeparator
    rw [hb.skipBlank_append]
    cases closed
    · rw [if_neg Bool.false_ne_true, Text.skipBlank_cons (by decide)]; rfl
    · rw [if_pos rfl, Text.skipBlank_cons (by decide)]; rfl

/-- **The head of a call is the name of a matcher**, blanks, and the opening
parenthesis. -/
theorem readHead_eq_done_iff {cs inside : List Char} {m : MatcherName} :
    readHead cs = .done m inside ↔
      ∃ blank, Blanks blank ∧ cs = m.name.toList ++ (blank ++ '(' :: inside) := by
  constructor
  · intro h
    rw [readHead] at h
    split at h
    · split at h <;> cases h
    · split at h
      · cases h
      · next matcher hm =>
        obtain ⟨blank, hb, heq⟩ := Text.exists_blanks_append_skipBlank (cs.dropWhile isNameChar)
        split at h
        · next hskip =>
          cases h
          refine ⟨blank, hb, ?_⟩
          rw [MatcherName.name_of_ofName? hm, String.toList_ofList, ← hskip, ← heq,
            List.takeWhile_append_dropWhile]
        · cases h
  · rintro ⟨blank, hb, rfl⟩
    obtain ⟨htake, hdrop⟩ := span_name m hb inside
    have hne : m.name.isEmpty = false := by
      rw [← Bool.not_eq_true, String.isEmpty_iff]
      intro he
      exact name_ne_nil m (by rw [he]; rfl)
    simp only [readHead, htake, hdrop, String.ofList_toList, hne, m.ofName?_name,
      hb.skipBlank_append, Text.skipBlank_cons isBlank_opening, Bool.false_eq_true, if_false]

/-! ## Soundness

What is read is derived, whatever the fuel. -/

/-- Blanks may be put before a list. -/
theorem Separated.append_blanks {α : Type} {Item : List Char → α → List Char → Prop}
    {blank cs rest : List Char} {xs : List α} (hb : Blanks blank)
    (h : Separated Item cs xs rest) : Separated Item (blank ++ cs) xs rest := by
  have happ : ∀ {lead : List Char}, Blanks lead → Blanks (blank ++ lead) := fun hl c hc =>
    (List.mem_append.mp hc).elim (hb c) (hl c)
  cases h with
  | last hl hi ht => rw [← List.append_assoc]; exact .last (happ hl) hi ht
  | more hl hi ht hnext => rw [← List.append_assoc]; exact .more (happ hl) hi ht hnext

/-- The items of a call are derived if the lists that are read are. -/
theorem bracketed_of_readItems {α : Type} {Item : List Char → α → List Char → Prop}
    {read : List Char → Reading (List α)}
    (hread : ∀ {cs xs rest}, read cs = .done xs rest → Separated Item cs xs rest)
    {cs rest : List Char} {xs : List α} (h : readItems read cs = .done xs rest) :
    Bracketed Item cs xs rest := by
  obtain ⟨blank, hb, heq⟩ := Text.exists_blanks_append_skipBlank cs
  unfold readItems at h
  split at h
  · next hskip =>
    cases h
    rw [heq, hskip]
    exact .none hb
  · next hne =>
    refine .some (by rw [heq]; exact (hread h).append_blanks hb) ?_
    rintro blank' more hb' rfl
    exact hne more (by rw [hb'.skipBlank_append, Text.skipBlank_cons (by decide)])

/-- **Literals that are read are derived.** -/
theorem separated_of_readLiterals {fuel : Nat} {cs rest : List Char} {args : List String}
    (h : readLiterals fuel cs = .done args rest) : Separated Literal cs args rest := by
  induction fuel generalizing cs args with
  | zero => cases h
  | succ fuel ih =>
    obtain ⟨value, mid, hlit, hafter⟩ := Reading.andThen_eq_done_iff.mp h
    obtain ⟨closed, next, hsep, hlist⟩ := Reading.andThen_eq_done_iff.mp hafter
    rcases literal_of_readLiteral hlit with rfl | ⟨sep, more, lead, item, trail, hs, rfl, rfl, hl,
      ht, hitem⟩
    · cases hsep
    · obtain ⟨blank, hb, heq⟩ := readSeparator_eq_done_iff.mp hsep
      -- the literal already ends at the separator
      have hblank : blank = [] := by
        cases blank with
        | nil => rfl
        | cons b blank =>
          obtain ⟨rfl, -⟩ := List.cons.inj heq
          have := hb sep List.mem_cons_self
          rw [hs.isBlank] at this
          cases this
      subst hblank
      rw [List.nil_append] at heq
      rw [heq] at hitem
      cases closed with
      | true => cases hlist; exact .last hl hitem ht
      | false =>
        obtain ⟨values, left, hnext, hdone⟩ := Reading.andThen_eq_done_iff.mp hlist
        cases hdone
        exact .more hl hitem ht (ih hnext)

/-- **Calls that are read are derived**, and lists of calls as well: the
two readers take turns, with less fuel each time. -/
theorem derived_of_read [PatternLibrary] (fuel : Nat) :
    (∀ {cs t rest}, readCall fuel cs = .done t rest → Call cs t rest) ∧
      ∀ {cs parts rest}, readCalls fuel cs = .done parts rest → Separated Call cs parts rest := by
  induction fuel with
  | zero => exact ⟨fun h => (nomatch h), fun h => (nomatch h)⟩
  | succ fuel ih =>
    obtain ⟨ihCall, ihCalls⟩ := ih
    constructor
    · intro cs t rest h
      rw [readCall] at h
      obtain ⟨m, inside, hhead, hcall⟩ := Reading.andThen_eq_done_iff.mp h
      obtain ⟨blank, hb, heq⟩ := readHead_eq_done_iff.mp hhead
      rw [heq]
      cases m with
      | combinator kind =>
        obtain ⟨parts, mid, hitems, hchecked⟩ := Reading.andThen_eq_done_iff.mp hcall
        obtain ⟨hnone, rfl, rfl⟩ := checked_eq_done_iff.mp hchecked
        exact .combine hb (bracketed_of_readItems ihCalls hitems)
          (partsMistake?_eq_none_iff.mp hnone)
      | check kind =>
        obtain ⟨args, mid, hitems, hchecked⟩ := Reading.andThen_eq_done_iff.mp hcall
        obtain ⟨hnone, rfl, rfl⟩ := checked_eq_done_iff.mp hchecked
        exact .check hb (bracketed_of_readItems separated_of_readLiterals hitems)
          (argumentMistake?_eq_none_iff.mp hnone)
    · intro cs parts rest h
      rw [readCalls] at h
      obtain ⟨part, mid, hpart, hafter⟩ := Reading.andThen_eq_done_iff.mp h
      obtain ⟨closed, next, hsep, hlist⟩ := Reading.andThen_eq_done_iff.mp hafter
      obtain ⟨lead, hl, heq⟩ := Text.exists_blanks_append_skipBlank cs
      obtain ⟨trail, ht, hmid⟩ := readSeparator_eq_done_iff.mp hsep
      rw [hmid] at hpart
      rw [heq]
      cases closed with
      | true => cases hlist; exact .last hl (ihCall hpart) ht
      | false =>
        obtain ⟨parts', left, hnext, hdone⟩ := Reading.andThen_eq_done_iff.mp hlist
        cases hdone
        exact .more hl (ihCall hpart) ht (ihCalls hnext)

/-- A call that is read is derived. -/
theorem call_of_readCall [PatternLibrary] {fuel : Nat} {cs rest : List Char} {t : Predicate}
    (h : readCall fuel cs = .done t rest) : Call cs t rest :=
  (derived_of_read fuel).1 h

/-! ## Completeness

What is derived is read, given as much fuel as there are characters. -/

/-- Skipping blanks first does not change what is read. -/
theorem readLiterals_skipBlank (fuel : Nat) (cs : List Char) :
    readLiterals (fuel + 1) (skipBlank cs) = readLiterals (fuel + 1) cs := by
  rw [readLiterals, readLiterals, readLiteral, readLiteral, Text.skipBlank_skipBlank]

/-- Nor what calls are. -/
theorem readCalls_skipBlank [PatternLibrary] (fuel : Nat) (cs : List Char) :
    readCalls (fuel + 1) (skipBlank cs) = readCalls (fuel + 1) cs := by
  rw [readCalls, readCalls, Text.skipBlank_skipBlank]

/-- A literal is not longer than the text it begins. -/
theorem Literal.length_le {cs rest : List Char} {value : String} (h : Literal cs value rest) :
    rest.length ≤ cs.length := by
  cases h with
  | quoted => simp only [List.length_cons, List.length_append]; omega
  | bare => simp only [List.length_append]; omega

/-- A call closed at once has no items. -/
theorem readItems_of_blanks {α : Type} {read : List Char → Reading (List α)} {blank : List Char}
    (hb : Blanks blank) (rest : List Char) :
    readItems read (blank ++ ')' :: rest) = .done [] rest := by
  unfold readItems
  rw [hb.skipBlank_append, Text.skipBlank_cons (by decide)]
  rfl

/-- Otherwise its items are what the reader of lists reads. -/
theorem readItems_of_ne_blanks {α : Type} {read : List Char → Reading (List α)} {cs : List Char}
    (hne : ∀ blank more, Blanks blank → cs ≠ blank ++ ')' :: more) :
    readItems read cs = read (skipBlank cs) := by
  unfold readItems
  split
  · next more hskip =>
    obtain ⟨blank, hb, heq⟩ := Text.exists_blanks_append_skipBlank cs
    exact absurd (by rw [heq, hskip]) (hne blank more hb)
  · rfl

theorem readSeparator_comma {blank : List Char} (hb : Blanks blank) (next : List Char) :
    readSeparator (blank ++ ',' :: next) = .done false next :=
  readSeparator_eq_done_iff.mpr ⟨blank, hb, rfl⟩

theorem readSeparator_closing {blank : List Char} (hb : Blanks blank) (rest : List Char) :
    readSeparator (blank ++ ')' :: rest) = .done true rest :=
  readSeparator_eq_done_iff.mpr ⟨blank, hb, rfl⟩

/-- **Derived literals are read**, with as much fuel as they are long. -/
theorem readLiterals_of_separated {cs rest : List Char} {args : List String}
    (h : Separated Literal cs args rest) {fuel : Nat} (hf : cs.length < fuel) :
    readLiterals fuel cs = .done args rest := by
  induction h generalizing fuel with
  | @last lead item trail rest value hl hitem ht =>
    obtain ⟨fuel, rfl⟩ := Nat.exists_eq_add_one_of_ne_zero (Nat.ne_zero_of_lt hf)
    have hsep : readSeparator (')' :: rest) = .done true rest :=
      readSeparator_closing Blanks.nil rest
    rw [readLiterals, readLiteral_of_literal hl hitem ht (.inr rfl), Reading.andThen_done, hsep,
      Reading.andThen_done, if_pos rfl]
  | @more lead item trail next rest value values hl hitem ht _ ih =>
    obtain ⟨fuel, rfl⟩ := Nat.exists_eq_add_one_of_ne_zero (Nat.ne_zero_of_lt hf)
    have hsep : readSeparator (',' :: next) = .done false next :=
      readSeparator_comma Blanks.nil next
    have hlen : next.length < fuel := by
      have := hitem.length_le
      simp only [List.length_append, List.length_cons] at this hf
      omega
    rw [readLiterals, readLiteral_of_literal hl hitem ht (.inl rfl), Reading.andThen_done, hsep,
      Reading.andThen_done, if_neg Bool.false_ne_true, ih hlen, Reading.andThen_done]

/-- And so are the arguments of a check. -/
theorem readItems_of_bracketed {cs rest : List Char} {args : List String}
    (h : Bracketed Literal cs args rest) :
    readItems (readLiterals (cs.length + 1)) cs = .done args rest := by
  cases h with
  | none hb => exact readItems_of_blanks hb rest
  | some hlist hne =>
    rw [readItems_of_ne_blanks hne, readLiterals_skipBlank]
    exact readLiterals_of_separated hlist (Nat.lt_succ_self _)

/-- No blanks stand before a name. -/
theorem skipBlank_name (m : MatcherName) (more : List Char) :
    skipBlank (m.name.toList ++ more) = m.name.toList ++ more := by
  obtain ⟨c, name, hname⟩ := List.exists_cons_of_ne_nil (name_ne_nil m)
  have hc : isNameChar c = true := isNameChar_of_mem_name (m := m) (by rw [hname]; simp)
  rw [hname, List.cons_append]
  refine Text.skipBlank_cons ?_
  cases hb : Text.isBlank c with
  | false => rfl
  | true => rw [isNameChar_eq_false_of_isBlank hb] at hc; cases hc

/-- What stands inside a call is shorter by its name and a parenthesis. -/
theorem length_lt_of_head (m : MatcherName) (blank inside : List Char) :
    inside.length + 1 < (m.name.toList ++ (blank ++ '(' :: inside)).length := by
  have := List.length_pos_iff.mpr (name_ne_nil m)
  simp only [List.length_append, List.length_cons]
  omega

/-- **What a derivation of a call gives the reader**: nothing to skip before
it, less text after it, and the call itself, with as much fuel as there is
text. -/
structure Readable [PatternLibrary] (cs : List Char) (t : Predicate) (rest : List Char) : Prop where
  /-- No blanks before the call. -/
  unblanked : skipBlank cs = cs
  /-- A call takes characters. -/
  shorter : rest.length < cs.length
  /-- The reader takes the same ones. -/
  read : ∀ fuel, cs.length < fuel → readCall fuel cs = .done t rest

/-- A call is readable if its items are, one level further in. -/
theorem readable_of_head [PatternLibrary] {m : MatcherName} {blank inside rest : List Char}
    {t : Predicate} (hlen : rest.length ≤ inside.length)
    (h : ∀ fuel, inside.length + 1 < fuel →
      readCall (fuel + 1) (m.name.toList ++ (blank ++ '(' :: inside)) = .done t rest) :
    Readable (m.name.toList ++ (blank ++ '(' :: inside)) t rest where
  unblanked := skipBlank_name m _
  shorter := by have := length_lt_of_head m blank inside; omega
  read := by
    intro fuel hf
    obtain ⟨fuel, rfl⟩ := Nat.exists_eq_add_one_of_ne_zero (Nat.ne_zero_of_lt hf)
    exact h fuel (by have := length_lt_of_head m blank inside; omega)

/-- Lists of literals are not longer than the text they begin. -/
theorem length_le_of_separated {cs rest : List Char} {args : List String}
    (h : Separated Literal cs args rest) : rest.length ≤ cs.length := by
  induction h with
  | last _ hi _ =>
    have := hi.length_le
    simp only [List.length_append, List.length_cons] at this ⊢
    omega
  | more _ hi _ _ ih =>
    have := hi.length_le
    simp only [List.length_append, List.length_cons] at this ⊢
    omega

/-- The same of a list of calls that `read` reads: the list may be read one
level further in, so it takes a little more fuel. -/
def ReadableList (read : Nat → List Char → Reading (List Predicate)) (cs : List Char)
    (parts : List Predicate) (rest : List Char) : Prop :=
  rest.length ≤ cs.length ∧ ∀ fuel, cs.length + 1 < fuel → read fuel cs = .done parts rest

/-- **Derived calls are readable.** The induction goes through the items of
a call and the lists in it, each with its own reader. -/
theorem readable_of_call [PatternLibrary] {cs rest : List Char} {t : Predicate}
    (h : Call cs t rest) : Readable cs t rest := by
  refine @Call.rec _ (fun cs t rest _ => Readable cs t rest)
    (fun cs parts rest _ => ReadableList (fun fuel => readItems (readCalls fuel)) cs parts rest)
    (fun cs parts rest _ => ReadableList readCalls cs parts rest)
    ?check ?combine ?none ?some ?last ?more cs t rest h
  case check =>
    intro kind blank inside rest args hb hitems hadmits
    have hlen : rest.length ≤ inside.length := by
      cases hitems with
      | none => simp only [List.length_append, List.length_cons]; omega
      | some hlist => exact length_le_of_separated hlist
    refine readable_of_head (m := .check kind) hlen fun fuel _ => ?_
    rw [readCall, readHead_eq_done_iff.mpr ⟨blank, hb, rfl⟩, Reading.andThen_done]
    dsimp only
    rw [readItems_of_bracketed hitems, Reading.andThen_done]
    exact checked_eq_done_iff.mpr ⟨argumentMistake?_eq_none_iff.mpr hadmits, rfl, rfl⟩
  case combine =>
    rintro kind blank inside rest parts hb - haccepts ⟨hlen, hread⟩
    refine readable_of_head (m := .combinator kind) hlen fun fuel hf => ?_
    rw [readCall, readHead_eq_done_iff.mpr ⟨blank, hb, rfl⟩, Reading.andThen_done]
    dsimp only at hread ⊢
    rw [hread fuel hf, Reading.andThen_done]
    exact checked_eq_done_iff.mpr ⟨partsMistake?_eq_none_iff.mpr haccepts, rfl, rfl⟩
  case none =>
    intro blank rest hb
    refine ⟨by simp only [List.length_append, List.length_cons]; omega, fun fuel _ => ?_⟩
    exact readItems_of_blanks hb _
  case some =>
    intro text rest parts _ hne ih
    refine ⟨ih.1, fun fuel hf => ?_⟩
    obtain ⟨fuel, rfl⟩ := Nat.exists_eq_add_one_of_ne_zero (Nat.ne_zero_of_lt hf)
    dsimp only
    rw [readItems_of_ne_blanks hne, readCalls_skipBlank]
    exact ih.2 _ hf
  case last =>
    intro lead item trail rest part hl _ ht ih
    have hlen := ih.shorter
    simp only [List.length_append, List.length_cons] at hlen
    refine ⟨by simp only [List.length_append]; omega, fun fuel hf => ?_⟩
    obtain ⟨fuel, rfl⟩ := Nat.exists_eq_add_one_of_ne_zero (Nat.ne_zero_of_lt hf)
    rw [List.length_append] at hf
    rw [readCalls, hl.skipBlank_append, ih.unblanked, ih.read fuel (by omega),
      Reading.andThen_done, readSeparator_closing ht, Reading.andThen_done, if_pos rfl]
  case more =>
    intro lead item trail next rest part parts hl _ ht _ ih ihNext
    have hlen := ih.shorter
    simp only [List.length_append, List.length_cons] at hlen
    have hnext := ihNext.1
    refine ⟨by simp only [List.length_append]; omega, fun fuel hf => ?_⟩
    obtain ⟨fuel, rfl⟩ := Nat.exists_eq_add_one_of_ne_zero (Nat.ne_zero_of_lt hf)
    rw [List.length_append] at hf
    rw [readCalls, hl.skipBlank_append, ih.unblanked, ih.read fuel (by omega),
      Reading.andThen_done, readSeparator_comma ht, Reading.andThen_done,
      if_neg Bool.false_ne_true, ihNext.2 fuel (by omega), Reading.andThen_done]

/-! ## Whole expressions -/

/-- **Reading an expression is deriving its predicate.** -/
theorem readExpression_eq_done_iff [PatternLibrary] {text rest : List Char} {t : Predicate} :
    readExpression text = .done t rest ↔ Derives text t ∧ rest = [] := by
  constructor
  · intro h
    obtain ⟨p, trail, hcall, hend⟩ := Reading.andThen_eq_done_iff.mp h
    obtain ⟨lead, hl, heq⟩ := Text.exists_blanks_append_skipBlank text
    split at hend
    · next hskip =>
      cases hend
      exact ⟨⟨lead, _, trail, hl, Text.skipBlank_eq_nil_iff.mp hskip, heq,
        call_of_readCall hcall⟩, rfl⟩
    · cases hend
  · rintro ⟨⟨lead, call, trail, hl, ht, rfl, hcall⟩, rfl⟩
    have hr := readable_of_call hcall
    rw [readExpression, hl.skipBlank_append, hr.unblanked,
      hr.read _ (by rw [List.length_append]; omega), Reading.andThen_done,
      Text.skipBlank_eq_nil_iff.mpr ht]

end Grammar

/-- **The parser accepts exactly its grammar.** An expression is parsed to a
predicate if and only if it derives it. -/
theorem parse_eq_ok_iff [PatternLibrary] (expression : String) (t : Predicate) :
    parse expression = .ok t ↔ Grammar.Derives expression.toList t := by
  have hread : parse expression = .ok t ↔
      ∃ rest, readExpression expression.toList = .done t rest := by
    rw [parse, Parser.next, Parser.start]
    cases readExpression expression.toList with
    | done p rest => simp
    | failed mistake place rest => simp
  rw [hread]
  simp only [Grammar.readExpression_eq_done_iff, exists_eq_right]

end Matcher
end Scenario
