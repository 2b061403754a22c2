import Scenario.Pattern.Search
import Scenario.Proofs.Matcher.Resumption

/-!
# Extension — what stands behind an accepted expression

A derivation keeps what it has read when more text is put behind: every look
ahead, also that of a quote that is closed in a later argument, is settled
before the call it belongs to is closed. So literals, lists and calls derive the
same values from the longer text and leave the added text to be read
(`Literal.append`, `Separated.append`, `Bracketed.append`,
`Call.suffix_and_append`). A list could only be affected by being blank so far,
and it is not, because its closing parenthesis is in the text
(`Separated.closing`).

An expression that is accepted thus stays accepted with blanks behind it, and
with anything else behind it is refused where that begins
(`readExpression_append`).
-/

namespace Scenario
namespace Matcher
namespace Grammar

open Text (Blanks skipBlank isBlank)

variable {cs rest : List Char} (more : List Char)

/-! ## Literals -/

/-- A quote that goes on does so in a longer text. -/
theorem GoesOn.append (h : GoesOn cs) : GoesOn (cs ++ more) := by
  obtain ⟨raw, value, blank, behind, c, hq, hb, hc, hs, rfl⟩ := h
  exact ⟨raw, value, blank, behind ++ more, c, hq, hb, hc, hs, by simp⟩

/-- **A literal is the same** in a longer text. -/
theorem Literal.append {value : String} (h : Literal cs value rest) :
    Literal (cs ++ more) value (rest ++ more) := by
  cases h with
  | @quoted raw value rest hq =>
    rw [List.cons_append, List.append_assoc, List.cons_append]
    exact .quoted hq
  | @bare text value rest hl ht hcall hgo hu =>
    rw [List.append_assoc]
    refine .bare hl ht hcall (fun hquote => ?_) hu
    have hmore := (hgo hquote).append more
    rwa [List.append_assoc] at hmore

/-- What it leaves is an end of the text. -/
theorem Literal.suffix {value : String} (h : Literal cs value rest) : rest <:+ cs := by
  cases h with
  | @quoted raw value rest hq => exact ⟨'\'' :: (raw ++ ['\'']), by simp⟩
  | @bare text value rest hl ht hcall hgo hu => exact List.suffix_append text rest

/-! ## Lists -/

section Lists

variable {α : Type} {Item Item' : List Char → α → List Char → Prop} {xs : List α}

/-- **The closing parenthesis of a list is in its text**, right before what is
left. -/
theorem Separated.closing (hitem : ∀ {cs x rest}, Item cs x rest → rest <:+ cs)
    (h : Separated Item cs xs rest) : ')' :: rest <:+ cs := by
  induction h with
  | @last lead item trail rest x _ hi _ =>
    have htrail : ')' :: rest <:+ trail ++ ')' :: rest := List.suffix_append _ _
    exact (htrail.trans (hitem hi)).trans (List.suffix_append _ _)
  | @more lead item trail next rest x xs _ hi _ _ ih =>
    have hnext : next <:+ trail ++ ',' :: next := ⟨trail ++ [','], by simp⟩
    exact ((ih.trans hnext).trans (hitem hi)).trans (List.suffix_append _ _)

theorem Bracketed.closing (hitem : ∀ {cs x rest}, Item cs x rest → rest <:+ cs)
    (h : Bracketed Item cs xs rest) : ')' :: rest <:+ cs := by
  cases h with
  | none _ => exact List.suffix_append _ _
  | some hlist _ => exact hlist.closing hitem

/-- **A list is the same** in a longer text if its items are. -/
theorem Separated.append
    (hitem : ∀ {cs x rest}, Item cs x rest → Item' (cs ++ more) x (rest ++ more))
    (h : Separated Item cs xs rest) : Separated Item' (cs ++ more) xs (rest ++ more) := by
  induction h with
  | @last lead item trail rest x hl hi ht =>
    have hitem' := hitem hi
    rw [List.append_assoc, List.cons_append] at hitem'
    rw [List.append_assoc]
    exact .last hl hitem' ht
  | @more lead item trail next rest x xs hl hi ht _ ih =>
    have hitem' := hitem hi
    rw [List.append_assoc, List.cons_append] at hitem'
    rw [List.append_assoc]
    exact .more hl hitem' ht ih

/-- A text with a closing parenthesis in it, if it does not begin with one, does
not come to begin with one. -/
theorem not_closed_append (hmem : ')' ∈ cs)
    (hne : ∀ blank behind, Blanks blank → cs ≠ blank ++ ')' :: behind) (blank behind : List Char)
    (hb : Blanks blank) : cs ++ more ≠ blank ++ ')' :: behind := by
  have hnot : ')' ∉ blank := fun h => absurd (hb ')' h) (by decide)
  intro heq
  rcases List.append_eq_append_iff.mp heq with ⟨inner, rfl, -⟩ | ⟨inner, rfl, hinner⟩
  · exact hnot (List.mem_append_left _ hmem)
  · cases inner with
    | nil => exact hnot (by simpa using hmem)
    | cons c inner =>
      obtain ⟨rfl, -⟩ := List.cons.inj hinner
      exact hne blank inner hb rfl

/-- And so are the items of a call. -/
theorem Bracketed.append (hsuffix : ∀ {cs x rest}, Item cs x rest → rest <:+ cs)
    (hitem : ∀ {cs x rest}, Item cs x rest → Item' (cs ++ more) x (rest ++ more))
    (h : Bracketed Item cs xs rest) : Bracketed Item' (cs ++ more) xs (rest ++ more) := by
  cases h with
  | none hb =>
    rw [List.append_assoc, List.cons_append]
    exact .none hb
  | some hlist hne =>
    have hmem : ')' ∈ cs := (hlist.closing hsuffix).subset List.mem_cons_self
    exact .some (hlist.append more hitem) (not_closed_append more hmem hne)

end Lists

/-! ## Calls -/

variable [PatternLibrary]

/-- **A call is the same** in a longer text, and what it leaves is an end of its
text. The induction goes through the items of a call and the lists in it, of
which it keeps that each item is the same in the longer text. -/
theorem Call.suffix_and_append {t : Predicate} (h : Call cs t rest) :
    rest <:+ cs ∧ Call (cs ++ more) t (rest ++ more) := by
  let Same : List Char → Predicate → List Char → Prop := fun cs t rest =>
    rest <:+ cs ∧ Call (cs ++ more) t (rest ++ more)
  have hhead : ∀ {name blank inside rest : List Char}, ')' :: rest <:+ inside →
      rest <:+ name ++ (blank ++ '(' :: inside) := by
    intro name blank inside rest h
    have hinside : inside <:+ name ++ (blank ++ '(' :: inside) :=
      ⟨name ++ (blank ++ ['(']), by simp⟩
    exact ((List.suffix_cons _ _).trans h).trans hinside
  refine @Call.rec _ (fun cs t rest _ => Same cs t rest)
    (fun cs parts rest _ => Bracketed Same cs parts rest)
    (fun cs parts rest _ => Separated Same cs parts rest)
    ?check ?combine ?none ?some ?last ?more cs t rest h
  case check =>
    intro kind blank inside rest args hb hitems hadmits
    refine ⟨hhead (hitems.closing Literal.suffix), ?_⟩
    have hcall := Call.check hb (hitems.append more Literal.suffix (Literal.append more)) hadmits
    simpa using hcall
  case combine =>
    intro kind blank inside rest parts hb _ haccepts ih
    refine ⟨hhead (ih.closing And.left), ?_⟩
    have hcall := Call.combine hb (ih.append more And.left And.right) haccepts
    simpa using hcall
  case none =>
    intro blank rest hb
    exact .none hb
  case some =>
    intro text rest parts _ hne ih
    exact .some ih hne
  case last =>
    intro lead item trail rest part hl _ ht ih
    exact .last hl ih ht
  case more =>
    intro lead item trail next rest part parts hl _ ht _ ih ihNext
    exact .more hl ih ht ihNext

/-! ## Expressions -/

variable {t : Predicate}

/-- **Blanks may follow an expression.** -/
theorem Derives.append_blanks {trail : List Char} (h : Derives cs t) (ht : Blanks trail) :
    Derives (cs ++ trail) t := by
  obtain ⟨lead, call, behind, hl, hb, rfl, hcall⟩ := h
  refine ⟨lead, call ++ trail, behind ++ trail, hl, ?_, List.append_assoc _ _ _,
    (hcall.suffix_and_append trail).2⟩
  intro c hc
  exact (List.mem_append.mp hc).elim (hb c) (ht c)

/-- **Anything else is refused** where it begins, whatever the expression. -/
theorem readExpression_append {blank : List Char} {c : Char} (h : Derives cs t)
    (hb : Blanks blank) (hc : isBlank c = false) :
    readExpression (cs ++ (blank ++ c :: rest)) =
      .failed (.trailing c) (c :: rest) (c :: rest) := by
  obtain ⟨lead, call, trail, hl, ht, rfl, hcall⟩ := h
  have hread := readable_of_call (hcall.suffix_and_append (blank ++ c :: rest)).2
  have hskip : skipBlank (trail ++ (blank ++ c :: rest)) = c :: rest := by
    rw [ht.skipBlank_append, hb.skipBlank_append, Text.skipBlank_cons hc]
  have hlen : (call ++ (blank ++ c :: rest)).length <
      (lead ++ (call ++ (blank ++ c :: rest))).length + 1 := by
    simp only [List.length_append]
    omega
  rw [List.append_assoc, readExpression, hl.skipBlank_append, hread.unblanked, hread.read _ hlen,
    Reading.andThen_done, hskip]

end Grammar

open Text (Blanks isBlank)

section

variable [PatternLibrary] {expression : String} {t : Predicate}

/-- **What follows an accepted expression is refused** at its first character that
is not blank. -/
theorem parse_append (h : parse expression = .ok t) {more : String} {blank rest : List Char}
    {c : Char} (hmore : more.toList = blank ++ c :: rest) (hb : Blanks blank)
    (hc : isBlank c = false) : parse (expression ++ more) =
      .error ⟨.trailing c, expression.utf8ByteSize + Text.byteSize blank⟩ := by
  have hread : readExpression (expression ++ more).toList =
      .failed (.trailing c) (c :: rest) (c :: rest) := by
    rw [String.toList_append, hmore]
    exact Grammar.readExpression_append ((parse_eq_ok_iff _ _).mp h) hb hc
  refine parse_eq_error_iff.mpr ⟨_, _, hread, ?_⟩
  rw [String.toList_append, hmore, Text.byteSize_append, Text.byteSize_append,
    Text.byteSize_toList]
  dsimp only
  omega

/-- **Blanks are all that may follow it**, and they do not change the predicate. -/
theorem parse_append_eq_ok_iff (h : parse expression = .ok t) {more : String} {u : Predicate} :
    parse (expression ++ more) = .ok u ↔ Blanks more.toList ∧ u = t := by
  have hblank : Blanks more.toList → parse (expression ++ more) = .ok t := by
    intro hb
    rw [parse_eq_ok_iff, String.toList_append]
    exact ((parse_eq_ok_iff _ _).mp h).append_blanks hb
  constructor
  · intro hok
    by_cases hb : Blanks more.toList
    · have htree := (hblank hb).symm.trans hok
      exact ⟨hb, (Except.ok.inj htree).symm⟩
    · obtain ⟨blank, c, rest, heq, hb, hc⟩ := Text.exists_blanks_append_cons hb
      rw [parse_append h heq hb hc] at hok
      cases hok
  · rintro ⟨hb, rfl⟩
    exact hblank hb

/-- **And it may not be cut off** before its last closing parenthesis. -/
theorem exists_error_of_cut {front back : String} (h : parse (front ++ back) = .ok t)
    (hmem : ')' ∈ back.toList) : ∃ e, parse front = .error e := by
  cases hfront : parse front with
  | error e => exact ⟨e, rfl⟩
  | ok u =>
    obtain ⟨hb, -⟩ := (parse_append_eq_ok_iff hfront).mp h
    exact absurd (hb ')' hmem) (by decide)

/-- **An accepted expression cannot be extended.** With any text behind it that
is not blank it is refused at the first character of that text that is not: as
unbalanced if that is a closing parenthesis, and as unexpected otherwise. Only
with blanks behind it is it accepted, as the same predicate. And cut off before
its last closing parenthesis it is refused. -/
theorem parse_extended (h : parse expression = .ok t) :
    (∀ more : String, ¬ Blanks more.toList →
      ∃ blank c rest mistake, more.toList = blank ++ c :: rest ∧ Blanks blank ∧
        isBlank c = false ∧
        parse (expression ++ more) =
          .error ⟨mistake, expression.utf8ByteSize + Text.byteSize blank⟩ ∧
        mistake.kind = if c = ')' then .unbalancedParentheses else .unexpectedInput) ∧
    (∀ more u, parse (expression ++ more) = .ok u ↔ Blanks more.toList ∧ u = t) ∧
    ∀ front back, expression = front ++ back → ')' ∈ back.toList → ∃ e, parse front = .error e := by
  refine ⟨fun more hmore => ?_, fun more u => parse_append_eq_ok_iff h,
    fun front back heq hmem => ?_⟩
  · obtain ⟨blank, c, rest, heq, hb, hc⟩ := Text.exists_blanks_append_cons hmore
    exact ⟨blank, c, rest, _, heq, hb, hc, parse_append h heq hb hc, rfl⟩
  · rw [heq] at h
    exact exists_error_of_cut h hmem

end

/-- The quote of the first argument is closed in the second one, so what is read
there decides how the first is read; and the text behind is refused where its
parenthesis stands, behind a blank of three bytes. -/
theorem parse_extended_sibling :
    ∃ t, parse "AllOf(EqualTo('a), EqualTo(b'c))" = .ok t ∧ ¬ Blanks "\u3000)".toList ∧
      (∃ mistake, parse ("AllOf(EqualTo('a), EqualTo(b'c))" ++ "\u3000)") = .error ⟨mistake, 35⟩ ∧
        mistake.kind = .unbalancedParentheses) ∧
      ∃ e, parse "AllOf(EqualTo('a), EqualTo(b'c)" = .error e := by
  have hparse : parse "AllOf(EqualTo('a), EqualTo(b'c))" =
      .ok (.combine .allOf [.check .equalTo ["'a"], .check .equalTo ["b'c"]]) := by
    decide +kernel
  have hblank : ¬ Blanks "\u3000)".toList := fun h => absurd (h ')' (by decide)) (by decide)
  obtain ⟨hbehind, -, hcut⟩ := parse_extended hparse
  refine ⟨_, hparse, hblank, ?_, hcut _ ")" (by decide) (by decide)⟩
  obtain ⟨blank, c, rest, mistake, heq, hb, hc, herror, hkind⟩ := hbehind _ hblank
  -- the blank is the only one, and the parenthesis follows it
  have hskip : Text.skipBlank ("\u3000)".toList) = c :: rest := by
    rw [heq, hb.skipBlank_append, Text.skipBlank_cons hc]
  have hparen : [')'] = c :: rest := hskip
  obtain ⟨rfl, rfl⟩ := List.cons.inj hparen
  have hspace : ['\u3000'] ++ [')'] = blank ++ [')'] := heq
  obtain rfl := List.append_cancel_right hspace
  exact ⟨mistake, herror, hkind⟩

end Matcher
end Scenario
