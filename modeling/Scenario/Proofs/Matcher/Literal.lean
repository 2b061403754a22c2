import Scenario.Proofs.Matcher.Grammar

/-!
# Reading literals

The scanners of literals against the grammar: `readQuoted` inverts the
escapes (`readQuoted_eq_some_iff`), `bareSpan` takes the longest level text
(`bareSpan_of_level`, `bareSpan_spec`), and a literal with the separator
after it is read exactly if it is derived (`readLiteral_of_literal`,
`literal_of_readLiteral`).
-/

namespace Scenario
namespace Matcher
namespace Grammar

open Text (Blanks skipBlank trimmed isBlank)

/-! ## Quoted literals -/

theorem readQuoted_plain {c : Char} (hq : c ≠ '\'') (he : c ≠ '\\') (cs : List Char) :
    readQuoted (c :: cs) = (readQuoted cs).map fun r => (c :: r.1, r.2) := by
  rw [readQuoted]
  · exact fun h => hq h
  · exact fun _ h => absurd h he
  · exact fun _ h => absurd h he

theorem readQuoted_kept {c : Char} (hq : c ≠ '\'') (he : c ≠ '\\') (cs : List Char) :
    readQuoted ('\\' :: c :: cs) = (readQuoted (c :: cs)).map fun r => ('\\' :: r.1, r.2) := by
  rw [readQuoted]
  · exact fun h => absurd h (by decide)
  · intro _ _ h
    cases h
    exact hq rfl
  · intro _ _ h
    cases h
    exact he rfl

/-- What is written between quotes is read as it is meant. -/
theorem readQuoted_of_quotedText {raw value : List Char} (h : QuotedText raw value)
    (rest : List Char) : readQuoted (raw ++ '\'' :: rest) = some (value, rest) := by
  induction h with
  | nil => rfl
  | escaped hc _ ih =>
    rcases hc with rfl | rfl
    · rw [List.cons_append, List.cons_append, readQuoted, ih]; rfl
    · rw [List.cons_append, List.cons_append, readQuoted, ih]; rfl
  | kept hq he _ ih =>
    rw [List.cons_append] at ih
    rw [List.cons_append, List.cons_append, readQuoted_kept hq he, ih]; rfl
  | plain hq he _ ih => rw [List.cons_append, readQuoted_plain hq he, ih]; rfl

/-- **Reading a quoted literal inverts its escapes**, and stops at the first
quote that is not escaped. -/
theorem readQuoted_eq_some_iff {cs value rest : List Char} :
    readQuoted cs = some (value, rest) ↔
      ∃ raw, QuotedText raw value ∧ cs = raw ++ '\'' :: rest := by
  constructor
  · intro h
    fun_induction readQuoted cs generalizing value with
    | case1 => cases h
    | case2 cs => cases h; exact ⟨[], .nil, rfl⟩
    | case3 cs ih =>
      obtain ⟨r, hr, heq⟩ := Option.map_eq_some_iff.mp h
      cases heq
      obtain ⟨raw, hraw, rfl⟩ := ih hr
      exact ⟨'\\' :: '\'' :: raw, .escaped (.inl rfl) hraw, rfl⟩
    | case4 cs ih =>
      obtain ⟨r, hr, heq⟩ := Option.map_eq_some_iff.mp h
      cases heq
      obtain ⟨raw, hraw, rfl⟩ := ih hr
      exact ⟨'\\' :: '\\' :: raw, .escaped (.inr rfl) hraw, rfl⟩
    | case5 c cs hquote hslash1 hslash2 ih =>
      obtain ⟨r, hr, heq⟩ := Option.map_eq_some_iff.mp h
      cases heq
      obtain ⟨raw, hraw, rfl⟩ := ih hr
      have hq : c ≠ '\'' := fun hc => hquote hc
      refine ⟨c :: raw, ?_, rfl⟩
      by_cases he : c = '\\'
      · -- a backslash that stands for itself: what follows it cannot be escaped
        subst he
        cases raw with
        | nil => exact (hslash1 _ rfl rfl).elim
        | cons d raw =>
          refine .kept ?_ ?_ hraw
          · rintro rfl; exact hslash1 _ rfl rfl
          · rintro rfl; exact hslash2 _ rfl rfl
      · exact .plain hq he hraw
  · rintro ⟨raw, hraw, rfl⟩
    exact readQuoted_of_quotedText hraw rest

/-! ## Bare literals

Depth counts the parentheses already open, so the span from a positive depth
is taken apart as well: a text that never comes back to depth zero at a
separator is passed over whole (`bareSpan_append`). -/

/-- No separator of the text stands outside of its own parentheses and of
`depth` more that are open already. -/
def Within (depth : Nat) (text : List Char) : Prop :=
  ∀ front c back, text = front ++ c :: back → Separator c →
    front.count ')' < depth + front.count '('

/-- The parentheses open after a character. -/
def deepen (depth : Nat) (c : Char) : Nat :=
  if c = '(' then depth + 1 else if c = ')' then depth - 1 else depth

theorem within_nil (depth : Nat) : Within depth [] := by
  intro front c back h
  simp at h

/-- The depth keeps the balance of what is opened and closed. -/
theorem deepen_add_count {depth : Nat} {c : Char} (h : Separator c → 0 < depth)
    (text : List Char) :
    deepen depth c + (text.count '(' + (c :: text).count ')') =
      depth + ((c :: text).count '(' + text.count ')') := by
  have hpos : c = ')' → 0 < depth := fun hc => h (.inr hc)
  by_cases ho : c = '('
  · subst ho
    simp [deepen]
    omega
  · by_cases hc : c = ')'
    · subst hc
      have := hpos rfl
      simp [deepen]
      omega
    · simp [deepen, ho, hc]

/-- The first character moves the depth. -/
theorem within_cons {depth : Nat} {c : Char} {cs : List Char} :
    Within depth (c :: cs) ↔ (Separator c → 0 < depth) ∧ Within (deepen depth c) cs := by
  constructor
  · intro h
    have hfirst : Separator c → 0 < depth := fun hc => by simpa using h [] c cs rfl hc
    refine ⟨hfirst, fun front d back heq hd => ?_⟩
    have := h (c :: front) d back (by rw [heq, List.cons_append]) hd
    have := deepen_add_count hfirst front
    omega
  · rintro ⟨hfirst, h⟩ front d back heq hd
    cases front with
    | nil =>
      obtain ⟨rfl, -⟩ := List.cons.inj heq
      simpa using hfirst hd
    | cons e front =>
      obtain ⟨rfl, htail⟩ := List.cons.inj heq
      have := h front d back htail hd
      have := deepen_add_count hfirst front
      omega

theorem bareSpan_cons {depth : Nat} {c : Char} {cs : List Char} (h : Separator c → 0 < depth) :
    bareSpan depth (c :: cs) =
      (c :: (bareSpan (deepen depth c) cs).1, (bareSpan (deepen depth c) cs).2) := by
  rw [bareSpan, if_neg]
  · rfl
  · rintro ⟨rfl, hc⟩
    exact absurd (h hc.symm) (Nat.lt_irrefl 0)

/-- A text within its parentheses is passed over. -/
theorem bareSpan_append {depth : Nat} {text : List Char} (h : Within depth text)
    (rest : List Char) : ∃ after, after + text.count ')' = depth + text.count '(' ∧
      bareSpan depth (text ++ rest) =
        (text ++ (bareSpan after rest).1, (bareSpan after rest).2) := by
  induction text generalizing depth with
  | nil => exact ⟨depth, rfl, rfl⟩
  | cons c cs ih =>
    obtain ⟨hc, hcs⟩ := within_cons.mp h
    obtain ⟨after, hcount, heq⟩ := ih hcs
    refine ⟨after, ?_, ?_⟩
    · have := deepen_add_count hc cs
      omega
    · rw [List.cons_append, bareSpan_cons hc, heq]
      rfl

/-- At depth zero the span ends at a separator. -/
theorem bareSpan_separator {c : Char} (hc : Separator c) (rest : List Char) :
    bareSpan 0 (c :: rest) = ([], c :: rest) := by
  rw [bareSpan, if_pos ⟨rfl, hc.symm⟩]

/-- **The span of a bare literal is the text up to the first separator
outside of its parentheses.** -/
theorem bareSpan_of_level {text : List Char} (h : Level text) {c : Char} (hc : Separator c)
    (rest : List Char) : bareSpan 0 (text ++ c :: rest) = (text, c :: rest) := by
  have hin : Within 0 text := fun front d back heq hd => by
    simpa using h.enclosed front d back heq hd
  obtain ⟨after, hcount, heq⟩ := bareSpan_append hin (c :: rest)
  have hzero : after = 0 := by have := h.closed; omega
  rw [heq, hzero, bareSpan_separator hc, List.append_nil]

/-- What the span takes stays within its parentheses, and ends at a
separator or at the end of the text. -/
theorem bareSpan_spec {depth : Nat} {cs text rest : List Char}
    (h : bareSpan depth cs = (text, rest)) :
    cs = text ++ rest ∧ Within depth text ∧
      (rest = [] ∨ ∃ c more, rest = c :: more ∧ Separator c ∧
        depth + text.count '(' = text.count ')') := by
  induction cs generalizing depth text with
  | nil =>
    cases h
    exact ⟨rfl, within_nil depth, .inl rfl⟩
  | cons c cs ih =>
    by_cases hend : depth = 0 ∧ (c = ')' ∨ c = ',')
    · rw [bareSpan, if_pos hend] at h
      cases h
      obtain ⟨rfl, hc⟩ := hend
      exact ⟨rfl, within_nil 0, .inr ⟨c, cs, rfl, hc.symm, rfl⟩⟩
    · have hc : Separator c → 0 < depth := fun hs =>
        Nat.pos_of_ne_zero fun h0 => hend ⟨h0, hs.symm⟩
      rw [bareSpan_cons hc] at h
      cases hs : bareSpan (deepen depth c) cs with
      | mk inner after =>
        rw [hs] at h
        cases h
        obtain ⟨rfl, hin, hrest⟩ := ih hs
        refine ⟨rfl, within_cons.mpr ⟨hc, hin⟩, hrest.imp id ?_⟩
        rintro ⟨d, more, hmore, hd, hcount⟩
        refine ⟨d, more, hmore, hd, ?_⟩
        have := deepen_add_count hc inner
        dsimp only
        omega

/-! ## Names -/

/-- Names are written in name characters. -/
theorem isNameChar_of_mem_name {m : MatcherName} {c : Char} (h : c ∈ m.name.toList) :
    isNameChar c = true := by
  have hall : m.name.toList.all isNameChar = true := by
    cases m with
    | combinator kind => cases kind <;> decide
    | check kind => cases kind <;> decide
  exact List.all_eq_true.mp hall c h

theorem name_ne_nil (m : MatcherName) : m.name.toList ≠ [] := by
  cases m with
  | combinator kind => cases kind <;> decide
  | check kind => cases kind <;> decide

/-- No blank is a name character. -/
theorem isNameChar_eq_false_of_isBlank {c : Char} (h : isBlank c = true) :
    isNameChar c = false := by
  cases hn : isNameChar c with
  | false => rfl
  | true =>
    delta isNameChar Char.isAlphanum Char.isAlpha Char.isUpper Char.isLower Char.isDigit at hn
    simp only [Bool.or_eq_true, Bool.and_eq_true, decide_eq_true_eq, beq_iff_eq, ge_iff_le,
      UInt32.le_iff_toNat_le, ← Char.toNat_inj, Char.reduceVal, UInt32.reduceToNat,
      Char.reduceToNat] at hn
    simp only [isBlank, Bool.or_eq_true, Bool.and_eq_true, decide_eq_true_eq, beq_iff_eq,
      Char.toNat] at h hn
    omega

theorem isNameChar_opening : isNameChar '(' = false := by decide

/-- **A name is read whole** where blanks and a parenthesis follow it. -/
theorem span_name (m : MatcherName) {blank : List Char} (hb : Blanks blank) (inside : List Char) :
    (m.name.toList ++ (blank ++ '(' :: inside)).takeWhile isNameChar = m.name.toList ∧
      (m.name.toList ++ (blank ++ '(' :: inside)).dropWhile isNameChar =
        blank ++ '(' :: inside := by
  have hname : ∀ c ∈ m.name.toList, isNameChar c = true := fun c => isNameChar_of_mem_name
  have hstop : ¬ isNameChar ((blank ++ '(' :: inside).head (by simp)) = true := by
    cases blank with
    | nil => simp [isNameChar_opening]
    | cons b blank => simp [isNameChar_eq_false_of_isBlank (hb b List.mem_cons_self)]
  rw [List.takeWhile_append_of_pos hname, List.dropWhile_append_of_pos hname]
  cases hrest : blank ++ '(' :: inside with
  | nil => simp at hrest
  | cons c cs =>
    simp only [hrest, List.head_cons] at hstop
    rw [List.takeWhile_cons_of_neg hstop, List.dropWhile_cons_of_neg hstop, List.append_nil]
    exact ⟨rfl, rfl⟩

theorem isBlank_opening : isBlank '(' = false := by decide

/-- The reader recognizes the beginning of a call. -/
theorem beginsCall_eq_true_iff {cs : List Char} : beginsCall cs = true ↔ BeginsCall cs := by
  rw [beginsCall, Bool.and_eq_true, isMatcherName_eq_true_iff, beq_iff_eq]
  constructor
  · rintro ⟨⟨m, hm⟩, hhead⟩
    obtain ⟨blank, hb, heq⟩ := Text.exists_blanks_append_skipBlank (cs.dropWhile isNameChar)
    obtain ⟨inside, hin⟩ := List.head?_eq_some_iff.mp hhead
    refine ⟨m, blank, inside, hb, ?_⟩
    rw [hm, String.toList_ofList, ← hin, ← heq, List.takeWhile_append_dropWhile]
  · rintro ⟨m, blank, inside, hb, rfl⟩
    obtain ⟨htake, hdrop⟩ := span_name m hb inside
    rw [htake, hdrop, hb.skipBlank_append, Text.skipBlank_cons isBlank_opening]
    exact ⟨⟨m, String.ofList_toList.symm⟩, rfl⟩

/-- What begins like a call begins with a name character. -/
theorem BeginsCall.exists_cons {text : List Char} (h : BeginsCall text) :
    ∃ c cs, text = c :: cs ∧ isNameChar c = true := by
  obtain ⟨m, blank, inside, -, rfl⟩ := h
  obtain ⟨c, name, hname⟩ := List.exists_cons_of_ne_nil (name_ne_nil m)
  refine ⟨c, name ++ (blank ++ '(' :: inside), by rw [hname, List.cons_append], ?_⟩
  exact isNameChar_of_mem_name (m := m) (by rw [hname]; exact List.mem_cons_self)

/-- A longer text begins like a call if a shorter one does. -/
theorem BeginsCall.append {text : List Char} (h : BeginsCall text) (more : List Char) :
    BeginsCall (text ++ more) := by
  obtain ⟨m, blank, inside, hb, rfl⟩ := h
  exact ⟨m, blank, inside ++ more, hb, by simp⟩

theorem Separator.isBlank {c : Char} (h : Separator c) : isBlank c = false := by
  rcases h with rfl | rfl <;> decide

theorem Separator.isNameChar {c : Char} (h : Separator c) : isNameChar c = false := by
  rcases h with rfl | rfl <;> decide

/-- **An argument begins like a call by itself**: the parenthesis cannot
stand behind the separator that ends the argument, nor among the blanks
before it. -/
theorem BeginsCall.of_append {text trail more : List Char} {sep : Char}
    (h : BeginsCall (text ++ (trail ++ sep :: more))) (ht : Blanks trail)
    (hs : Separator sep) : BeginsCall text := by
  obtain ⟨m, blank, inside, hb, heq⟩ := h
  -- the characters of the name and of the blanks after it, and of no others that matter here
  let p : Char → Bool := fun c => isNameChar c || isBlank c
  have hlead : ∀ c ∈ m.name.toList ++ blank, p c = true := by
    intro c hc
    rcases List.mem_append.mp hc with hc | hc
    · simp [p, isNameChar_of_mem_name hc]
    · simp [p, hb c hc]
  have htrail : ∀ c ∈ trail, p c = true := fun c hc => by simp [p, ht c hc]
  have hopen : ¬ p '(' = true := by simp [p, isNameChar_opening, isBlank_opening]
  have hsep : ¬ p sep = true := by simp [p, hs.isNameChar, hs.isBlank]
  rw [← List.append_assoc m.name.toList] at heq
  have hdrop := congrArg (List.dropWhile p) heq
  have htake := congrArg (List.takeWhile p) heq
  rw [List.dropWhile_append_of_pos hlead, List.dropWhile_cons_of_neg hopen,
    List.dropWhile_append] at hdrop
  rw [List.takeWhile_append_of_pos hlead, List.takeWhile_cons_of_neg hopen, List.append_nil,
    List.takeWhile_append] at htake
  cases hrest : text.dropWhile p with
  | nil =>
    rw [hrest, if_pos List.isEmpty_nil, List.dropWhile_append_of_pos htrail,
      List.dropWhile_cons_of_neg hsep] at hdrop
    obtain ⟨rfl, -⟩ := List.cons.inj hdrop
    rcases hs with h | h <;> cases h
  | cons d inside' =>
    rw [hrest, if_neg (by simp), List.cons_append] at hdrop
    obtain ⟨rfl, -⟩ := List.cons.inj hdrop
    have hne : (text.takeWhile p).length ≠ text.length := by
      have := congrArg List.length (List.takeWhile_append_dropWhile (p := p) (l := text))
      rw [List.length_append, hrest, List.length_cons] at this
      omega
    rw [if_neg hne] at htake
    refine ⟨m, blank, inside', hb, ?_⟩
    rw [← List.append_assoc, ← htake, ← hrest, List.takeWhile_append_dropWhile]

/-! ## The text of a bare literal -/

/-- **Taking quotes off is a function**, the one the reader applies. -/
theorem unquoted_iff {text value : List Char} : Unquoted text value ↔ stripQuotes text = value := by
  have hpair : ∀ inner, stripQuotes ('\'' :: (inner ++ ['\''])) = inner := fun inner => by
    rw [stripQuotes, if_pos (by simp), List.dropLast_concat]
  have hnone : (∀ inner, text ≠ '\'' :: (inner ++ ['\''])) → stripQuotes text = text := by
    intro h
    unfold stripQuotes
    split
    · next more =>
      rw [if_neg]
      intro hlast
      obtain ⟨inner, rfl⟩ := List.getLast?_eq_some_iff.mp hlast
      exact h inner rfl
    · rfl
  constructor
  · rintro (rfl | ⟨rfl, h⟩)
    · exact hpair value
    · exact hnone h
  · rintro rfl
    by_cases h : ∃ inner, text = '\'' :: (inner ++ ['\''])
    · obtain ⟨inner, rfl⟩ := h
      exact .inl (by rw [hpair])
    · have h : ∀ inner, text ≠ '\'' :: (inner ++ ['\'']) := fun inner he => h ⟨inner, he⟩
      exact .inr ⟨hnone h, h⟩

/-- Blanks hold no parentheses. -/
theorem count_eq_zero_of_blanks {blank : List Char} (h : Blanks blank) {c : Char}
    (hc : isBlank c = false) : blank.count c = 0 :=
  List.count_eq_zero.mpr fun hmem => by
    have := h c hmem
    rw [hc] at this
    cases this

/-- **Blanks after a text do not matter for its level.** -/
theorem level_append_blanks {text blank : List Char} (hb : Blanks blank) :
    Level (text ++ blank) ↔ Level text := by
  have hopen := count_eq_zero_of_blanks hb (show isBlank '(' = false by decide)
  have hclose := count_eq_zero_of_blanks hb (show isBlank ')' = false by decide)
  constructor
  · rintro ⟨henc, hcl⟩
    refine ⟨fun front c back heq hc => ?_, ?_⟩
    · exact henc front c (back ++ blank) (by rw [heq]; simp) hc
    · rw [List.count_append, List.count_append] at hcl
      omega
  · rintro ⟨henc, hcl⟩
    refine ⟨fun front c back heq hc => ?_, ?_⟩
    · rcases List.append_eq_append_iff.mp heq with ⟨inner, rfl, hblank⟩ | ⟨inner, rfl, hback⟩
      · -- a separator cannot stand among the blanks
        have := hb c (by rw [hblank]; simp)
        rw [hc.isBlank] at this
        cases this
      · cases inner with
        | nil =>
          have := hb c (by rw [List.nil_append] at hback; rw [← hback]; exact List.mem_cons_self)
          rw [hc.isBlank] at this
          cases this
        | cons d inner =>
          obtain ⟨rfl, -⟩ := List.cons.inj hback
          exact henc front c inner rfl hc
    · rw [List.count_append, List.count_append]
      omega

/-- A bare literal is read up to the separator after it. -/
theorem readBare_of_level {text value blank more : List Char} {sep : Char} (hl : Level text)
    (ht : trimmed text = text) (hb : Blanks blank) (hs : Separator sep) (hu : Unquoted text value) :
    readBare (text ++ (blank ++ sep :: more)) = .done (.ofList value) (sep :: more) := by
  rw [readBare, ← List.append_assoc, bareSpan_of_level ((level_append_blanks hb).mpr hl) hs]
  simp only [Text.trimmed_append_blanks ht hb, unquoted_iff.mp hu]

/-- **What is read as bare is a level text without blank ends**, up to a
separator or to the end. -/
theorem level_of_readBare {cs rest : List Char} {value : String} (hcs : skipBlank cs = cs)
    (h : readBare cs = .done value rest) :
    rest = [] ∨ ∃ sep more text inner blank, Separator sep ∧ rest = sep :: more ∧
      cs = text ++ (blank ++ rest) ∧ Blanks blank ∧ Level text ∧ trimmed text = text ∧
      Unquoted text inner ∧ value = .ofList inner := by
  rw [readBare] at h
  cases hspan : bareSpan 0 cs with
  | mk span after =>
    rw [hspan] at h
    cases h
    obtain ⟨rfl, hin, hend⟩ := bareSpan_spec hspan
    refine hend.imp id ?_
    rintro ⟨sep, more, rfl, hs, hcount⟩
    have hlevel : Level span := by
      refine ⟨fun front c back heq hc => ?_, by omega⟩
      have := hin front c back heq hc
      omega
    have hskip : skipBlank span = span := by
      cases span with
      | nil => rfl
      | cons c cs => exact Text.skipBlank_cons (Text.isBlank_eq_false_of_skipBlank hcs)
    obtain ⟨blank, hb, heq⟩ := Text.exists_dropBlankEnd_append_blanks (skipBlank span)
    rw [← trimmed, hskip] at heq
    refine ⟨sep, more, trimmed span, _, blank, hs, rfl, ?_, hb, ?_, Text.trimmed_trimmed span,
      unquoted_iff.mpr rfl, rfl⟩
    · rw [← List.append_assoc, ← heq]
    · rw [heq] at hlevel
      exact (level_append_blanks hb).mp hlevel

/-! ## Literals with the separator after them -/

/-- What is done with a literal that begins with a quote. -/
theorem readLiteral_quote {cs inside : List Char} (h : skipBlank cs = '\'' :: inside) :
    readLiteral cs =
      match readQuoted inside with
      | none => .failed .unterminatedQuote ('\'' :: inside) []
      | some (value, rest) =>
        match skipBlank rest with
        | [] | ',' :: _ | ')' :: _ => .done (.ofList value) (skipBlank rest)
        | _ => readBare ('\'' :: inside) := by
  unfold readLiteral
  rw [h]
  rfl

/-- And with one that does not. -/
theorem readLiteral_bare {cs : List Char} (h : (skipBlank cs).head? ≠ some '\'') :
    readLiteral cs =
      if beginsCall (skipBlank cs) then .failed .nestedCall (skipBlank cs) (skipBlank cs)
      else readBare (skipBlank cs) := by
  unfold readLiteral
  generalize skipBlank cs = text at h ⊢
  dsimp only
  split
  · exact absurd rfl h
  · rfl

/-- A quote that goes on does not end an argument. -/
theorem readLiteral_goesOn {cs inside : List Char} (h : skipBlank cs = '\'' :: inside)
    (hg : GoesOn ('\'' :: inside)) : readLiteral cs = readBare ('\'' :: inside) := by
  obtain ⟨raw, value, blank, more, c, hq, hb, hc, hs, heq⟩ := hg
  obtain ⟨-, rfl⟩ := List.cons.inj heq
  rw [readLiteral_quote h, readQuoted_of_quotedText hq]
  simp only [hb.skipBlank_append, Text.skipBlank_cons hc]
  split
  · next heq => cases heq
  · next heq => cases heq; exact absurd (.inl rfl) hs
  · next heq => cases heq; exact absurd (.inr rfl) hs
  · rfl

/-- **A derived literal is read**, with the blanks around it, up to the
separator after it. -/
theorem readLiteral_of_literal {lead item trail more : List Char} {value : String} {sep : Char}
    (hlead : Blanks lead) (h : Literal item value (trail ++ sep :: more)) (htrail : Blanks trail)
    (hs : Separator sep) : readLiteral (lead ++ item) = .done value (sep :: more) := by
  generalize hrest : trail ++ sep :: more = rest at h
  cases h with
  | @quoted raw value rest hq =>
    have hskip : skipBlank (lead ++ '\'' :: (raw ++ '\'' :: rest)) =
        '\'' :: (raw ++ '\'' :: rest) := by
      rw [hlead.skipBlank_append, Text.skipBlank_cons (by decide)]
    have hafter : skipBlank rest = sep :: more := by
      rw [← hrest, htrail.skipBlank_append, Text.skipBlank_cons hs.isBlank]
    rw [readLiteral_quote hskip, readQuoted_of_quotedText hq]
    simp only [hafter]
    rcases hs with rfl | rfl <;> rfl
  | @bare text value rest hl ht hcall hgo hu =>
    subst hrest
    -- with no text at all, the blanks after it are skipped before the literal
    obtain ⟨blank, hb, hskip⟩ : ∃ blank, Blanks blank ∧
        skipBlank (lead ++ (text ++ (trail ++ sep :: more))) = text ++ (blank ++ sep :: more) := by
      rw [hlead.skipBlank_append]
      cases text with
      | nil =>
        refine ⟨[], Blanks.nil, ?_⟩
        rw [List.nil_append, htrail.skipBlank_append, Text.skipBlank_cons hs.isBlank]
        rfl
      | cons c text =>
        have hc := Text.isBlank_eq_false_of_skipBlank (Text.skipBlank_eq_self_of_trimmed ht)
        exact ⟨trail, htrail, Text.skipBlank_cons hc⟩
    have hread : readBare (text ++ (blank ++ sep :: more)) = .done (.ofList value) (sep :: more) :=
      readBare_of_level hl ht hb hs hu
    by_cases hquote : text.head? = some '\''
    · obtain ⟨inside, rfl⟩ := List.head?_eq_some_iff.mp hquote
      have hblank : blank = trail := by
        have hc : isBlank '\'' = false := by decide
        rw [hlead.skipBlank_append, List.cons_append, Text.skipBlank_cons hc] at hskip
        simpa using hskip.symm
      subst hblank
      rw [readLiteral_goesOn hskip (hgo hquote)]
      exact hread
    · have hhead : (text ++ (blank ++ sep :: more)).head? ≠ some '\'' := by
        cases text with
        | nil =>
          cases blank with
          | nil => rcases hs with rfl | rfl <;> simp
          | cons b blank =>
            have := hb b List.mem_cons_self
            rintro h
            cases h
            revert this
            decide
        | cons c text => exact hquote
      have hnot : beginsCall (text ++ (blank ++ sep :: more)) = false := by
        rw [← Bool.not_eq_true, beginsCall_eq_true_iff]
        exact fun h => hcall (h.of_append hb hs)
      rw [readLiteral_bare (by rw [hskip]; exact hhead), hskip, hnot]
      exact hread

/-- **A literal that is read is derived**, if an argument can end where it
ends. -/
theorem literal_of_readLiteral {cs rest : List Char} {value : String}
    (h : readLiteral cs = .done value rest) :
    rest = [] ∨ ∃ sep more lead item trail, Separator sep ∧ rest = sep :: more ∧
      cs = lead ++ item ∧ Blanks lead ∧ Blanks trail ∧ Literal item value (trail ++ rest) := by
  obtain ⟨lead, hlead, hcs⟩ := Text.exists_blanks_append_skipBlank cs
  -- a bare literal, once it is known not to be refused
  have hbare : readBare (skipBlank cs) = .done value rest →
      ((skipBlank cs).head? = some '\'' → GoesOn (skipBlank cs)) →
      ((skipBlank cs).head? ≠ some '\'' → ¬ BeginsCall (skipBlank cs)) →
      rest = [] ∨ ∃ sep more lead item trail, Separator sep ∧ rest = sep :: more ∧
        cs = lead ++ item ∧ Blanks lead ∧ Blanks trail ∧ Literal item value (trail ++ rest) := by
    intro hread hgo hcall
    refine (level_of_readBare (Text.skipBlank_skipBlank cs) hread).imp id ?_
    rintro ⟨sep, more, text, inner, blank, hs, hrest, heq, hb, hl, ht, hu, rfl⟩
    refine ⟨sep, more, lead, skipBlank cs, blank, hs, hrest, hcs, hlead, hb, ?_⟩
    have hhead : ∀ c, text.head? = some c → (skipBlank cs).head? = some c := by
      intro c hc
      rw [heq, List.head?_append, hc]
      rfl
    rw [heq] at hgo hcall ⊢
    refine .bare hl ht (fun hbegin => ?_) (fun hq => hgo (by rw [← heq]; exact hhead _ hq)) hu
    obtain ⟨c, more', htext, hname⟩ := hbegin.exists_cons
    refine hcall ?_ (hbegin.append _)
    rw [htext]
    rintro hq
    cases hq
    revert hname
    decide
  by_cases hquote : (skipBlank cs).head? = some '\''
  · obtain ⟨inside, hskip⟩ := List.head?_eq_some_iff.mp hquote
    rw [readLiteral_quote hskip] at h
    cases hq : readQuoted inside with
    | none => rw [hq] at h; cases h
    | some r =>
      obtain ⟨v, after⟩ := r
      obtain ⟨raw, hraw, rfl⟩ := readQuoted_eq_some_iff.mp hq
      obtain ⟨trail, htrail, hafter⟩ := Text.exists_blanks_append_skipBlank after
      rw [hq] at h
      have hquoted : Literal (skipBlank cs) (.ofList v) (trail ++ skipBlank after) := by
        rw [hskip, ← hafter]
        exact .quoted hraw
      cases hmore : skipBlank after with
      | nil =>
        simp only [hmore] at h
        cases h
        exact .inl rfl
      | cons c more =>
        by_cases hs : Separator c
        · have hdone : Reading.done (String.ofList v) (c :: more) = Reading.done value rest := by
            rw [← h]
            simp only [hmore]
            rcases hs with rfl | rfl <;> rfl
          cases hdone
          rw [hmore] at hquoted
          exact .inr ⟨c, more, lead, skipBlank cs, trail, hs, rfl, hcs, hlead, htrail, hquoted⟩
        · have hgo : GoesOn ('\'' :: (raw ++ '\'' :: after)) := by
            refine ⟨raw, v, trail, more, c, hraw, htrail,
              Text.isBlank_eq_false_of_skipBlank hmore, hs, ?_⟩
            rw [← hmore, ← hafter]
          have hread : readBare (skipBlank cs) = .done value rest := by
            rw [hskip, ← readLiteral_goesOn hskip hgo, readLiteral_quote hskip, hq]
            exact h
          exact hbare hread (fun _ => hskip ▸ hgo) fun hne => absurd hquote hne
  · rw [readLiteral_bare hquote] at h
    cases hcall : beginsCall (skipBlank cs) with
    | true => rw [hcall] at h; cases h
    | false =>
      rw [hcall] at h
      refine hbare h (fun hq => absurd hq hquote) fun _ => ?_
      rw [← beginsCall_eq_true_iff, hcall]
      exact Bool.false_ne_true

end Grammar
end Matcher
end Scenario
