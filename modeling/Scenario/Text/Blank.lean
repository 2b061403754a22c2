/-!
# Blank characters — what trimming and skipping remove

Expressions, variable names and configuration texts are all trimmed and
split at the same class of characters: the twenty-five with the Unicode
property `White_Space`. `skipBlank` and `dropBlankEnd` remove blank ends,
`trimmed` both, and `words` cuts a text at its blank characters and keeps
the pieces between them.
-/

namespace Scenario
namespace Text

/-- A blank character: one with the property `White_Space`. -/
def isBlank (c : Char) : Bool :=
  let n := c.toNat
  (0x09 ≤ n && n ≤ 0x0D) || n == 0x20 || n == 0x85 || n == 0xA0 || n == 0x1680 ||
  (0x2000 ≤ n && n ≤ 0x200A) || n == 0x2028 || n == 0x2029 || n == 0x202F || n == 0x205F ||
  n == 0x3000

/-- Core's whitespace is blank; the class here is the wider one. -/
theorem isBlank_of_isWhitespace {c : Char} (h : c.isWhitespace = true) : isBlank c = true := by
  simp only [Char.isWhitespace, Bool.or_eq_true, decide_eq_true_eq] at h
  rcases h with ((h | h) | h) | h <;> subst h <;> rfl

/-- The text from its first character that is not blank. -/
def skipBlank (cs : List Char) : List Char :=
  cs.dropWhile isBlank

/-- The text up to its last character that is not blank. -/
def dropBlankEnd (cs : List Char) : List Char :=
  (cs.reverse.dropWhile isBlank).reverse

/-- The text without its blank ends. -/
def trimmed (cs : List Char) : List Char :=
  dropBlankEnd (skipBlank cs)

/-- The text without its blank ends, on strings. -/
def trim (s : String) : String :=
  String.ofList (trimmed s.toList)

/-- The maximal runs of characters that are not blank, in order. -/
def words (cs : List Char) : List (List Char) :=
  (cs.splitOnP isBlank).filter (fun w => !w.isEmpty)

/-- The words of a text with one space between neighbours. -/
def collapsed (cs : List Char) : List Char :=
  [' '].intercalate (words cs)

/-- Skipping blanks adds nothing. -/
theorem skipBlank_length_le (cs : List Char) : (skipBlank cs).length ≤ cs.length :=
  (List.dropWhile_suffix _).length_le

@[simp] theorem skipBlank_nil : skipBlank [] = [] := rfl

@[simp] theorem trimmed_nil : trimmed [] = [] := rfl

/-! ## Runs of blanks -/

/-- A text of nothing but blank characters. -/
def Blanks (cs : List Char) : Prop := ∀ c ∈ cs, isBlank c = true

theorem Blanks.nil : Blanks [] := fun _ hc => nomatch hc

/-- Skipping stops at a character that is not blank. -/
theorem skipBlank_cons {c : Char} {cs : List Char} (hc : isBlank c = false) :
    skipBlank (c :: cs) = c :: cs :=
  List.dropWhile_cons_of_neg (by simp [hc])

/-- A run of blanks is skipped whole. -/
theorem Blanks.skipBlank_append {blank cs : List Char} (h : Blanks blank) :
    skipBlank (blank ++ cs) = skipBlank cs :=
  List.dropWhile_append_of_pos h

/-- **What is skipped is a run of blanks.** -/
theorem exists_blanks_append_skipBlank (cs : List Char) :
    ∃ blank, Blanks blank ∧ cs = blank ++ skipBlank cs := by
  refine ⟨cs.takeWhile isBlank, fun c hc => ?_, List.takeWhile_append_dropWhile.symm⟩
  exact List.all_eq_true.mp List.all_takeWhile c hc

/-- What is left begins with a character that is not blank. -/
theorem isBlank_eq_false_of_skipBlank {c : Char} {cs rest : List Char}
    (h : skipBlank cs = c :: rest) : isBlank c = false := by
  induction cs with
  | nil => simp at h
  | cons d ds ih =>
    cases hd : isBlank d with
    | true => exact ih (by rwa [skipBlank, List.dropWhile_cons_of_pos hd] at h)
    | false =>
      rw [skipBlank_cons hd] at h
      cases h
      exact hd

/-- Skipping a second time changes nothing. -/
@[simp] theorem skipBlank_skipBlank (cs : List Char) : skipBlank (skipBlank cs) = skipBlank cs := by
  obtain ⟨blank, hb, heq⟩ := exists_blanks_append_skipBlank cs
  conv => rhs; rw [heq, hb.skipBlank_append]

/-- A text is a run of blanks exactly if nothing is left of it. -/
theorem skipBlank_eq_nil_iff {cs : List Char} : skipBlank cs = [] ↔ Blanks cs := by
  constructor
  · intro h
    obtain ⟨blank, hb, heq⟩ := exists_blanks_append_skipBlank cs
    rw [h, List.append_nil] at heq
    exact heq ▸ hb
  · intro h
    have happ : skipBlank (cs ++ []) = skipBlank [] := h.skipBlank_append
    rwa [List.append_nil] at happ

/-- Any other text has a first character that is not blank. -/
theorem exists_blanks_append_cons {cs : List Char} (h : ¬ Blanks cs) :
    ∃ blank c rest, cs = blank ++ c :: rest ∧ Blanks blank ∧ isBlank c = false := by
  obtain ⟨blank, hb, heq⟩ := exists_blanks_append_skipBlank cs
  cases hskip : skipBlank cs with
  | nil => exact absurd (skipBlank_eq_nil_iff.mp hskip) h
  | cons c rest =>
    rw [hskip] at heq
    exact ⟨blank, c, rest, heq, hb, isBlank_eq_false_of_skipBlank hskip⟩

/-- Blanks at the end of a text are all that trimming its end removes. -/
theorem exists_dropBlankEnd_append_blanks (cs : List Char) :
    ∃ blank, Blanks blank ∧ cs = dropBlankEnd cs ++ blank := by
  obtain ⟨blank, hb, heq⟩ := exists_blanks_append_skipBlank cs.reverse
  refine ⟨blank.reverse, fun c hc => hb c (List.mem_reverse.mp hc), ?_⟩
  rw [dropBlankEnd, ← skipBlank, ← List.reverse_append, ← heq, List.reverse_reverse]

/-- Trimming the end drops a run of blanks there. -/
theorem Blanks.dropBlankEnd_append {blank cs : List Char} (h : Blanks blank) :
    dropBlankEnd (cs ++ blank) = dropBlankEnd cs := by
  have hrev : Blanks blank.reverse := fun c hc => h c (List.mem_reverse.mp hc)
  rw [dropBlankEnd, List.reverse_append, ← skipBlank, hrev.skipBlank_append, skipBlank,
    ← dropBlankEnd]

/-- A text that begins with a character that is not blank keeps it. -/
theorem skipBlank_eq_self_of_trimmed {cs : List Char} (h : trimmed cs = cs) :
    skipBlank cs = cs := by
  obtain ⟨blank, -, heq⟩ := exists_blanks_append_skipBlank cs
  obtain ⟨back, -, heq'⟩ := exists_dropBlankEnd_append_blanks (skipBlank cs)
  have hlen := congrArg List.length heq
  have hlen' := congrArg List.length heq'
  rw [← trimmed, h] at hlen'
  simp only [List.length_append] at hlen hlen'
  have hb : blank = [] := List.length_eq_zero_iff.mp (by omega)
  rw [hb] at heq
  exact heq.symm

/-- **Trimming gives back a text without blank ends**, whatever blanks
follow it. -/
theorem trimmed_append_blanks {cs blank : List Char} (h : trimmed cs = cs) (hb : Blanks blank) :
    trimmed (cs ++ blank) = cs := by
  have hself := skipBlank_eq_self_of_trimmed h
  cases cs with
  | nil => rw [List.nil_append, trimmed, skipBlank_eq_nil_iff.mpr hb]; rfl
  | cons c cs =>
    have hc := isBlank_eq_false_of_skipBlank hself
    rw [trimmed, hself] at h
    rw [trimmed, List.cons_append, skipBlank_cons hc, ← List.cons_append, hb.dropBlankEnd_append, h]

/-- Trimming a second time changes nothing. -/
theorem trimmed_trimmed (cs : List Char) : trimmed (trimmed cs) = trimmed cs := by
  obtain ⟨blank, hb, heq⟩ := exists_dropBlankEnd_append_blanks (skipBlank cs)
  have hend : dropBlankEnd (trimmed cs) = trimmed cs := by
    rw [trimmed, ← hb.dropBlankEnd_append, ← heq]
  rw [← trimmed] at heq
  cases ht : trimmed cs with
  | nil => rfl
  | cons c rest =>
    rw [ht] at heq hend
    rw [trimmed, skipBlank_cons (isBlank_eq_false_of_skipBlank heq), hend]

end Text
end Scenario
