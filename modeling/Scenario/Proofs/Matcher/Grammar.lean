import Scenario.Proofs.Matcher.WellFormed

/-!
# The grammar of matcher expressions

Which texts derive which predicates, said without a reader. A derivation
relates a text, the value it begins with, and the rest after it. The rest is
there because one rule looks ahead: a literal that begins with a quote
counts as bare only if the quote is closed somewhere later, even beyond the
call it stands in, and goes on there with something that does not end an
argument (`GoesOn`).

Lists have the same shape for calls and for literals, so `Separated` and
`Bracketed` take the rule for an item as a parameter. A list of blanks only
is the empty list, never a single empty literal.
-/

namespace Scenario
namespace Matcher
namespace Grammar

open Text (Blanks)

/-! ## Literals -/

/-- What ends an argument. -/
def Separator (c : Char) : Prop := c = ',' ∨ c = ')'

instance (c : Char) : Decidable (Separator c) := inferInstanceAs (Decidable (_ ∨ _))

/-- **The inside of a quoted literal, as written and as meant.** A backslash
before a quote or a backslash stands for that character, before any other
for itself, and no quote stands alone. -/
inductive QuotedText : List Char → List Char → Prop
  /-- Nothing stands for nothing. -/
  | nil : QuotedText [] []
  /-- An escaped quote or backslash. -/
  | escaped {c : Char} {raw value : List Char} :
      c = '\'' ∨ c = '\\' → QuotedText raw value → QuotedText ('\\' :: c :: raw) (c :: value)
  /-- A backslash that escapes nothing. -/
  | kept {c : Char} {raw value : List Char} :
      c ≠ '\'' → c ≠ '\\' → QuotedText (c :: raw) value →
      QuotedText ('\\' :: c :: raw) ('\\' :: value)
  /-- Any other character. -/
  | plain {c : Char} {raw value : List Char} :
      c ≠ '\'' → c ≠ '\\' → QuotedText raw value → QuotedText (c :: raw) (c :: value)

/-- **A text that an argument does not end in**: before each comma and each
closing parenthesis in it more parentheses were opened than closed, and at
its end as many. -/
structure Level (text : List Char) : Prop where
  /-- Separators are inside the text's own parentheses. -/
  enclosed : ∀ front c back, text = front ++ c :: back → Separator c →
    front.count ')' < front.count '('
  /-- What is opened is closed. -/
  closed : text.count '(' = text.count ')'

/-- The text begins with the name of a matcher and an opening parenthesis,
blanks allowed between them. -/
def BeginsCall (text : List Char) : Prop :=
  ∃ (matcher : MatcherName) (blank inside : List Char),
    Blanks blank ∧ text = matcher.name.toList ++ (blank ++ '(' :: inside)

/-- The text begins with a quote that is closed later, and what follows
there, blanks aside, does not end an argument. -/
def GoesOn (text : List Char) : Prop :=
  ∃ (raw value blank more : List Char) (c : Char),
    QuotedText raw value ∧ Blanks blank ∧ Text.isBlank c = false ∧ ¬ Separator c ∧
    text = '\'' :: (raw ++ '\'' :: (blank ++ c :: more))

/-- A text without the pair of quotes around it, if it has one. -/
def Unquoted (text value : List Char) : Prop :=
  text = '\'' :: (value ++ ['\'']) ∨
    value = text ∧ ∀ inner, text ≠ '\'' :: (inner ++ ['\''])

/-- **A literal argument**, from its first character that is not blank. -/
inductive Literal : List Char → String → List Char → Prop
  /-- A quoted literal ends at the first quote that is not escaped. -/
  | quoted {raw value rest : List Char} :
      QuotedText raw value → Literal ('\'' :: (raw ++ '\'' :: rest)) (.ofList value) rest
  /-- A bare literal has no blank ends, does not begin like a call, and
  begins with a quote only if that one goes on. -/
  | bare {text value rest : List Char} :
      Level text → Text.trimmed text = text → ¬ BeginsCall text →
      (text.head? = some '\'' → GoesOn (text ++ rest)) → Unquoted text value →
      Literal (text ++ rest) (.ofList value) rest

/-! ## Lists -/

section Lists

variable {α : Type} (Item : List Char → α → List Char → Prop)

/-- Items with commas between them, up to the closing parenthesis; blanks
are allowed around every item. -/
inductive Separated : List Char → List α → List Char → Prop
  /-- The last item is followed by the closing parenthesis. -/
  | last {lead item trail rest : List Char} {x : α} :
      Blanks lead → Item item x (trail ++ ')' :: rest) → Blanks trail →
      Separated (lead ++ item) [x] rest
  /-- Any other by a comma. -/
  | more {lead item trail next rest : List Char} {x : α} {xs : List α} :
      Blanks lead → Item item x (trail ++ ',' :: next) → Blanks trail →
      Separated next xs rest → Separated (lead ++ item) (x :: xs) rest

/-- What stands between the parentheses of a call, the closing one
included: either only blanks, or a list that is not only blanks. -/
inductive Bracketed : List Char → List α → List Char → Prop
  /-- Only blanks: no items. -/
  | none {blank rest : List Char} : Blanks blank → Bracketed (blank ++ ')' :: rest) [] rest
  /-- A list. -/
  | some {text rest : List Char} {xs : List α} :
      Separated Item text xs rest →
      (∀ blank more, Blanks blank → text ≠ blank ++ ')' :: more) → Bracketed text xs rest

end Lists

/-! ## Calls -/

variable [PatternLibrary]

/-- **A call**: the name of a matcher, blanks, and the items of its kind in
parentheses. -/
inductive Call : List Char → Predicate → List Char → Prop
  /-- A check is called with literals that it admits. -/
  | check {kind : Check} {blank inside rest : List Char} {args : List String} :
      Blanks blank → Bracketed Literal inside args rest → kind.Admits args →
      Call (kind.name.toList ++ (blank ++ '(' :: inside)) (.check kind args) rest
  /-- A combinator is called with calls, as many as it takes. -/
  | combine {kind : Combinator} {blank inside rest : List Char} {parts : List Predicate} :
      Blanks blank → Bracketed Call inside parts rest →
      kind.arity.accepts parts.length = true →
      Call (kind.name.toList ++ (blank ++ '(' :: inside)) (.combine kind parts) rest

/-- **An expression derives a predicate** if it is a call of it with nothing
but blanks around. -/
def Derives (expression : List Char) (t : Predicate) : Prop :=
  ∃ lead call trail, Blanks lead ∧ Blanks trail ∧ expression = lead ++ call ∧ Call call t trail

end Grammar
end Matcher
end Scenario
