import Scenario.Scope.Variables
import Scenario.Text.Blank

/-!
# Placeholders — variables inside a text

A text names variables as `${name}`. `pieces` cuts it, by the text alone,
into literal parts and placeholders: a placeholder starts at the leftmost
marker still unread and ends at the first closing brace after it, and a
marker that is never closed belongs to the last literal part. `fill` then
puts the value of each bound name in its place and leaves every other piece
as it is written, so values are never looked at again.
-/

namespace Scenario
namespace Placeholder

/-- A part of a text: literal characters, or what stands between the braces
of a placeholder. -/
inductive Piece where
  | literal (text : List Char)
  | reference (inner : List Char)
  deriving DecidableEq

/-- A piece as the text writes it. -/
def Piece.written : Piece → List Char
  | literal text => text
  | reference inner => '$' :: '{' :: (inner ++ ['}'])

/-- The text before the first marker and the text after it. -/
def cutAtMarker : List Char → Option (List Char × List Char)
  | [] => none
  | c :: cs =>
    match c, cs with
    | '$', '{' :: rest => some ([], rest)
    | _, _ => (cutAtMarker cs).map fun cut => (c :: cut.1, cut.2)

/-- The text before the first closing brace and the text after it. -/
def cutAtBrace : List Char → Option (List Char × List Char)
  | [] => none
  | c :: cs =>
    if c = '}' then some ([], cs)
    else (cutAtBrace cs).map fun cut => (c :: cut.1, cut.2)

/-- A marker leaves less to read. -/
theorem cutAtMarker_length {cs before rest : List Char}
    (h : cutAtMarker cs = some (before, rest)) : rest.length < cs.length := by
  induction cs generalizing before with
  | nil => simp [cutAtMarker] at h
  | cons c cs ih =>
    rw [cutAtMarker.eq_def] at h
    dsimp only at h
    split at h
    · simp only [Option.some.injEq, Prod.mk.injEq] at h
      simp only [← h.2, List.length_cons]; omega
    · simp only [Option.map_eq_some_iff, Prod.mk.injEq] at h
      obtain ⟨⟨b, r⟩, h1, _, h3⟩ := h
      simp only at h3
      subst h3
      have := ih h1
      simp only [List.length_cons]; omega

/-- A closing brace leaves less to read. -/
theorem cutAtBrace_length {cs inner rest : List Char}
    (h : cutAtBrace cs = some (inner, rest)) : rest.length < cs.length := by
  induction cs generalizing inner with
  | nil => simp [cutAtBrace] at h
  | cons c cs ih =>
    rw [cutAtBrace] at h
    split at h
    · simp only [Option.some.injEq, Prod.mk.injEq] at h
      simp [← h.2]
    · simp only [Option.map_eq_some_iff, Prod.mk.injEq] at h
      obtain ⟨⟨b, r⟩, h1, _, h3⟩ := h
      simp only at h3
      subst h3
      have := ih h1
      simp only [List.length_cons]; omega

/-- The first placeholder of a text: what stands before it, between its
braces, and after it. -/
def firstReference (cs : List Char) : Option (List Char × List Char × List Char) :=
  match cutAtMarker cs with
  | none => none
  | some (before, rest) => (cutAtBrace rest).map fun cut => (before, cut.1, cut.2)

/-- A placeholder leaves less to read. -/
theorem firstReference_length {cs before inner rest : List Char}
    (h : firstReference cs = some (before, inner, rest)) : rest.length < cs.length := by
  unfold firstReference at h
  split at h
  · simp at h
  · rename_i b r hm
    simp only [Option.map_eq_some_iff, Prod.mk.injEq] at h
    obtain ⟨⟨i, r'⟩, h1, _, _, h4⟩ := h
    simp only at h4
    subst h4
    have h2 := cutAtMarker_length hm
    have h3 := cutAtBrace_length h1
    omega

/-- The pieces of a text, in order. -/
def pieces (cs : List Char) : List Piece :=
  match _h : firstReference cs with
  | none => [.literal cs]
  | some (before, inner, rest) => .literal before :: .reference inner :: pieces rest
termination_by cs.length
decreasing_by exact firstReference_length ‹_›

/-- The variable a placeholder names: its inner text without blank ends. -/
def nameOf (inner : List Char) : String := .ofList (Text.trimmed inner)

/-- A piece with its variable filled in, if the name is bound. -/
def fillPiece (lookup : String → Option String) : Piece → List Char
  | .literal text => text
  | .reference inner =>
    match lookup (nameOf inner) with
    | some value => value.toList
    | none => (Piece.reference inner).written

/-- The text with its variables filled in. -/
def fillChars (lookup : String → Option String) (cs : List Char) : List Char :=
  (pieces cs).flatMap (fillPiece lookup)

end Placeholder

/-- The text with each placeholder of a bound variable replaced by its
value. -/
def Scope.fill (s : Scope) (text : String) : String :=
  .ofList (Placeholder.fillChars s.find? text.toList)

end Scenario
