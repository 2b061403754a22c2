import Mathlib.Data.List.Forall2
import Scenario.Proofs.Scope.Pieces

/-!
# Substitution — the pieces of a text, filled in one by one

`SplitsInto` says without a scanner how a text is cut: at its leftmost marker
and the first closing brace after it, and again behind that brace, until no
marker is closed any more. The text alone decides, and `pieces` is the one way
to cut it (`splitsInto_iff`).

In a scope each piece becomes a text of its own (`Fills`), and the filled text
is these texts one after another (`fill_eq_flatten`). So a value is put in as it
is, whatever markers are in it, and two scopes that agree on the names in a text
fill it alike (`fill_congr`).
-/

namespace Scenario
namespace Placeholder

variable {cs before inner rest : List Char}

/-! ## Markers and braces -/

/-- **The leftmost marker of a text**, with what stands before and after it. -/
structure FirstMarker (cs before rest : List Char) : Prop where
  /-- A marker stands there. -/
  stands : cs = before ++ '$' :: '{' :: rest
  /-- And none further left. -/
  leftmost : ∀ front back, cs = front ++ '$' :: '{' :: back → before.length ≤ front.length

/-- No marker stands before the leftmost one, so there is only one. -/
theorem FirstMarker.unique {before' rest' : List Char} (h : FirstMarker cs before rest)
    (h' : FirstMarker cs before' rest') : before = before' ∧ rest = rest' := by
  have hlen : before.length = before'.length :=
    Nat.le_antisymm (h.leftmost _ _ h'.stands) (h'.leftmost _ _ h.stands)
  obtain ⟨hbefore, hrest⟩ := List.append_inj (h.stands.symm.trans h'.stands) hlen
  exact ⟨hbefore, by simpa using hrest⟩

/-- What follows any marker is an end of what follows the leftmost one. -/
theorem FirstMarker.suffix (h : FirstMarker cs before rest) {front back : List Char}
    (hm : cs = front ++ '$' :: '{' :: back) : back <:+ rest := by
  have hrest : rest <:+ cs := ⟨before ++ ['$', '{'], by rw [h.stands]; simp⟩
  have hback : back <:+ cs := ⟨front ++ ['$', '{'], by rw [hm]; simp⟩
  refine List.suffix_of_suffix_length_le hback hrest ?_
  have hlen := congrArg List.length (h.stands.symm.trans hm)
  have hle := h.leftmost front back hm
  simp only [List.length_append, List.length_cons] at hlen
  omega

/-- **The scanner finds the leftmost marker.** -/
theorem firstMarker_of_cutAtMarker (h : cutAtMarker cs = some (before, rest)) :
    FirstMarker cs before rest where
  stands := eq_of_cutAtMarker h
  leftmost := by
    induction cs generalizing before with
    | nil => cases h
    | cons c cs ih =>
      intro front back hm
      rw [cutAtMarker.eq_def] at h
      dsimp only at h
      split at h
      · cases h
        exact Nat.zero_le _
      · next hne =>
        obtain ⟨⟨lead, more⟩, hcut, heq⟩ := Option.map_eq_some_iff.mp h
        cases heq
        cases front with
        | nil =>
          obtain ⟨hc, hcs⟩ := List.cons.inj hm
          exact absurd hcs (hne back hc)
        | cons d front =>
          obtain ⟨-, hcs⟩ := List.cons.inj hm
          exact Nat.succ_le_succ (ih hcut front back hcs)

/-- And where it finds none there is none. -/
theorem no_marker_of_cutAtMarker (h : cutAtMarker cs = none) (front back : List Char) :
    cs ≠ front ++ '$' :: '{' :: back := by
  induction cs generalizing front with
  | nil => simp
  | cons c cs ih =>
    rw [cutAtMarker.eq_def] at h
    dsimp only at h
    split at h
    · cases h
    · next hne =>
      intro hm
      cases front with
      | nil =>
        obtain ⟨hc, hcs⟩ := List.cons.inj hm
        exact hne back hc hcs
      | cons d front =>
        obtain ⟨-, hcs⟩ := List.cons.inj hm
        exact ih (Option.map_eq_none_iff.mp h) front hcs

/-- **The first closing brace** is the one with no other before it. -/
theorem cutAtBrace_append (h : '}' ∉ inner) (rest : List Char) :
    cutAtBrace (inner ++ '}' :: rest) = some (inner, rest) := by
  induction inner with
  | nil => rfl
  | cons c inner ih =>
    obtain ⟨hc, hmem⟩ := not_or.mp (mt List.mem_cons.mpr h)
    rw [List.cons_append, cutAtBrace, if_neg (Ne.symm hc), ih hmem, Option.map_some]

theorem not_mem_of_cutAtBrace (h : cutAtBrace cs = some (inner, rest)) : '}' ∉ inner := by
  induction cs generalizing inner with
  | nil => cases h
  | cons c cs ih =>
    rw [cutAtBrace] at h
    split at h
    · cases h
      exact List.not_mem_nil
    · next hc =>
      obtain ⟨⟨front, back⟩, hcut, heq⟩ := Option.map_eq_some_iff.mp h
      cases heq
      exact List.not_mem_cons_of_ne_of_not_mem (Ne.symm hc) (ih hcut)

/-- Without a brace it does not end. -/
theorem cutAtBrace_eq_none_iff : cutAtBrace cs = none ↔ '}' ∉ cs := by
  induction cs with
  | nil => simp [cutAtBrace]
  | cons c cs ih =>
    rw [cutAtBrace]
    by_cases hc : c = '}'
    · simp [hc]
    · simp [hc, ih, Ne.symm hc]

/-! ## Placeholders -/

/-- **The first placeholder** begins at the leftmost marker. -/
theorem firstReference_eq_some_iff :
    firstReference cs = some (before, inner, rest) ↔
      FirstMarker cs before (inner ++ '}' :: rest) ∧ '}' ∉ inner := by
  unfold firstReference
  constructor
  · intro h
    split at h
    · cases h
    · next front back hcut =>
      obtain ⟨⟨name, more⟩, hbrace, heq⟩ := Option.map_eq_some_iff.mp h
      cases heq
      rw [← eq_of_cutAtBrace hbrace]
      exact ⟨firstMarker_of_cutAtMarker hcut, not_mem_of_cutAtBrace hbrace⟩
  · rintro ⟨hmarker, hmem⟩
    split
    · next hcut => exact absurd hmarker.stands (no_marker_of_cutAtMarker hcut _ _)
    · next front back hcut =>
      obtain ⟨rfl, rfl⟩ := (firstMarker_of_cutAtMarker hcut).unique hmarker
      rw [cutAtBrace_append hmem, Option.map_some]

/-- **There is none exactly if no marker is closed.** -/
theorem firstReference_eq_none_iff :
    firstReference cs = none ↔ ∀ front back, cs = front ++ '$' :: '{' :: back → '}' ∉ back := by
  constructor
  · intro h front back hm
    unfold firstReference at h
    split at h
    · next hcut => exact absurd hm (no_marker_of_cutAtMarker hcut front back)
    · next before rest hcut =>
      -- behind the leftmost marker there is no brace, so there is none further on
      have hmem : '}' ∉ rest := cutAtBrace_eq_none_iff.mp (Option.map_eq_none_iff.mp h)
      exact fun hb => hmem ((firstMarker_of_cutAtMarker hcut).suffix hm |>.subset hb)
  · intro h
    refine Option.eq_none_iff_forall_ne_some.mpr fun ⟨before, inner, rest⟩ hfirst => ?_
    obtain ⟨hmarker, -⟩ := firstReference_eq_some_iff.mp hfirst
    exact h _ _ hmarker.stands (by simp)

/-! ## Splitting -/

/-- **How a text splits.** A placeholder begins at the leftmost marker and ends
at the first closing brace after it, what stands before it is literal, and what
follows splits again. A text in which no marker is closed is one literal. -/
inductive SplitsInto : List Char → List Piece → Prop
  /-- No marker is closed. -/
  | last {cs : List Char} :
      (∀ front back, cs = front ++ '$' :: '{' :: back → '}' ∉ back) →
      SplitsInto cs [.literal cs]
  /-- The leftmost one is. -/
  | next {cs before inner rest : List Char} {ps : List Piece} :
      FirstMarker cs before (inner ++ '}' :: rest) → '}' ∉ inner → SplitsInto rest ps →
      SplitsInto cs (.literal before :: .reference inner :: ps)

/-- The pieces are a way to split the text. -/
theorem splitsInto_pieces (cs : List Char) : SplitsInto cs (pieces cs) := by
  induction cs using pieces.induct with
  | case1 cs hnone =>
    rw [pieces_of_firstReference_eq_none hnone]
    exact .last (firstReference_eq_none_iff.mp hnone)
  | case2 cs before inner rest hsome ih =>
    obtain ⟨hmarker, hmem⟩ := firstReference_eq_some_iff.mp hsome
    rw [pieces_of_firstReference_eq_some hsome]
    exact .next hmarker hmem ih

/-- **And the only one**: the text alone decides how it splits. -/
theorem splitsInto_iff {ps : List Piece} : SplitsInto cs ps ↔ ps = pieces cs := by
  constructor
  · intro h
    induction h with
    | last hopen =>
      rw [pieces_of_firstReference_eq_none (firstReference_eq_none_iff.mpr hopen)]
    | next hmarker hmem _ ih =>
      rw [pieces_of_firstReference_eq_some (firstReference_eq_some_iff.mpr ⟨hmarker, hmem⟩), ih]
  · rintro rfl
    exact splitsInto_pieces cs

/-! ## Filling -/

/-- **What a piece becomes in a scope.** A literal stays, a placeholder whose
name is bound becomes the value, and any other stays as it is written. -/
inductive Fills (scope : Scope) : Piece → List Char → Prop
  /-- Literal text. -/
  | literal {text : List Char} : Fills scope (.literal text) text
  /-- A bound name. -/
  | bound {inner : List Char} {value : String} :
      scope.get (.ofList (Text.trimmed inner)) = .ok value →
      Fills scope (.reference inner) value.toList
  /-- A name that is not bound. -/
  | unbound {inner : List Char} {e : UnknownVariable} :
      scope.get (.ofList (Text.trimmed inner)) = .error e →
      Fills scope (.reference inner) ('$' :: '{' :: (inner ++ ['}']))

variable {scope : Scope}

/-- Each piece becomes what it is filled to. -/
theorem fills_fillPiece (scope : Scope) (piece : Piece) :
    Fills scope piece (fillPiece scope.find? piece) := by
  cases piece with
  | literal text => exact .literal
  | reference inner =>
    cases hfind : scope.find? (nameOf inner) with
    | some value =>
      have hget : scope.get (nameOf inner) = .ok value := by rw [Scope.get, hfind]
      rw [fillPiece, hfind]
      exact .bound hget
    | none =>
      have hget : scope.get (nameOf inner) = .error ⟨nameOf inner⟩ := by rw [Scope.get, hfind]
      rw [fillPiece, hfind]
      exact .unbound hget

/-- **The filled text is its pieces, filled in one by one.** -/
theorem fill_eq_flatten (scope : Scope) (text : String) :
    ∃ outs, List.Forall₂ (Fills scope) (pieces text.toList) outs ∧
      (scope.fill text).toList = outs.flatten := by
  refine ⟨(pieces text.toList).map (fillPiece scope.find?), ?_, ?_⟩
  · rw [List.forall₂_map_right_iff, List.forall₂_same]
    exact fun piece _ => fills_fillPiece scope piece
  · rw [Scope.fill, String.toList_ofList, fillChars, List.flatMap_def]

/-- A lookup finds the value that is bound, if any. -/
theorem toOption_get (scope : Scope) (name : String) :
    (scope.get name).toOption = scope.find? name := by
  unfold Scope.get
  cases scope.find? name <;> rfl

/-- **Only the names in a text matter** for how it is filled. -/
theorem fill_congr {scope' : Scope} {text : String}
    (h : ∀ inner, .reference inner ∈ pieces text.toList →
      scope.get (nameOf inner) = scope'.get (nameOf inner)) :
    scope.fill text = scope'.fill text := by
  have hpiece : ∀ piece ∈ pieces text.toList,
      fillPiece scope.find? piece = fillPiece scope'.find? piece := by
    intro piece hp
    cases piece with
    | literal text => rfl
    | reference inner =>
      have hfind : scope.find? (nameOf inner) = scope'.find? (nameOf inner) := by
        rw [← toOption_get, h inner hp, toOption_get]
      rw [fillPiece, fillPiece, hfind]
  rw [Scope.fill, Scope.fill, fillChars, fillChars, List.flatMap_def, List.flatMap_def,
    List.map_congr_left hpiece]

end Placeholder

open Placeholder (Piece SplitsInto Fills)

/-- **Filling is one simultaneous substitution.** A text splits in exactly one
way, by itself, and its pieces write it. Filled in a scope it is what its pieces
become there, one after another, so no value is looked at again. In the empty
scope it stays as it is, and scopes in which looking up each name of the text
has the same outcome fill it alike. -/
theorem Scope.fill_substitutes (text : String) :
    ∃ ps : List Piece, (∀ qs, SplitsInto text.toList qs ↔ qs = ps) ∧
      ps.flatMap Piece.written = text.toList ∧
      (∀ scope : Scope, ∃ outs, List.Forall₂ (Fills scope) ps outs ∧
        (scope.fill text).toList = outs.flatten) ∧
      Scope.empty.fill text = text ∧
      ∀ scope scope' : Scope,
        (∀ inner, Piece.reference inner ∈ ps →
          scope.get (.ofList (Text.trimmed inner)) = scope'.get (.ofList (Text.trimmed inner))) →
        scope.fill text = scope'.fill text := by
  refine ⟨Placeholder.pieces text.toList, fun qs => Placeholder.splitsInto_iff,
    Placeholder.flatMap_written_pieces _, fun scope => Placeholder.fill_eq_flatten scope text,
    Scope.fill_empty text, fun scope scope' h => ?_⟩
  exact Placeholder.fill_congr h

example : (Scope.ofList [("x", "${y}"), ("y", "1")]).fill "${x}${ y }$${z}$\x7bx" =
    "${y}1$${z}$\x7bx" := by cbv

end Scenario
