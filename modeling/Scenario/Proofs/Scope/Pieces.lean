import Scenario.Scope.Placeholder
import Scenario.Scope.Variables

/-!
# Pieces — what a text is cut into

Cutting a text at its placeholders loses nothing: written one after another
the pieces are the text (`flatMap_written_pieces`). So filling changes a text
only where a placeholder names a bound variable (`fillChars_eq_self`), and in
the empty scope every text is left as it is, whatever markers and braces are
in it (`Scope.fill_empty`).
-/

namespace Scenario
namespace Placeholder

variable {cs before inner rest : List Char} {lookup : String → Option String}

/-- What is cut at a marker has it in between. -/
theorem eq_of_cutAtMarker (h : cutAtMarker cs = some (before, rest)) :
    cs = before ++ '$' :: '{' :: rest := by
  induction cs generalizing before with
  | nil => cases h
  | cons c cs ih =>
    rw [cutAtMarker.eq_def] at h
    dsimp only at h
    split at h
    · cases h
      rfl
    · obtain ⟨⟨front, back⟩, hcut, heq⟩ := Option.map_eq_some_iff.mp h
      cases heq
      rw [ih hcut, List.cons_append]

/-- And what is cut at a brace has that. -/
theorem eq_of_cutAtBrace (h : cutAtBrace cs = some (inner, rest)) :
    cs = inner ++ '}' :: rest := by
  induction cs generalizing inner with
  | nil => cases h
  | cons c cs ih =>
    rw [cutAtBrace] at h
    split at h
    · next hc =>
      cases h
      rw [hc, List.nil_append]
    · obtain ⟨⟨front, back⟩, hcut, heq⟩ := Option.map_eq_some_iff.mp h
      cases heq
      rw [ih hcut, List.cons_append]

/-- **The first placeholder stands in the text** as it is written. -/
theorem eq_of_firstReference (h : firstReference cs = some (before, inner, rest)) :
    cs = before ++ (Piece.reference inner).written ++ rest := by
  unfold firstReference at h
  split at h
  · cases h
  · next front back hmarker =>
    obtain ⟨⟨name, more⟩, hbrace, heq⟩ := Option.map_eq_some_iff.mp h
    cases heq
    rw [eq_of_cutAtMarker hmarker, eq_of_cutAtBrace hbrace, Piece.written]
    simp

theorem pieces_of_firstReference_eq_none (h : firstReference cs = none) :
    pieces cs = [.literal cs] := by
  rw [pieces]
  split
  · rfl
  · next heq =>
    rw [h] at heq
    cases heq

theorem pieces_of_firstReference_eq_some (h : firstReference cs = some (before, inner, rest)) :
    pieces cs = .literal before :: .reference inner :: pieces rest := by
  rw [pieces]
  split
  · next heq =>
    rw [h] at heq
    cases heq
  · next heq =>
    rw [h] at heq
    cases heq
    rfl

/-- **Nothing is lost in cutting**: the pieces write the text. -/
theorem flatMap_written_pieces (cs : List Char) : (pieces cs).flatMap Piece.written = cs := by
  induction cs using pieces.induct with
  | case1 cs hnone =>
    rw [pieces_of_firstReference_eq_none hnone, List.flatMap_singleton, Piece.written]
  | case2 cs before inner rest hsome ih =>
    rw [pieces_of_firstReference_eq_some hsome, List.flatMap_cons, List.flatMap_cons, ih,
      ← List.append_assoc, Piece.written, ← eq_of_firstReference hsome]

/-- **A text is left as it is** where none of its placeholders is bound. -/
theorem fillChars_eq_self
    (h : ∀ inner, .reference inner ∈ pieces cs → lookup (nameOf inner) = none) :
    fillChars lookup cs = cs := by
  have hpiece : ∀ piece ∈ pieces cs, fillPiece lookup piece = piece.written := by
    intro piece hp
    cases piece with
    | literal text => rw [fillPiece, Piece.written]
    | reference inner => rw [fillPiece, h inner hp]
  rw [fillChars, List.flatMap_def, List.map_congr_left hpiece, ← List.flatMap_def,
    flatMap_written_pieces]

/-- A text without a marker is one piece. -/
theorem pieces_of_no_marker (h : ¬ ['$', '{'] <:+: cs) : pieces cs = [.literal cs] := by
  refine pieces_of_firstReference_eq_none ?_
  have hnone : cutAtMarker cs = none := by
    refine Option.eq_none_iff_forall_ne_some.mpr fun ⟨before, rest⟩ hcut => h ?_
    exact ⟨before, rest, by rw [eq_of_cutAtMarker hcut]; simp⟩
  rw [firstReference, hnone]

end Placeholder

/-- **Nothing is filled in where nothing is bound.** -/
@[simp] theorem Scope.fill_empty (text : String) : Scope.empty.fill text = text := by
  rw [fill, Placeholder.fillChars_eq_self fun _ _ => rfl, String.ofList_toList]

/-- **Nor where there is nothing to fill in.** -/
theorem Scope.fill_of_no_marker {text : String} (scope : Scope)
    (h : ¬ ['$', '{'] <:+: text.toList) : scope.fill text = text := by
  have hpieces := Placeholder.pieces_of_no_marker h
  rw [fill, Placeholder.fillChars_eq_self, String.ofList_toList]
  intro inner hmem
  rw [hpieces, List.mem_singleton] at hmem
  cases hmem

end Scenario
