import Mathlib.Data.List.Induction
import Scenario.Path.Navigation
import Scenario.Proofs.Path.Rejoin

/-!
# Descents — walking down a document

Segments without calls are walked without an evaluator. `descend` says where
they lead, and a walk that begins with them goes on from there
(`walkM_append`). The path walked until then is their text: an expression has
no segment that is written as nothing, so the dots stand between the segments
and nowhere else (`walked_eq_joined`). A navigation is thus a descent, and
perhaps one call at the end of it (`navigateM_of_segments`).
-/

namespace Scenario
namespace Path

variable {ss ts : List Segment} {s : Segment}

/-! ## The path walked so far -/

theorem extend_empty (piece : String) : extend "" piece = piece := rfl

theorem extend_of_ne_empty {walked : String} (h : walked ≠ "") (piece : String) :
    extend walked piece = walked ++ "." ++ piece := by
  rw [extend, if_neg (by rwa [String.isEmpty_iff])]

theorem placeOf_of_ne_empty {walked : String} (h : walked ≠ "") : placeOf walked = walked := by
  rw [placeOf, if_neg (by rwa [String.isEmpty_iff])]

/-- **A segment of an expression is not written as nothing.** -/
theorem Segment.Valid.text_ne_empty (h : s.Valid) : s.text ≠ "" := by
  by_cases hs : s.escape = none
  · exact fun htext => (h.plain_text hs).2.1 (String.toList_eq_nil_iff.mpr htext)
  · cases h with
    | call content language =>
      intro htext
      have hnil := String.toList_eq_nil_iff.mpr htext
      rw [toList_text_call] at hnil
      exact absurd hnil (by simp)
    | item => exact absurd rfl hs
    | property => exact absurd rfl hs

theorem joined_singleton (s : Segment) : joined [s] = s.text :=
  String.intercalate_singleton

theorem joined_append (hss : ss ≠ []) (hts : ts ≠ []) :
    joined (ss ++ ts) = joined ss ++ "." ++ joined ts := by
  rw [joined, List.map_append]
  exact String.intercalate_append_of_ne_nil (by simpa using hss) (by simpa using hts)

/-- **And neither are several.** -/
theorem joined_ne_empty (hss : ss ≠ []) (hv : ∀ s ∈ ss, s.Valid) : joined ss ≠ "" := by
  obtain ⟨s, ts, rfl⟩ := List.exists_cons_of_ne_nil hss
  have hs : s.text ≠ "" := (hv s (by simp)).text_ne_empty
  cases ts with
  | nil => rwa [joined_singleton]
  | cons t ts =>
    rw [← List.singleton_append, joined_append (by simp) (by simp)]
    simp

/-- The path after some segments. -/
def walked (path : String) (ss : List Segment) : String :=
  ss.foldl (fun path s => extend path s.text) path

/-- **The path walked from the root is the text of the segments.** -/
theorem walked_eq_joined (hv : ∀ s ∈ ss, s.Valid) : walked "" ss = joined ss := by
  -- on the segments from the last one
  induction ss using List.reverseRecOn with
  | nil => rfl
  | append_singleton ss s ih =>
    have hss : ∀ t ∈ ss, t.Valid := fun t ht => hv t (by simp [ht])
    rw [walked, List.foldl_concat, ← walked, ih hss]
    by_cases hne : ss = []
    · rw [hne, List.nil_append, joined_singleton]
      rfl
    · rw [extend_of_ne_empty (joined_ne_empty hne hss), joined_append hne (by simp),
        joined_singleton]

/-! ## Descending -/

/-- **Where segments without calls lead**, from a value, with the path
walked until there. -/
def descend : List Segment → Document → String → Except NavigationError Document
  | [], value, _ => .ok value
  | s :: rest, value, path =>
    match step value s path with
    | .error e => .error e
    | .ok next => descend rest next (extend path s.text)

/-- A descent goes on from where its first part leads. -/
theorem descend_append (ss ts : List Segment) (value : Document) (path : String) :
    descend (ss ++ ts) value path =
      match descend ss value path with
      | .error e => .error e
      | .ok next => descend ts next (walked path ss) := by
  induction ss generalizing value path with
  | nil => rfl
  | cons s ss ih =>
    rw [List.cons_append, descend, descend]
    cases step value s path with
    | error e => rfl
    | ok next => exact ih next _

variable {m : Type → Type} [Monad m] {evaluator : Option (Evaluator m)}
variable {value : Document} {path : String}

/-- A segment without a call is a step. -/
theorem walkM_cons_of_escape_eq_none (h : s.escape = none) :
    walkM evaluator (s :: ss) value path =
      match step value s path with
      | .error e => pure (.error e)
      | .ok next => walkM evaluator ss next (extend path s.text) := by
  cases hstep : step value s path with
  | error e => simp only [walkM, h, hstep]
  | ok next => simp only [walkM, h, hstep]

/-- A call is for the evaluator. -/
theorem walkM_cons_of_escape_eq_some {language : Embedded} (h : s.escape = some language) :
    walkM evaluator (s :: ss) value path =
      match evaluator with
      | none => pure (.error (.noEngine language))
      | some evaluate =>
        Except.mapError (.engineFailed language s.name) <$> evaluate language s.name value := by
  cases evaluator with
  | none => simp only [walkM, h]
  | some evaluate => simp only [walkM, h]

/-- **A walk that begins with segments without calls** goes on from where
they lead, and asks the evaluator nothing until then. -/
theorem walkM_append (h : ∀ s ∈ ss, s.escape = none) (ts : List Segment) (value : Document)
    (path : String) :
    walkM evaluator (ss ++ ts) value path =
      match descend ss value path with
      | .error e => pure (.error e)
      | .ok next => walkM evaluator ts next (walked path ss) := by
  induction ss generalizing value path with
  | nil => rfl
  | cons s ss ih =>
    rw [List.cons_append, walkM_cons_of_escape_eq_none (h s (by simp)), descend]
    cases step value s path with
    | error e => rfl
    | ok next => exact ih (fun t ht => h t (by simp [ht])) next _

/-- **So does a navigation**, from the root. -/
theorem navigateM_of_segments {expression : String} (hsegs : segments expression = ss ++ ts)
    (hne : ss ++ ts ≠ []) (h : ∀ s ∈ ss, s.escape = none) (root : Document) :
    navigateM evaluator root expression =
      match descend ss root "" with
      | .error e => pure (.error e)
      | .ok next => walkM evaluator ts next (joined ss) := by
  have hvalid : ∀ s ∈ ss, s.Valid := fun s hs =>
    (wellFormed_segments expression).valid s (by rw [hsegs]; exact List.mem_append_left _ hs)
  have hwalk : navigateM evaluator root expression = walkM evaluator (ss ++ ts) root "" := by
    rw [navigateM, hsegs]
    split
    · next heq => exact absurd heq hne
    · rfl
  rw [hwalk, walkM_append h, walked_eq_joined hvalid]

/-- Without calls it is the descent, whatever engine there is. -/
theorem navigate_of_escape_eq_none {expression : String} (hne : segments expression ≠ [])
    (h : ∀ s ∈ segments expression, s.escape = none) (engine : Option Engine) (root : Document) :
    navigate engine root expression = descend (segments expression) root "" := by
  have hsegs : segments expression = segments expression ++ [] := (List.append_nil _).symm
  rw [navigate, navigateM_of_segments hsegs (by rwa [List.append_nil]) h]
  cases descend (segments expression) root "" <;> rfl

end Path
end Scenario
