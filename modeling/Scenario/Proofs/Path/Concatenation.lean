import Scenario.Proofs.Path.Descent

/-!
# Concatenation — one path behind another

An expression without calls can be followed by any other: with a dot between
them the segments of both are read (`segments_append`), so a navigation along
the whole goes on from the value that the first part names. It ends as the
navigation along the second part alone, from that value, except that a failed
step is reported further down (`walkM_beneath`): where the second part stood
at the root, the whole stands at the end of the first.

Nothing is asked of the evaluator on the way (`AsksNothing`). A call at the
end asks it once (`AsksOnce`).
-/

namespace Scenario
namespace Path

variable {ss ts : List Segment} {s : Segment}

/-! ## Reading both parts -/

/-- Texts joined with a dot at the end have a dot behind each. -/
theorem intercalate_append_singleton {before : List (List Char)} (hne : before ≠ []) (d : Char) :
    [d].intercalate before ++ [d] = before.flatMap (· ++ [d]) := by
  have hlast := List.dropLast_append_getLast hne
  rw [← hlast, intercalate_append_cons, List.intercalate_singleton, List.flatMap_append,
    List.flatMap_singleton, List.append_assoc]

/-- **The segments of two expressions with a dot between them** are those of
both, if the first has no call that would take the rest. -/
theorem segments_append {a : String} (h : ∀ s ∈ segments a, s.escape = none) (b : String) :
    segments (a ++ "." ++ b) = segments a ++ segments b := by
  obtain ⟨before, call, hcut⟩ := exists_cut a.toList
  have hread : segments a =
      (before.filter (· ≠ [])).map .ofPiece ++ (call.map callSegment).toList := hcut.scanAll_eq
  cases hcut with
  | @call language body hplain hcs =>
    have hcall := h (callSegment (language, body)) (by rw [hread]; simp)
    cases hcall
  | whole hplain hne hcs =>
    have htext : (a ++ "." ++ b).toList = before.flatMap (· ++ ['.']) ++ b.toList := by
      rw [String.toList_append, String.toList_append, hcs,
        ← intercalate_append_singleton hne]
      rfl
    rw [Option.map_none, Option.toList_none, List.append_nil] at hread
    rw [segments, htext, scanAll_flatMap_append hplain, hread]
    rfl

/-- An expression that is a single call. -/
theorem segments_call (language : Embedded) (text : String) :
    segments (language.name ++ "(" ++ text ++ ")") = [⟨text, -1, some language⟩] := by
  have htext : (language.name ++ "(" ++ text ++ ")").toList =
      language.name.toList ++ '(' :: (text.toList ++ [')']) := by
    simp
  rw [segments, htext, scanAll_call, callSegment, callText_closed, String.ofList_toList]

/-! ## What is asked -/

/-- **The evaluator is asked nothing**: whatever effects it has, there are
none. -/
def AsksNothing (root : Document) (expression : String)
    (result : Except NavigationError Document) : Prop :=
  ∀ (m : Type → Type) [Monad m] (evaluator : Option (Evaluator m)),
    navigateM evaluator root expression = pure result

/-- **The evaluator is asked once**, with a call text and a target: whatever
effects it has, there are those of this call and no others, and what it
answers is the result. -/
def AsksOnce (root : Document) (expression : String) (language : Embedded) (text : String)
    (target : Document) : Prop :=
  ∀ (m : Type → Type) [Monad m] (evaluate : Evaluator m),
    navigateM (some evaluate) root expression =
      Except.mapError (.engineFailed language text) <$> evaluate language text target

/-! ## Errors further down -/

/-- The same error at another path. -/
def NavigationError.mapPath (f : String → String) : NavigationError → NavigationError
  | emptyExpression => emptyExpression
  | noSuchProperty property path => noSuchProperty property (f path)
  | notAnArray path => notAnArray (f path)
  | indexOutOfBounds index path length => indexOutOfBounds index (f path) length
  | noEngine language => noEngine language
  | engineFailed language expression reason => engineFailed language expression reason

/-- The path walked so far, for a walk that begins at the end of `lead`. -/
def beneath (lead path : String) : String := if path = "" then lead else lead ++ "." ++ path

variable {lead path : String} {value : Document} {engine : Option Engine}

@[simp] theorem beneath_empty (lead : String) : beneath lead "" = lead := if_pos rfl

theorem beneath_of_ne_empty (h : path ≠ "") : beneath lead path = lead ++ "." ++ path := if_neg h

/-- A piece extends both paths alike. -/
theorem extend_beneath (hlead : lead ≠ "") (path piece : String) :
    extend (beneath lead path) piece = lead ++ "." ++ extend path piece := by
  by_cases hpath : path = ""
  · rw [hpath, beneath_empty, extend_of_ne_empty hlead, extend_empty]
  · have hbeneath : lead ++ "." ++ path ≠ "" := by simp
    rw [beneath_of_ne_empty hpath, extend_of_ne_empty hbeneath, extend_of_ne_empty hpath]
    simp only [String.append_assoc]

/-- **A step beneath** comes to the same, at a path with the lead before it.
Only a property that is missing at the very beginning is reported
differently. -/
theorem step_beneath (hlead : lead ≠ "") (h : path = "" → value.property? s.name ≠ none) :
    step value s (beneath lead path) =
      (step value s path).mapError (.mapPath (lead ++ "." ++ ·)) := by
  unfold step
  rw [extend_beneath hlead]
  cases hprop : value.property? s.name with
  | none =>
    have hpath : path ≠ "" := fun hpath => h hpath hprop
    rw [beneath_of_ne_empty hpath, placeOf_of_ne_empty hpath, placeOf_of_ne_empty (by simp)]
    rfl
  | some property =>
    dsimp only
    split
    · rfl
    · split
      · rfl
      · split <;> rfl

/-- **And so does a walk beneath**, at whatever segment it ends. -/
theorem walkM_beneath (hlead : lead ≠ "") (hts : ∀ t ∈ ts, t.Valid)
    (h : path = "" → ∀ t, ts.head? = some t → t.escape = none → value.property? t.name ≠ none) :
    Id.run (walkM engine ts value (beneath lead path)) =
      (Id.run (walkM engine ts value path)).mapError (.mapPath (lead ++ "." ++ ·)) := by
  induction ts generalizing value path with
  | nil => rfl
  | cons t ts ih =>
    cases ht : t.escape with
    | some language =>
      rw [walkM_cons_of_escape_eq_some ht, walkM_cons_of_escape_eq_some ht]
      cases engine with
      | none => rfl
      | some evaluate =>
        change Except.mapError _ (evaluate language t.name value) =
          Except.mapError _ (Except.mapError _ (evaluate language t.name value))
        cases evaluate language t.name value <;> rfl
    | none =>
      have hstep := step_beneath (s := t) hlead fun hpath => h hpath t rfl ht
      rw [walkM_cons_of_escape_eq_none ht, walkM_cons_of_escape_eq_none ht, hstep]
      cases step value t path with
      | error e => rfl
      | ok next =>
        -- the text of a segment is never empty, so neither is the path after it
        have htext : t.text ≠ "" := (hts t (by simp)).text_ne_empty
        have hnext : extend path t.text ≠ "" := by
          by_cases hpath : path = ""
          · rwa [hpath, extend_empty]
          · rw [extend_of_ne_empty hpath]
            simp
        have hrest : Id.run (walkM engine ts next (beneath lead (extend path t.text))) =
            (Id.run (walkM engine ts next (extend path t.text))).mapError
              (.mapPath (lead ++ "." ++ ·)) :=
          ih (fun u hu => hts u (by simp [hu])) fun hempty => absurd hempty hnext
        change Id.run (walkM engine ts next (extend (beneath lead path) t.text)) = _
        rw [extend_beneath hlead, ← beneath_of_ne_empty hnext]
        exact hrest

/-! ## Navigating along both parts -/

/-- The first segment of an expression is a property that a document does not
have. -/
def FailsAtOnce (document : Document) (expression : String) : Prop :=
  ∃ s, (segments expression).head? = some s ∧ s.escape = none ∧ document.property? s.name = none

variable {a b : String} {root : Document}

/-- A navigation along two parts goes on from where the first one ends. -/
theorem navigateM_append {m : Type → Type} [Monad m] (evaluator : Option (Evaluator m))
    (ha : segments a ≠ []) (hplain : ∀ s ∈ segments a, s.escape = none) (root : Document)
    (b : String) :
    navigateM evaluator root (a ++ "." ++ b) =
      match descend (segments a) root "" with
      | .error e => pure (.error e)
      | .ok next => walkM evaluator (segments b) next (joined (segments a)) :=
  navigateM_of_segments (segments_append hplain b) (by simp [ha]) hplain root

theorem navigate_of_segments_ne_nil (hb : segments b ≠ []) (value : Document) :
    navigate engine value b = Id.run (walkM engine (segments b) value "") := by
  rw [navigate, navigateM]
  split
  · next heq => exact absurd heq hb
  · rfl

/-- What fails at once fails at the root. -/
theorem FailsAtOnce.navigate_eq (engine : Option Engine) (h : FailsAtOnce value b) :
    ∃ property, navigate engine value b = .error (.noSuchProperty property "$") ∧
      ∀ path ≠ "", Id.run (walkM engine (segments b) value path) =
        .error (.noSuchProperty property path) := by
  obtain ⟨s, hhead, hs, hprop⟩ := h
  obtain ⟨ts, hsegs⟩ := List.head?_eq_some_iff.mp hhead
  have hwalk : ∀ path, Id.run (walkM engine (s :: ts) value path) =
      .error (.noSuchProperty s.name (placeOf path)) := by
    intro path
    rw [walkM_cons_of_escape_eq_none hs, step, hprop]
    rfl
  refine ⟨s.name, ?_, fun path hpath => ?_⟩
  · rw [navigate_of_segments_ne_nil (by rw [hsegs]; simp), hsegs, hwalk]
    rfl
  · rw [hsegs, hwalk, placeOf_of_ne_empty hpath]

/-- **Navigation composes.** Along an expression without calls and any other
behind it, the first part fails for both, and the evaluator is not asked;
otherwise the second part is navigated from the value that the first one
names. It has the same result, but a failed step is reported behind the text
of the first part, and a property missing at the beginning of the second part
at the end of the first. If the second part is a call, the evaluator is asked
once, with the call text and that value. -/
theorem navigate_append (engine : Option Engine) (root : Document) (ha : segments a ≠ [])
    (hplain : ∀ s ∈ segments a, s.escape = none) (hb : segments b ≠ []) :
    (∀ e, navigate engine root a = .error e →
      navigate engine root (a ++ "." ++ b) = .error e ∧
        AsksNothing root (a ++ "." ++ b) (.error e)) ∧
    ∀ v, navigate engine root a = .ok v →
      (FailsAtOnce v b → ∃ property,
        navigate engine v b = .error (.noSuchProperty property "$") ∧
        navigate engine root (a ++ "." ++ b) =
          .error (.noSuchProperty property (joined (segments a)))) ∧
      (¬ FailsAtOnce v b → navigate engine root (a ++ "." ++ b) =
        (navigate engine v b).mapError (.mapPath (joined (segments a) ++ "." ++ ·))) ∧
      ∀ language text, b = language.name ++ "(" ++ text ++ ")" →
        AsksOnce root (a ++ "." ++ b) language text v := by
  rw [navigate_of_escape_eq_none ha hplain]
  have hlead : joined (segments a) ≠ "" := joined_ne_empty ha (wellFormed_segments a).valid
  constructor
  · intro e he
    have hasks : AsksNothing root (a ++ "." ++ b) (.error e) := by
      intro m _ evaluator
      rw [navigateM_append evaluator ha hplain, he]
    exact ⟨hasks Id engine, hasks⟩
  · intro v hv
    have hwalk : navigate engine root (a ++ "." ++ b) =
        Id.run (walkM engine (segments b) v (joined (segments a))) := by
      rw [navigate, navigateM_append _ ha hplain, hv]
    refine ⟨fun hmiss => ?_, fun hfound => ?_, ?_⟩
    · obtain ⟨property, hnav, hpath⟩ := hmiss.navigate_eq engine
      exact ⟨property, hnav, by rw [hwalk, hpath _ hlead]⟩
    · have hrest : Id.run (walkM engine (segments b) v (beneath (joined (segments a)) "")) = _ :=
        walkM_beneath hlead (wellFormed_segments b).valid fun _ t ht hs hprop =>
          hfound ⟨t, ht, hs, hprop⟩
      rw [hwalk, navigate_of_segments_ne_nil hb, ← hrest, beneath_empty]
    · rintro language text rfl m _ evaluate
      rw [navigateM_append _ ha hplain, hv, segments_call]
      rfl

/-- A property can be named like the root: what fails inside `$` is reported
at `order.$`, not at `order`. -/
theorem navigate_append_dollar :
    segments "order" ≠ [] ∧ (∀ s ∈ segments "order", s.escape = none) ∧ segments "$.total" ≠ [] ∧
      navigate none (.object [("order", .object [("$", .object [("sum", .number 7 0)])])])
        ("order" ++ "." ++ "$.total") = .error (.noSuchProperty "total" "order.$") := by
  have ha : segments "order" = [⟨"order", -1, none⟩] := by decide +kernel
  have hb : segments "$.total" = [⟨"$", -1, none⟩, ⟨"total", -1, none⟩] := by decide +kernel
  have hne : segments "order" ≠ [] := by rw [ha]; simp
  have hne' : segments "$.total" ≠ [] := by rw [hb]; simp
  have hplain : ∀ s ∈ segments "order", s.escape = none := by rw [ha]; simp
  have hplain' : ∀ s ∈ segments "$.total", s.escape = none := by rw [hb]; simp
  refine ⟨hne, hplain, hne', ?_⟩
  obtain ⟨-, hnext⟩ := navigate_append none
    (.object [("order", .object [("$", .object [("sum", .number 7 0)])])]) hne hplain hne'
  have hfirst : navigate none (.object [("order", .object [("$", .object [("sum", .number 7 0)])])])
      "order" = .ok (.object [("$", .object [("sum", .number 7 0)])]) := by
    rw [navigate_of_escape_eq_none hne hplain, ha]
    rfl
  have hrest : navigate none (.object [("$", .object [("sum", .number 7 0)])]) "$.total" =
      .error (.noSuchProperty "total" "$") := by
    rw [navigate_of_escape_eq_none hne' hplain', hb]
    rfl
  have hfound : ¬ FailsAtOnce (.object [("$", .object [("sum", .number 7 0)])]) "$.total" := by
    rintro ⟨s, hhead, -, hprop⟩
    rw [hb] at hhead
    cases hhead
    cases hprop
  rw [(hnext _ hfirst).2.1 hfound, hrest, ha]
  rfl

end Path
end Scenario
