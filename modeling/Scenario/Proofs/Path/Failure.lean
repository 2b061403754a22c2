import Scenario.Proofs.Path.Address

/-!
# Failures — the place a failed navigation reports

A navigation that fails without a call fails at one segment: those before it
lead to a value, and the step from there goes nowhere (`FailsAt`). The path it
reports can be navigated itself. For a missing property that is the address of
the value that lacks it, or `$` for the root, which has no address. For an index
it is the address of the value that was to be indexed (`navigate_reported`),
provided that the name before the index can be written alone: a name that ends
like an index would be read as one.

The proofs go through hops. A failure is one of `Hop.Fails`, along hops that are
segments of the expression (`exists_fails`), and the addresses in it lead back
to where these hops do.
-/

namespace Scenario
namespace Path

variable {engine : Option Engine} {root value v : Document} {expression : String}
variable {e : NavigationError} {hop : Hop} {hops before : List Hop}

/-- A document is no object with the property. -/
def Lacks (value : Document) (property : String) : Prop :=
  ∀ fields, value = .object fields → fields.lookup property = none

/-- The name alone is no name with an index. -/
def WrittenAlone (name : String) : Prop :=
  ∀ front digits, ¬ Segment.Indexed name.toList front digits

/-! ## The segment that fails -/

/-- **The segment at which a navigation fails**: those before it lead to a value,
and the step from there fails. -/
def FailsAt (root : Document) (expression : String) (s : Segment) (e : NavigationError) : Prop :=
  ∃ before after value, segments expression = before ++ s :: after ∧
    descend before root "" = .ok value ∧ step value s (joined before) = .error e

/-- A descent ends at the step that fails. -/
theorem descend_of_step_eq_error {before : List Segment} {s : Segment}
    (hv : ∀ t ∈ before, t.Valid) (hreach : descend before root "" = .ok value)
    (hstep : step value s (joined before) = .error e) (more : List Segment) :
    descend (before ++ s :: more) root "" = .error e := by
  rw [descend_append, hreach, walked_eq_joined hv]
  dsimp only
  rw [descend, hstep]

/-- Where a step fails, a descent that gets at least as far stands right before it. -/
theorem eq_of_step_eq_error {before beyond after after' : List Segment} {s t : Segment}
    (hv : ∀ u ∈ before, u.Valid) (hreach : descend before root "" = .ok value)
    (hstep : step value s (joined before) = .error e) (hsplit : s :: after = beyond ++ t :: after')
    (hfurther : descend (before ++ beyond) root "" = .ok v) : s = t := by
  cases beyond with
  | nil => exact (List.cons.inj hsplit).1
  | cons u beyond =>
    obtain ⟨rfl, -⟩ := List.cons.inj hsplit
    rw [descend_of_step_eq_error hv hreach hstep] at hfurther
    cases hfurther

/-- **There is only one such segment**: no descent goes on behind it. -/
theorem FailsAt.unique {s t : Segment} {e' : NavigationError} (h : FailsAt root expression s e)
    (h' : FailsAt root expression t e') : s = t := by
  obtain ⟨before, after, value, hsegs, hreach, hstep⟩ := h
  obtain ⟨before', after', value', hsegs', hreach', hstep'⟩ := h'
  have hvalid := (wellFormed_segments expression).valid
  have hv : ∀ u ∈ before, u.Valid := fun u hu => hvalid u (by rw [hsegs]; simp [hu])
  have hv' : ∀ u ∈ before', u.Valid := fun u hu => hvalid u (by rw [hsegs']; simp [hu])
  rcases List.append_eq_append_iff.mp (hsegs.symm.trans hsegs') with
    ⟨beyond, rfl, hsplit⟩ | ⟨beyond, rfl, hsplit⟩
  · exact eq_of_step_eq_error hv hreach hstep hsplit hreach'
  · exact (eq_of_step_eq_error hv' hreach' hstep' hsplit hreach).symm

/-- The failure of a call, or of an expression that names nothing. -/
inductive NavigationError.OfCall : NavigationError → Prop
  | emptyExpression : OfCall .emptyExpression
  | noEngine (language : Embedded) : OfCall (.noEngine language)
  | engineFailed (language : Embedded) (text reason : String) :
      OfCall (.engineFailed language text reason)

/-- A walk that begins with a call fails for it, if at all. -/
theorem ofCall_of_walkM {s : Segment} {ss : List Segment} {language : Embedded} {walked : String}
    (hs : s.escape = some language)
    (h : Id.run (walkM engine (s :: ss) value walked) = .error e) : e.OfCall := by
  rw [walkM_cons_of_escape_eq_some hs] at h
  cases engine with
  | none =>
    cases h
    exact .noEngine language
  | some evaluate =>
    change Except.mapError _ (evaluate language s.name value) = _ at h
    cases hanswer : evaluate language s.name value with
    | ok answer =>
      rw [hanswer] at h
      cases h
    | error reason =>
      rw [hanswer] at h
      cases h
      exact .engineFailed language s.name reason

/-- **Why a navigation fails**, if it is not for its call: the hops before lead to
a value, and the next one fails there. -/
theorem exists_fails (h : navigate engine root expression = .error e) (he : ¬ e.OfCall) :
    ∃ (before : List Hop) (hop : Hop) (value : Document), (∀ g ∈ before, g.Valid) ∧ hop.Valid ∧
      before.map Hop.segment ++ [hop.segment] <+: segments expression ∧
      Reaches root before value ∧ hop.Fails before value e := by
  obtain ⟨ss, call, hsegs, hss⟩ := (wellFormed_segments expression).exists_eq_append
  obtain ⟨hops, hv, rfl⟩ := exists_hops hss
  by_cases hnil : segments expression = []
  · rw [navigate, navigateM, hnil] at h
    cases h
    exact absurd .emptyExpression he
  · rw [navigate, navigateM_of_segments hsegs (hsegs ▸ hnil) escape_eq_none] at h
    cases hdescend : descend (hops.map Hop.segment) root "" with
    | error e' =>
      rw [hdescend] at h
      cases h
      obtain ⟨before, hop, after, value, rfl, hreach, hfails⟩ :=
        (descend_eq_error_iff hv).mp hdescend
      refine ⟨before, hop, value, fun g hg => hv g (by simp [hg]), hv hop (by simp), ?_, hreach,
        hfails⟩
      rw [hsegs, List.map_append, List.map_cons, List.append_assoc]
      exact ⟨after.map Hop.segment ++ (call.map callSegment).toList, by simp⟩
    | ok next =>
      -- the hops lead somewhere, so it is the call that fails
      rw [hdescend] at h
      cases call with
      | none => cases h
      | some call => exact absurd (ofCall_of_walkM (s := callSegment call) rfl h) he

/-- The segment of the hop that fails is the one at which the navigation does. -/
theorem failsAt_iff_of_fails
    (hfront : before.map Hop.segment ++ [hop.segment] <+: segments expression)
    (hv : ∀ g ∈ before, g.Valid) (hreach : Reaches root before value)
    (hfails : hop.Fails before value e) (s : Segment) :
    FailsAt root expression s e ↔ s = hop.segment := by
  have hat : FailsAt root expression hop.segment e := by
    obtain ⟨after, hsegs⟩ := hfront
    refine ⟨before.map Hop.segment, after, value, by rw [← hsegs]; simp, hreach.descend_eq "", ?_⟩
    rw [← address_eq_joined]
    exact hfails.step_eq hv
  refine ⟨fun hs => hs.unique hat, ?_⟩
  rintro rfl
  exact hat

/-! ## What is found at the reported path -/

/-- **An address leads where its hops do.** -/
theorem navigate_of_reaches (hne : hops ≠ []) (hv : ∀ h ∈ hops, h.Valid)
    (hr : Reaches root hops v) : navigate engine root (address hops) = .ok v := by
  rw [navigate_address_eq_descend hne hv, hr.descend_eq]

/-- **The value that was to be indexed** is found at the path of its key, if the
key can be written alone. -/
theorem navigate_reported {key : String} {index : Option Nat} {fields : List (String × Document)}
    (hv : ∀ g ∈ before, g.Valid) (hhop : Hop.Valid ⟨key, index⟩) (halone : WrittenAlone key)
    (hreach : Reaches root before (.object fields)) (hfound : fields.lookup key = some v) :
    navigate engine root (address (before ++ [⟨key, none⟩])) = .ok v := by
  have hkey : Hop.Valid ⟨key, none⟩ := ⟨hhop.key_ne_empty, hhop.plain, nofun, fun _ => halone⟩
  refine navigate_of_reaches (by simp) (fun g hg => ?_) (hreach.concat (.property hfound))
  rcases List.mem_append.mp hg with hg | hg
  · exact hv g hg
  · rw [List.mem_singleton.mp hg]
    exact hkey

/-- **A missing property** is missing in the value at the path reported. -/
theorem lacks_of_noSuchProperty {property path : String}
    (h : navigate engine root expression = .error (.noSuchProperty property path)) :
    (path = "$" ∧ Lacks root property ∧
        ∃ s, (segments expression).head? = some s ∧ s.name = property) ∨
      ∃ v, navigate none root path = .ok v ∧ Lacks v property := by
  obtain ⟨before, hop, value, hv, -, ⟨after, hsegs⟩, hreach, hfails⟩ :=
    exists_fails h (by rintro ⟨⟩)
  cases hfails with
  | @missing _ _ index hmissing =>
    by_cases hne : before = []
    · subst hne
      cases hreach
      exact .inl ⟨if_pos rfl, hmissing, Hop.segment ⟨property, index⟩, by rw [← hsegs]; rfl, rfl⟩
    · rw [if_neg hne]
      exact .inr ⟨value, navigate_of_reaches hne hv hreach, hmissing⟩

/-- **What is reported to be no array** is none, at the path reported. -/
theorem found_of_notAnArray {path : String}
    (h : navigate engine root expression = .error (.notAnArray path)) :
    ∃ s, (∀ t, FailsAt root expression t (.notAnArray path) ↔ t = s) ∧
      (WrittenAlone s.name → ∃ v, navigate none root path = .ok v ∧ ∀ items, v ≠ .array items) := by
  obtain ⟨before, hop, value, hv, hhop, hfront, hreach, hfails⟩ := exists_fails h (by rintro ⟨⟩)
  refine ⟨hop.segment, failsAt_iff_of_fails hfront hv hreach hfails, fun halone => ?_⟩
  cases hfails with
  | notArray hfound hitems =>
    exact ⟨_, navigate_reported hv hhop halone hreach hfound, hitems⟩

/-- **And an index out of bounds** is behind the items of the array found there. -/
theorem found_of_indexOutOfBounds {index : Int} {path : String} {length : Nat}
    (h : navigate engine root expression = .error (.indexOutOfBounds index path length)) :
    ∃ s, (∀ t, FailsAt root expression t (.indexOutOfBounds index path length) ↔ t = s) ∧
      s.index = index ∧
      (WrittenAlone s.name → ∃ items, navigate none root path = .ok (.array items) ∧
        items.length = length ∧ (length : Int) ≤ index) := by
  obtain ⟨before, hop, value, hv, hhop, hfront, hreach, hfails⟩ := exists_fails h (by rintro ⟨⟩)
  refine ⟨hop.segment, failsAt_iff_of_fails hfront hv hreach hfails, ?_⟩
  cases hfails with
  | @outside _ _ _ items hfound hlen =>
    refine ⟨rfl, fun halone => ⟨items, ?_, rfl, Int.ofNat_le.mpr hlen⟩⟩
    exact navigate_reported hv hhop halone hreach hfound

/-- **A failed navigation names a real place.** The path of a missing property is
`$` if it is that of the first segment, and leads to a value that is no object
with the property otherwise. A segment with an index fails at a value that is no
array, or at an array without such an item; where the name of the segment does
not end like an index, the path reported leads to that value. -/
theorem navigate_error_place (engine : Option Engine) (root : Document) (expression : String) :
    (∀ property path, navigate engine root expression = .error (.noSuchProperty property path) →
      (path = "$" ∧ Lacks root property ∧
        ∃ s, (segments expression).head? = some s ∧ s.name = property) ∨
      ∃ v, navigate none root path = .ok v ∧ Lacks v property) ∧
    (∀ path, navigate engine root expression = .error (.notAnArray path) →
      ∃ s, (∀ t, FailsAt root expression t (.notAnArray path) ↔ t = s) ∧
        (WrittenAlone s.name →
          ∃ v, navigate none root path = .ok v ∧ ∀ items, v ≠ .array items)) ∧
    ∀ index path length,
      navigate engine root expression = .error (.indexOutOfBounds index path length) →
      ∃ s, (∀ t, FailsAt root expression t (.indexOutOfBounds index path length) ↔ t = s) ∧
        s.index = index ∧
        (WrittenAlone s.name → ∃ items, navigate none root path = .ok (.array items) ∧
          items.length = length ∧ (length : Int) ≤ index) :=
  ⟨fun _ _ => lacks_of_noSuchProperty, fun _ => found_of_notAnArray,
    fun _ _ _ => found_of_indexOutOfBounds⟩

/-- The eighth item of an array that has one. -/
theorem navigate_error_place_item :
    navigate none (.object [("a", .object [("b", .array [.null])])]) "a.b[7].c" =
        .error (.indexOutOfBounds 7 "a.b" 1) ∧
      ∃ items, navigate none (.object [("a", .object [("b", .array [.null])])]) "a.b" =
        .ok (.array items) ∧ items.length = 1 ∧ (1 : Int) ≤ 7 := by
  have hsegs : segments "a.b[7].c" = [⟨"a", -1, none⟩, ⟨"b", 7, none⟩, ⟨"c", -1, none⟩] := by
    decide +kernel
  have herror : navigate none (.object [("a", .object [("b", .array [.null])])]) "a.b[7].c" =
      .error (.indexOutOfBounds 7 "a.b" 1) := by
    rw [navigate, navigateM, hsegs]
    rfl
  obtain ⟨s, hat, -, hfound⟩ := (navigate_error_place none _ _).2.2 7 "a.b" 1 herror
  have hs : ⟨"b", 7, none⟩ = s := by
    refine (hat _).mp ⟨[⟨"a", -1, none⟩], [⟨"c", -1, none⟩], .object [("b", .array [.null])],
      hsegs, rfl, ?_⟩
    rw [joined_singleton]
    rfl
  subst hs
  exact ⟨herror, hfound (Segment.splitIndex?_eq_none_iff.mp (by decide))⟩

-- a key that ends like an index is reported as it is, but not found by that path
example : navigate none (.object [("a[1]", .null)]) "a[1][0]" = .error (.notAnArray "a[1]") ∧
    navigate none (.object [("a[1]", .null)]) "a[1]" = .error (.noSuchProperty "a" "$") := by
  have hsegs : segments "a[1][0]" = [⟨"a[1]", 0, none⟩] := by decide +kernel
  have hsegs' : segments "a[1]" = [⟨"a", 1, none⟩] := by decide +kernel
  rw [navigate, navigate, navigateM, navigateM, hsegs, hsegs']
  exact ⟨rfl, rfl⟩

end Path
end Scenario
