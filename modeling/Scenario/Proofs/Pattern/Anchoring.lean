import Scenario.Proofs.Pattern.Alternatives
import Scenario.Proofs.Pattern.Ordered

/-!
# Anchoring — what a pattern becomes between the anchors

A pattern is compiled as the text of a group between two anchors. Where the
pattern is a complete expression, the group holds just that, and what is
compiled matches nothing but whole texts (`matches_whole_iff`). A text that is
no pattern can still be compiled: a closing parenthesis in it may close the
group early (`ClosesEarly`), and what comes after it then stands outside.
A comment at the end of a pattern takes the parenthesis of the group with it,
so such a pattern is not compiled though it is one; any other is, if there is room
for the group (`compile_anchored_iff`).
-/

namespace Scenario
namespace Pattern

open Regex (Matches)

/-- The text of a pattern as a group between the anchors. -/
def anchored (text : List Char) : List Char := "^(?:".toList ++ text ++ ")$".toList

theorem toList_anchored (pattern : String) :
    (PatternLibrary.anchored pattern).toList = anchored pattern.toList := by
  simp [PatternLibrary.anchored, anchored]

/-- A text, before anything of it is read. -/
def Input.start (text : List Char) : Input := ⟨text, false, []⟩

/-- **A text is a complete expression**, however deep it nests. -/
def Complete (text : List Char) (e : Expr) : Prop :=
  ∃ j, Reader.body (text.length + 1) [] [] (.start text) = some (e, j) ∧ j.rest = []

theorem Complete.unique {text : List Char} {e e' : Expr} (h : Complete text e)
    (h' : Complete text e') : e = e' := by
  obtain ⟨j, hbody, -⟩ := h
  obtain ⟨j', hbody', -⟩ := h'
  rw [hbody] at hbody'
  cases hbody'
  rfl

/-- A pattern is a complete expression that does not nest too deeply. -/
theorem read?_eq_some_iff {text : List Char} {e : Expr} :
    read? text = some e ↔ Complete text e ∧ e.depth ≤ nestLimit := by
  rw [read?, Complete, Input.start]
  constructor
  · intro h
    split at h
    · next hbody =>
      split at h <;> cases h
      exact ⟨⟨_, hbody, rfl⟩, ‹_›⟩
    · cases h
  · rintro ⟨⟨⟨rest, spaced, names⟩, hbody, hrest⟩, hdepth⟩
    obtain rfl : rest = [] := hrest
    rw [hbody]
    exact if_pos hdepth

/-- A closing parenthesis of a text comes after a complete expression. -/
def ClosesEarly (text : List Char) : Prop :=
  ∃ front back e, text = front ++ ')' :: back ∧ Complete front e

namespace Reader

/-- Alternatives end with the text or before a closing parenthesis. -/
theorem rest_of_body {fuel : Nat} {branches items : List Expr} {i j : Input} {e : Expr}
    (h : body fuel branches items i = some (e, j)) :
    j.rest = [] ∨ ∃ cs, j.rest = ')' :: cs := by
  induction fuel generalizing branches items i with
  | zero => cases h
  | succ fuel ih =>
    rw [body_succ] at h
    obtain ⟨_, i₁, -, h⟩ := bind_eq_some_iff.mp h
    cases hrest : i₁.rest with
    | nil =>
      rw [bodyFrom_of_nil hrest] at h
      cases h
      exact .inl hrest
    | cons c cs =>
      by_cases hc : c = ')'
      · subst hc
        rw [bodyFrom_of_parenthesis hrest] at h
        cases h
        exact .inr ⟨cs, hrest⟩
      · rw [bodyFrom_of_cons hrest hc] at h
        obtain ⟨_, _, -, h⟩ := bind_eq_some_iff.mp h
        exact ih h

end Reader

/-- **A text that is not read to its end closes early.** -/
theorem closesEarly_of_body {text : List Char} {e : Expr} {j : Input}
    (h : Reader.body (text.length + 1) [] [] (.start text) = some (e, j)) (hj : j.rest ≠ []) :
    ClosesEarly text := by
  obtain ⟨cs, hrest⟩ := (Reader.rest_of_body h).resolve_left hj
  obtain ⟨front, hfront⟩ := (Reader.leaves_body _ _ _ _ _ _ h).suffix
  have htext : text = front ++ ')' :: cs := by rw [← hrest]; exact hfront.symm
  have hclosed : Input.start text = (Input.start front).closed cs := by
    rw [htext]; rfl
  have hlength : front.length < text.length + 1 := by
    rw [htext, List.length_append]
    omega
  have htogether : Reader.Together cs true (.start front)
      (Reader.body (front.length + 1) [] [] (.start front))
      (Reader.body (text.length + 1) [] [] ((Input.start front).closed cs)) :=
    Reader.together_body (Nat.lt_succ_self front.length) hlength
  rw [← hclosed, h] at htogether
  rcases htogether with ⟨e', j', hshort, hlong⟩ | ⟨-, hpast⟩
  · cases hlong
    refine ⟨front, cs, e, htext, j', hshort, ?_⟩
    simpa [Input.closed] using hrest
  · -- the run has stopped at the parenthesis
    have hle := hpast e j rfl
    rw [hrest] at hle
    exact absurd hle (Nat.not_succ_le_self _)

/-! ## Reading the group between the anchors -/

/-- An expression as a group between the anchors. -/
def Expr.framed (e : Expr) : Expr :=
  .concat [.assertion .lineStart, .group false [] e, .assertion .lineEnd]

namespace Reader

theorem groupOpening_plain (cs : List Char) (names : List (List Char)) :
    groupOpening ⟨'(' :: '?' :: ':' :: cs, false, names⟩ =
      some (.group false [], ⟨cs, false, names⟩) := by
  rw [groupOpening_eq]
  rfl

/-- **The text of an anchored pattern is read as a group**, with the pattern
before its closing parenthesis. -/
theorem body_anchored (text : List Char) :
    body ((anchored text).length + 1) [] [] (.start (anchored text)) =
      (do
        let inner ← body (text.length + 5) [] []
        let read ← groupEnd false ([], [.assertion .lineStart, .group false [] inner])
        body (text.length + 5) read.1 read.2 : Reader Expr) ((Input.start text).closed ['$']) := by
  let opened : Input := ⟨'(' :: '?' :: ':' :: (text ++ [')', '$']), false, []⟩
  have hanchored : anchored text = '^' :: opened.rest := by simp [anchored, opened]
  have hlength : ('^' :: opened.rest).length + 1 = text.length + 5 + 1 + 1 := by simp [opened]
  have hspace : ∀ cs, bumpSpace (.start cs) = some ((), .start cs) := fun _ => rfl
  have hcaret : ∀ inside : Reader Expr, turn inside [] [] '^' (.start ('^' :: opened.rest)) =
      some (([], [.assertion .lineStart]), .start opened.rest) := fun _ => rfl
  have hgroup : ∀ inside : Reader Expr,
      turn inside [] [.assertion .lineStart] '(' (.start opened.rest) = (do
        let inner ← inside
        groupEnd false ([], [.assertion .lineStart, .group false [] inner]) : Reader _)
        ((Input.start text).closed ['$']) := by
    intro inside
    have hopening := groupOpening_plain (text ++ [')', '$']) []
    show (groupOpening >>= groupFrom inside [] [.assertion .lineStart] false) opened = _
    rw [bind_apply, hopening]
    rfl
  rw [hanchored, hlength, body_succ, bind_apply, hspace, Option.bind_some,
    bodyFrom_of_cons rfl (by decide), bind_apply, hcaret, Option.bind_some, body_succ, bind_apply,
    hspace, Option.bind_some, bodyFrom_of_cons rfl (by decide), bind_apply, hgroup, ← bind_assoc]
  rfl

/-- After the group only the anchor is left. -/
theorem groupEnd_anchor {fuel : Nat} {inner : Expr} {k : Input} (hk : k.rest = [')', '$']) :
    (do
      let read ← groupEnd false ([], [.assertion .lineStart, .group false [] inner])
      body (fuel + 2) read.1 read.2 : Reader Expr) k =
      some (inner.framed, { k with rest := [], spaced := false }) := by
  rw [bind_apply, groupEnd_eq_some_iff.mpr ⟨['$'], hk, rfl, rfl⟩]
  rfl

end Reader

section Anchored

variable {text : List Char} {e : Expr}

theorem together_anchored (text : List Char) :
    Reader.Together ['$'] true (.start text) (Reader.body (text.length + 1) [] [] (.start text))
      (Reader.body (text.length + 5) [] [] ((Input.start text).closed ['$'])) :=
  Reader.together_body (Nat.lt_succ_self text.length)
    (Nat.lt_add_of_pos_right (by decide) : text.length < text.length + 5)

/-- **A complete expression without an open comment stands between the anchors
as it is.** -/
theorem complete_anchored (h : Complete text e) (hcomment : ¬ (Input.start text).OpenComment) :
    Complete (anchored text) e.framed := by
  obtain ⟨j, hbody, hrest⟩ := h
  rcases together_anchored text with ⟨e', j', hshort, hlong⟩ | ⟨hspent, -⟩
  · rw [hbody] at hshort
    cases hshort
    have hclosed : (j.closed ['$']).rest = [')', '$'] := by rw [Input.closed, hrest]; rfl
    rw [Complete, Reader.body_anchored, Reader.bind_apply, hlong]
    exact ⟨_, Reader.groupEnd_anchor hclosed, rfl⟩
  · exact absurd (hspent e j hbody).2 hcomment

/-- **Nothing else does**, but for a text that closes the group early and is
then no pattern. -/
theorem complete_of_anchored (h : Complete (anchored text) e) :
    (∃ inner, Complete text inner ∧ e = inner.framed) ∨
      ClosesEarly text ∧ ∀ inner, ¬ Complete text inner := by
  obtain ⟨j, hbody, -⟩ := h
  rw [Reader.body_anchored] at hbody
  obtain ⟨inner, k, hinner, hend⟩ := Reader.bind_eq_some_iff.mp hbody
  rcases together_anchored text with ⟨inner', j', hshort, hlong⟩ | ⟨-, hpast⟩
  · rw [hinner] at hlong
    cases hlong
    -- the pattern is read to its end, or up to a parenthesis of its own
    by_cases hj : j'.rest = []
    · rw [Reader.groupEnd_anchor (by rw [Input.closed, hj]; rfl)] at hend
      cases hend
      exact .inl ⟨inner, ⟨j', hshort, hj⟩, rfl⟩
    · refine .inr ⟨closesEarly_of_body hshort hj, ?_⟩
      rintro other ⟨k', hother, hk'⟩
      rw [hshort] at hother
      cases hother
      exact hj hk'
  · -- past the parenthesis of the group there is no other to close it
    obtain ⟨read, k', hgroup, -⟩ := Reader.bind_eq_some_iff.mp hend
    obtain ⟨cs, hk, -⟩ := Reader.groupEnd_eq_some_iff.mp hgroup
    have hle := hpast inner k hinner
    obtain ⟨front, hfront⟩ := (Reader.leaves_body _ _ _ _ _ _ hinner).suffix
    rw [hk] at hle hfront
    obtain rfl : cs = [] := List.eq_nil_of_length_eq_zero (by simpa using hle)
    have hlast := congrArg List.getLast? hfront
    simp [Input.closed] at hlast

end Anchored

/-! ## What is compiled -/

/-- A regular expression between the ends of the text. -/
def Regex.whole (r : Regex) : Regex :=
  .seq (.look .textStart) (.seq r (.seq (.look .textEnd) .empty))

theorem depth_framed (e : Expr) : e.framed.depth = e.depth + 2 := by
  simp only [Expr.framed, Expr.depth, Expr.deepest]
  omega

/-- The group has no flags of its own, and the anchors are those of the text. -/
theorem resolve_framed (e : Expr) :
    e.framed.resolve .initial = (e.resolve .initial).map fun read => (read.1.whole, .initial) := by
  have happly : Flags.initial.apply [] = .initial := rfl
  simp only [Expr.framed, Expr.resolve, Expr.resolveItems, happly]
  cases e.resolve .initial with
  | none => rfl
  | some read => rfl

theorem Regex.Ordered.whole {r : Regex} (h : r.Ordered) : r.whole.Ordered :=
  .seq .look (.seq h (.seq .look .empty))

/-- Before a position of a text there is a character, but for the first. -/
theorem before?_eq_none {text : List Char} {i : Nat} (hi : i ≤ text.length)
    (h : Regex.before? text i = none) : i = 0 := by
  rw [Regex.before?] at h
  split at h
  · assumption
  · rw [List.getElem?_eq_none_iff] at h
    omega

/-- **Between the ends of a text an expression matches the whole text**, and
nothing less. -/
theorem matches_whole_iff {r : Regex} {text : List Char} {i k : Nat} (hi : i ≤ text.length) :
    Matches text r.whole i k ↔ i = 0 ∧ k = text.length ∧ Matches text r i k := by
  rw [Regex.whole]
  constructor
  · intro hmatch
    cases hmatch with
    | seq hfirst hrest =>
      cases hfirst with
      | look hstart =>
        cases hrest with
        | @seq _ _ _ j _ hinner hlast =>
          cases hlast with
          | seq hlook hempty =>
            cases hlook with
            | look hend =>
              cases hempty
              -- nothing is before the match, and nothing after it
              obtain rfl := before?_eq_none hi (Option.isNone_iff_eq_none.mp hstart)
              have hnone := List.getElem?_eq_none_iff.mp (Option.isNone_iff_eq_none.mp hend)
              have hle := hinner.bounds.2 hi
              exact ⟨rfl, Nat.le_antisymm hle hnone, hinner⟩
  · rintro ⟨rfl, rfl, hmatch⟩
    refine .seq (.look rfl) (.seq hmatch (.seq (.look ?_) .empty))
    simp [Look.holds]

/-- **A text by itself is a pattern** with a given regular expression. -/
def Means (text : List Char) (r : Regex) : Prop :=
  ∃ e f, read? text = some e ∧ e.resolve .initial = some (r, f)

theorem Means.ordered {text : List Char} {r : Regex} (h : Means text r) : r.Ordered := by
  obtain ⟨e, f, he, hr⟩ := h
  exact (ordered_of_read? he).resolve _ _ _ hr

theorem Means.unique {text : List Char} {r s : Regex} (hr : Means text r) (hs : Means text s) :
    r = s := by
  obtain ⟨e, f, he, hr⟩ := hr
  obtain ⟨e', f', he', hs⟩ := hs
  rw [he] at he'
  cases he'
  rw [hr] at hs
  cases hs
  rfl

/-- **What is compiled** is a pattern whose programs are small enough. -/
theorem compile_eq_ok_iff {text : List Char} {r : Regex} :
    compile text = .ok r ↔ Means text r ∧ (Shape.ofRegex r).fits = true := by
  have hmeans : ∀ s, Means text s ↔
      ∃ f, ((read? text).bind fun e => e.resolve .initial) = some (s, f) := by
    intro s
    simp only [Means, Option.bind_eq_some_iff]
    exact exists_comm
  rw [compile]
  split
  · next hnone => simp [hmeans, hnone]
  · next s f hsome =>
    rw [hmeans, hsome]
    split
    · next hfits =>
      simp only [Except.ok.injEq, Option.some.injEq, Prod.mk.injEq]
      constructor
      · rintro rfl
        exact ⟨⟨f, rfl, rfl⟩, hfits⟩
      · rintro ⟨⟨-, rfl, -⟩, -⟩
        rfl
    · next hlarge =>
      refine iff_of_false (fun h => nomatch h) ?_
      rintro ⟨⟨g, heq⟩, hfits⟩
      cases heq
      exact hlarge hfits

/-- **What is compiled between the anchors** is the pattern between the ends of
the text, or comes of a text that is no pattern and closes the group early. -/
theorem means_anchored {text : List Char} {code : Regex} (h : Means (anchored text) code) :
    (∃ r, Means text r ∧ code = r.whole) ∨ ClosesEarly text ∧ ∀ r, ¬ Means text r := by
  obtain ⟨e, f, hread, hresolve⟩ := h
  obtain ⟨hcomplete, hdepth⟩ := read?_eq_some_iff.mp hread
  rcases complete_of_anchored hcomplete with ⟨inner, hinner, rfl⟩ | ⟨hearly, hnone⟩
  · rw [resolve_framed] at hresolve
    obtain ⟨⟨r, g⟩, hr, heq⟩ := Option.map_eq_some_iff.mp hresolve
    cases heq
    rw [depth_framed] at hdepth
    have hread' : read? text = some inner :=
      read?_eq_some_iff.mpr ⟨hinner, Nat.le_of_add_right_le hdepth⟩
    exact .inl ⟨r, ⟨inner, g, hread', hr⟩, rfl⟩
  · refine .inr ⟨hearly, ?_⟩
    rintro r ⟨inner, g, hread', -⟩
    exact hnone inner (read?_eq_some_iff.mp hread').1

/-- **A pattern without an open comment is compiled** if there is room for two
more levels, and if its program is not too large. -/
theorem compile_anchored_iff {text : List Char} {e : Expr} {r : Regex} {f : Flags}
    (he : read? text = some e) (hr : e.resolve .initial = some (r, f))
    (hcomment : ¬ (Input.start text).OpenComment) :
    (∃ code, compile (anchored text) = .ok code) ↔
      e.depth + 2 ≤ nestLimit ∧ (Shape.ofRegex r.whole).fits = true := by
  have hcomplete := complete_anchored (read?_eq_some_iff.mp he).1 hcomment
  simp only [compile_eq_ok_iff]
  constructor
  · rintro ⟨code, ⟨e', g, hread, hresolve⟩, hfits⟩
    obtain ⟨hcomplete', hdepth⟩ := read?_eq_some_iff.mp hread
    obtain rfl := hcomplete'.unique hcomplete
    rw [resolve_framed, hr] at hresolve
    cases hresolve
    -- the group and the list it stands in are the two levels
    rw [depth_framed] at hdepth
    exact ⟨hdepth, hfits⟩
  · rintro ⟨hdepth, hfits⟩
    have hread : read? (anchored text) = some e.framed :=
      read?_eq_some_iff.mpr ⟨hcomplete, by rwa [depth_framed]⟩
    exact ⟨r.whole, ⟨e.framed, .initial, hread, by rw [resolve_framed, hr]; rfl⟩, hfits⟩

end Pattern
end Scenario
