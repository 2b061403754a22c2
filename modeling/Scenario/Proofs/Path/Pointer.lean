import Mathlib.Logic.Function.Iterate
import Scenario.Path.Session
import Scenario.Proofs.Path.Walk

/-!
# Sessions — cursors as pointers into one list

What a cursor shows depends on how many segments it has passed, and on
nothing else of where it came from. A `Pointer` is that number, or the fact
that the list has been left behind, and `Pointers` is a session that knows
the list of segments from the beginning and only moves pointers into it.
`Session.run_follows_pointers` says that a session lets see the same, step
by step and for each of its cursors.

A cursor tracks a pointer (`Cursor.Tracks`) if it shows the segment there and
the text at its offset scans to the segments after it. An advance keeps this
(`Cursor.Tracks.advance`), whether it passes over dots, over a piece or over a
call that takes the rest of the text, and so does every step of a session
(`Session.Follows.step`).
-/

namespace Scenario
namespace Path

/-! ## Pointers -/

/-- **A pointer into a list of segments.** -/
inductive Pointer where
  /-- So many segments have been read, and the last of them is current. -/
  | passed (count : Nat)
  /-- The list has been left behind. -/
  | ended
  deriving DecidableEq

namespace Pointer

/-- The current segment: there is none at the start, and none at the end. -/
def current (ss : List Segment) : Pointer → Option Segment
  | passed 0 => none
  | passed (n + 1) => ss[n]?
  | ended => none

/-- The segments still ahead. -/
def ahead (ss : List Segment) : Pointer → List Segment
  | passed n => ss.drop n
  | ended => []

/-- Pass one segment; where there is none, leave the list. -/
def advance (ss : List Segment) : Pointer → Pointer
  | passed n => if n < ss.length then passed (n + 1) else ended
  | ended => ended

variable {ss more : List Segment} {s : Segment} {p : Pointer}

/-- With nothing ahead an advance leaves the list. -/
theorem advance_of_ahead_eq_nil (h : p.ahead ss = []) : p.advance ss = ended := by
  cases p with
  | passed n =>
    have hle : ss.length ≤ n := List.drop_eq_nil_iff.mp h
    rw [advance, if_neg (by omega)]
  | ended => rfl

/-- Otherwise it makes the next segment current. -/
theorem advance_of_ahead_eq_cons (h : p.ahead ss = s :: more) :
    (p.advance ss).current ss = some s ∧ (p.advance ss).ahead ss = more := by
  cases p with
  | passed n =>
    rw [ahead] at h
    have hlt : n < ss.length := by
      have hlen := congrArg List.length h
      rw [List.length_drop, List.length_cons] at hlen
      omega
    rw [List.drop_eq_getElem_cons hlt] at h
    obtain ⟨hs, hmore⟩ := List.cons.inj h
    rw [advance, if_pos hlt]
    exact ⟨by rw [current, List.getElem?_eq_getElem hlt, hs], hmore⟩
  | ended => cases h

/-- So what is current after an advance was the first of those ahead. -/
theorem current_advance (ss : List Segment) (p : Pointer) :
    (p.advance ss).current ss = (p.ahead ss).head? := by
  cases h : p.ahead ss with
  | nil =>
    rw [advance_of_ahead_eq_nil h]
    rfl
  | cons s more =>
    rw [(advance_of_ahead_eq_cons h).1]
    rfl

end Pointer

/-! ## What is seen -/

/-- What a cursor shows of itself. -/
structure View where
  /-- The current segment. -/
  current : Option Segment
  /-- Its name. -/
  name : String
  /-- Its index. -/
  index : Int
  /-- The expression. -/
  source : String
  deriving DecidableEq

/-- The view of a cursor. -/
def Cursor.view (c : Cursor) : View := ⟨c.current, c.currentName, c.currentIndex, c.source⟩

/-- The view of a place in an expression: the segment there with its name and
index, or no segment, an empty name and the index `-1`. -/
def View.of (expression : String) : Option Segment → View
  | some s => ⟨some s, s.name, s.index, expression⟩
  | none => ⟨none, "", -1, expression⟩

/-- **What a step lets see**: its answer, which cursor is the current one,
and the views of all of them. -/
structure Report where
  /-- The answer to the step. -/
  answer : SessionAnswer
  /-- The place of the current cursor. -/
  current : Nat
  /-- The views, in the order in which the cursors were made. -/
  views : List View
  deriving DecidableEq

/-- The report of a step, from its answer and the session after it. -/
def Session.report (out : SessionAnswer × Session) : Report :=
  ⟨out.1, out.2.current, out.2.cursors.map Cursor.view⟩

/-- **Pointers into one list**, one of them the current one. -/
structure Pointers where
  /-- The pointer at each place. -/
  place : Nat → Pointer
  /-- The number of places. -/
  size : Nat
  /-- The place of the current one. -/
  current : Nat

namespace Pointers

/-- A single pointer, at the start. -/
def start : Pointers := ⟨fun _ => .passed 0, 1, 0⟩

/-- The pointers with the current one replaced. -/
def move (p : Pointers) (target : Pointer) : Pointers :=
  { p with place := Function.update p.place p.current target }

/-- The current pointer is the one that moves. -/
@[simp] theorem place_move_current (p : Pointers) (target : Pointer) :
    (p.move target).place p.current = target :=
  Function.update_self ..

@[simp] theorem place_move_of_ne (p : Pointers) (target : Pointer) {i : Nat} (hi : i ≠ p.current) :
    (p.move target).place i = p.place i :=
  Function.update_of_ne hi ..

/-- **One step**: the answer and the pointers after it. -/
def step (expression : String) (p : Pointers) (s : SessionStep) : SessionAnswer × Pointers :=
  let ahead := (p.place p.current).ahead (segments expression)
  let next := p.move ((p.place p.current).advance (segments expression))
  match s with
  | .advance => (.bool ahead.head?.isSome, next)
  | .next => (.segment ahead.head?, next)
  | .count => (.number ahead.length, p.move .ended)
  | .last => (.segment ahead.getLast?, p.move .ended)
  | .source => (.text expression, p)
  | .fork =>
    (.number p.size,
      ⟨Function.update p.place p.size (p.place p.current), p.size + 1, p.current⟩)
  | .switch => (.number ((p.current + 1) % p.size), { p with current := (p.current + 1) % p.size })

/-- The report of a step. -/
def report (expression : String) (out : SessionAnswer × Pointers) : Report :=
  ⟨out.1, out.2.current, (List.range out.2.size).map fun i =>
    .of expression ((out.2.place i).current (segments expression))⟩

/-- The reports of a list of steps. -/
def run (expression : String) : Pointers → List SessionStep → List Report
  | _, [] => []
  | p, s :: steps =>
    report expression (p.step expression s) :: run expression (p.step expression s).2 steps

end Pointers

/-! ## Cursors at the end -/

namespace Cursor

/-- An exhausted cursor finds nothing more, and stays as it is. -/
@[simp] theorem advance_exhaust (c : Cursor) : c.exhaust.advance = c.exhaust :=
  advance_of_scan_eq_none (Text.dropBytes_byteSize_self c.source.toList) rfl

/-- An advance that finds nothing exhausts the cursor. -/
theorem advance_eq_exhaust {c : Cursor} (h : c.advance.current = none) :
    c.advance = c.exhaust := by
  unfold advance at h ⊢
  split at h
  · cases h
  · rfl

/-- **Exhausting is advancing** once more than there are segments. -/
theorem advance_iterate_eq_exhaust {c : Cursor} {cs : List Char}
    (h : Text.dropBytes c.offset c.source.toList = some cs) :
    advance^[(scanAll cs).length + 1] c = c.exhaust := by
  induction cs using scanAll.induct generalizing c with
  | case1 cs s rest hscan ih =>
    obtain ⟨next, hadvance, hnext⟩ := advance_of_scan_eq_some h hscan
    have hrest := ih (c := c.advance) (by rw [hadvance]; exact hnext)
    rw [scanAll_of_scan_eq_some hscan, List.length_cons, Function.iterate_succ_apply, hrest,
      hadvance]
    rfl
  | case2 cs hscan =>
    rw [scanAll_of_scan_eq_none hscan]
    exact advance_of_scan_eq_none h hscan

/-! ## Cursors and pointers -/

/-- **A cursor tracks a pointer** into the segments of its expression. -/
structure Tracks (expression : String) (c : Cursor) (p : Pointer) : Prop where
  /-- The cursor walks over the expression. -/
  source : c.source = expression
  /-- It shows the segment at the pointer. -/
  current : c.current = p.current (segments expression)
  /-- What it has not read scans to the segments ahead of the pointer. -/
  unread : ∃ rest, Text.dropBytes c.offset expression.toList = some rest ∧
    scanAll rest = p.ahead (segments expression)

variable {expression : String} {c : Cursor} {p : Pointer}

theorem tracks_start (expression : String) : Tracks expression (.start expression) (.passed 0) where
  source := rfl
  current := rfl
  unread := ⟨expression.toList, Text.dropBytes_zero _, rfl⟩

/-- An exhausted cursor has left the list behind. -/
theorem Tracks.exhaust (h : c.Tracks expression p) : c.exhaust.Tracks expression .ended where
  source := h.source
  current := rfl
  unread := ⟨[], h.source ▸ Text.dropBytes_byteSize_self c.source.toList, scanAll_nil⟩

/-- **An advance of the cursor is one of the pointer.** -/
theorem Tracks.advance (h : c.Tracks expression p) :
    c.advance.Tracks expression (p.advance (segments expression)) := by
  obtain ⟨rest, hrest, hahead⟩ := h.unread
  rw [← h.source] at hrest
  cases hscan : scan rest with
  | none =>
    rw [scanAll_of_scan_eq_none hscan] at hahead
    rw [advance_of_scan_eq_none hrest hscan, Pointer.advance_of_ahead_eq_nil hahead.symm]
    exact h.exhaust
  | some found =>
    obtain ⟨s, rest'⟩ := found
    obtain ⟨next, hadvance, hnext⟩ := advance_of_scan_eq_some hrest hscan
    rw [scanAll_of_scan_eq_some hscan] at hahead
    obtain ⟨hcurrent, hmore⟩ := Pointer.advance_of_ahead_eq_cons hahead.symm
    rw [hadvance]
    exact ⟨h.source, hcurrent.symm, rest', h.source ▸ hnext, hmore.symm⟩

/-- What the cursor has before it is what is ahead of the pointer. -/
theorem Tracks.remaining_eq (h : c.Tracks expression p) :
    c.remaining = p.ahead (segments expression) := by
  obtain ⟨rest, hrest, hahead⟩ := h.unread
  rw [← h.source] at hrest
  rw [remaining, hrest, ← hahead]

/-- And it shows what is at the pointer. -/
theorem Tracks.view_eq (h : c.Tracks expression p) :
    c.view = .of expression (p.current (segments expression)) := by
  rw [view, currentName, currentIndex, h.source, h.current]
  cases p.current (segments expression) <;> rfl

/-- **Counting by advancing.** The cursor stops at the segments before it and
at no others, and is exhausted by the next advance. -/
theorem Tracks.drains (h : c.Tracks expression p) :
    c.Yields c.remaining ∧ Cursor.advance^[c.remaining.length + 1] c = c.exhaust := by
  obtain ⟨rest, hrest, -⟩ := h.unread
  rw [← h.source] at hrest
  have hremaining : c.remaining = scanAll rest := by rw [remaining, hrest]
  rw [hremaining]
  exact ⟨yields_scanAll c hrest, advance_iterate_eq_exhaust hrest⟩

end Cursor

/-! ## Sessions and pointers -/

namespace Session

/-- The session after some steps. -/
def after (s : Session) (steps : List SessionStep) : Session :=
  steps.foldl (fun t step => (t.step step).2) s

/-- **A session follows pointers** if each of its cursors tracks the pointer
at its place. -/
structure Follows (expression : String) (s : Session) (p : Pointers) : Prop where
  /-- There are as many cursors as pointers. -/
  size : s.cursors.length = p.size
  /-- The current ones are at the same place. -/
  current : s.current = p.current
  /-- The cursors track the pointers. -/
  tracks : ∀ (i : Nat) (c : Cursor), s.cursors[i]? = some c → c.Tracks expression (p.place i)

variable {expression : String} {s : Session} {p : Pointers}

theorem getElem?_current (s : Session) : s.cursors[s.current]? = some s.cursor :=
  List.getElem?_eq_getElem s.current_lt

theorem follows_start (expression : String) : Follows expression (start expression) .start where
  size := rfl
  current := rfl
  tracks i c h := by
    have hc : c = Cursor.start expression := List.mem_singleton.mp (List.mem_of_getElem? h)
    exact hc ▸ Cursor.tracks_start expression

/-- The current cursor tracks the current pointer. -/
theorem Follows.cursor (h : s.Follows expression p) :
    s.cursor.Tracks expression (p.place p.current) :=
  h.current ▸ h.tracks _ _ s.getElem?_current

/-- Moving the current cursor leaves the others where they are. -/
theorem getElem?_withCursor_of_ne {c : Cursor} {i : Nat} (hi : i ≠ s.current) :
    (s.withCursor c).cursors[i]? = s.cursors[i]? :=
  List.getElem?_set_ne (Ne.symm hi)

/-- Moving the current cursor along with the current pointer. -/
theorem Follows.withCursor (h : s.Follows expression p) {c : Cursor} {q : Pointer}
    (hc : c.Tracks expression q) : (s.withCursor c).Follows expression (p.move q) where
  size := (List.length_set ..).trans h.size
  current := h.current
  tracks i d hd := by
    by_cases hi : i = s.current
    · subst hi
      have hset : (s.withCursor c).cursors[s.current]? = some c :=
        List.getElem?_set_self s.current_lt
      rw [hset, Option.some.injEq] at hd
      rw [← hd, h.current, Pointers.place_move_current]
      exact hc
    · rw [getElem?_withCursor_of_ne hi] at hd
      rw [Pointers.place_move_of_ne _ _ (h.current ▸ hi)]
      exact h.tracks i d hd

/-- A copy tracks the pointer of its original. -/
theorem Follows.fork (h : s.Follows expression p) :
    s.fork.Follows expression (p.step expression .fork).2 where
  size := by
    change (s.cursors ++ [s.cursor]).length = p.size + 1
    rw [List.length_append, List.length_singleton, h.size]
  current := h.current
  tracks i c hc := by
    change (s.cursors ++ [s.cursor])[i]? = some c at hc
    change c.Tracks expression (Function.update p.place p.size (p.place p.current) i)
    rcases Nat.lt_trichotomy i s.cursors.length with hi | rfl | hi
    · rw [List.getElem?_append_left hi] at hc
      rw [Function.update_of_ne (by rw [← h.size]; omega)]
      exact h.tracks i c hc
    · rw [List.getElem?_concat_length, Option.some.injEq] at hc
      rw [h.size, Function.update_self, ← hc]
      exact h.cursor
    · rw [List.getElem?_eq_none (by simp; omega)] at hc
      cases hc

/-- **One step of a session**: the answer is that of the pointers, and each
cursor tracks its pointer again. -/
theorem Follows.step (h : s.Follows expression p) (step : SessionStep) :
    (s.step step).1 = (p.step expression step).1 ∧
      (s.step step).2.Follows expression (p.step expression step).2 := by
  have hcurrent : s.cursor.advance.current =
      ((p.place p.current).ahead (segments expression)).head? := by
    rw [h.cursor.advance.current, Pointer.current_advance]
  have hremaining := h.cursor.remaining_eq
  cases step with
  | advance =>
    exact ⟨congrArg (fun found => SessionAnswer.bool (Option.isSome found)) hcurrent,
      h.withCursor h.cursor.advance⟩
  | next => exact ⟨congrArg SessionAnswer.segment hcurrent, h.withCursor h.cursor.advance⟩
  | count =>
    exact ⟨congrArg (fun ss => SessionAnswer.number (List.length ss)) hremaining,
      h.withCursor h.cursor.exhaust⟩
  | last =>
    exact ⟨congrArg (fun ss => SessionAnswer.segment (List.getLast? ss)) hremaining,
      h.withCursor h.cursor.exhaust⟩
  | source => exact ⟨congrArg SessionAnswer.text h.cursor.source, h⟩
  | fork => exact ⟨congrArg SessionAnswer.number h.size, h.fork⟩
  | switch =>
    have hswitch : s.switch.current = (p.current + 1) % p.size := by
      rw [← h.current, ← h.size]
      rfl
    exact ⟨congrArg SessionAnswer.number hswitch, h.size, hswitch, h.tracks⟩

/-- What is seen of the session is what is seen of the pointers. -/
theorem Follows.report_eq (h : s.Follows expression p) (answer : SessionAnswer) :
    Session.report (answer, s) = Pointers.report expression (answer, p) := by
  have hviews : s.cursors.map Cursor.view = (List.range p.size).map fun i =>
      View.of expression ((p.place i).current (segments expression)) := by
    rw [← h.size]
    refine List.ext_getElem (by simp) fun i hi _ => ?_
    rw [List.length_map] at hi
    rw [List.getElem_map, List.getElem_map, List.getElem_range]
    exact (h.tracks i _ (List.getElem?_eq_getElem hi)).view_eq
  rw [report, Pointers.report, hviews, h.current]

/-- **A run of a session** is seen as a run of the pointers. -/
theorem Follows.run (h : s.Follows expression p) (steps : List SessionStep) :
    (s.run steps).map report = p.run expression steps := by
  induction steps generalizing s p with
  | nil => rfl
  | cons step steps ih =>
    obtain ⟨hanswer, hafter⟩ := h.step step
    have hreport : report (s.step step) = Pointers.report expression (p.step expression step) :=
      calc report (s.step step)
          = Pointers.report expression ((s.step step).1, (p.step expression step).2) :=
            hafter.report_eq _
        _ = Pointers.report expression (p.step expression step) := by rw [hanswer]
    exact List.cons_eq_cons.mpr ⟨hreport, ih hafter⟩

/-- And after it every cursor still tracks a pointer. -/
theorem Follows.exists_after (h : s.Follows expression p) (steps : List SessionStep) :
    ∃ q, (s.after steps).Follows expression q := by
  induction steps generalizing s p with
  | nil => exact ⟨p, h⟩
  | cons step steps ih => exact ih (h.step step).2

/-! ## Cursors that are not touched -/

/-- **A step leaves all cursors alone but the current one.** -/
theorem getElem?_step_of_ne (s : Session) (step : SessionStep) {i : Nat} (hi : i ≠ s.current)
    (hlt : i < s.cursors.length) : (s.step step).2.cursors[i]? = s.cursors[i]? := by
  cases step with
  | advance | next | count | last => exact getElem?_withCursor_of_ne hi
  | source | switch => rfl
  | fork => exact List.getElem?_append_left hlt

/-- And the current one too, if it is exhausted. -/
theorem getElem?_step_of_exhausted {c : Cursor} {i : Nat} (hc : s.cursors[i]? = some c)
    (hend : c = c.exhaust) (step : SessionStep) : (s.step step).2.cursors[i]? = some c := by
  have hlt : i < s.cursors.length := (List.getElem?_eq_some_iff.mp hc).1
  by_cases hi : i = s.current
  · subst hi
    have hcursor : s.cursor = c := Option.some.inj (s.getElem?_current.symm.trans hc)
    have hself : ∀ d, d = c → (s.withCursor d).cursors[s.current]? = some c := by
      rintro d rfl
      exact List.getElem?_set_self s.current_lt
    cases step with
    | advance | next =>
      refine hself _ ?_
      rw [hcursor, hend, Cursor.advance_exhaust]
    | count | last =>
      refine hself _ ?_
      rw [hcursor, ← hend]
    | source | switch => exact hc
    | fork => exact (List.getElem?_append_left hlt).trans hc
  · rw [getElem?_step_of_ne s step hi hlt, hc]

theorem getElem?_after_of_exhausted {c : Cursor} {i : Nat} (hc : s.cursors[i]? = some c)
    (hend : c = c.exhaust) (steps : List SessionStep) :
    (s.after steps).cursors[i]? = some c := by
  induction steps generalizing s with
  | nil => exact hc
  | cons step steps ih => exact ih (getElem?_step_of_exhausted hc hend step)

/-- **Cursors are pointers into the segments of their expression.** A session
over an expression lets see, after each step and for each of its cursors, what
pointers into the list of segments do. No step changes a cursor that is not
the current one. A cursor whose segments are read, one by one or all at once,
is exhausted, and an exhausted one never changes again. -/
theorem run_follows_pointers (expression : String) (steps : List SessionStep) :
    ((start expression).run steps).map report = Pointers.start.run expression steps ∧
      (∀ step i, i ≠ ((start expression).after steps).current →
        i < ((start expression).after steps).cursors.length →
        (((start expression).after steps).step step).2.cursors[i]? =
          ((start expression).after steps).cursors[i]?) ∧
      ∀ (i : Nat) (c : Cursor), ((start expression).after steps).cursors[i]? = some c →
        (c.Yields c.remaining ∧ Cursor.advance^[c.remaining.length + 1] c = c.exhaust) ∧
        (c.advance.current = none → c.advance = c.exhaust) ∧
        (c = c.exhaust → ∀ more,
          (((start expression).after steps).after more).cursors[i]? = some c) := by
  refine ⟨(follows_start expression).run steps,
    fun step i hi hlt => getElem?_step_of_ne _ step hi hlt, fun i c hc => ?_⟩
  obtain ⟨p, hp⟩ := (follows_start expression).exists_after steps
  exact ⟨(hp.tracks i c hc).drains, Cursor.advance_eq_exhaust, getElem?_after_of_exhausted hc⟩

end Session

end Path
end Scenario
