import Scenario.Path.Cursor

/-!
# Walks — the segments a cursor yields

A cursor is advanced until there is no segment left. `Yields` is the list of
segments it stops at on the way, each of them found from the byte offset
that the advance before it has left. The offset is always one where a
character begins: an advance passes over the text that it has scanned
(`dropBytes_of_scan`). So a cursor yields what is scanned from the rest of
its expression (`yields_scanAll`), and a fresh one the segments of the whole
(`yields_start`).
-/

namespace Scenario
namespace Path

variable {cs rest : List Char} {s : Segment}

/-- What is left by a scan is the end of the text. -/
theorem scan_suffix (h : scan cs = some (s, rest)) : rest <:+ cs := by
  induction cs with
  | nil => cases h
  | cons c cs ih =>
    rw [scan] at h
    split at h
    · exact (ih h).trans (List.suffix_cons c cs)
    · split at h
      · cases h
        exact List.nil_suffix
      · cases h
        have hdrop : (cs.dropWhile (· ≠ '.')).drop 1 <:+ cs :=
          (List.drop_suffix 1 _).trans (List.dropWhile_suffix _)
        exact hdrop.trans (List.suffix_cons c cs)

theorem scanAll_of_scan_eq_some (h : scan cs = some (s, rest)) :
    scanAll cs = s :: scanAll rest := by
  rw [scanAll]
  split
  · next heq =>
    rw [h] at heq
    cases heq
    rfl
  · next heq =>
    rw [h] at heq
    cases heq

theorem scanAll_of_scan_eq_none (h : scan cs = none) : scanAll cs = [] := by
  rw [scanAll]
  split
  · next heq =>
    rw [h] at heq
    cases heq
  · rfl

theorem scanAll_nil : scanAll [] = [] := scanAll_of_scan_eq_none rfl

namespace Cursor

/-- **The segments a cursor stops at** when it is advanced until it finds no
more. -/
inductive Yields : Cursor → List Segment → Prop
  /-- The advance finds nothing. -/
  | nothing {c : Cursor} : c.advance.current = none → Yields c []
  /-- The advance finds a segment, and the next ones find the others. -/
  | segment {c : Cursor} {s : Segment} {ss : List Segment} :
      c.advance.current = some s → Yields c.advance ss → Yields c (s :: ss)

/-- There is only one such list. -/
theorem Yields.unique {c : Cursor} {ss ts : List Segment} (h : c.Yields ss) (h' : c.Yields ts) :
    ss = ts := by
  induction h generalizing ts with
  | nothing hnone =>
    cases h' with
    | nothing => rfl
    | segment hsome => rw [hnone] at hsome; cases hsome
  | segment hsome _ ih =>
    cases h' with
    | nothing hnone => rw [hsome] at hnone; cases hnone
    | segment hsome' hrest =>
      rw [hsome] at hsome'
      cases hsome'
      rw [ih hrest]

/-- **The offset after a scan is where the rest begins.** -/
theorem dropBytes_of_scan {source : List Char} {offset : Nat}
    (hoffset : Text.dropBytes offset source = some cs) (hscan : scan cs = some (s, rest)) :
    Text.dropBytes (offset + (Text.byteSize cs - Text.byteSize rest)) source = some rest := by
  obtain ⟨lead, rfl, rfl⟩ := Text.byteSize_of_dropBytes hoffset
  obtain ⟨taken, rfl⟩ := scan_suffix hscan
  have hsize : Text.byteSize (taken ++ rest) - Text.byteSize rest = Text.byteSize taken := by
    rw [Text.byteSize_append, Nat.add_sub_cancel]
  rw [hsize, ← Text.byteSize_append, ← List.append_assoc]
  exact Text.dropBytes_byteSize (lead ++ taken) rest

/-- **An advance over a segment**: the cursor stands where the rest begins. -/
theorem advance_of_scan_eq_some {c : Cursor}
    (h : Text.dropBytes c.offset c.source.toList = some cs) (hscan : scan cs = some (s, rest)) :
    ∃ next, c.advance = ⟨c.source, next, some s⟩ ∧
      Text.dropBytes next c.source.toList = some rest := by
  refine ⟨_, ?_, dropBytes_of_scan h hscan⟩
  simp only [advance, segmentAt, h, hscan, Option.map_some]

/-- And one that finds nothing: the cursor stands at the end. -/
theorem advance_of_scan_eq_none {c : Cursor}
    (h : Text.dropBytes c.offset c.source.toList = some cs) (hscan : scan cs = none) :
    c.advance = c.exhaust := by
  simp only [advance, segmentAt, h, hscan, Option.map_none, exhaust]

/-- A cursor yields what is scanned from the text at its offset. -/
theorem yields_scanAll (c : Cursor) (h : Text.dropBytes c.offset c.source.toList = some cs) :
    c.Yields (scanAll cs) := by
  -- on the text that is left; the cursor moves along with it
  induction cs using scanAll.induct generalizing c with
  | case1 cs s rest hscan ih =>
    obtain ⟨next, hadvance, hnext⟩ := advance_of_scan_eq_some h hscan
    rw [scanAll_of_scan_eq_some hscan]
    refine .segment (by rw [hadvance]) (ih _ ?_)
    rw [hadvance]
    exact hnext
  | case2 cs hscan =>
    rw [scanAll_of_scan_eq_none hscan]
    exact .nothing (by rw [advance_of_scan_eq_none h hscan]; rfl)

/-- **A fresh cursor yields the segments of its expression.** -/
theorem yields_start (expression : String) : (start expression).Yields (segments expression) :=
  yields_scanAll (start expression) (Text.dropBytes_zero expression.toList)

end Cursor

end Path
end Scenario
