import Scenario.Path.Segment
import Scenario.Text.Offset

/-!
# Cursors — the segments of an expression, one at a time

`scan` reads the segment at the beginning of a text: it passes over dots,
takes an embedded call to the end of the expression, and any other piece to
the next dot. `segmentAt` does so at a byte offset and answers with the
offset after the segment. A `Cursor` remembers such an offset together with
the segment it last read, and `segments` is everything a fresh cursor
yields.

Every step leaves less to read (`scan_length_lt`), which is why listing the
segments ends.
-/

namespace Scenario
namespace Path

/-- The text of an embedded call: up to the last closing parenthesis, or
everything if there is none. -/
def callText (body : List Char) : List Char :=
  match Text.splitLast? ')' body with
  | some (content, _) => content
  | none => body

/-- The first segment of a text and what follows it. -/
def scan : List Char → Option (Segment × List Char)
  | [] => none
  | c :: cs =>
    if c = '.' then scan cs
    else
      match Embedded.opening? (c :: cs) with
      | some (language, body) => some (.escaped (.ofList (callText body)) language, [])
      | none =>
        let piece := c :: cs.takeWhile (· ≠ '.')
        some (.ofPiece piece, (cs.dropWhile (· ≠ '.')).drop 1)

/-- Reading a segment leaves less to read. -/
theorem scan_length_lt {cs rest : List Char} {s : Segment} (h : scan cs = some (s, rest)) :
    rest.length < cs.length := by
  induction cs with
  | nil => simp [scan] at h
  | cons c cs ih =>
    rw [scan] at h
    split at h
    · have := ih h
      simp only [List.length_cons]; omega
    · split at h
      · simp only [Option.some.injEq, Prod.mk.injEq] at h
        simp [← h.2]
      · simp only [Option.some.injEq, Prod.mk.injEq] at h
        have := (List.dropWhile_suffix (l := cs) (· ≠ '.')).length_le
        simp only [← h.2, List.length_drop, List.length_cons]; omega

/-- All segments of a text, in order. -/
def scanAll (cs : List Char) : List Segment :=
  match _h : scan cs with
  | some (s, rest) => s :: scanAll rest
  | none => []
termination_by cs.length
decreasing_by exact scan_length_lt ‹_›

/-- The segments of an expression. -/
def segments (expression : String) : List Segment :=
  scanAll expression.toList

/-- The segments joined with dots, as an expression writes them. -/
def joined (ss : List Segment) : String :=
  ".".intercalate (ss.map Segment.text)

/-- The segment at a byte offset and the offset after it; nothing at the
end, past it, or inside a character. -/
def segmentAt (source : String) (offset : Nat) : Option (Segment × Nat) :=
  match Text.dropBytes offset source.toList with
  | none => none
  | some rest => (scan rest).map fun (s, left) =>
    (s, offset + (Text.byteSize rest - Text.byteSize left))

/-- A place in an expression: the offset of what is still unread and the
segment read last. -/
structure Cursor where
  /-- The expression walked over. -/
  source : String
  /-- The byte offset of the unread part. -/
  offset : Nat
  /-- The segment read last; none at the start and after the end. -/
  current : Option Segment
  deriving DecidableEq

namespace Cursor

/-- The cursor before the first segment. -/
def start (source : String) : Cursor := ⟨source, 0, none⟩

/-- The name of the current segment, empty if there is none. -/
def currentName (c : Cursor) : String := c.current.elim "" Segment.name

/-- The index of the current segment, `noIndex` if there is none. -/
def currentIndex (c : Cursor) : Int := c.current.elim noIndex Segment.index

/-- Read the next segment; at the end the cursor stays there without a
current segment. -/
def advance (c : Cursor) : Cursor :=
  match segmentAt c.source c.offset with
  | some (s, next) => { c with offset := next, current := some s }
  | none => { c with offset := Text.byteSize c.source.toList, current := none }

/-- The segments a cursor still has before it. -/
def remaining (c : Cursor) : List Segment :=
  match Text.dropBytes c.offset c.source.toList with
  | some rest => scanAll rest
  | none => []

/-- The cursor after it has read everything. -/
def exhaust (c : Cursor) : Cursor :=
  { c with offset := Text.byteSize c.source.toList, current := none }

end Cursor

end Path
end Scenario
