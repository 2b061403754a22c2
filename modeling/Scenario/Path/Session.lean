import Scenario.Path.Cursor

/-!
# Cursor sessions — several cursors over one expression

A session holds a list of cursors, one of which is the current one. It
starts with a single fresh cursor; `fork` adds a copy of the current cursor
and `switch` goes to the next one in the list, round and round. All other
steps work on the current cursor alone.
-/

namespace Scenario
namespace Path

/-- What can be done with the current cursor, and with the list. -/
inductive SessionStep where
  /-- Read the next segment; answers whether there was one. -/
  | advance
  /-- Read the next segment; answers with it. -/
  | next
  /-- Read everything; answers with the number of segments. -/
  | count
  /-- Read everything; answers with the last segment. -/
  | last
  /-- Answers with the expression. -/
  | source
  /-- Add a copy of the current cursor; answers with its place. -/
  | fork
  /-- Make the next cursor the current one; answers with its place. -/
  | switch
  deriving DecidableEq

/-- The answer to a step. -/
inductive SessionAnswer where
  | bool (value : Bool)
  | number (value : Nat)
  | text (value : String)
  | segment (value : Option Segment)
  deriving DecidableEq

/-- Cursors, one of them current. -/
structure Session where
  /-- The cursors, in the order they were made. -/
  cursors : List Cursor
  /-- The place of the current one. -/
  current : Nat
  /-- The current place is one of the list. -/
  current_lt : current < cursors.length

namespace Session

/-- The session of one fresh cursor. -/
def start (source : String) : Session := ⟨[Cursor.start source], 0, by simp⟩

/-- The current cursor. -/
def cursor (s : Session) : Cursor := s.cursors.get ⟨s.current, s.current_lt⟩

/-- The session with another current cursor in the same place. -/
def withCursor (s : Session) (c : Cursor) : Session :=
  ⟨s.cursors.set s.current c, s.current, by simpa using s.current_lt⟩

/-- The session with a copy of the current cursor at the end. -/
def fork (s : Session) : Session :=
  ⟨s.cursors ++ [s.cursor], s.current, by have := s.current_lt; simp; omega⟩

/-- The session with the next cursor current. -/
def switch (s : Session) : Session :=
  ⟨s.cursors, (s.current + 1) % s.cursors.length,
    Nat.mod_lt _ (Nat.lt_of_le_of_lt (Nat.zero_le _) s.current_lt)⟩

/-- One step: the answer and the session after it. -/
def step (s : Session) : SessionStep → SessionAnswer × Session
  | .advance =>
    let c := s.cursor.advance
    (.bool c.current.isSome, s.withCursor c)
  | .next =>
    let c := s.cursor.advance
    (.segment c.current, s.withCursor c)
  | .count => (.number s.cursor.remaining.length, s.withCursor s.cursor.exhaust)
  | .last => (.segment s.cursor.remaining.getLast?, s.withCursor s.cursor.exhaust)
  | .source => (.text s.cursor.source, s)
  | .fork => (.number s.cursors.length, s.fork)
  | .switch => (.number s.switch.current, s.switch)

/-- A list of steps: each answer with the session after it. -/
def run : Session → List SessionStep → List (SessionAnswer × Session)
  | _, [] => []
  | s, step :: steps =>
    let (answer, after) := s.step step
    (answer, after) :: run after steps

end Session

end Path
end Scenario
