import Std.Data.HashMap
import Scenario.Pattern.Encoding
import Scenario.Pattern.Shape

/-!
# Programs — how much space a pattern takes

A pattern is run as a program of steps, and a pattern whose program would be
too large is refused. A step takes a fixed space, and more where it has a
table of bytes or a list of branches. The program itself is not built here;
`Builder` numbers its steps and adds up their space, and has no result once
there is too much. Two programs are laid out, one that reads a text forward
and one that reads it backward and remembers no groups; both must fit.

A class beyond ASCII shares steps between its byte sequences, by a memory of
limited size: a step is looked for in one slot only, and a later one takes
the slot over. So the space depends on the slots, and those on the numbers
of the steps.
-/

namespace Scenario
namespace Pattern

open Unicode (CharSet)

/-- A program under construction. -/
structure Layout where
  /-- The number of its steps. -/
  steps : Nat
  /-- The bytes taken by tables and lists of branches. -/
  extra : Nat

/-- The bytes of a program under construction. -/
def Layout.bytes (l : Layout) : Nat := 32 * l.steps + l.extra

/-- The number of bytes a program may take. -/
def Layout.limit : Nat := 10 * Nat.pow 2 20

/-- The construction of a part of a program; it fails where the program gets
too large. -/
abbrev Builder := StateT Layout Option

namespace Builder

/-- Add steps, and bytes beyond those of the steps themselves. -/
def grow (steps extra : Nat) : Builder Unit := fun l =>
  let grown : Layout := ⟨l.steps + steps, l.extra + extra⟩
  if grown.bytes ≤ Layout.limit then some ((), grown) else none

/-- Add a step; the result is its number. -/
def step : Builder Nat := do
  let l ← get
  grow 1 0
  return l.steps

/-- Add a step with a table of some entries; the result is its number. -/
def table (entries : Nat) : Builder Nat := do
  let l ← get
  grow 1 (8 * entries)
  return l.steps

/-- Add branches to steps that have lists of them. -/
def branch (count : Nat) : Builder Unit := grow 0 (4 * count)

/-- Where a part of a program is left. -/
inductive Exit where
  /-- At a step that goes on to one other. -/
  | single
  /-- At a step that goes on by one of its branches. -/
  | branching

/-- Lead the exit of a part, if there is one, on to what follows. -/
def link : Option Exit → Builder Unit
  | some .branching => branch 1
  | some .single | none => return ()

/-! ## Classes -/

/-- Mix a number into a hash. -/
def mix (hash : UInt64) (n : UInt64) : UInt64 := (hash ^^^ n) * 1099511628211

/-- The hash of nothing. -/
def hashStart : UInt64 := 14695981039346656037

/-- A memory of steps: for each slot that is taken, what the step in it is
for, and its number. -/
abbrev Memory (α : Type) := Std.HashMap Nat (α × Nat)

/-- An entry of the table of a step: the bytes, and the step they lead to. -/
abbrev Entry := ByteRange × Nat

/-- The slot of a table, out of ten thousand. -/
def tableSlot (entries : List Entry) : Nat :=
  let hash := entries.foldl (fun h e =>
    mix (mix (mix h e.1.1.toUInt64) e.1.2.toUInt64) e.2.toUInt64) hashStart
  (hash % 10000).toNat

/-- The step with a given table, remembered or added. -/
def sharedTable (entries : List Entry) : StateT (Memory (List Entry)) Builder Nat := do
  let slot := tableSlot entries
  match (← get)[slot]? with
  | some (known, number) =>
    if known = entries then return number
  | none => pure ()
  let number ← table entries.length
  modify (·.insert slot (entries, number))
  return number

/-- A step whose table is not complete: the entries so far, the latest
first, and the bytes of the open one. -/
structure Open where
  /-- The entries, the latest first. -/
  entries : List Entry
  /-- The bytes that lead to the step after this one. -/
  pending : Option ByteRange

/-- A step with its open entry led on to a given step. -/
def Open.close (node : Open) (next : Nat) : List Entry :=
  match node.pending with
  | some bytes => (bytes, next) :: node.entries
  | none => node.entries

/-- Complete the open steps of a sequence; the last leads on to a given step,
and the result is the first. -/
def complete (target : Nat) : List Open → StateT (Memory (List Entry)) Builder Nat
  | [] => return target
  | node :: rest => do
    let next ← complete target rest
    sharedTable (node.close next).reverse

/-- Open the steps for a byte sequence, after those open for the sequence
before it; both keep what they have in common. -/
def openFor (target : Nat) :
    List Open → List ByteRange → StateT (Memory (List Entry)) Builder (List Open)
  | node :: rest, bytes :: more => do
    if node.pending = some bytes then
      return node :: (← openFor target rest more)
    else
      let next ← complete target rest
      return ⟨node.close next, some bytes⟩ :: more.map fun b => ⟨[], some b⟩
  | nodes, _ => return nodes

/-- The steps that read a character of a class beyond ASCII forward. -/
def forwardClass (s : CharSet) : Builder Unit := do
  let target ← step
  let lay : StateT (Memory (List Entry)) Builder Unit := do
    let nodes ← (ByteRange.ofSet s).foldlM (openFor target) [⟨[], none⟩]
    discard (complete target nodes)
  discard (lay.run {})

/-- The slot of a step that reads a byte and leads on to a given step, out
of a thousand. -/
def byteSlot (next : Nat) (bytes : ByteRange) : Nat :=
  let hash := mix (mix (mix hashStart next.toUInt64) bytes.1.toUInt64) bytes.2.toUInt64
  (hash % 1000).toNat

/-- The step that reads a byte and leads on to a given step, remembered or
added. -/
def sharedByte (next : Nat) (bytes : ByteRange) :
    StateT (Memory (Nat × ByteRange)) Builder Nat := do
  let slot := byteSlot next bytes
  match (← get)[slot]? with
  | some (known, number) =>
    if known = (next, bytes) then return number
  | none => pure ()
  let number ← step
  modify (·.insert slot ((next, bytes), number))
  return number

/-- The steps that read a character of a class beyond ASCII backward. -/
def backwardClass (s : CharSet) : Builder Unit := do
  discard step
  let target ← step
  let lay : StateT (Memory (Nat × ByteRange)) Builder Unit :=
    (ByteRange.ofSet s).forM fun sequence => do
      discard (sequence.foldlM sharedByte target)
      branch 1
  discard (lay.run {})

/-- The steps that read a character of a class. -/
def classSteps (backward : Bool) (s : CharSet) : Builder Unit := do
  if s.isAscii then
    discard step
    discard (table s.ranges.length)
  else if backward then backwardClass s
  else forwardClass s

/-! ## Choices between literals -/

/-- The bytes of a literal. -/
def bytesOf (text : List Char) : List UInt8 := text.flatMap String.utf8EncodeChar

/-- Cut some words after each that is empty; of several empty ones at the
beginning only the first counts. -/
def runsOf : List (List UInt8) → List (List (List UInt8))
  | words =>
    let led :=
      match words with
      | [] :: rest => [] :: rest.dropWhile List.isEmpty
      | _ => words
    led.splitOnP List.isEmpty

/-- The words that begin with a byte, without it. -/
def after (b : UInt8) (words : List (List UInt8)) : List (List UInt8) :=
  words.filterMap fun
    | c :: rest => if c = b then some rest else none
    | [] => none

/-- The step that chooses between words by their next byte, and all the steps
after it: a branch for each run of words and one for each end of a word
between them, and in a run a table with an entry for each first byte. A run
with one first byte needs no table, and where only ends of words follow a
byte there are no more steps. The first argument bounds the length of the
words. -/
def wordSteps : Nat → List (List UInt8) → Builder Unit
  | 0, _ => return ()
  | fuel + 1, words => do
    let runs := runsOf words
    for run in runs do
      let firsts := (run.filterMap List.head?).eraseDups
      for b in firsts do
        let rest := after b run
        if rest.any fun word => !word.isEmpty then wordSteps fuel rest
      match firsts.length with
      | 0 => pure ()
      | 1 => discard step
      | n => discard (table n)
    let filled := (runs.filter fun run => !run.isEmpty).length
    discard step
    branch (filled + (runs.length - 1))

/-- The text of a shape that is a literal. -/
def literal? : Shape → Option (List Char)
  | .literal text => some text
  | _ => none

/-- The steps of a choice between literals, which share their beginnings, or
their ends where they are read backward. -/
def literalSteps (backward : Bool) (texts : List (List Char)) : Builder Unit := do
  let words := texts.map fun text => if backward then (bytesOf text).reverse else bytesOf text
  discard step
  wordSteps ((words.map List.length).foldl Nat.max 0 + 1) words

/-! ## Shapes -/

/-- Some copies of a part one after another, after an exit. -/
def copies (part : Builder Exit) : Nat → Option Exit → Builder (Option Exit)
  | 0, exit => return exit
  | n + 1, exit => do
    let next ← part
    link exit
    copies part n (some next)

/-- Some copies of a part each of which may be the last, after an exit. -/
def optionals (part : Builder Exit) : Nat → Option Exit → Builder (Option Exit)
  | 0, exit => return exit
  | n + 1, exit => do
    discard step
    let next ← part
    link exit
    branch 2
    optionals part n (some next)

/-- A fixed number of copies of a part; none are a step that reads
nothing. -/
def exactly (part : Builder Exit) (n : Nat) : Builder Exit := do
  match ← copies part n none with
  | some exit => return exit
  | none =>
    discard step
    return .single

/-- A repetition of a part, which reads at least one character or may read
none. -/
def repetition (part : Builder Exit) (readsSomething : Bool) :
    Nat → Option Nat → Builder Exit
  | 0, some 1 => do
    discard step
    let exit ← part
    discard step
    branch 2
    link (some exit)
    return .single
  | 0, none => do
    if readsSomething then
      discard step
      let exit ← part
      branch 1
      link (some exit)
      return .branching
    else
      let exit ← part
      link (some exit)
      grow 3 0
      branch 4
      return .single
  | n + 1, none => do
    let exit ← copies part n none
    let last ← part
    discard step
    link exit
    link (some last)
    branch 1
    return .branching
  | min, some max => do
    let exit ← exactly part min
    if min = max then return exit
    discard step
    let last ← optionals part (max - min) (some exit)
    link last
    return .single

mutual

/-- The steps of a shape. -/
def lay (backward : Bool) : Shape → Builder Exit
  | .empty | .look _ => do
    discard step
    return .single
  | .literal text => do
    grow (bytesOf text).length 0
    return .single
  | .set _ cls => do
    classSteps backward cls
    return .single
  | .capture body => do
    if backward then lay backward body
    else
      discard step
      let exit ← lay backward body
      discard step
      link (some exit)
      return .single
  | .repetition _ min max body => repetition (lay backward body) body.readsSomething min max
  | .concat items => do
    let exit ← if backward then layBack items else layOn none items
    return exit.getD .single
  | .choice branches => do
    match branches.mapM literal? with
    | some texts => literalSteps backward texts
    | none => layBranches backward 0 branches
    return .single

/-- The steps of a sequence in its order, after an exit. -/
def layOn (exit : Option Exit) : List Shape → Builder (Option Exit)
  | [] => return exit
  | s :: ss => do
    let next ← lay false s
    link exit
    layOn (some next) ss

/-- The steps of a sequence from its end. -/
def layBack : List Shape → Builder (Option Exit)
  | [] => return none
  | s :: ss => do
    let exit ← layBack ss
    let next ← lay true s
    link exit
    return some next

/-- The steps of some branches, with the number of those before; the step
that chooses and the one where they meet come after the second. -/
def layBranches (backward : Bool) (before : Nat) : List Shape → Builder Unit
  | [] => return ()
  | s :: ss => do
    let exit ← lay backward s
    if before = 1 then grow 2 0
    branch 1
    link (some exit)
    layBranches backward (before + 1) ss

end

/-- The program of a shape: where a match may begin anywhere in its direction,
a step that passes over bytes; then the shape, between two steps that
remember the match, and the step where it ends. -/
def program (backward : Bool) (s : Shape) : Builder Unit := do
  let anchored := if backward then s.endsWith .textEnd else s.beginsWith .textStart
  if anchored then discard step
  else
    grow 2 0
    discard (table 1)
    branch 2
  let exit ← lay backward (if backward then s else .capture s)
  discard step
  link (some exit)

end Builder

/-- Whether the programs of a shape are small enough. -/
def Shape.fits (s : Shape) : Bool :=
  ((Builder.program false s).run ⟨0, 0⟩).isSome && ((Builder.program true s).run ⟨0, 0⟩).isSome

end Pattern
end Scenario
