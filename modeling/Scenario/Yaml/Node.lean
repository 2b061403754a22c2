import Scenario.Yaml.Token

/-!
# Nodes — the documents of a YAML text

A document is a tree of scalars, sequences and mappings, with aliases as
leaves: an alias names an anchored node by the number of its anchor, so
that a node may hold an alias of itself. A new anchor is numbered by the
names in use before it, so that after a name is used again the next new name
may share a number with it; the last node anchored with a number then stands
for all its aliases. `Stream.ofTokens?` reads the
documents of a token list by the grammar of YAML; entries without a node
have the empty plain scalar.
-/

namespace Scenario
namespace Yaml

/-- A node of a document. -/
inductive Node where
  | scalar (tag : Option (List Char)) (style : Style) (text : List Char)
  | sequence (items : List Node)
  | mapping (entries : List (Node × Node))
  | reference (number : Nat)

/-- The node of an entry that has none. -/
def Node.missing : Node := .scalar none .plain []

/-- A document: its root and its anchored nodes by number. -/
structure Tree where
  /-- The root. -/
  root : Node
  /-- The anchored nodes, the one whose anchor stands last first. -/
  anchored : List (Nat × Node)

/-- What a text holds. -/
inductive Stream where
  /-- No document at all. -/
  | empty
  /-- A single document. -/
  | single (tree : Tree)
  /-- More than one document. -/
  | several

/-- What is known while a document is read. -/
structure Composition where
  /-- The tokens still unread. -/
  rest : List Token
  /-- The handles of tags and what they stand for. -/
  handles : List (List Char × List Char)
  /-- The names of anchors so far, each with its latest number. -/
  names : List (List Char × Nat)
  /-- The anchored nodes so far, the one whose anchor stands last first. -/
  anchored : List (Nat × Node)

/-- A reader of part of a document. -/
abbrev Composer := StateT Composition Option

namespace Composer

/-- The next token, if there is one. -/
def head? : Composer (Option Token) := return (← get).rest.head?

/-- Pass over a token. -/
def skip : Composer Unit := modify fun s => { s with rest := s.rest.drop 1 }

/-- Pass over the next token if it is the given one. -/
def accept (token : Token) : Composer Bool := do
  if (← head?) == some token then
    skip
    return true
  return false

/-- Succeed only if the condition holds. -/
def require (condition : Bool) : Composer Unit := if condition then return () else failure

/-- Whether one of some tokens comes next, or none is left. -/
def atAny (tokens : List Token) : Composer Bool := do
  match ← head? with
  | some token => return tokens.contains token
  | none => return false

/-- The full form of a tag: its handle must be known. -/
def fullTag (handle suffix : List Char) : Composer (List Char) := do
  if handle.isEmpty then return suffix
  match (← get).handles.lookup handle with
  | some lead => return lead ++ suffix
  | none => failure

/-- An anchor, if one comes next. -/
def anchor? : Composer (Option (List Char)) := do
  match ← head? with
  | some (.anchor name) => skip; return some name
  | _ => return none

/-- A tag, if one comes next. -/
def tag? : Composer (Option (List Char × List Char)) := do
  match ← head? with
  | some (.tag handle suffix) => skip; return some (handle, suffix)
  | _ => return none

/-- The anchor and the tag of a node, in any order. -/
def properties : Composer (Option (List Char) × Option (List Char)) := do
  let first ← anchor?
  let tag ← tag?
  let second ← if first.isSome then pure none else anchor?
  let full ←
    match tag with
    | some (handle, suffix) => pure (some (← fullTag handle suffix))
    | none => pure none
  return (first <|> second, full)

/-- Read a node and keep it under a new number if it has an anchor. The
anchor is known inside the node, and those inside it stand after it. -/
def anchoring (name : Option (List Char)) (read : Composer Node) : Composer Node := do
  match name with
  | none => read
  | some name =>
    let s ← get
    let number := s.names.length
    let others := s.names.filter fun entry => entry.1 != name
    set { s with names := (name, number) :: others, anchored := [] }
    let node ← read
    modify fun after => { after with anchored := after.anchored ++ (number, node) :: s.anchored }
    return node

mutual

/-- A node. In block collections it may be one, and as the entry of a
mapping also a sequence that is not indented. The tag of a single
exclamation mark says nothing about a written scalar. -/
def node (inBlock unindented : Bool) : Nat → Composer Node
  | 0 => failure
  | fuel + 1 => do
    match ← head? with
    | some (.reference name) =>
      skip
      match (← get).names.lookup name with
      | some n => return .reference n
      | none => failure
    | _ =>
      let (name, tag) ← properties
      anchoring name do
        let bare := do
          require (name.isSome || tag.isSome)
          return .scalar tag .plain []
        match ← head? with
        | some .blockEntry => if unindented then return .sequence (← unindentedItems fuel) else bare
        | some (.scalar style text) =>
          skip
          return .scalar (tag.filter (· != ['!'])) style text
        | some .flowSequenceStart => skip; return .sequence (← flowItems true fuel)
        | some .flowMappingStart => skip; return .mapping (← flowEntries true fuel)
        | some .blockSequenceStart =>
          if inBlock then
            skip
            return .sequence (← blockItems fuel)
          else bare
        | some .blockMappingStart =>
          if inBlock then
            skip
            return .mapping (← blockEntries fuel)
          else bare
        | _ => bare

/-- The items of a block sequence and its end. -/
def blockItems : Nat → Composer (List Node)
  | 0 => failure
  | fuel + 1 => do
    if ← accept .blockEntry then
      let item ←
        if ← atAny [.blockEntry, .blockEnd] then pure .missing else node true false fuel
      return item :: (← blockItems fuel)
    require (← accept .blockEnd)
    return []

/-- The items of a sequence that is not indented. -/
def unindentedItems : Nat → Composer (List Node)
  | 0 => failure
  | fuel + 1 => do
    if ← accept .blockEntry then
      let item ←
        if ← atAny [.blockEntry, .key, .value, .blockEnd] then pure .missing
        else node true false fuel
      return item :: (← unindentedItems fuel)
    return []

/-- The entries of a block mapping and its end. -/
def blockEntries : Nat → Composer (List (Node × Node))
  | 0 => failure
  | fuel + 1 => do
    if ← accept .key then
      let key ←
        if ← atAny [.key, .value, .blockEnd] then pure .missing else node true true fuel
      let value ←
        if ← accept .value then
          if ← atAny [.key, .value, .blockEnd] then pure .missing else node true true fuel
        else pure .missing
      return (key, value) :: (← blockEntries fuel)
    require (← accept .blockEnd)
    return []

/-- The items of a flow sequence and its end. An item may be a mapping of
one entry. -/
def flowItems (first : Bool) : Nat → Composer (List Node)
  | 0 => failure
  | fuel + 1 => do
    if ← accept .flowSequenceEnd then return []
    if !first then
      require (← accept .flowEntry)
    if ← accept .flowSequenceEnd then return []
    if ← accept .key then
      let key ←
        if ← atAny [.value, .flowEntry, .flowSequenceEnd] then
          skip
          pure .missing
        else node false false fuel
      let value ←
        if ← accept .value then
          if ← atAny [.flowEntry, .flowSequenceEnd] then pure .missing else node false false fuel
        else pure .missing
      return .mapping [(key, value)] :: (← flowItems false fuel)
    let item ← node false false fuel
    return item :: (← flowItems false fuel)

/-- The entries of a flow mapping and its end. An entry without a colon has
no value. -/
def flowEntries (first : Bool) : Nat → Composer (List (Node × Node))
  | 0 => failure
  | fuel + 1 => do
    if ← accept .flowMappingEnd then return []
    if !first then
      require (← accept .flowEntry)
    if ← accept .flowMappingEnd then return []
    if ← accept .key then
      let key ←
        if ← atAny [.value, .flowEntry, .flowMappingEnd] then pure .missing
        else node false false fuel
      let value ←
        if ← accept .value then
          if ← atAny [.flowEntry, .flowMappingEnd] then pure .missing else node false false fuel
        else pure .missing
      return (key, value) :: (← flowEntries false fuel)
    let key ← node false false fuel
    return (key, .missing) :: (← flowEntries false fuel)

end

/-! ## Documents -/

/-- The handles that are known without a directive. -/
def defaultHandles : List (List Char × List Char) :=
  [(['!'], ['!']), (['!', '!'], "tag:yaml.org,2002:".toList)]

/-- The directives before a document: at most one version, which is 1.1 or
1.2, and no handle twice. -/
def directives (versioned : Bool) : Nat → Composer Unit
  | 0 => failure
  | fuel + 1 => do
    match ← head? with
    | some (.version major minor) =>
      require (!versioned && major == 1 && (minor == 1 || minor == 2))
      skip
      directives true fuel
    | some (.tagDirective handle lead) =>
      let s ← get
      require !(s.handles.any fun h => h.1 == handle)
      set { s with handles := (handle, lead) :: s.handles }
      skip
      directives versioned fuel
    | _ => modify fun s => { s with handles := s.handles ++ defaultHandles }

/-- Fuel for a loop that reads a token in each turn. -/
def fuelHere : Composer Nat := return 2 * (← get).rest.length + 2

/-- A document after its directives, up to its end marker. -/
def content : Composer Node := do
  let root ←
    match ← head? with
    | none | some (.version _ _) | some (.tagDirective _ _) | some .documentStart
    | some .documentEnd => pure Node.missing
    | _ => node true false (← fuelHere)
  discard (accept .documentEnd)
  return root

/-- A document with an explicit start. -/
def explicitDocument : Composer Node := do
  directives false (← fuelHere)
  require (← accept .documentStart)
  content

/-- The first document of a text. Only this one may do without a start
marker. -/
def firstDocument : Composer Node := do
  match ← head? with
  | some (.version _ _) | some (.tagDirective _ _) | some .documentStart => explicitDocument
  | _ =>
    modify fun s => { s with handles := defaultHandles }
    let root ← node true false (← fuelHere)
    discard (accept .documentEnd)
    return root

end Composer

/-- The documents of a token list, if they follow the grammar. After the
first document it only matters whether anything but end markers is left. -/
def Stream.ofTokens? (tokens : List Token) : Option Stream :=
  if tokens.isEmpty then some .empty
  else
    match Composer.firstDocument ⟨tokens, [], [], []⟩ with
    | none => none
    | some (root, s) =>
      if (s.rest.dropWhile (· == .documentEnd)).isEmpty then some (.single ⟨root, s.anchored⟩)
      else some .several

/-- The documents of a text. -/
def Stream.ofText? (text : List Char) : Option Stream :=
  (Token.ofText? text).bind Stream.ofTokens?

end Yaml
end Scenario
