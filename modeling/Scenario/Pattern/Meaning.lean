import Scenario.Pattern.Regex
import Scenario.Pattern.Expr
import Scenario.Unicode.Name

/-!
# The meaning of patterns — flags resolved, classes built

`Expr.resolve` turns a pattern expression into a regular expression. It
carries the flags along, since a flag group changes the meaning of all that
follows it in the enclosing group, and it fails on names that are no
character property and on classes that would reach beyond ASCII while only
ASCII is allowed.
-/

namespace Scenario
namespace Pattern

open Unicode (CharSet)

/-- The flags in force. -/
structure Flags where
  /-- Whether case is ignored. -/
  insensitive : Bool
  /-- Whether line ends count for the anchors. -/
  multiLine : Bool
  /-- Whether the dot matches line ends. -/
  dotAll : Bool
  /-- Whether greedy and other repetitions trade places. -/
  swapGreed : Bool
  /-- Whether a carriage return is a line end. -/
  crlf : Bool
  /-- Whether classes reach beyond ASCII. -/
  unicode : Bool

namespace Flags

/-- The flags a pattern starts with. -/
def initial : Flags := ⟨false, false, false, false, false, true⟩

/-- The flags after one of them is set. -/
def put (f : Flags) : Flag × Bool → Flags
  | (.insensitive, value) => { f with insensitive := value }
  | (.multiLine, value) => { f with multiLine := value }
  | (.dotAll, value) => { f with dotAll := value }
  | (.swapGreed, value) => { f with swapGreed := value }
  | (.crlf, value) => { f with crlf := value }
  | (.unicode, value) => { f with unicode := value }
  | (.spaced, _) => f

/-- The flags after a setting. -/
def apply (f : Flags) (setting : FlagSetting) : Flags := setting.foldl put f

end Flags

/-! ## Classes -/

/-- Whether a character is ASCII. -/
def isAscii (c : Char) : Bool := c.toNat < 128

/-- The class of a name between colons. -/
def AsciiClass.set (kind : AsciiClass) : CharSet :=
  match kind with
  | .alnum => ⟨[(0x30, 0x39), (0x41, 0x5A), (0x61, 0x7A)]⟩
  | .alpha => ⟨[(0x41, 0x5A), (0x61, 0x7A)]⟩
  | .ascii => ⟨[(0x00, 0x7F)]⟩
  | .blank => ⟨[(0x09, 0x09), (0x20, 0x20)]⟩
  | .cntrl => ⟨[(0x00, 0x1F), (0x7F, 0x7F)]⟩
  | .digit => ⟨[(0x30, 0x39)]⟩
  | .graph => ⟨[(0x21, 0x7E)]⟩
  | .lower => ⟨[(0x61, 0x7A)]⟩
  | .print => ⟨[(0x20, 0x7E)]⟩
  | .punct => ⟨[(0x21, 0x2F), (0x3A, 0x40), (0x5B, 0x60), (0x7B, 0x7E)]⟩
  | .space => ⟨[(0x09, 0x0D), (0x20, 0x20)]⟩
  | .upper => ⟨[(0x41, 0x5A)]⟩
  | .word => ⟨[(0x30, 0x39), (0x41, 0x5A), (0x5F, 0x5F), (0x61, 0x7A)]⟩
  | .xdigit => ⟨[(0x30, 0x39), (0x41, 0x46), (0x61, 0x66)]⟩

/-- The class of an escape, over all characters or over ASCII. -/
def NamedClass.set (unicode : Bool) (kind : NamedClass) : CharSet :=
  match kind, unicode with
  | .digit, true => Unicode.digit
  | .space, true => Unicode.whiteSpace
  | .word, true => Unicode.word
  | .digit, false => AsciiClass.digit.set
  | .space, false => AsciiClass.space.set
  | .word, false => AsciiClass.word.set

/-- The class a property names. -/
def Property.set? : Property → Option CharSet
  | .bare name => Unicode.classOfName? name
  | .valued name value _ => Unicode.classOfValue? name value

/-- Whether a property is meant by its opposite. -/
def Property.isOpposite : Property → Bool
  | .bare _ => false
  | .valued _ _ equal => !equal

/-- A class together with all the characters that differ from one of it in
case only, where case is ignored. -/
def folded (f : Flags) (set : CharSet) : CharSet :=
  if f.insensitive then
    if f.unicode then set.closeCase else set.closeAsciiCase
  else set

/-- A class or its complement. Where only ASCII is allowed there are no
complements. -/
def complemented (f : Flags) (negated : Bool) (set : CharSet) : Option CharSet :=
  if negated then
    if f.unicode then some set.compl else none
  else some set

/-- An operation on two classes. -/
def SetOp.apply (op : SetOp) (left right : CharSet) : CharSet :=
  match op with
  | .intersection => left ∩ right
  | .difference => left \ right
  | .symmetricDifference => left.symmDiff right

namespace SetExpr

mutual

/-- The class a set describes. -/
def resolve (f : Flags) : SetExpr → Option CharSet
  | empty => some .empty
  | char d => if f.unicode || isAscii d then some (.single d) else none
  | range low high =>
    if f.unicode || (isAscii low && isAscii high) then some (.range low high) else none
  | ascii negated kind => complemented f negated (folded f kind.set)
  | named negated kind => complemented f negated (kind.set f.unicode)
  | property negated which =>
    if f.unicode then
      which.set?.bind fun set => complemented f (negated != which.isOpposite) (folded f set)
    else none
  | union items => resolveAll f .empty items
  | bracket negated body =>
    (body.resolve f).bind fun set => complemented f negated (folded f (.empty ∪ set))
  | combine op left right =>
    match left.resolve f, right.resolve f with
    | some l, some r => some (op.apply (folded f (.empty ∪ l)) (folded f (.empty ∪ r)))
    | _, _ => none

/-- The union of a class and those of some sets. -/
def resolveAll (f : Flags) (acc : CharSet) : List SetExpr → Option CharSet
  | [] => some acc
  | e :: es =>
    match e.resolve f with
    | some set => resolveAll f (acc ∪ set) es
    | none => none

end

end SetExpr

/-! ## Expressions -/

/-- The test an assertion stands for. -/
def Assertion.look (f : Flags) : Assertion → Look
  | lineStart => if f.multiLine then if f.crlf then .crlfLineStart else .lineStart else .textStart
  | lineEnd => if f.multiLine then if f.crlf then .crlfLineEnd else .lineEnd else .textEnd
  | textStart => .textStart
  | textEnd => .textEnd
  | wordBoundary => .boundary (NamedClass.word.set f.unicode)
  | notWordBoundary => .notBoundary (NamedClass.word.set f.unicode)
  | wordStart => .wordStart (NamedClass.word.set f.unicode)
  | wordEnd => .wordEnd (NamedClass.word.set f.unicode)
  | wordStartHalf => .wordStartHalf (NamedClass.word.set f.unicode)
  | wordEndHalf => .wordEndHalf (NamedClass.word.set f.unicode)

/-- What the dot matches: any character, or any that ends no line. Where
only ASCII is allowed there is no dot. -/
def dotSet (f : Flags) : Option CharSet :=
  if !f.unicode then none
  else if f.dotAll then some .all
  else if f.crlf then some (CharSet.compl ⟨[(0x0A, 0x0A), (0x0D, 0x0D)]⟩)
  else some (CharSet.single '\n').compl

namespace Expr

mutual

/-- The regular expression of a pattern under some flags, and the flags in
force after it. -/
def resolve (f : Flags) : Expr → Option (Regex × Flags)
  | empty => some (.empty, f)
  | flags setting => some (.empty, f.apply setting)
  | literal c twoDigits =>
    if twoDigits && !f.unicode && !isAscii c then none
    else some (.chars (!f.unicode) (folded f (.single c)), f)
  | dot => (dotSet f).map fun set => (.chars false set, f)
  | assertion kind => some (.look (kind.look f), f)
  | set body => (body.resolve f).map fun set => (.chars (!f.unicode) set, f)
  | repetition greedy min max body =>
    (body.resolve f).map fun (r, g) => (.repetition (greedy != g.swapGreed) min max r, g)
  | group captures setting body =>
    (body.resolve (f.apply setting)).map fun (r, _) => (if captures then .capture r else r, f)
  | alternation branches => (resolveBranches f branches).map fun (rs, g) => (.choice rs, g)
  | concat items => resolveItems f items

/-- Expressions one after another. -/
def resolveItems (f : Flags) : List Expr → Option (Regex × Flags)
  | [] => some (.empty, f)
  | e :: es =>
    match e.resolve f with
    | none => none
    | some (r, g) =>
      match resolveItems g es with
      | none => none
      | some (s, h) => some (.seq r s, h)

/-- Expressions of which one is chosen. -/
def resolveBranches (f : Flags) : List Expr → Option (List Regex × Flags)
  | [] => some ([], f)
  | e :: es =>
    match e.resolve f with
    | none => none
    | some (r, g) =>
      match resolveBranches g es with
      | none => none
      | some (rs, h) => some (r :: rs, h)

end

end Expr

end Pattern
end Scenario
