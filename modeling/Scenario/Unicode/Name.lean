import Scenario.Unicode.Age
import Scenario.Unicode.Boundary
import Scenario.Unicode.ScriptExtensions

/-!
# Names of character classes — the look-up

Classes are found by loose names: case, spaces, hyphens and underscores do
not count, and neither does a leading "is". A bare name is a property, a
general category or a script, in this order; a name with a value is a
general category, a script, an age or a class of boundaries by its full
designation.
-/

namespace Scenario
namespace Unicode

/-- A name in loose form: in lower case, without spaces, hyphens,
underscores and characters beyond ASCII, and without a leading "is". The
name "isc" stands for itself. -/
def looseName (name : List Char) : String :=
  let (bare, stripped) :=
    match name with
    | i :: s :: rest =>
      if i.toLower = 'i' ∧ s.toLower = 's' then (rest, true) else (name, false)
    | _ => (name, false)
  let kept := (bare.filter fun c =>
    c.toNat < 128 && c != ' ' && c != '_' && c != '-').map Char.toLower
  if stripped && kept == ['c'] then "isc" else .ofList kept

/-- Things by their loose names. -/
abbrev Register := List (List String × CharSet)

/-- The general categories and their groups. -/
def categories : Register :=
  [(["any"], .all),
   (["assigned"], assigned),
   (["ascii"], .range '\x00' '\x7f'),
   (["lu", "uppercaseletter"], ⟨Category.uppercaseLetter⟩),
   (["ll", "lowercaseletter"], ⟨Category.lowercaseLetter⟩),
   (["lt", "titlecaseletter"], ⟨Category.titlecaseLetter⟩),
   (["lc", "casedletter"], casedLetter),
   (["lm", "modifierletter"], ⟨Category.modifierLetter⟩),
   (["lo", "otherletter"], ⟨Category.otherLetter⟩),
   (["l", "letter"], letter),
   (["mn", "nonspacingmark"], ⟨Category.nonspacingMark⟩),
   (["mc", "spacingmark"], ⟨Category.spacingMark⟩),
   (["me", "enclosingmark"], ⟨Category.enclosingMark⟩),
   (["m", "mark", "combiningmark"], mark),
   (["nd", "decimalnumber", "digit"], digit),
   (["nl", "letternumber"], ⟨Category.letterNumber⟩),
   (["no", "othernumber"], ⟨Category.otherNumber⟩),
   (["n", "number"], number),
   (["pc", "connectorpunctuation"], ⟨Category.connectorPunctuation⟩),
   (["pd", "dashpunctuation"], ⟨Category.dashPunctuation⟩),
   (["ps", "openpunctuation"], ⟨Category.openPunctuation⟩),
   (["pe", "closepunctuation"], ⟨Category.closePunctuation⟩),
   (["pi", "initialpunctuation"], ⟨Category.initialPunctuation⟩),
   (["pf", "finalpunctuation"], ⟨Category.finalPunctuation⟩),
   (["po", "otherpunctuation"], ⟨Category.otherPunctuation⟩),
   (["p", "punctuation", "punct"], punctuation),
   (["sm", "mathsymbol"], ⟨Category.mathSymbol⟩),
   (["sc", "currencysymbol"], ⟨Category.currencySymbol⟩),
   (["sk", "modifiersymbol"], ⟨Category.modifierSymbol⟩),
   (["so", "othersymbol"], ⟨Category.otherSymbol⟩),
   (["s", "symbol"], symbol),
   (["zs", "spaceseparator"], ⟨Category.spaceSeparator⟩),
   (["zl", "lineseparator"], ⟨Category.lineSeparator⟩),
   (["zp", "paragraphseparator"], ⟨Category.paragraphSeparator⟩),
   (["z", "separator"], separator),
   (["cc", "control", "cntrl"], ⟨Category.control⟩),
   (["cf", "format"], ⟨Category.format⟩),
   (["co", "privateuse"], ⟨Category.privateUse⟩),
   (["cn", "unassigned"], unassigned),
   (["c", "other"], other)]

/-- The properties. -/
def properties : Register :=
  [(["alphabetic", "alpha"], alphabetic),
   (["asciihexdigit", "ahex"], ⟨Listed.asciiHexDigit⟩),
   (["bidicontrol", "bidic"], ⟨Listed.bidiControl⟩),
   (["bidimirrored", "bidim"], ⟨Listed.bidiMirrored⟩),
   (["cased"], cased),
   (["caseignorable", "ci"], caseIgnorable),
   (["changeswhencasefolded", "cwcf"], ⟨Listed.changesWhenCasefolded⟩),
   (["changeswhencasemapped", "cwcm"], changesWhenCasemapped),
   (["changeswhenlowercased", "cwl"], changesWhenLowercased),
   (["changeswhentitlecased", "cwt"], ⟨Listed.changesWhenTitlecased⟩),
   (["changeswhenuppercased", "cwu"], ⟨Listed.changesWhenUppercased⟩),
   (["dash"], ⟨Listed.dash⟩),
   (["defaultignorablecodepoint", "di"], ⟨Listed.defaultIgnorable⟩),
   (["deprecated", "dep"], ⟨Listed.deprecatedCharacter⟩),
   (["diacritic", "dia"], ⟨Listed.diacritic⟩),
   (["emoji"], ⟨Listed.emoji⟩),
   (["emojicomponent", "ecomp"], ⟨Listed.emojiComponent⟩),
   (["emojimodifier", "emod"], ⟨Listed.emojiModifier⟩),
   (["emojimodifierbase", "ebase"], ⟨Listed.emojiModifierBase⟩),
   (["emojipresentation", "epres"], ⟨Listed.emojiPresentation⟩),
   (["extendedpictographic", "extpict"], ⟨Listed.extendedPictographic⟩),
   (["extender", "ext"], ⟨Listed.extender⟩),
   (["graphemebase", "grbase"], graphemeBase),
   (["graphemeextend", "grext"], graphemeExtend),
   (["graphemelink", "grlink"], ⟨Listed.graphemeLink⟩),
   (["hexdigit", "hex"], ⟨Listed.hexDigit⟩),
   (["hyphen"], ⟨Listed.hyphen⟩),
   (["idcompatmathcontinue"], ⟨Listed.idCompatMathContinue⟩),
   (["idcompatmathstart"], ⟨Listed.idCompatMathStart⟩),
   (["idcontinue", "idc"], idContinue),
   (["idstart", "ids"], idStart),
   (["idsbinaryoperator", "idsb"], ⟨Listed.idsBinaryOperator⟩),
   (["idstrinaryoperator", "idst"], ⟨Listed.idsTrinaryOperator⟩),
   (["idsunaryoperator", "idsu"], ⟨Listed.idsUnaryOperator⟩),
   (["ideographic", "ideo"], ⟨Listed.ideographic⟩),
   (["joincontrol", "joinc"], ⟨Listed.joinControl⟩),
   (["logicalorderexception", "loe"], ⟨Listed.logicalOrderException⟩),
   (["lowercase", "lower"], lowercase),
   (["math"], math),
   (["modifiercombiningmark", "mcm"], ⟨Listed.modifierCombiningMark⟩),
   (["noncharactercodepoint", "nchar"], ⟨Listed.noncharacter⟩),
   (["otheralphabetic", "oalpha"], ⟨Listed.otherAlphabetic⟩),
   (["otherdefaultignorablecodepoint", "odi"], ⟨Listed.otherDefaultIgnorable⟩),
   (["othergraphemeextend", "ogrext"], ⟨Listed.otherGraphemeExtend⟩),
   (["otheridcontinue", "oidc"], ⟨Listed.otherIdContinue⟩),
   (["otheridstart", "oids"], ⟨Listed.otherIdStart⟩),
   (["otherlowercase", "olower"], ⟨Listed.otherLowercase⟩),
   (["othermath", "omath"], ⟨Listed.otherMath⟩),
   (["otheruppercase", "oupper"], ⟨Listed.otherUppercase⟩),
   (["patternsyntax", "patsyn"], ⟨Listed.patternSyntax⟩),
   (["patternwhitespace", "patws"], ⟨Listed.patternWhiteSpace⟩),
   (["prependedconcatenationmark", "pcm"], ⟨Listed.prependedConcatenationMark⟩),
   (["quotationmark", "qmark"], ⟨Listed.quotationMark⟩),
   (["radical"], ⟨Listed.radical⟩),
   (["regionalindicator", "ri"], ⟨Listed.regionalIndicator⟩),
   (["sentenceterminal", "sterm"], ⟨Listed.sentenceTerminal⟩),
   (["softdotted", "sd"], ⟨Listed.softDotted⟩),
   (["terminalpunctuation", "term"], ⟨Listed.terminalPunctuation⟩),
   (["unifiedideograph", "uideo"], ⟨Listed.unifiedIdeograph⟩),
   (["uppercase", "upper"], uppercase),
   (["variationselector", "vs"], ⟨Listed.variationSelector⟩),
   (["whitespace", "wspace", "space"], whiteSpace),
   (["xidcontinue", "xidc"], stableIdContinue),
   (["xidstart", "xids"], stableIdStart)]

/-- The entry of a register. -/
def named? (register : Register) (name : String) : Option CharSet :=
  (register.find? fun entry => entry.1.contains name).map (·.2)

/-- The script of a loose name. -/
def script? (name : String) : Option Script := Script.all.find? fun s => s.names.contains name

/-- Whether a script is one of those whose four-letter names a row of shared
characters gives. -/
def Script.isAmong (s : Script) (names : String) : Bool :=
  (names.toList.splitOnP (· == ' ')).any fun name => s.names.contains (.ofList name)

/-- The characters a script uses: its own, except those that only others
use, and the shared ones that it uses too. -/
def Script.used (s : Script) : CharSet :=
  let rows := Script.extensions
  (⟨s.ranges⟩ \ ⟨rows.map fun (low, high, _) => (low, high)⟩) ∪
  .ofRanges ((rows.filter fun (_, _, names) => s.isAmong names).map fun (low, high, _) =>
    (low, high))

/-- The characters of a version and all before it. -/
def age? (name : String) : Option CharSet :=
  match Age.versions.findIdx? fun version => version.1.contains name with
  | some i => some (.ofTables ((Age.versions.take (i + 1)).map (·.2)))
  | none => none

/-- The class a bare name stands for. -/
def classOfName? (name : List Char) : Option CharSet :=
  let key := looseName name
  (named? properties key <|> named? categories key) <|> (script? key).map fun s => ⟨s.ranges⟩

/-- The class a name with a value stands for. -/
def classOfValue? (name value : List Char) : Option CharSet :=
  let key := looseName value
  match looseName name with
  | "gc" | "generalcategory" => named? categories key
  | "sc" | "script" => (script? key).map fun s => ⟨s.ranges⟩
  | "scx" | "scriptextensions" => (script? key).map Script.used
  | "age" => age? key
  | "gcb" | "graphemeclusterbreak" => named? Boundary.graphemeClasses key
  | "wb" | "wordbreak" => named? Boundary.wordClasses key
  | "sb" | "sentencebreak" => named? Boundary.sentenceClasses key
  | _ => none

end Unicode
end Scenario
