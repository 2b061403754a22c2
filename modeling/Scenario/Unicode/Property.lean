import Scenario.Unicode.CharSet
import Scenario.Unicode.Category
import Scenario.Unicode.Listed
import Scenario.Unicode.Recent
import Scenario.Text.Blank

/-!
# Character properties — sets composed from the tables

Letters, marks and the other groups of general categories, the properties
derived from them, and the classes of digits and of the characters of words.
Where a property is a table, it is in `Scenario.Unicode.Listed`; the look-up
by name is in `Scenario.Unicode.Name`.

Names and texts in lower case go by the same properties, with the recent
characters besides: `isAlphabetic`, `isAlphanumeric`, `isCased` and
`isCaseIgnorable`.
-/

namespace Scenario
namespace Unicode

/-! ## Groups of general categories -/

/-- The letters with a case: upper, lower or title. -/
def casedLetter : CharSet :=
  .ofTables [Category.uppercaseLetter, Category.lowercaseLetter, Category.titlecaseLetter]

/-- The letters of any kind. -/
def letter : CharSet :=
  .ofTables [Category.lowercaseLetter, Category.uppercaseLetter, Category.titlecaseLetter,
    Category.modifierLetter, Category.otherLetter]

/-- The marks of any kind. -/
def mark : CharSet :=
  .ofTables [Category.nonspacingMark, Category.spacingMark, Category.enclosingMark]

/-- The numbers of any kind. -/
def number : CharSet :=
  .ofTables [Category.decimalNumber, Category.letterNumber, Category.otherNumber]

/-- The punctuation of any kind. -/
def punctuation : CharSet :=
  .ofTables [Category.connectorPunctuation, Category.dashPunctuation, Category.openPunctuation,
    Category.closePunctuation, Category.initialPunctuation, Category.finalPunctuation,
    Category.otherPunctuation]

/-- The symbols of any kind. -/
def symbol : CharSet :=
  .ofTables [Category.mathSymbol, Category.currencySymbol, Category.modifierSymbol,
    Category.otherSymbol]

/-- The separators of any kind. -/
def separator : CharSet :=
  .ofTables [Category.spaceSeparator, Category.lineSeparator, Category.paragraphSeparator]

/-- The characters with a general category. -/
def assigned : CharSet :=
  letter ∪ mark ∪ number ∪ punctuation ∪ symbol ∪ separator ∪
  .ofTables [Category.control, Category.format, Category.privateUse]

/-- The characters without a general category. -/
def unassigned : CharSet := assigned.compl

/-- Control and format characters, those for private use, and those without
a category. -/
def other : CharSet :=
  .ofTables [Category.control, Category.format, Category.privateUse] ∪ unassigned

/-! ## Derived properties -/

/-- Lowercase characters: lowercase letters, and those listed as such. -/
def lowercase : CharSet := .ofTables [Category.lowercaseLetter, Listed.otherLowercase]

/-- Uppercase characters: uppercase letters, and those listed as such. -/
def uppercase : CharSet := .ofTables [Category.uppercaseLetter, Listed.otherUppercase]

/-- Characters with a case. -/
def cased : CharSet := lowercase ∪ uppercase ∪ .ofTables [Category.titlecaseLetter]

/-- Characters that case rules pass over. -/
def caseIgnorable : CharSet :=
  .ofTables [Category.nonspacingMark, Category.enclosingMark, Category.format,
    Category.modifierLetter, Category.modifierSymbol, Listed.otherCaseIgnorable]

/-- Alphabetic characters: letters, numbers that are letters, and those
listed as such. -/
def alphabetic : CharSet :=
  letter ∪ .ofTables [Category.letterNumber, Listed.otherAlphabetic]

/-- Mathematical characters: mathematical symbols, and those listed as
such. -/
def math : CharSet := .ofTables [Category.mathSymbol, Listed.otherMath]

/-- Characters with a meaning in the grammar of patterns. -/
def patternCharacter : CharSet :=
  .ofTables [Listed.patternSyntax, Listed.patternWhiteSpace]

/-- Characters an identifier may start with. -/
def idStart : CharSet :=
  (letter ∪ .ofTables [Category.letterNumber]) \ patternCharacter ∪ .ofTables [Listed.otherIdStart]

/-- Characters an identifier may go on with. -/
def idContinue : CharSet :=
  idStart ∪ .ofTables [Listed.otherIdContinue] ∪
  .ofTables [Category.nonspacingMark, Category.spacingMark, Category.decimalNumber,
    Category.connectorPunctuation] \ patternCharacter

/-- Characters an identifier may start with in every normal form. -/
def stableIdStart : CharSet := idStart \ ⟨Listed.unstableIdStart⟩

/-- Characters an identifier may go on with in every normal form. -/
def stableIdContinue : CharSet := idContinue \ ⟨Listed.unstableIdContinue⟩

/-- Characters that extend the grapheme before them. -/
def graphemeExtend : CharSet :=
  .ofTables [Category.nonspacingMark, Category.enclosingMark, Listed.otherGraphemeExtend]

/-- Characters that can be the base of a grapheme. -/
def graphemeBase : CharSet :=
  (assigned \ graphemeExtend) \
  .ofTables [Category.control, Category.format, Category.privateUse, Category.lineSeparator,
    Category.paragraphSeparator]

/-- Assigned characters that are not their own lowercase form. -/
def changesWhenLowercased : CharSet :=
  .ofRanges (lowerCase.flatMap fun run =>
    (List.range ((run.last - run.first) / run.stride + 1)).map fun k =>
      (run.first + k * run.stride, run.first + k * run.stride)) ∩ assigned

/-- Characters that a change of case changes. -/
def changesWhenCasemapped : CharSet :=
  changesWhenLowercased ∪ .ofTables [Listed.changesWhenTitlecased, Listed.changesWhenUppercased]

/-- The characters of words: alphabetic ones, marks, digits, connectors and
joiners. -/
def word : CharSet :=
  alphabetic ∪ mark ∪
  .ofTables [Category.decimalNumber, Category.connectorPunctuation, Listed.joinControl]

/-- The decimal digits of any script. -/
def digit : CharSet := ⟨Category.decimalNumber⟩

/-- The blank characters. -/
def whiteSpace : CharSet := ⟨Listed.whiteSpace⟩

/-- The blank characters are those that trimming removes. -/
theorem contains_whiteSpace (c : Char) : whiteSpace.contains c = Text.isBlank c := by
  simp only [CharSet.contains, whiteSpace, Listed.whiteSpace, within, inRanges, Text.isBlank]
  generalize c.toNat = n
  rw [Bool.eq_iff_iff]
  simp only [Bool.or_eq_true, Bool.and_eq_true, decide_eq_true_eq, beq_iff_eq]
  repeat' split
  all_goals simp only [decide_eq_true_eq, Bool.false_eq_true, false_iff]
  all_goals omega

/-! ## Names and lower case -/

/-- Whether a character is alphabetic. -/
def isAlphabetic (c : Char) : Bool := alphabetic.contains c || within Recent.alphabetic c

/-- Whether a character is alphabetic or a number. -/
def isAlphanumeric (c : Char) : Bool :=
  isAlphabetic c || number.contains c || within Recent.number c

/-- Whether a character has a case, as lower case goes; the reversed glottal
stop has none there. -/
def isCased (c : Char) : Bool := c != 'ʕ' && (cased.contains c || within Recent.cased c)

/-- Whether case rules pass over a character. -/
def isCaseIgnorable (c : Char) : Bool :=
  caseIgnorable.contains c || within Recent.caseIgnorable c

end Unicode
end Scenario
