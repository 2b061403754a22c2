/-!
# Pattern libraries — regular expressions as matchers use them

Patterns are compiled by a library, and the tests it makes of them are put to
texts. Matchers use nothing else of it, so what is said of them holds with any
library.

A library looks for a match anywhere in a text. For one of the whole text the
pattern becomes a group between two anchors, and what is compiled is the text of
all that (`anchored`).
-/

namespace Scenario

/-- **A library of regular expressions.** -/
class PatternLibrary where
  /-- The test of a pattern, whether it matches some part of a text; or what keeps the
  pattern from being compiled, in the words of the library. -/
  compile (pattern : String) : Except String (List Char → Bool)

namespace PatternLibrary

/-- The text of a pattern as a group between the anchors. -/
def anchored (pattern : String) : String := "^(?:" ++ pattern ++ ")$"

/-- The test that is made of a pattern for a whole text. -/
def compileWhole [PatternLibrary] (pattern : String) : Except String (List Char → Bool) :=
  compile (anchored pattern)

end PatternLibrary
end Scenario
