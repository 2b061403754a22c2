import Scenario.Unicode.Range

/-!
# Recent characters — those that the other tables do not have yet

Names and texts in lower case admit a few more characters than the classes
of patterns do: those of the next version of the standard. The tables here
list them by what names and lower case ask of a character.
-/

namespace Scenario
namespace Unicode
namespace Recent

/-- Recent alphabetic characters. -/
def alphabetic : Ranges :=
  [(0x88F, 0x88F), (0xC5C, 0xC5C), (0xCDC, 0xCDC), (0xA7CE, 0xA7CF), (0xA7D2, 0xA7D2),
   (0xA7D4, 0xA7D4), (0xA7F1, 0xA7F1), (0x10940, 0x10959), (0x10EC5, 0x10EC7), (0x10EFA, 0x10EFB),
   (0x11B60, 0x11B67), (0x11DB0, 0x11DDB), (0x16EA0, 0x16EB8), (0x16EBB, 0x16ED3),
   (0x16FF2, 0x16FF6), (0x187F8, 0x187FF), (0x18D09, 0x18D1E), (0x18D80, 0x18DF2),
   (0x1E6C0, 0x1E6DE), (0x1E6E0, 0x1E6F5), (0x1E6FE, 0x1E6FF), (0x2B73A, 0x2B73F),
   (0x2CEA2, 0x2CEAD), (0x323B0, 0x33479)]

/-- Recent numbers. -/
def number : Ranges :=
  [(0x11DE0, 0x11DE9), (0x16FF4, 0x16FF6)]

/-- Recent characters with a case. -/
def cased : Ranges :=
  [(0xA7CE, 0xA7CF), (0xA7D2, 0xA7D2), (0xA7D4, 0xA7D4), (0xA7F1, 0xA7F1), (0x16EA0, 0x16EB8),
   (0x16EBB, 0x16ED3)]

/-- Recent characters that case rules pass over. -/
def caseIgnorable : Ranges :=
  [(0x1ACF, 0x1ADD), (0x1AE0, 0x1AEB), (0xA7F1, 0xA7F1), (0x10EC5, 0x10EC5), (0x10EFA, 0x10EFB),
   (0x11B60, 0x11B60), (0x11B62, 0x11B64), (0x11B66, 0x11B66), (0x11DD9, 0x11DD9),
   (0x16FF2, 0x16FF3), (0x1E6E3, 0x1E6E3), (0x1E6E6, 0x1E6E6), (0x1E6EE, 0x1E6EF),
   (0x1E6F5, 0x1E6F5), (0x1E6FF, 0x1E6FF)]

end Recent
end Unicode
end Scenario
