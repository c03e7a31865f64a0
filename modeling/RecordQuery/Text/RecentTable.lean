import RecordQuery.Text.CaseTable
import RecordQuery.Text.CharSet

/-!
# Recent characters

What the latest version of the character set added to the other tables.  The case of texts and the
names of groups follow the latest version, regular expressions the one before it.
-/

namespace RecordQuery.Text

/-- Recent code points with a lower-case form. -/
def recentLowerRuns : List CaseRun := [
   ⟨42958, 42958, 1, 1⟩, ⟨42962, 42964, 2, 1⟩, ⟨93856, 93880, 1, 27⟩]

/-- Recent upper-case forms. -/
def recentUpperRuns : List CaseRun := [
   ⟨42959, 42959, 1, -1⟩, ⟨42963, 42965, 2, -1⟩, ⟨93883, 93907, 1, -27⟩]

/-- Recent characters that have case. -/
def recentCased : CodeRanges := CodeRanges.ofHex [
   "A7CE-A7CF A7D2 A7D4 A7F1 16EA0-16EB8 16EBB-16ED3"]

/-- Recent characters that are passed over when the neighbours of a letter are looked at. -/
def recentCaseIgnorable : CodeRanges := CodeRanges.ofHex [
   "1ACF-1ADD 1AE0-1AEB A7F1 10EC5 10EFA-10EFB 11B60 11B62-11B64 11B66 11DD9 16FF2-16FF3",
   "1E6E3 1E6E6 1E6EE-1E6EF 1E6F5 1E6FF"]

/-- Recent alphabetic characters. -/
def recentAlphabetic : CodeRanges := CodeRanges.ofHex [
   "88F C5C CDC A7CE-A7CF A7D2 A7D4 A7F1 10940-10959 10EC5-10EC7 10EFA-10EFB 11B60-11B67",
   "11DB0-11DDB 16EA0-16EB8 16EBB-16ED3 16FF2-16FF6 187F8-187FF 18D09-18D1E 18D80-18DF2",
   "1E6C0-1E6DE 1E6E0-1E6F5 1E6FE-1E6FF 2B73A-2B73F 2CEA2-2CEAD 323B0-33479"]

/-- Recent characters that are numbers. -/
def recentNumeric : CodeRanges := [
   (0x11DE0, 0x11DE9), (0x16FF4, 0x16FF6)]

end RecordQuery.Text
