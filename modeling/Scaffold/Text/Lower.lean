/-!
# Lower case

Words that settings are spelled with are compared in lower case. They hold the letters `a` to `z`
only, so only those letters are mapped.
-/

namespace Scaffold.Text

/-- The text with the letters `A` to `Z` in lower case. -/
def lowerAscii (s : String) : String :=
  String.ofList (s.toList.map Char.toLower)

theorem toList_lowerAscii (s : String) : (lowerAscii s).toList = s.toList.map Char.toLower := by
  simp [lowerAscii]

end Scaffold.Text
