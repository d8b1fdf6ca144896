import CMakeGrammar.Text.WordChar
import CMakeGrammar.Text.Occurrence
/-! The version in what `cmake --version` prints: three numbers separated by dots after
`cmake version `, where that first stands complete. -/
namespace CMakeGrammar.Help

def versionLead : List Char := "cmake version ".toList

def number? (cs : List Char) : Option (List Char × List Char) :=
  let digits := cs.takeWhile Text.isDecimalDigit
  if digits.isEmpty then none else some (digits, cs.drop digits.length)

def versionNumber? (cs : List Char) : Option (List Char) := do
  let (major, rest) ← number? cs
  let (minor, rest) ← number? (← Text.after? ['.'] rest)
  let (patch, _) ← number? (← Text.after? ['.'] rest)
  return major ++ '.' :: minor ++ '.' :: patch

def versionAt? (cs : List Char) : Option (List Char) :=
  (Text.after? versionLead cs).bind versionNumber?

def version? (output : String) : Option String :=
  (Text.firstWhere versionAt? output.toList).map String.ofList

end CMakeGrammar.Help
