/-
Text without the blanks at its ends.
-/
import MongoMetrics.Unicode.Word

namespace MongoMetrics.Text

/-- The characters from the first to the last one that is not blank. -/
def trimChars (s : List Char) : List Char :=
  ((s.dropWhile Unicode.isBlank).reverse.dropWhile Unicode.isBlank).reverse

def trim (s : String) : String := String.ofList (trimChars s.toList)

end MongoMetrics.Text
