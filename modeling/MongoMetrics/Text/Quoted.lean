/-
Quoted text. The quote, the backslash, line ends, tabs and the zero character have escapes of two
characters; any other character without a visible form of its own is written by its hexadecimal
number in braces; all else stands as it is.
-/
import MongoMetrics.Unicode.Display

namespace MongoMetrics.Text

/-- Lower-case hexadecimal digits without leading zeros. -/
def hexText (n : Nat) : String := String.ofList (Nat.toDigits 16 n)

/-- One character inside quotes. -/
def quoteChar (c : Char) : String :=
  match c with
  | '\x00' => "\\0"
  | '\t' => "\\t"
  | '\r' => "\\r"
  | '\n' => "\\n"
  | '\\' => "\\\\"
  | '"' => "\\\""
  | c => if Unicode.isVisible c then c.toString else "\\u\x7b" ++ hexText c.toNat ++ "\x7d"

/-- The text between double quotes, with escapes. -/
def quoted (s : String) : String := "\"" ++ String.join (s.toList.map quoteChar) ++ "\""

end MongoMetrics.Text
