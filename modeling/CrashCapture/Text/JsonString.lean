import CrashCapture.Text.Digits

/-! Text as a string in a data format for machines: between quotes, with quotes, backslashes
and control characters escaped.
-/

namespace CrashCapture.Text

/-- A character as it stands in such a string. -/
def jsonCharacter (c : Char) : String :=
  match c with
  | '"' => "\\\""
  | '\\' => "\\\\"
  | '\n' => "\\n"
  | '\r' => "\\r"
  | '\t' => "\\t"
  | '\x08' => "\\b"
  | '\x0c' => "\\f"
  | c => if c.toNat < 0x20 then "\\u" ++ Digits.hexPadded 4 c.toNat else String.singleton c

def jsonString (text : String) : String :=
  "\"" ++ String.join (text.toList.map jsonCharacter) ++ "\""

end CrashCapture.Text
