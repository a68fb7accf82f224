import EventFields.Text.Hexadecimal
import EventFields.Text.Printable

/-!
# Quoted text in messages

A text is quoted between double quotes. Quotes, backslashes and characters that
cannot be seen are escaped, the latter by their code point.
-/

namespace EventFields.Text

/-- A character as it stands between quotes. -/
def quotedCharacter (c : Char) : String :=
  if c = '\x00' then "\\0"
  else if c = '\t' then "\\t"
  else if c = '\r' then "\\r"
  else if c = '\n' then "\\n"
  else if c = '"' then "\\\""
  else if c = '\\' then "\\\\"
  else if isPrintable c then String.singleton c
  else "\\u\x7b" ++ hexadecimal c.toNat ++ "\x7d"

/-- A text between double quotes. -/
def quoted (text : String) : String :=
  "\"" ++ String.join (text.toList.map quotedCharacter) ++ "\""

end EventFields.Text
