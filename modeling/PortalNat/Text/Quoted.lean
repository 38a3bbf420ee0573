import PortalNat.Text.Combining
import PortalNat.Text.Printable

/-!
# Quoted text

How a name is quoted in a message, so that the reader can tell every character of it: quotes,
backslashes and the common controls have short escapes, and whatever does not show, or would merge
with the character before it, is given by its number.
-/

namespace PortalNat.Text

/-- A character by its number. -/
def numbered (c : Char) : String :=
  "\\u\x7b" ++ String.ofList (Nat.toDigits 16 c.toNat) ++ "\x7d"

/-- A character as it stands inside quotes. An apostrophe stands for itself. -/
def quotedChar (c : Char) : String :=
  if c = '\x00' then "\\0"
  else if c = '\t' then "\\t"
  else if c = '\r' then "\\r"
  else if c = '\n' then "\\n"
  else if c = '\\' then "\\\\"
  else if c = '"' then "\\\""
  else if isCombining c ∨ !isPrintable c then numbered c
  else c.toString

/-- A name in quotes. -/
def quoted (name : String) : String :=
  "\"" ++ String.join (name.toList.map quotedChar) ++ "\""

end PortalNat.Text
