import PortalNat.Json.Basic

/-!
# Writing JSON

A JSON value laid out over lines: every element and member on its own line, two spaces deeper than
what holds it, and empty arrays and objects closed at once.
-/

namespace PortalNat.Json

/-- A code point as the four hexadecimal digits of an escape. -/
def fourDigits (code : Nat) : String :=
  let digits := Nat.toDigits 16 code
  "\\u" ++ String.ofList (List.replicate (4 - digits.length) '0' ++ digits)

/-- A code point as it stands inside quotes. -/
def escaped (code : Nat) : String :=
  if code = 0x22 then "\\\""
  else if code = 0x5c then "\\\\"
  else if code = 0x08 then "\\b"
  else if code = 0x0c then "\\f"
  else if code = 0x0a then "\\n"
  else if code = 0x0d then "\\r"
  else if code = 0x09 then "\\t"
  else if code < 0x20 ∨ ¬code.isValidChar then fourDigits code
  else (Char.ofNat code).toString

def quote (codes : List Nat) : String :=
  "\"" ++ String.join (codes.map escaped) ++ "\""

/-- The start of a line at a depth. -/
def newLine (depth : Nat) : String :=
  "\n" ++ String.ofList (List.replicate (2 * depth) ' ')

mutual

/-- A value whose own lines stand at a depth. -/
def layOut (depth : Nat) : Json → String
  | .null => "null"
  | .bool value => if value then "true" else "false"
  | .integer value => toString value
  | .fraction spelling => spelling
  | .string codes => quote codes
  | .array [] => "[]"
  | .array (first :: rest) =>
    "[" ++ newLine (depth + 1) ++ layOut (depth + 1) first ++ layOutElements (depth + 1) rest
      ++ newLine depth ++ "]"
  | .object [] => "\x7b\x7d"
  | .object ((name, first) :: rest) =>
    "\x7b" ++ newLine (depth + 1) ++ quote name ++ ": " ++ layOut (depth + 1) first
      ++ layOutMembers (depth + 1) rest ++ newLine depth ++ "\x7d"

/-- The elements after the first. -/
def layOutElements (depth : Nat) : List Json → String
  | [] => ""
  | element :: rest =>
    "," ++ newLine depth ++ layOut depth element ++ layOutElements depth rest

/-- The members after the first. -/
def layOutMembers (depth : Nat) : List (List Nat × Json) → String
  | [] => ""
  | (name, value) :: rest =>
    "," ++ newLine depth ++ quote name ++ ": " ++ layOut depth value
      ++ layOutMembers depth rest

end

/-- A value as text, without a line end after it. -/
def print (value : Json) : String :=
  layOut 0 value

end PortalNat.Json
