import PortalNat.Json.Basic

/-!
# Reading JSON

The grammar of JSON, read strictly: no comments, no commas before a closing bracket, no leading
zeros, no control characters inside strings, and nothing but blanks around the one value.
-/

namespace PortalNat.Json

def isBlank (c : Char) : Bool :=
  c == ' ' || c == '\n' || c == '\t' || c == '\r'

def skipBlanks (text : List Char) : List Char :=
  text.dropWhile isBlank

/-- The character that a letter after a backslash stands for. -/
def shortEscape? : Char → Option Char
  | '"' => some '"'
  | '\\' => some '\\'
  | '/' => some '/'
  | 'b' => some '\x08'
  | 'f' => some '\x0c'
  | 'n' => some '\n'
  | 'r' => some '\r'
  | 't' => some '\t'
  | _ => none

/-- The number that hexadecimal digits spell. -/
def hexadecimal? (digits : List Char) : Option Nat :=
  (digits.mapM (digit? 16)).map (·.foldl (fun value digit => value * 16 + digit) 0)

/-- Read the rest of a string after its opening quote. -/
def readUnits : Reader (List Nat)
  | '"' :: rest => some ([], rest)
  | '\\' :: 'u' :: a :: b :: c :: d :: rest => do
    let unit ← hexadecimal? [a, b, c, d]
    let (units, rest) ← readUnits rest
    return (unit :: units, rest)
  | '\\' :: letter :: rest => do
    let c ← shortEscape? letter
    let (units, rest) ← readUnits rest
    return (c.toNat :: units, rest)
  | c :: rest => do
    guard (' ' ≤ c ∧ c ≠ '\\')
    let (units, rest) ← readUnits rest
    return (c.toNat :: units, rest)
  | [] => none

def isHighHalf (unit : Nat) : Bool :=
  0xd800 ≤ unit && unit < 0xdc00

def isLowHalf (unit : Nat) : Bool :=
  0xdc00 ≤ unit && unit < 0xe000

/-- Join the halves of surrogate pairs that stand side by side. -/
def joinHalves : List Nat → List Nat
  | high :: low :: rest =>
    if isHighHalf high && isLowHalf low then
      (0x10000 + (high - 0xd800) * 0x400 + (low - 0xdc00)) :: joinHalves rest
    else high :: joinHalves (low :: rest)
  | units => units

/-- Read the rest of a string after its opening quote, as code points. -/
def readCodes : Reader (List Nat) := fun text =>
  (readUnits text).map fun (units, rest) => (joinHalves units, rest)

/-- Read one digit or more. -/
def readDigits : Reader (List Char) := fun text =>
  let digits := text.takeWhile Char.isDigit
  if digits = [] then none else some (digits, text.dropWhile Char.isDigit)

/-- Read the sign of an exponent, if there is one. -/
def readSign : List Char → List Char × List Char
  | '+' :: rest => (['+'], rest)
  | '-' :: rest => (['-'], rest)
  | rest => ([], rest)

/-- Read the fraction of a number, if there is one, as it is spelled. -/
def readFraction : Reader (List Char)
  | '.' :: rest => (readDigits rest).map fun (digits, rest) => ('.' :: digits, rest)
  | rest => some ([], rest)

/-- Read the exponent of a number, if there is one, as it is spelled. -/
def readExponent : Reader (List Char)
  | mark :: rest =>
    if mark = 'e' ∨ mark = 'E' then do
      let (sign, rest) := readSign rest
      let (digits, rest) ← readDigits rest
      return (mark :: sign ++ digits, rest)
    else some ([], mark :: rest)
  | [] => some ([], [])

/-- Read a number. -/
def readNumber : Reader Json := fun text => do
  let (negative, unsigned) := match text with
    | '-' :: rest => (true, rest)
    | rest => (false, rest)
  let (digits, rest) ← readDigits unsigned
  guard (digits.head? ≠ some '0' ∨ digits.length = 1)
  let (decimals, rest) ← readFraction rest
  let (power, rest) ← readExponent rest
  let value : Nat := (digits.filterMap (digit? 10)).foldl (fun value digit => value * 10 + digit) 0
  let spelling := digits ++ decimals ++ power
  let json : Json :=
    if decimals ≠ [] ∨ power ≠ [] ∨ (negative ∧ value = 0) then
      .fraction (String.ofList (if negative then '-' :: spelling else spelling))
    else .integer (if negative then -value else value)
  return (json, rest)

mutual

/-- Read a value. The fuel bounds how many values and separators follow one another. -/
def readValue : (fuel : Nat) → Reader Json
  | 0, _ => none
  | fuel + 1, text =>
    match skipBlanks text with
    | '"' :: rest => (readCodes rest).map fun (codes, rest) => (.string codes, rest)
    | '[' :: rest =>
      match skipBlanks rest with
      | ']' :: rest => some (.array [], rest)
      | rest => (readElements fuel rest).map fun (elements, rest) => (.array elements, rest)
    | '\x7b' :: rest =>
      match skipBlanks rest with
      | '\x7d' :: rest => some (.object [], rest)
      | rest => (readMembers fuel rest).map fun (members, rest) => (.object members, rest)
    | 'n' :: rest => (Reader.word "ull" rest).map fun ((), rest) => (.null, rest)
    | 't' :: rest => (Reader.word "rue" rest).map fun ((), rest) => (.bool true, rest)
    | 'f' :: rest => (Reader.word "alse" rest).map fun ((), rest) => (.bool false, rest)
    | rest => readNumber rest

/-- Read the elements of an array up to its closing bracket. -/
def readElements : (fuel : Nat) → Reader (List Json)
  | 0, _ => none
  | fuel + 1, text => do
    let (element, rest) ← readValue fuel text
    match skipBlanks rest with
    | ',' :: rest =>
      let (elements, rest) ← readElements fuel rest
      return (element :: elements, rest)
    | ']' :: rest => return ([element], rest)
    | _ => none

/-- Read the members of an object up to its closing bracket. -/
def readMembers : (fuel : Nat) → Reader (List (List Nat × Json))
  | 0, _ => none
  | fuel + 1, text => do
    let ((), rest) ← Reader.character '"' (skipBlanks text)
    let (name, rest) ← readCodes rest
    let ((), rest) ← Reader.character ':' (skipBlanks rest)
    let (value, rest) ← readValue fuel rest
    match skipBlanks rest with
    | ',' :: rest =>
      let (members, rest) ← readMembers fuel rest
      return ((name, value) :: members, rest)
    | '\x7d' :: rest => return ([(name, value)], rest)
    | _ => none

end

/-- Read a text that holds one value. Each value and each separator takes at least every other
character, so twice the length is fuel enough. -/
def parse? (text : String) : Option Json :=
  match readValue (2 * text.length + 1) text.toList with
  | some (value, rest) => if skipBlanks rest = [] then some value else none
  | none => none

end PortalNat.Json
