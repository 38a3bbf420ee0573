import PortalNat.Text.Reader

/-!
# JSON values

The values that a JSON text can hold. Texts are kept as code points, because an escape can name half
of a surrogate pair, which no text holds; `Json.characters?` gives the text where there is one. Only
numbers written as integers have a value here. Others keep their spelling, among them negative
zero, which no integer type has.
-/

namespace PortalNat

inductive Json where
  | null
  | bool (value : Bool)
  | integer (value : Int)
  | fraction (spelling : String)
  | string (codes : List Nat)
  | array (elements : List Json)
  | object (members : List (List Nat × Json))
deriving Inhabited

namespace Json

/-- The code points of a text. -/
def codes (text : String) : List Nat :=
  text.toList.map Char.toNat

/-- The text with the given code points, unless one of them is half of a surrogate pair. -/
def characters? (codes : List Nat) : Option String :=
  String.ofList <$> codes.mapM fun code =>
    if code.isValidChar then some (Char.ofNat code) else none

/-- A text as a value. -/
def text (characters : String) : Json :=
  .string (codes characters)

/-- A count as a value. -/
def count (value : Nat) : Json :=
  .integer value

/-- An object with the given members, in their order. -/
def fields (members : List (String × Json)) : Json :=
  .object (members.map fun (name, value) => (codes name, value))

/-- The text that a value is. -/
def text? : Json → Option String
  | .string codes => characters? codes
  | _ => none

def bool? : Json → Option Bool
  | .bool value => some value
  | _ => none

def integer? : Json → Option Int
  | .integer value => some value
  | _ => none

def array? : Json → Option (List Json)
  | .array elements => some elements
  | _ => none

/-- The value of a member of an object. -/
def member? (name : String) : Json → Option Json
  | .object members => members.lookup (codes name)
  | _ => none

/-- A number from zero up to, and not including, the bound. -/
def countBelow? (bound : Nat) : Json → Option Nat
  | .integer value => if 0 ≤ value ∧ value < bound then some value.toNat else none
  | _ => none

end Json

end PortalNat
