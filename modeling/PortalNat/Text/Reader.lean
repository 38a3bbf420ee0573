/-!
# Reading text

Readers take a value off the front of a text. They are how addresses, numbers and JSON are read.
-/

namespace PortalNat

/-- Reads a value off the front of a text and returns the rest. -/
abbrev Reader (α : Type) := List Char → Option (α × List Char)

namespace Reader

/-- Keep a value only if the whole text was read. -/
def all {α : Type} (reader : Reader α) (text : String) : Option α :=
  match reader text.toList with
  | some (value, []) => some value
  | _ => none

/-- Read one given character. -/
def character (expected : Char) : Reader Unit
  | c :: rest => if c = expected then some ((), rest) else none
  | [] => none

/-- Read one given word. -/
def word (expected : String) : Reader Unit := fun text =>
  if expected.toList.isPrefixOf text then some ((), text.drop expected.length) else none

end Reader

/-- The value of a digit, of either case, in a radix up to sixteen. -/
def digit? (radix : Nat) (c : Char) : Option Nat :=
  let value? :=
    if c.isDigit then some (c.toNat - '0'.toNat)
    else if 'a' ≤ c ∧ c ≤ 'f' then some (c.toNat - 'a'.toNat + 10)
    else if 'A' ≤ c ∧ c ≤ 'F' then some (c.toNat - 'A'.toNat + 10)
    else none
  value?.filter (· < radix)

/-- How a number is spelled: its radix, the most digits it may have, whether a longer number may
start with a zero, and the least number that is too large. -/
structure Numeral where
  radix : Nat
  digits? : Option Nat
  leadingZero : Bool
  bound : Nat
deriving Repr

/-- Read a number as `numeral` spells it, taking every digit that follows. -/
def Numeral.read (numeral : Numeral) : Reader Nat := fun text =>
  let run := text.takeWhile (digit? numeral.radix · |>.isSome)
  let rest := text.dropWhile (digit? numeral.radix · |>.isSome)
  let value := (run.filterMap (digit? numeral.radix)).foldl (fun n d => n * numeral.radix + d) 0
  let fits := run ≠ [] ∧ numeral.digits?.all (run.length ≤ ·) ∧ value < numeral.bound
  let plain := numeral.leadingZero ∨ run.length = 1 ∨ run.head? ≠ some '0'
  if fits ∧ plain then some (value, rest) else none

/-- Read a number that fills the whole text. -/
def Numeral.parse? (numeral : Numeral) (text : String) : Option Nat :=
  Reader.all numeral.read text

end PortalNat
