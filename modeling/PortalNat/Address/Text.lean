import PortalNat.Address.Basic
import PortalNat.Text.Reader

/-!
# Address text

How addresses and endpoints are written and read. An IPv6 address is written as RFC 5952 asks: in
lower case, without leading zeros, with the first of its longest runs of two or more zero segments
left out; a mapped IPv4 address keeps its dotted form. Reading accepts every spelling of an
address and nothing around it.
-/

namespace PortalNat

/-- An octet of a dotted address: a leading zero would read as octal elsewhere, so none is
allowed. -/
def octetNumeral : Numeral := ⟨10, some 3, false, 256⟩

/-- A segment of an IPv6 address. -/
def segmentNumeral : Numeral := ⟨16, some 4, true, 65536⟩

def portNumeral : Numeral := ⟨10, none, true, 65536⟩

def zoneNumeral : Numeral := ⟨10, none, true, 4294967296⟩

/-- Two points in which the spellings of an address differ by context: how the octets of a dotted
address are spelled, and whether `::` may stand between eight segments for none at all. -/
structure Spelling where
  octet : Numeral
  emptyGap : Bool

/-- How addresses and endpoints are spelled where they stand alone. -/
def plainSpelling : Spelling := ⟨octetNumeral, false⟩

/-- Read a separator, except before the first part. -/
def readSeparator (separator : Char) (first : Bool) : Reader Unit := fun text =>
  if first then some ((), text) else Reader.character separator text

/-- Read the parts of a dotted address from the given one on. -/
def readOctets (octet : Numeral) : (first : Bool) → (count : Nat) → Reader (List UInt8)
  | _, 0, text => some ([], text)
  | first, count + 1, text => do
    let ((), text) ← readSeparator '.' first text
    let (value, text) ← octet.read text
    let (values, text) ← readOctets octet false count text
    return (UInt8.ofNat value :: values, text)

def readV4 (spelling : Spelling) : Reader V4 := fun text => do
  let (octets, rest) ← readOctets spelling.octet true 4 text
  return (V4.read octets 0, rest)

/-- Read up to `room` segments that follow one another. A dotted address may end them, filling
two; the flag tells whether one did. -/
def readSegments (spelling : Spelling) :
    (first : Bool) → (room : Nat) → List Char → List UInt16 × Bool × List Char
  | _, 0, text => ([], false, text)
  | first, room + 1, text =>
    let dotted := do
      guard (1 ≤ room)
      let ((), text) ← readSeparator ':' first text
      readV4 spelling text
    match dotted with
    | some (address, rest) => (address.mapped.segments.drop 6, true, rest)
    | none =>
      let segment := do
        let ((), text) ← readSeparator ':' first text
        segmentNumeral.read text
      match segment with
      | none => ([], false, text)
      | some (value, rest) =>
        let (segments, dotted, rest) := readSegments spelling false room rest
        (UInt16.ofNat value :: segments, dotted, rest)

/-- Read an IPv6 address: eight segments, or fewer around one `::` that fills in zeros. -/
def readV6 (spelling : Spelling) : Reader V6 := fun text =>
  let (head, dotted, rest) := readSegments spelling true 8 text
  if head.length = 8 then some (V6.ofSegments head, rest)
  else if dotted then none
  else do
    let ((), rest) ← Reader.character ':' rest
    let ((), rest) ← Reader.character ':' rest
    let room := if spelling.emptyGap then 8 - head.length else 7 - head.length
    let (tail, _, rest) := readSegments spelling true room rest
    let gap := List.replicate (8 - head.length - tail.length) 0
    return (V6.ofSegments (head ++ gap ++ tail), rest)

def readAddress (spelling : Spelling) : Reader Address := fun text =>
  match readV4 spelling text with
  | some (address, rest) => some (.v4 address, rest)
  | none => (readV6 spelling text).map fun (address, rest) => (.v6 address, rest)

def readPort : Reader UInt16 := fun text => do
  let ((), text) ← Reader.character ':' text
  let (value, rest) ← portNumeral.read text
  return (UInt16.ofNat value, rest)

/-- Read the zone of an address; one that is missing or cannot be read is zero. -/
def readZone (text : List Char) : UInt32 × List Char :=
  let zone := do
    let ((), rest) ← Reader.character '%' text
    zoneNumeral.read rest
  match zone with
  | some (value, rest) => (UInt32.ofNat value, rest)
  | none => (0, text)

def readEndpointV4 : Reader Endpoint := fun text => do
  let (address, text) ← readV4 plainSpelling text
  let (port, rest) ← readPort text
  return (Endpoint.of (.v4 address) port, rest)

def readEndpointV6 : Reader Endpoint := fun text => do
  let ((), text) ← Reader.character '[' text
  let (address, text) ← readV6 plainSpelling text
  let (zone, text) := readZone text
  let ((), text) ← Reader.character ']' text
  let (port, rest) ← readPort text
  return (⟨.v6 address, port, zone⟩, rest)

namespace V4

def parse? (text : String) : Option V4 :=
  (readV4 plainSpelling).all text

protected def toText (address : V4) : String :=
  ".".intercalate (address.octets.map fun octet => toString octet.toNat)

end V4

namespace V6

def parse? (text : String) : Option V6 :=
  (readV6 plainSpelling).all text

/-- Segments in lower-case hexadecimal with colons between. -/
def segmentText (segments : List UInt16) : String :=
  ":".intercalate (segments.map fun segment => String.ofList (Nat.toDigits 16 segment.toNat))

/-- The start and length of the first of the longest runs of zero segments. -/
def longestZeroRun (segments : List UInt16) : Nat × Nat :=
  (List.range segments.length).foldl (fun best start =>
    let length := ((segments.drop start).takeWhile (· == 0)).length
    if best.2 < length then (start, length) else best) (0, 0)

protected def toText (address : V6) : String :=
  match address.unmapped? with
  | some dotted => "::ffff:" ++ dotted.toText
  | none =>
    let (start, length) := longestZeroRun address.segments
    if 1 < length then
      segmentText (address.segments.take start) ++ "::"
        ++ segmentText (address.segments.drop (start + length))
    else segmentText address.segments

end V6

namespace Address

def parse? (text : String) : Option Address :=
  (readAddress plainSpelling).all text

protected def toText : Address → String
  | v4 address => address.toText
  | v6 address => address.toText

end Address

namespace Endpoint

def parse? (text : String) : Option Endpoint :=
  (readEndpointV4.all text).or (readEndpointV6.all text)

/-- The address and the port; an IPv6 address stands in brackets, with its zone if it has one. -/
protected def toText (endpoint : Endpoint) : String :=
  let port := toString endpoint.port.toNat
  match endpoint.address with
  | .v4 address => address.toText ++ ":" ++ port
  | .v6 address =>
    let zone := if endpoint.zone = 0 then "" else "%" ++ toString endpoint.zone.toNat
    "[" ++ address.toText ++ zone ++ "]:" ++ port

end Endpoint

end PortalNat
