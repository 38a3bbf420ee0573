import PortalNat.Error

/-!
# Files

A directory tree as a program sees it that was started inside it: files and directories are named
by paths from the one it was started in, or by paths from the root. Whatever is above the starting
directory is a directory too. Every operation fails the way an operating system reports it.
-/

namespace PortalNat

/-- Why a file cannot be used. -/
inductive FileFault where
  | missing
  | notDirectory
  | isDirectory
  | nameTooLong
  | nulInPath
  | notText
deriving DecidableEq, Repr

def FileFault.error : FileFault → IoError
  | missing => ⟨.notFound, "No such file or directory (os error 2)"⟩
  | notDirectory => ⟨.other, "Not a directory (os error 20)"⟩
  | isDirectory => ⟨.other, "Is a directory (os error 21)"⟩
  | nameTooLong => ⟨.other, "File name too long (os error 36)"⟩
  | nulInPath => ⟨.invalidInput, "file name contained an unexpected NUL byte"⟩
  | notText => ⟨.invalidData, "stream did not contain valid UTF-8"⟩

/-- What stands at a place of the tree: a file with its content, or a directory. -/
inductive FileNode where
  | file (content : Octets)
  | directory
deriving DecidableEq, Repr

/-- The names that lead from the starting directory to a place. A place that is named from the root
has the name of the root before the others, and one above the starting directory, or in a directory
above it, begins with a step up for each directory that it goes up. -/
abbrev Place := List String

/-- The name of the root, which is part of no other name. -/
def rootName : String := "/"

/-- The name of a step up, which is part of no other name. -/
def upName : String := ".."

/-- Whether a place is the starting directory or one above it. -/
def Place.isAbove (place : Place) : Bool :=
  place.all (· == upName)

/-- The directory that holds a place. The root holds itself. -/
def Place.holder (place : Place) : Place :=
  if place = [rootName] then place
  else if Place.isAbove place then place ++ [upName]
  else place.dropLast

/-- The places that hold something. The directories above them are there too. -/
structure FileStore where
  nodes : List (Place × FileNode)
deriving Repr

namespace FileStore

/-- The longest name that a file can have, in bytes. -/
def longestName : Nat := 255

/-- The longest path, in bytes. -/
def longestPath : Nat := 4095

/-- What stands at a place, if anything does. -/
def node? (store : FileStore) (place : Place) : Option FileNode :=
  match store.nodes.lookup place with
  | some node => some node
  | none =>
    if Place.isAbove place ∨ place = [rootName] ∨ store.nodes.any (place.isPrefixOf ·.1) then
      some .directory
    else none

/-- Go one name further from a place, which has to be a directory. -/
def descend (store : FileStore) (place : Place) (name : String) : Except FileFault Place :=
  match store.node? place with
  | none => .error .missing
  | some (.file _) => .error .notDirectory
  | some .directory =>
    if name = "" ∨ name = "." then .ok place
    else if name = upName then .ok (Place.holder place)
    else if longestName < name.utf8ByteSize then .error .nameTooLong
    else .ok (place ++ [name])

/-- The names on a path. -/
def names (path : String) : Except FileFault (List String) :=
  if path.contains '\x00' then .error .nulInPath
  else if path = "" then .error .missing
  else if longestPath < path.utf8ByteSize then .error .nameTooLong
  else
    match path.splitOn "/" with
    | "" :: names => .ok (rootName :: names)
    | names => .ok names

/-- The path that leads to a place. -/
def path : Place → String
  | [] => "."
  | name :: names =>
    if name = rootName then rootName ++ "/".intercalate names else "/".intercalate (name :: names)

/-- The places on the way along some names, the last one included. -/
def places (names : List String) : List Place :=
  let follow := fun (place, passed) name =>
    let next :=
      if name = "" ∨ name = "." then place
      else if name = upName then Place.holder place
      else place ++ [name]
    (next, passed ++ [next])
  (names.foldl follow ([], [])).2

/-- The place that a path leads to. Something has to stand at every place on the way, but not at
its end. -/
def locate (store : FileStore) (path : String) : Except FileFault Place := do
  (← names path).foldlM store.descend []

/-- Whether something stands where a path leads. -/
def holds (store : FileStore) (path : String) : Bool :=
  match store.locate path with
  | .ok place => (store.node? place).isSome
  | .error _ => false

/-- The content of a file. -/
def read (store : FileStore) (path : String) : Except FileFault Octets := do
  match store.node? (← store.locate path) with
  | none => .error .missing
  | some .directory => .error .isDirectory
  | some (.file content) => return content

/-- The content of a file as text. -/
def readText (store : FileStore) (path : String) : Except FileFault String := do
  match String.fromUTF8? ⟨(← store.read path).toArray⟩ with
  | some text => return text
  | none => .error .notText

/-- The directory that holds what a path with a slash at its end names. -/
def locateHolder (store : FileStore) (path : String) : Except FileFault Place := do
  let above := ((← names path).filter (· ≠ "")).dropLast
  store.descend (← above.foldlM store.descend []) "."

/-- The place where a file is written: a place in a directory that is there. A slash at the end of
the path asks for a directory. -/
def placeToWrite (store : FileStore) (path : String) : Except FileFault Place := do
  if path.endsWith "/" then
    let _ ← store.locateHolder path
    throw .isDirectory
  let place ← store.locate path
  match store.node? place with
  | some .directory => throw .isDirectory
  | some (.file _) => return place
  | none =>
    match store.node? (Place.holder place) with
    | some .directory => return place
    | _ => throw .missing

/-- Write a file, replacing what it held. -/
def write (store : FileStore) (path : String) (content : Octets) :
    Except FileFault FileStore := do
  let place ← store.placeToWrite path
  return ⟨(place, .file content) :: store.nodes⟩

/-- The octets of a text. -/
def ofText (text : String) : Octets :=
  text.toUTF8.toList

end FileStore

end PortalNat
