import AutomataRequest.Text.Bytes

/-!
Files as a run sees them: a path leads to bytes or to a reason why there are none, and bytes
are a text only if they are valid UTF-8. A folder is a set of named files in which paths are
resolved by their parts.
-/

namespace AutomataRequest

inductive ReadFault where
  | missing
  | notDirectory
  | directory
  | nameTooLong
  | notText
  | other (message : String)
  deriving DecidableEq, Repr

namespace ReadFault

def message : ReadFault → String
  | .missing => "No such file or directory (os error 2)"
  | .notDirectory => "Not a directory (os error 20)"
  | .directory => "Is a directory (os error 21)"
  | .nameTooLong => "File name too long (os error 36)"
  | .notText => "stream did not contain valid UTF-8"
  | .other message => message

end ReadFault

abbrev FileReader := String → Except ReadFault ByteArray

def decodeText (bytes : ByteArray) : Except ReadFault String :=
  match String.fromUTF8? bytes with
  | some text => .ok text
  | none => .error .notText

def FileReader.readText (files : FileReader) (path : String) : Except ReadFault String := do
  decodeText (← files path)

def pathParts : List Char → List (List Char)
  | [] => [[]]
  | char :: rest =>
      if char = '/' then [] :: pathParts rest
      else match pathParts rest with
        | part :: parts => (char :: part) :: parts
        | [] => [[char]]

def longestName : Nat := 255

def longestPath : Nat := 4095

/-- Files with their names, which may have slashes. -/
abbrev Folder := List (String × ByteArray)

namespace Folder

/-- A directory is one of the folder, told by the names on the way to it, or the root of all
paths, or that of the devices, or another one around the folder, of which nothing is known. -/
inductive Directory where
  | within (names : List (List Char))
  | root
  | devices
  | around
  deriving DecidableEq, Repr

/-- The place that a walk along a path has come to. -/
inductive Entry where
  | file (bytes : ByteArray)
  | directory (directory : Directory)

/-- A part that stands for the directory itself. -/
def isHere (part : List Char) : Bool := part == [] || part == ['.']

def nameParts (name : String) : List (List Char) :=
  (pathParts name.toList).filter fun part => !isHere part

def parent : Directory → Directory
  | .within [] => .around
  | .within names => .within names.dropLast
  | .root => .root
  | .devices => .root
  | .around => .around

def devicesName : String := "dev"

/-- The device that is always empty. -/
def emptyDevice : String := "null"

/-- These directories stand below every root, next to the devices. -/
def commonNames : List String :=
  ["bin", "etc", "home", "lib", "proc", "root", "run", "sys", "tmp", "usr", "var"]

def look (folder : Folder) (name : List Char) : Directory → Except ReadFault Entry
  | .within names =>
      let path := names ++ [name]
      match folder.find? fun file => nameParts file.1 == path with
      | some file => .ok (.file file.2)
      | none =>
          if folder.any fun file => path.isPrefixOf (nameParts file.1) then
            .ok (.directory (.within path))
          else .error .missing
  | .root =>
      if String.ofList name = devicesName then .ok (.directory .devices)
      else if commonNames.contains (String.ofList name) then .ok (.directory .around)
      else .error .missing
  | .devices =>
      if String.ofList name = emptyDevice then .ok (.file ByteArray.empty) else .error .missing
  | .around => .error .missing

def step (folder : Folder) (directory : Directory) (part : List Char) :
    Except ReadFault Entry :=
  if isHere part then .ok (.directory directory)
  else if part = ['.', '.'] then .ok (.directory (parent directory))
  else if longestName < Text.byteCount part then .error .nameTooLong
  else folder.look part directory

/-- Follows the parts of a path; nothing lies below a file, not even the file itself. -/
def walk (folder : Folder) : Entry → List (List Char) → Except ReadFault Entry
  | entry, [] => .ok entry
  | .file _, _ :: _ => .error .notDirectory
  | .directory directory, part :: rest => do
      folder.walk (← folder.step directory part) rest

/-- A path starts at the folder, or at the root if it begins with a slash. -/
def reader (folder : Folder) : FileReader := fun path =>
  let chars := path.toList
  let start : Directory := if chars.head? = some '/' then .root else .within []
  if chars.isEmpty then .error .missing
  else if longestPath < Text.byteCount chars then .error .nameTooLong
  else match folder.walk (.directory start) (pathParts chars) with
    | .ok (.file bytes) => .ok bytes
    | .ok (.directory _) => .error .directory
    | .error fault => .error fault

end Folder

end AutomataRequest
