import Lc3.Text.Quoted

/-!
The files that a program sees from its working directory. A name is a path of parts, each of which
leads from one place to the next.
-/

namespace Lc3

inductive FileError
  | notFound
  | notDirectory
  | isDirectory
  | nameTooLong
  /-- A name with a NUL character names nothing that could be looked for. -/
  | nullInName
  deriving DecidableEq, Repr

namespace FileError

def text : FileError → String
  | .notFound => "[Errno 2] No such file or directory"
  | .notDirectory => "[Errno 20] Not a directory"
  | .isDirectory => "[Errno 21] Is a directory"
  | .nameTooLong => "[Errno 36] File name too long"
  | .nullInName => "embedded null byte"

/-- The error with the name of the file that it concerns. -/
def describe (error : FileError) (name : String) : String :=
  error.text ++ ": " ++ String.ofList (Text.quote (Text.ofString name))

end FileError

/-- The parts of a name; the first part of an absolute one is the root. -/
structure Path where
  parts : List String
  deriving DecidableEq, Repr

namespace Path

def root : String := "/"

/-- The root as a name writes it that starts with two slashes. -/
def doubleRoot : String := "//"

def isRoot (part : String) : Bool := part == root || part == doubleRoot

/-- How a name starts that is absolute: two slashes are kept, more of them count as one. -/
def rootOf? (name : String) : Option String :=
  match (name.toList.takeWhile (· == '/')).length with
  | 0 => none
  | 2 => some doubleRoot
  | _ => some root

/-- The path that a name denotes; parts that lead nowhere are left out. -/
def ofName (name : String) : Path :=
  ⟨(rootOf? name).toList ++ (name.splitOn "/").filter fun part => part ≠ "" ∧ part ≠ "."⟩

def name (path : Path) : String :=
  match path.parts with
  | [] => "."
  | first :: rest =>
    if isRoot first then first ++ "/".intercalate rest else "/".intercalate (first :: rest)

/-- Goes from a place to a part of it, or back. Nothing lies behind the root, and a step back from
a place that has no part to leave leads above it. -/
def step (place : List String) (part : String) : List String :=
  if part = ".." then
    match place.getLast? with
    | none => [".."]
    | some last =>
      if last = root then place else if last = ".." then place ++ [".."] else place.dropLast
  else place ++ [if part = doubleRoot then root else part]

/-- The path with every step back carried out in the name alone. -/
def collapse (path : Path) : Path := ⟨path.parts.foldl step []⟩

end Path

inductive Entry
  | file (content : List UInt8)
  | directory
  deriving DecidableEq

/-- Entries by their places, which are parts from the working directory or from the root on. -/
structure Files where
  entries : List (List String × Entry)

namespace Files

/-- The entry at a place. A directory is there as soon as something in it is. -/
def at? (files : Files) (place : List String) : Option Entry :=
  if place.all fun part => part == ".." || part == Path.root then some .directory
  else
    match files.entries.find? (·.1 == place) with
    | some (_, entry) => some entry
    | none =>
      if files.entries.any fun (other, _) => place.isPrefixOf other then some .directory else none

def walk (files : Files) (place : List String) : List String → Except FileError (List String)
  | [] => .ok place
  | part :: parts =>
    match files.at? place with
    | none => .error .notFound
    | some (.file _) => .error .notDirectory
    | some .directory =>
      if part.utf8ByteSize > 255 then .error .nameTooLong
      else files.walk (Path.step place part) parts

/-- The longest name that can be looked for, in bytes. -/
def nameLimit : Nat := 4095

/-- The place that a path leads to, where there may or may not be an entry. -/
def locate (files : Files) (path : Path) : Except FileError (List String) :=
  if path.parts.any fun part => part.toList.contains (Char.ofNat 0) then .error .nullInName
  else if path.name.utf8ByteSize > nameLimit then .error .nameTooLong
  else files.walk [] path.parts

def lookUp (files : Files) (path : Path) : Except FileError Entry := do
  match files.at? (← files.locate path) with
  | some entry => return entry
  | none => throw .notFound

def read (files : Files) (path : Path) : Except FileError (List UInt8) := do
  match ← files.lookUp path with
  | .file content => return content
  | .directory => throw .isDirectory

/-- Puts a file at a place, instead of what was there. -/
def putAt (files : Files) (place : List String) (content : List UInt8) : Files :=
  ⟨files.entries.filter (·.1 != place) ++ [(place, .file content)]⟩

/-- Empties a file or makes an empty one, for writing; gives its place. -/
def create (files : Files) (path : Path) : Except FileError (List String × Files) := do
  let place ← files.locate path
  match files.at? place with
  | some .directory => throw .isDirectory
  | _ => return (place, files.putAt place [])

end Files

end Lc3
