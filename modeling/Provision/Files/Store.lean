import Provision.Files.Path
import Provision.Text.Quoted

/-!
# Stored files

A store holds what is at some paths: files with their bytes, and directories. Every path starts
at a directory. A place is a path on which two dots stand only in front, for the directories
above the working directory.

* `Store.find`: what is at a path.
* `Store.read`, `Store.write`: the bytes of a file.
-/

namespace Provision.Files

/-- What is at a path. -/
inductive Item where
  | file (bytes : List UInt8)
  | directory
deriving DecidableEq, Repr

/-- Why there is nothing to be had at a path. -/
inductive Cause where
  | notFound
  | notDirectory
  | isDirectory
  | nameTooLong
  /-- The path holds something that no name can hold. -/
  | notName
deriving DecidableEq, Repr

/-- A cause and the path it is about. -/
structure Failure where
  cause : Cause
  path : Path
deriving DecidableEq, Repr

/-- The number of a cause in the operating system, and its wording there. -/
def Cause.system? : Cause → Option (Nat × String)
  | .notFound => some (2, "No such file or directory")
  | .notDirectory => some (20, "Not a directory")
  | .isDirectory => some (21, "Is a directory")
  | .nameTooLong => some (36, "File name too long")
  | .notName => none

/-- The wording of a failure. -/
def Failure.message (f : Failure) : String :=
  match f.cause.system? with
  | some (number, wording) =>
    "[Errno " ++ toString number ++ "] " ++ wording ++ ": " ++ Text.quoted f.path.text
  | none => "embedded null byte"

/-- What is at some paths. -/
abbrev Store := List (Path × Item)

/-- The most bytes a name may have. -/
def nameLimit : Nat := 255

/-- The most bytes a path may have. -/
def pathLimit : Nat := 4095

namespace Store

/-- What is at a place. Every path starts at a directory, and above the working directory there
are directories only. -/
def item? (s : Store) (place : Path) : Option Item :=
  if place.names.all (· = "..") then some .directory else s.lookup place

/-- The place one level up. -/
def up (place : Path) : Path :=
  if !place.names.all (· = "..") then place.parent
  else if place.start = .here then place.child ".."
  else place

/-- The place of a name at a place, which has to be a directory. -/
def enter (s : Store) (place : Path) (name : String) : Except Cause Path :=
  match s.item? place with
  | none => .error .notFound
  | some (.file _) => .error .notDirectory
  | some .directory =>
    if name = ".." then .ok (up place)
    else if nameLimit < byteCount name then .error .nameTooLong
    else .ok (place.child name)

/-- The place at the end of a path. Whether something is there is another question. -/
def walk (s : Store) (p : Path) : Except Cause Path :=
  if !isName p.text then .error .notName
  else if pathLimit < byteCount p.text then .error .nameTooLong
  else p.names.foldlM s.enter { start := p.start }

/-- What is at a path. -/
def find (s : Store) (p : Path) : Except Failure Item :=
  match s.walk p with
  | .error cause => .error ⟨cause, p⟩
  | .ok place =>
    match s.item? place with
    | some item => .ok item
    | none => .error ⟨.notFound, p⟩

/-- The bytes of the file at a path. -/
def read (s : Store) (p : Path) : Except Failure (List UInt8) :=
  match s.find p with
  | .error f => .error f
  | .ok .directory => .error ⟨.isDirectory, p⟩
  | .ok (.file bytes) => .ok bytes

/-- The store with something at a path, in place of what was there. -/
def put (s : Store) (p : Path) (item : Item) : Store :=
  s.filter (fun e => e.1 ≠ p) ++ [(p, item)]

/-- The store with a file written at a path. -/
def write (s : Store) (p : Path) (bytes : List UInt8) : Except Failure Store :=
  match s.walk p with
  | .error cause => .error ⟨cause, p⟩
  | .ok place =>
    if s.item? place = some .directory then .error ⟨.isDirectory, p⟩
    else .ok (s.put place (.file bytes))

end Store

end Provision.Files
