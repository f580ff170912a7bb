import Keypath.Path
import Keypath.Table

/-!
A file system of regular files and directories.

Paths are followed step by step from the root or the working directory, so a step through `..`
needs the directory in front of it to be there.
-/

namespace Keypath

inductive DiskEntry where
  | file (bytes : ByteArray)
  | directory (listing : Table (List UInt8) DiskEntry)

namespace DiskEntry

def isDirectory : DiskEntry → Bool
  | file _ => false
  | directory _ => true

def write (bytes : ByteArray) : List (List UInt8) → Option DiskEntry → DiskEntry
  | [], _ => file bytes
  | name :: rest, entry =>
      let listing := match entry with
        | some (directory listing) => listing
        | _ => ∅
      directory (listing.insert name (write bytes rest (listing.get? name)))

/-- Take a file away; directories stay, and so does everything if there is no such file. -/
def remove? : List (List UInt8) → DiskEntry → Option DiskEntry
  | _, file _ => none
  | [], directory _ => none
  | name :: rest, directory listing =>
      match rest, listing.get? name with
      | [], some (file _) => some (directory (listing.erase name))
      | [], _ => none
      | _, some inner => (remove? rest inner).map fun entry => directory (listing.insert name entry)
      | _, none => none

mutual

/-- The paths of the files in an entry that is found at `path`. A directory below it is left out
with all it holds if its name is excluded. -/
def walk (excluded : List UInt8 → Bool) (path : Path) : DiskEntry → List Path
  | file _ => [path]
  | directory ⟨entries⟩ => walkAll excluded path entries

def walkAll (excluded : List UInt8 → Bool) (path : Path) :
    List (List UInt8 × DiskEntry) → List Path
  | [] => []
  | (name, entry) :: rest =>
      (if entry.isDirectory && excluded name then []
        else walk excluded (path.join ⟨name⟩) entry) ++ walkAll excluded path rest

end

end DiskEntry

inductive ReadError where
  | missing
  | isDirectory
  | notText
deriving DecidableEq, Repr

def ReadError.message : ReadError → String
  | missing => "No such file or directory (os error 2)"
  | isDirectory => "Is a directory (os error 21)"
  | notText => "stream did not contain valid UTF-8"

structure Disk where
  root : Table (List UInt8) DiskEntry
  /-- The names that lead from the root to the working directory. -/
  workingDirectory : List (List UInt8)

namespace Disk

def empty : Disk := ⟨∅, []⟩

/-- One step along a path. `place` is the entry reached so far and the directories above it, the
innermost first. -/
def step (place : List DiskEntry) (segment : List UInt8) : Option (List DiskEntry) :=
  match place with
  | .directory listing :: above =>
      if segment = [] || segment = [Component.dot] then some place
      else if segment = [Component.dot, Component.dot] then
        match above with
        | [] => some place
        | _ => some above
      else (listing.get? segment).map (· :: place)
  | _ => none

def follow (place : List DiskEntry) (segments : List (List UInt8)) : Option (List DiskEntry) :=
  segments.foldlM step place

def entry? (disk : Disk) (path : Path) : Option DiskEntry :=
  let root := [DiskEntry.directory disk.root]
  let start :=
    if path.bytes = [] then none
    else if path.isAbsolute then some root
    else follow root disk.workingDirectory
  (start.bind fun place => follow place path.segments).bind List.head?

def exists? (disk : Disk) (path : Path) : Bool := (disk.entry? path).isSome

def read (disk : Disk) (path : Path) : Except ReadError String :=
  match disk.entry? path with
  | none => .error .missing
  | some (.directory _) => .error .isDirectory
  | some (.file bytes) =>
      match String.fromUTF8? bytes with
      | some text => .ok text
      | none => .error .notText

/-- The paths of all files under a path, itself included if it is a file. The excluded names do not
count for the starting directory. -/
def walk (disk : Disk) (excluded : List UInt8 → Bool) (path : Path) : List Path :=
  match disk.entry? path with
  | some entry => entry.walk excluded path
  | none => []

def write (disk : Disk) (names : List (List UInt8)) (bytes : ByteArray) : Disk :=
  match DiskEntry.write bytes names (some (.directory disk.root)) with
  | .directory root => { disk with root := root }
  | .file _ => disk

def remove? (disk : Disk) (names : List (List UInt8)) : Option Disk :=
  match DiskEntry.remove? names (.directory disk.root) with
  | some (.directory root) => some { disk with root := root }
  | _ => none

def makeDirectory (disk : Disk) (name : List UInt8) : Disk :=
  match disk.root.get? name with
  | some _ => disk
  | none => { disk with root := disk.root.insert name (.directory ∅) }

end Disk

end Keypath
