import Keypath.Disk
import Keypath.Program
import Keypath.Text.Hex
import Keypath.Tree.Rows

/-!
Snapshots: files together with the trees of their texts.

A snapshot is written in lines. `file` and a path open a file, `text` gives its bytes as hexadecimal
digits, and each `row` gives one node of its tree: depth, start, stop, flags, roles (`-` for none)
and kind. Lines of any other form are passed over.
-/

namespace Keypath

open Keypath.Tree

structure Sample where
  dialect : Dialect
  text : String
  tree : Node

def Parser.ofSamples (samples : List Sample) : Parser := fun dialect text =>
  (samples.find? fun sample => sample.dialect = dialect && sample.text = text).map Sample.tree

structure SnapshotFile where
  path : Path
  bytes : ByteArray
  rows : List Row

namespace SnapshotFile

def sample? (file : SnapshotFile) : Option Sample :=
  match String.fromUTF8? file.bytes, Node.ofRows? file.rows with
  | some text, some tree => some ⟨.ofPath file.path.normalize, text, tree⟩
  | _, _ => none

end SnapshotFile

structure Snapshot where
  files : List SnapshotFile

namespace Snapshot

def parser (snapshot : Snapshot) : Parser :=
  Parser.ofSamples (snapshot.files.filterMap SnapshotFile.sample?)

def disk (snapshot : Snapshot) : Disk :=
  snapshot.files.foldl (fun disk file => disk.write file.path.names file.bytes) .empty

inductive Line where
  | file (path : Path)
  | text (bytes : ByteArray)
  | row (row : Row)
  | other

def Line.ofText (text : String) : Line :=
  match text.splitOn " " with
  | "file" :: path => .file (.ofText (" ".intercalate path))
  | ["text", digits] => .text ⟨(Text.hexBytes digits.toList).toArray⟩
  | "row" :: depth :: start :: stop :: flags :: roles :: kind =>
      match depth.toNat?, start.toNat?, stop.toNat?, flags.toNat? with
      | some depth, some start, some stop, some flags =>
          .row (.ofCells depth (" ".intercalate kind) start stop flags roles)
      | _, _, _, _ => .other
  | _ => .other

/-- What is read so far, from the last line backwards: the open file's bytes and rows, and the files
behind it. -/
structure Reading where
  bytes : ByteArray
  rows : List Row
  files : List SnapshotFile

def Reading.start : Reading := ⟨.empty, [], []⟩

def Reading.take (line : Line) (reading : Reading) : Reading :=
  match line with
  | .file path => ⟨.empty, [], ⟨path, reading.bytes, reading.rows⟩ :: reading.files⟩
  | .text bytes => { reading with bytes := bytes }
  | .row row => { reading with rows := row :: reading.rows }
  | .other => reading

def ofText (text : String) : Snapshot :=
  ⟨(((text.splitOn "\n").map Line.ofText).foldr Reading.take .start).files⟩

end Snapshot

end Keypath
