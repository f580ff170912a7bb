import Keypath.Proofs.Outline
import Keypath.Proofs.Server.Steps
import Keypath.Proofs.Walk

/-!
What a workspace is populated with.

The files of a walk go to different places of the program, each with what is read there. So the
order of the walk does not matter, nor does a file that cannot be read.
-/

namespace Keypath

open Keypath.Tree

namespace Workspace

def readable (disk : Disk) (paths : List Path) : List (Path × String) :=
  paths.filterMap fun path => (disk.read path).toOption.map fun text => (path, text)

theorem program_indexAll (parse : Parser) (disk : Disk) (workspace : Workspace)
    (paths : List Path) :
    (workspace.indexAll parse disk paths).value.program =
      workspace.program.insertAll parse (readable disk paths) := by
  rw [Program.insertAll, readable, List.foldl_filterMap]
  refine (List.foldl_hom (fun state : Logged Workspace => state.value.program) ?_).symm
  intro state path
  cases hread : disk.read path with
  | error reason => simp [index, hread, Except.toOption]
  | ok text =>
      cases hinsert : state.value.program.insert? parse path text with
      | none => simp [index, hread, hinsert, Except.toOption]
      | some program => simp [index, hread, hinsert, Except.toOption]

/-- A workspace after its files were walked in some order. -/
def populateIn (parse : Parser) (disk : Disk) (workspace : Workspace) (order : List Path) :
    Workspace :=
  (workspace.indexAll parse disk (order.filter Path.isTypeScript)).value

theorem map_sources_insertAll {parse : Parser} (total : parse.Total)
    {inputs : List (Path × String)}
    (hinputs : (inputs.map fun input => input.1.normalize.components).Nodup) :
    (Program.empty.insertAll parse inputs).sources.map (fun file => (file.path, file.text)) =
      inputs.map fun input => (input.1.normalize, input.2) := by
  have hfiles := congrArg (List.map fun file : SourceFile => (file.path, file.text))
    (Program.map_unnumbered_insertAll parse .empty hinputs fun _ _ h => nomatch h)
  rw [List.map_map, List.map_append, List.map_filterMap] at hfiles
  refine hfiles.trans ?_
  refine (List.filterMap_congr (g := fun input => some (input.1.normalize, input.2)) ?_).trans
    (congrFun List.filterMap_eq_map' inputs)
  intro input _
  obtain ⟨tree, htree⟩ := Option.isSome_iff_exists.1 (total (.ofPath input.1.normalize) input.2)
  rw [SourceFile.parsed?, htree]
  rfl

theorem mem_readable {disk : Disk} {paths : List Path} {path : Path} {text : String} :
    (path, text) ∈ readable disk paths ↔ path ∈ paths ∧ disk.read path = .ok text := by
  rw [readable, List.mem_filterMap]
  constructor
  · rintro ⟨other, hother, hread⟩
    cases hfound : disk.read other with
    | error reason => simp [hfound, Except.toOption] at hread
    | ok found =>
        simp only [hfound, Except.toOption, Option.map_some, Option.some.injEq,
          Prod.mk.injEq] at hread
        obtain ⟨rfl, rfl⟩ := hread
        exact ⟨hother, hfound⟩
  · rintro ⟨hpath, hread⟩
    exact ⟨path, hpath, by rw [hread]; rfl⟩

theorem nodup_readable (disk : Disk) {paths : List Path}
    (h : paths.Pairwise fun path other =>
      path.normalize.components ≠ other.normalize.components) :
    ((readable disk paths).map fun input => input.1.normalize.components).Nodup := by
  rw [List.Nodup, List.pairwise_map, readable, List.pairwise_filterMap]
  refine h.imp ?_
  intro path other hne input hinput input' hinput'
  obtain ⟨_, _, rfl⟩ := Option.map_eq_some_iff.1 hinput
  obtain ⟨_, _, rfl⟩ := Option.map_eq_some_iff.1 hinput'
  exact hne

/-- Names that lead from the root of a workspace to a source file with a text, and there through no
directory that is excluded. The root itself may have any name, and so may the file. -/
structure SourceAt (disk : Disk) (workspace : Workspace) (names : List (List UInt8))
    (text : String) : Prop where
  file : ∃ bytes, (disk.entry? workspace.root).bind (DiskEntry.at? names) = some (.file bytes) ∧
    String.fromUTF8? bytes = some text
  included : ∀ name ∈ names.dropLast, Text.ofBytes name ∉ workspace.settings.excludeDirs
  extension : (workspace.root.below names).hasExtension ["ts", "tsx", "mts", "cts"] = true

def walked (disk : Disk) (workspace : Workspace) : List Path :=
  disk.walk (fun name => workspace.settings.excludes (Text.ofBytes name)) workspace.root

theorem sourceAt_iff {disk : Disk} (orderly : disk.Orderly) {workspace : Workspace} {path : Path}
    {text : String} :
    (path ∈ workspace.walked disk ∧ path.isTypeScript = true ∧ disk.read path = .ok text) ↔
      ∃ names, workspace.SourceAt disk names text ∧ path = workspace.root.below names := by
  have hexcluded (name : List UInt8) : workspace.settings.excludes (Text.ofBytes name) = false ↔
      Text.ofBytes name ∉ workspace.settings.excludeDirs := by
    simp [Settings.excludes]
  rw [walked, Disk.mem_walk orderly]
  constructor
  · rintro ⟨⟨names, bytes, hat, hincluded, rfl⟩, hextension, hread⟩
    rw [Disk.read_below orderly hat] at hread
    split at hread
    · rename_i found hfound
      obtain rfl := Except.ok.inj hread
      exact ⟨names, ⟨⟨bytes, hat, hfound⟩, fun name hname =>
        (hexcluded name).1 (hincluded name hname), hextension⟩, rfl⟩
    · cases hread
  · rintro ⟨names, ⟨⟨bytes, hat, htext⟩, hincluded, hextension⟩, rfl⟩
    refine ⟨⟨names, bytes, hat, fun name hname => ?_, rfl⟩, hextension, ?_⟩
    · exact (hexcluded name).2 (hincluded name hname)
    · rw [Disk.read_below orderly hat, htext]

/-- A new workspace comes to hold the source files below its root that can be read as text and that
no excluded directory below the root keeps from it, each once, at its normalised path and with its
text on disk, in whatever order the files are walked. -/
theorem populate_holds_source_files {parse : Parser} (total : parse.Total) {disk : Disk}
    (orderly : disk.Orderly) (root : Path) (settings : Settings) :
    let begun := Workspace.new root settings
    (begun.populate parse disk).value = begun.populateIn parse disk (begun.walked disk) ∧
    ∀ order : List Path, order.Perm (begun.walked disk) →
      let program := (begun.populateIn parse disk order).program
      (program.sources.map SourceFile.path).Nodup ∧
      ∀ (path : Path) (text : String),
        (∃ file ∈ program.sources, file.path = path ∧ file.text = text) ↔
          ∃ names, begun.SourceAt disk names text ∧ path = (root.below names).normalize := by
  intro begun
  refine ⟨rfl, fun order horder => ?_⟩
  intro program
  let inputs := readable disk (order.filter Path.isTypeScript)
  have hprogram : program = Program.empty.insertAll parse inputs :=
    program_indexAll parse disk begun _
  have hdifferent : order.Pairwise fun path other =>
      path.normalize.components ≠ other.normalize.components :=
    (horder.pairwise_iff fun h => Ne.symm h).2 (Disk.pairwise_walk orderly _ root)
  have hnodup := nodup_readable disk (hdifferent.filter Path.isTypeScript)
  have hsources : program.sources.map (fun file => (file.path, file.text)) =
      inputs.map fun input => (input.1.normalize, input.2) := by
    rw [hprogram, map_sources_insertAll total hnodup]
  constructor
  · have hpaths : program.sources.map SourceFile.path =
        inputs.map fun input => input.1.normalize := by
      have hfirst := congrArg (List.map Prod.fst) hsources
      rwa [List.map_map, List.map_map] at hfirst
    rw [hpaths]
    refine List.Nodup.of_map Path.components ?_
    rw [List.map_map]
    exact hnodup
  · intro path text
    have hfile : (∃ file ∈ program.sources, file.path = path ∧ file.text = text) ↔
        (path, text) ∈ program.sources.map fun file => (file.path, file.text) := by
      simp
    rw [hfile, hsources, List.mem_map]
    constructor
    · rintro ⟨⟨found, _⟩, hinput, heq⟩
      cases heq
      obtain ⟨hfound, hread⟩ := mem_readable.1 hinput
      obtain ⟨hfound, hextension⟩ := List.mem_filter.1 hfound
      obtain ⟨names, hsource, rfl⟩ :=
        (sourceAt_iff orderly).1 ⟨horder.mem_iff.1 hfound, hextension, hread⟩
      exact ⟨names, hsource, rfl⟩
    · rintro ⟨names, hsource, rfl⟩
      obtain ⟨hwalked, hextension, hread⟩ := (sourceAt_iff orderly).2 ⟨names, hsource, rfl⟩
      refine ⟨(root.below names, text), mem_readable.2 ⟨?_, hread⟩, rfl⟩
      exact List.mem_filter.2 ⟨horder.mem_iff.2 hwalked, hextension⟩

/-- The root is named like an excluded directory, one file is no text, and one is in an excluded
directory. -/
def walkSample : Snapshot :=
  let file (path text : String) : SnapshotFile := ⟨.ofText path, text.toUTF8, []⟩
  ⟨[file "/dist/a.ts" "type A = B", ⟨.ofText "/dist/bad.ts", ⟨#[0xFF]⟩, []⟩,
    file "/dist/run/c.ts" "type C = B", file "/dist/sub/b.mts" "type B = string"]⟩

/-- A parser that sees nothing in a text. -/
def blankParse : Parser := fun _ text =>
  some (Outline.inner (.other "program") 0 text.utf8ByteSize [] [])

theorem populate_holds_source_files_backwards :
    let begun := Workspace.new (.ofText "/dist") .standard
    let order := (begun.walked walkSample.disk).reverse
    blankParse.Total ∧ walkSample.disk.Orderly ∧ order.Perm (begun.walked walkSample.disk) ∧
      ∃ file ∈ (begun.populateIn blankParse walkSample.disk order).program.sources,
        file.path = .ofText "/dist/sub/b.mts" ∧ file.text = "type B = string" := by
  intro begun order
  have total : blankParse.Total := fun _ _ => rfl
  have orderly := Disk.orderly_snapshot walkSample
  have hsource : begun.SourceAt walkSample.disk [Text.bytes "sub", Text.bytes "b.mts"]
      "type B = string" :=
    ⟨⟨"type B = string".toUTF8, rfl, by decide +kernel⟩, by decide +kernel, by decide +kernel⟩
  have hpath : Path.ofText "/dist/sub/b.mts" =
      ((Path.ofText "/dist").below [Text.bytes "sub", Text.bytes "b.mts"]).normalize := by
    decide +kernel
  have horder : order.Perm (begun.walked walkSample.disk) := List.reverse_perm _
  obtain ⟨-, hholds⟩ := populate_holds_source_files total orderly (.ofText "/dist") .standard
  have hfile := ((hholds order horder).2 _ _).2 ⟨_, hsource, hpath⟩
  exact ⟨total, orderly, horder, hfile⟩

end Workspace

end Keypath
