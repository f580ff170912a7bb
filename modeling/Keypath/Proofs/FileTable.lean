import Keypath.Proofs.InsertionOrder
import Keypath.Proofs.Normalization

/-!
The files of a program, by path and by place.

A file is kept under the components of its own path, which is normalised, and its number is its
place. A path finds the same file as it is spelled and once it is normalised, namely the one that
was put there last; all others stay as they are.
-/

namespace Keypath

open Keypath.Tree

open SourceFile (parsed? unnumbered)

namespace Program

variable {program : Program}

theorem mem_sources_store {path : Path} {text : String} {tree : Node} {file : SourceFile}
    (h : file ∈ (program.store path text tree).sources) :
    file = ⟨program.numberFor path.normalize, path.normalize, text, tree⟩ ∨
      file ∈ program.sources := by
  obtain ⟨pair, hpair, rfl⟩ := List.mem_map.1 h
  rcases Table.mem_insert hpair with rfl | hpair
  · exact .inl rfl
  · exact .inr (List.mem_map_of_mem hpair)

namespace Built

theorem normalize_path (h : program.Built) {file : SourceFile} (hfile : file ∈ program.sources) :
    file.path.normalize = file.path := by
  induction h with
  | empty => cases hfile
  | store _ path text tree ih =>
      rcases mem_sources_store hfile with rfl | hfile
      · exact path.normalize_normalize
      · exact ih hfile

/-! Finding a file. -/

theorem get?_normalize (h : program.Built) {path : Path} {file : SourceFile}
    (hfound : program.files.get? path.components = some file) :
    program.files.get? path.normalize.components = some file := by
  obtain ⟨hfile, hcomponents⟩ := h.keyed.get?_eq_some.1 hfound
  refine h.keyed.get?_eq_some.2 ⟨hfile, ?_⟩
  calc file.path.components
    _ = file.path.normalize.components := by rw [h.normalize_path hfile]
    _ = Path.settled file.path.components := file.path.components_normalize
    _ = path.normalize.components := by rw [hcomponents, path.components_normalize]

theorem find?_eq_get? (h : program.Built) (path : Path) :
    program.find? path = program.files.get? path.normalize.components := by
  unfold find?
  split
  · rename_i file hfile
    exact (h.get?_normalize hfile).symm
  · rfl

theorem find?_store (h : program.Built) (path other : Path) (text : String) (tree : Node) :
    (program.store path text tree).find? other =
      if other.normalize = path.normalize then
        some ⟨program.numberFor path.normalize, path.normalize, text, tree⟩
      else program.find? other := by
  rw [(Built.store h path text tree).find?_eq_get?, h.find?_eq_get?]
  simp only [Program.store, Table.get?_insert, Path.normalize_eq_iff]

/-! Places. -/

theorem id_eq (h : program.Built) {place : Nat} {file : SourceFile}
    (hfile : program.sources[place]? = some file) : file.id = place := by
  have hid : (program.sources.map SourceFile.id)[place]? = some file.id := by
    rw [List.getElem?_map, hfile, Option.map_some]
  rw [h.map_id_sources] at hid
  exact (List.getElem?_eq_some_iff.1 hid).2.symm.trans (List.getElem_range _)

theorem getElem?_sources_store (h : program.Built) {place : Nat} {file : SourceFile}
    (hfile : program.sources[place]? = some file) (path : Path) (text : String) (tree : Node) :
    (program.store path text tree).sources[place]? =
      some (if file.path = path.normalize then ⟨place, path.normalize, text, tree⟩ else file) := by
  have hmem := List.mem_of_getElem? hfile
  rw [sources, Table.values, List.getElem?_map] at hfile
  obtain ⟨⟨key, found⟩, hpair, rfl⟩ := Option.map_eq_some_iff.1 hfile
  have hkey : key = path.normalize.components ↔ found.path = path.normalize := by
    obtain rfl : key = found.path.components := h.keyed.key_eq _ (List.mem_of_getElem? hpair)
    have hiff : found.path.normalize = path.normalize ↔
        found.path.normalize.components = path.normalize.components := Path.normalize_eq_iff
    rw [h.normalize_path hmem] at hiff
    exact hiff.symm
  have hstored : (program.store path text tree).sources[place]? =
      some (if found.path = path.normalize then
        ⟨program.numberFor path.normalize, path.normalize, text, tree⟩ else found) := by
    simp only [Program.store, sources, Table.values, Table.insert, List.getElem?_map,
      Table.getElem?_write h.keyed.nodup hpair, hkey, Option.map_some]
    split <;> rfl
  by_cases hpath : found.path = path.normalize
  · rw [if_pos hpath] at hstored ⊢
    have hnumber := (Built.store h path text tree).id_eq hstored
    rw [hstored, ← hnumber]
  · rw [hstored, if_neg hpath, if_neg hpath]

end Built

/-! Several files. -/

theorem insertAll_append (parse : Parser) (program : Program)
    (earlier later : List (Path × String)) :
    program.insertAll parse (earlier ++ later) =
      (program.insertAll parse earlier).insertAll parse later :=
  List.foldl_append

theorem Built.place_insertAll (h : program.Built) (parse : Parser)
    (inputs : List (Path × String)) {place : Nat} {file : SourceFile}
    (hfile : program.sources[place]? = some file) :
    ∃ kept, (program.insertAll parse inputs).sources[place]? = some kept ∧
      kept.path = file.path ∧ kept.id = file.id := by
  induction inputs generalizing program file with
  | nil => exact ⟨file, hfile, rfl, rfl⟩
  | cons input rest ih =>
      unfold Program.insertAll
      rw [List.foldl_cons]
      rcases insert?_cases parse program input with ⟨_, hnext⟩ | ⟨tree, _, hnext⟩
      · rw [hnext]
        exact ih h hfile
      · rw [hnext]
        have hstored := h.getElem?_sources_store hfile input.1 input.2 tree
        obtain ⟨kept, hkept, hpath, hid⟩ := ih (.store h _ _ _) hstored
        refine ⟨kept, hkept, ?_⟩
        rw [hpath, hid]
        by_cases hinput : file.path = input.1.normalize
        · rw [if_pos hinput]
          exact ⟨hinput.symm, (h.id_eq hfile).symm⟩
        · rw [if_neg hinput]
          exact ⟨rfl, rfl⟩

theorem Built.find?_insertAll (h : program.Built) (parse : Parser)
    (inputs : List (Path × String)) (path : Path) :
    ((program.insertAll parse inputs).find? path).map unnumbered =
      (((inputs.filterMap (parsed? parse)).reverse.find? fun file =>
        file.path = path.normalize).or ((program.find? path).map unnumbered)) := by
  induction inputs generalizing program with
  | nil => rfl
  | cons input rest ih =>
      unfold Program.insertAll
      rw [List.foldl_cons, List.filterMap_cons]
      rcases insert?_cases parse program input with ⟨hparsed, hnext⟩ | ⟨tree, hparsed, hnext⟩
      · rw [hparsed, hnext]
        exact ih h
      · rw [hparsed, hnext]
        refine (ih (.store h _ _ _)).trans ?_
        rw [h.find?_store, List.reverse_cons, List.find?_append, Option.or_assoc]
        congr 1
        by_cases hinput : input.1.normalize = path.normalize
        · simp [hinput, unnumbered]
        · simp [hinput, Ne.symm hinput]

/-- However files are put into a program: each has its place as its number, stands under its own
normalised path, which no other file has, and keeps path, number and place from then on; and a path,
however it is spelled, finds the file that was put last at what it normalises to. -/
theorem insertAll_keeps_table (parse : Parser) (earlier later : List (Path × String)) :
    let program := empty.insertAll parse (earlier ++ later)
    (∀ (place : Nat) (key : List Component) (file : SourceFile),
      program.files.entries[place]? = some (key, file) →
        file.id = place ∧ key = file.path.components ∧ file.path.normalize = file.path) ∧
    (program.sources.map fun file => file.path.components).Nodup ∧
    (∀ (place : Nat) (file : SourceFile),
      (empty.insertAll parse earlier).sources[place]? = some file →
        ∃ kept, program.sources[place]? = some kept ∧
          kept.path = file.path ∧ kept.id = file.id) ∧
    (∀ path, (program.find? path).map unnumbered =
      ((earlier ++ later).filterMap (parsed? parse)).reverse.find? fun file =>
        file.path = path.normalize) ∧
    ∀ (path : Path) (file : SourceFile), program.files.get? path.components = some file →
      program.files.get? path.normalize.components = some file := by
  intro program
  have built : program.Built := Built.empty.insertAll parse (earlier ++ later)
  refine ⟨?_, ?_, ?_, ?_, fun path file => built.get?_normalize⟩
  · intro place key file hentry
    have hfile : program.sources[place]? = some file := by
      rw [sources, Table.values, List.getElem?_map, hentry, Option.map_some]
    exact ⟨built.id_eq hfile, built.keyed.key_eq _ (List.mem_of_getElem? hentry),
      built.normalize_path (List.mem_of_getElem? hfile)⟩
  · have hkeys : program.sources.map (fun file => file.path.components) = program.files.keys := by
      simp only [sources, Table.values, Table.keys, List.map_map]
      exact List.map_congr_left fun pair hpair => (built.keyed.key_eq pair hpair).symm
    rw [hkeys]
    exact built.keyed.nodup
  · intro place file hfile
    have hkept := (Built.empty.insertAll parse earlier).place_insertAll parse later hfile
    rwa [← insertAll_append] at hkept
  · intro path
    rw [Built.empty.find?_insertAll parse (earlier ++ later) path]
    exact Option.or_none

end Program

end Keypath
