import Keypath.Proofs.Correspondence

/-!
The order in which files are put into a program.

It shows in the numbers of the files, and in the order in which scripts are searched. No answer
reads the numbers, and the order of the scripts shows only in a name that two of them declare.
-/

namespace Keypath

open Keypath.Tree

namespace SourceFile

def unnumbered (file : SourceFile) : SourceFile := { file with id := 0 }

theorem alike_of_unnumbered_eq {file twin : SourceFile} (h : file.unnumbered = twin.unnumbered) :
    file.Alike twin := by
  obtain ⟨id, path, text, tree⟩ := file
  obtain ⟨id', path', text', tree'⟩ := twin
  simp only [unnumbered, SourceFile.mk.injEq, true_and] at h
  obtain ⟨rfl, rfl, rfl⟩ := h
  exact .intro id id' path text tree

/-- The file that a text is at a path, if it can be parsed, without its number. -/
def parsed? (parse : Parser) (input : Path × String) : Option SourceFile :=
  (parse (.ofPath input.1.normalize) input.2).map (SourceFile.mk 0 input.1.normalize input.2)

def typeNames (file : SourceFile) : List String :=
  (file.topLevel.filter fun focus => focus.kind.isDeclaration).filterMap fun focus =>
    (focus.child? .name).map file.textOf

theorem definitionsOf_eq_nil {file : SourceFile} {name : String} (h : name ∉ file.typeNames) :
    file.definitionsOf name = [] := by
  rw [definitionsOf, List.filterMap_eq_nil_iff]
  intro focus hfocus
  split
  · rename_i hdeclaration
    split
    · rename_i ident hident
      refine if_neg fun hname => h ?_
      refine List.mem_filterMap.2 ⟨focus, List.mem_filter.2 ⟨hfocus, hdeclaration⟩, ?_⟩
      rw [hident, Option.map_some, hname]
    · rfl
  · rfl

/-- Scripts that declare no type name twice between them. -/
def Apart (script other : SourceFile) : Prop :=
  script.isModule = false → other.isModule = false →
    ∀ name ∈ script.typeNames, name ∉ other.typeNames

instance (script other : SourceFile) : Decidable (script.Apart other) :=
  inferInstanceAs (Decidable (_ → _ → _))

theorem Apart.definitionsOf_eq_nil {script other : SourceFile} (h : script.Apart other)
    (hscript : script.isModule = false) (hother : other.isModule = false) (name : String) :
    script.definitionsOf name = [] ∨ other.definitionsOf name = [] := by
  by_cases hname : name ∈ script.typeNames
  · exact .inr (SourceFile.definitionsOf_eq_nil (h hscript hother name hname))
  · exact .inl (SourceFile.definitionsOf_eq_nil hname)

end SourceFile

open SourceFile (parsed? unnumbered)

namespace Program

def insertAll (parse : Parser) (program : Program) (inputs : List (Path × String)) : Program :=
  inputs.foldl (fun program input => (program.insert? parse input.1 input.2).getD program) program

/-! Numbers. -/

theorem ids_store_of_position {program : Program} {path : Path} {place : Nat}
    (hplace : program.files.position? path.normalize.components = some place)
    (hid : (program.sources.map SourceFile.id)[place]? = some place) (text : String)
    (tree : Node) :
    (program.store path text tree).sources.map SourceFile.id =
      program.sources.map SourceFile.id := by
  simp only [store, sources, Table.values, Table.insert, List.map_map] at hid ⊢
  refine Table.map_write_of_findIdx? hplace (hid.trans ?_)
  simp only [numberFor, hplace, Option.getD_some]

theorem Built.map_id_sources {program : Program} (h : program.Built) :
    program.sources.map SourceFile.id = List.range program.sources.length := by
  induction h with
  | empty => rfl
  | @store program built path text tree ih =>
      cases hplace : program.files.position? path.normalize.components with
      | none =>
          have hkey : path.normalize.components ∉ program.files.keys := by
            intro hkey
            have hnone := List.findIdx?_eq_none_iff.1 hplace _ hkey
            simp at hnone
          have hnumber : program.numberFor path.normalize = program.sources.length := by
            simp only [numberFor, hplace, Option.getD_none, size, Table.size, sources,
              Table.values, List.length_map]
          rw [sources_store_of_notMem hkey, List.map_append, ih, hnumber, List.length_append,
            List.length_singleton, List.range_succ]
          rfl
      | some place =>
          have hlt : place < program.sources.length := by
            obtain ⟨hlt, _⟩ := List.findIdx?_eq_some_iff_getElem.1 hplace
            simpa only [Table.keys, List.length_map, sources, Table.values] using hlt
          have hids := ids_store_of_position hplace
            (by rw [ih, List.getElem?_range hlt]) text tree
          have hlength := congrArg List.length hids
          rw [List.length_map, List.length_map] at hlength
          rw [hids, ih, hlength]

theorem Built.eq_of_number_eq {program : Program} (h : program.Built) {file other : SourceFile}
    (hfile : file ∈ program.sources) (hother : other ∈ program.sources)
    (hnumber : file.id = other.id) : file = other := by
  have hnodup : (program.sources.map SourceFile.id).Nodup := by
    rw [h.map_id_sources]
    exact List.nodup_range
  exact List.inj_on_of_nodup_map hnodup hfile hother hnumber

/-- The number of a file stands for its path: it tells the same nodes apart. -/
theorem Built.id_eq_iff {program : Program} (h : program.Built) {site other : Site}
    (hsite : site ∈ program.sites) (hother : other ∈ program.sites) :
    site.id = other.id ↔
      site.file.id = other.file.id ∧ site.focus.address = other.focus.address := by
  constructor
  · intro hid
    obtain rfl := h.eq_of_id_eq hsite hother hid
    exact ⟨rfl, rfl⟩
  · rintro ⟨hnumber, haddress⟩
    have hfile := h.eq_of_number_eq (mem_sites.1 hsite).1 (mem_sites.1 hother).1 hnumber
    rw [Site.id, Site.id, hfile, haddress]

/-! The files of a program that others are put into. -/

theorem not_mem_keys_store {program : Program} {path : Path} {key : List Component}
    (hkey : key ∉ program.files.keys) (hpath : key ≠ path.normalize.components) (text : String)
    (tree : Node) : key ∉ (program.store path text tree).files.keys := by
  intro hmem
  rcases Table.mem_keys_insert.1 hmem with hmem | hmem
  · exact hkey hmem
  · exact hpath hmem

theorem insert?_cases (parse : Parser) (program : Program) (input : Path × String) :
    parsed? parse input = none ∧
        (program.insert? parse input.1 input.2).getD program = program ∨
      ∃ tree, parsed? parse input = some ⟨0, input.1.normalize, input.2, tree⟩ ∧
        (program.insert? parse input.1 input.2).getD program =
          program.store input.1 input.2 tree := by
  unfold parsed? insert?
  cases parse (.ofPath input.1.normalize) input.2 with
  | none => exact .inl ⟨rfl, rfl⟩
  | some tree => exact .inr ⟨tree, rfl, rfl⟩

theorem Built.insertAll {program : Program} (h : program.Built) (parse : Parser)
    (inputs : List (Path × String)) : (program.insertAll parse inputs).Built := by
  induction inputs generalizing program with
  | nil => exact h
  | cons input rest ih =>
      unfold Program.insertAll
      rw [List.foldl_cons]
      rcases insert?_cases parse program input with ⟨_, hnext⟩ | ⟨tree, _, hnext⟩
      · rw [hnext]
        exact ih h
      · rw [hnext]
        exact ih (.store h input.1 input.2 tree)

theorem map_unnumbered_insertAll (parse : Parser) (program : Program)
    {inputs : List (Path × String)}
    (hinputs : (inputs.map fun input => input.1.normalize.components).Nodup)
    (hnew : ∀ input ∈ inputs, input.1.normalize.components ∉ program.files.keys) :
    (program.insertAll parse inputs).sources.map unnumbered =
      program.sources.map unnumbered ++ inputs.filterMap (parsed? parse) := by
  induction inputs generalizing program with
  | nil => simp [insertAll]
  | cons input rest ih =>
      rw [List.map_cons, List.nodup_cons] at hinputs
      have hrest : ∀ other ∈ rest, other.1.normalize.components ∉ program.files.keys :=
        fun other hother => hnew other (List.mem_cons_of_mem _ hother)
      unfold insertAll
      rw [List.foldl_cons, List.filterMap_cons]
      rcases insert?_cases parse program input with ⟨hparsed, hnext⟩ | ⟨tree, hparsed, hnext⟩
      · rw [hparsed, hnext]
        exact ih program hinputs.2 hrest
      · rw [hparsed, hnext]
        refine (ih _ hinputs.2 ?_).trans ?_
        · intro other hother
          refine not_mem_keys_store (hrest other hother) ?_ _ _
          rintro heq
          exact hinputs.1 (List.mem_map.2 ⟨other, hother, heq⟩)
        · rw [sources_store_of_notMem (hnew input List.mem_cons_self), List.map_append,
            List.append_assoc]
          rfl

/-! Scripts. -/

theorem flatMap_eq_of_perm {α β : Type} {items others : List α} {parts : α → List β}
    (hperm : items.Perm others) (h : items.Pairwise fun a b => parts a = [] ∨ parts b = []) :
    items.flatMap parts = others.flatMap parts := by
  induction hperm with
  | nil => rfl
  | cons a _ ih => rw [List.flatMap_cons, List.flatMap_cons, ih (List.pairwise_cons.1 h).2]
  | swap a b rest =>
      have hpair := (List.pairwise_cons.1 h).1 a List.mem_cons_self
      simp only [List.flatMap_cons]
      rcases hpair with hb | ha
      · simp [hb]
      · simp [ha]
  | trans hfirst _ ih ih' =>
      have hmiddle := (hfirst.pairwise_iff fun hpair => hpair.symm).1 h
      rw [ih h, ih' hmiddle]

/-- What the scripts of a list declare under a name. -/
def declaredBy (name : String) (files : List SourceFile) : List Definition :=
  (files.filter fun script => !script.isModule).flatMap fun script => script.definitionsOf name

theorem Built.globals_eq {program : Program} (h : program.Built) {file : SourceFile}
    (hfile : file ∈ program.sources) {name : String} (hown : file.definitionsOf name = []) :
    program.globals file name = declaredBy name (program.sources.map unnumbered) := by
  unfold globals
  have hall : ∀ script ∈ program.sources, script.id = file.id → script = file :=
    fun script hscript => h.eq_of_number_eq hscript hfile
  generalize program.sources = files at hall
  induction files with
  | nil => rfl
  | cons script rest ih =>
      have hrest := ih fun other hother => hall other (List.mem_cons_of_mem _ hother)
      have hmodule : script.unnumbered.isModule = script.isModule := rfl
      have hdefinitions : script.unnumbered.definitionsOf name = script.definitionsOf name := rfl
      simp only [declaredBy, List.map_cons, List.filter_cons, hmodule] at hrest ⊢
      cases script.isModule with
      | true => simpa using hrest
      | false =>
          by_cases hid : script.id = file.id
          · -- the file itself is left out, and would add nothing
            rw [hall script List.mem_cons_self hid] at hdefinitions ⊢
            simpa [hdefinitions, hown] using hrest
          · simpa [hid, hdefinitions] using hrest

theorem declaredBy_eq_of_perm {name : String} {files others : List SourceFile}
    (hperm : files.Perm others) (hapart : files.Pairwise SourceFile.Apart) :
    declaredBy name files = declaredBy name others := by
  refine flatMap_eq_of_perm (hperm.filter _) ?_
  rw [List.pairwise_filter]
  refine hapart.imp ?_
  intro script other hpair hscript hother
  exact hpair.definitionsOf_eq_nil (by simpa using hscript) (by simpa using hother) name

/-! Two orders. -/

/-- The same file under two numbers. -/
def Renumbered (program other : Program) (file twin : SourceFile) : Prop :=
  file ∈ program.sources ∧ twin ∈ other.sources ∧ file.Alike twin

theorem exists_alike {files others : List SourceFile}
    (hperm : (files.map unnumbered).Perm (others.map unnumbered)) {file : SourceFile}
    (hfile : file ∈ files) : ∃ twin ∈ others, file.Alike twin := by
  obtain ⟨twin, htwin, heq⟩ := List.mem_map.1 (hperm.subset (List.mem_map_of_mem hfile))
  exact ⟨twin, htwin, SourceFile.alike_of_unnumbered_eq heq.symm⟩

theorem paired_of_perm {program other : Program}
    (hperm : (program.sources.map unnumbered).Perm (other.sources.map unnumbered)) :
    program.Paired other (Renumbered program other) where
  path_eq := fun h => h.2.2.path_eq
  exists_twin := by
    intro file hfile
    obtain ⟨twin, htwin, halike⟩ := exists_alike hperm hfile
    exact ⟨twin, htwin, hfile, htwin, halike⟩
  exists_file := by
    intro twin htwin
    obtain ⟨file, hfile, halike⟩ := exists_alike hperm.symm htwin
    exact ⟨file, hfile, hfile, htwin, halike.symm⟩

theorem correspondence_of_perm {program other : Program} (hprogram : program.Built)
    (hother : other.Built)
    (hperm : (program.sources.map unnumbered).Perm (other.sources.map unnumbered))
    (hapart : (program.sources.map unnumbered).Pairwise SourceFile.Apart) :
    Correspondence program other (Renumbered program other) where
  alike := fun h => h.2.2
  find? := fun h => ⟨hprogram.keyed.find?_path h.1, hother.keyed.find?_path h.2.1⟩
  module? := by
    intro file twin h specifier _
    exact (paired_of_perm hperm).module?_rel hprogram.keyed hother.keyed h.2.2.path_eq specifier
  globals_eq := by
    intro file twin ⟨hfile, htwin, halike⟩ name hown
    have hown' : twin.definitionsOf name = [] := (halike.definitionsOf_eq name).symm.trans hown
    rw [hprogram.globals_eq hfile hown, hother.globals_eq htwin hown']
    exact declaredBy_eq_of_perm hperm hapart
  exists_script := by
    intro file twin _ name definition hdefinition
    obtain ⟨script, hscript, hdefinition⟩ := List.mem_flatMap.1 hdefinition
    have hmem := (List.mem_filter.1 hscript).1
    obtain ⟨twin, htwin, halike⟩ := exists_alike hperm hmem
    exact ⟨script, twin, ⟨hmem, htwin, halike⟩,
      SourceFile.file_eq_of_mem_definitionsOf hdefinition⟩

/-- Files at different paths, of which no two scripts declare the same type name, may be put into a
program in any order: a request has the same schema and the same events, or the same error. -/
theorem resolve_insertAll_of_perm (parse : Parser) {inputs others : List (Path × String)}
    (hperm : inputs.Perm others)
    (hpaths : (inputs.map fun input => input.1.normalize.components).Nodup)
    (hscripts : (inputs.filterMap (parsed? parse)).Pairwise SourceFile.Apart)
    (path : Path) (marker : String) :
    (empty.insertAll parse inputs).resolve path marker =
      (empty.insertAll parse others).resolve path marker := by
  have hfirst := Built.empty.insertAll parse inputs
  have hsecond := Built.empty.insertAll parse others
  have hsources := map_unnumbered_insertAll parse empty hpaths fun _ _ h => nomatch h
  have hsources' := map_unnumbered_insertAll parse empty ((hperm.map _).nodup_iff.1 hpaths)
    fun _ _ h => nomatch h
  have hsame : ((empty.insertAll parse inputs).sources.map unnumbered).Perm
      ((empty.insertAll parse others).sources.map unnumbered) := by
    rw [hsources, hsources']
    exact (hperm.filterMap _).append_left _
  have hapart : ((empty.insertAll parse inputs).sources.map unnumbered).Pairwise
      SourceFile.Apart := by
    rw [hsources]
    exact hscripts
  have hfound := (paired_of_perm hsame).find?_rel hfirst.keyed hsecond.keyed path
  exact (correspondence_of_perm hfirst hsecond hsame hapart).resolve_eq hfirst hsecond hfound marker

/-- `A` extends `B` and has a key of type `C`, each in a script of its own; the last text is none
of the language. -/
def scatteredSample : List (Path × String) :=
  [(.ofText "/ws/a.ts", Outline.text ⟨'A', some 'B', [⟨'k', some 'C'⟩]⟩),
   (.ofText "/ws/b.ts", Outline.text ⟨'B', none, [⟨'l', none⟩]⟩),
   (.ofText "/ws/c.ts", Outline.text ⟨'C', none, [⟨'m', none⟩]⟩),
   (.ofText "/ws/d.ts", "interface \x7b")]

def scatteredParse : Parser := fun _ text =>
  ([⟨'A', some 'B', [⟨'k', some 'C'⟩]⟩, ⟨'B', none, [⟨'l', none⟩]⟩, ⟨'C', none, [⟨'m', none⟩]⟩].find?
    fun outline => Outline.text outline = text).map fun outline => Outline.sourceTree [outline]

set_option maxRecDepth 10000 in
theorem resolve_insertAll_of_perm_scattered :
    let inputs := scatteredSample
    (inputs.map fun input => input.1.normalize.components).Nodup ∧
      (inputs.filterMap (parsed? scatteredParse)).Pairwise SourceFile.Apart ∧
      (((empty.insertAll scatteredParse inputs).resolve (.ofText "/ws/a.ts") "B").toOption.map
        fun answer => answer.schema.keys) = some ["l", "k"] ∧
      (empty.insertAll scatteredParse inputs).resolve (.ofText "/ws/a.ts") "B" =
        (empty.insertAll scatteredParse inputs.reverse).resolve (.ofText "/ws/a.ts") "B" := by
  intro inputs
  have hpaths : (inputs.map fun input => input.1.normalize.components).Nodup := by decide +kernel
  have hscripts : (inputs.filterMap (parsed? scatteredParse)).Pairwise SourceFile.Apart := by
    decide +kernel
  exact ⟨hpaths, hscripts, by decide +kernel,
    resolve_insertAll_of_perm scatteredParse (List.reverse_perm inputs).symm hpaths hscripts _ _⟩

end Program

end Keypath
