import Mathlib.Data.List.Forall2
import Keypath.Completion
import Keypath.Proofs.Hops
import Keypath.Proofs.Relocation
import Keypath.Proofs.Schema.Budget
import Keypath.Proofs.Schema.Simulation

/-!
Requests to two programs whose files go in pairs.

A request reads the file it names, the files that its specifiers lead to, and the scripts. Where
these go in pairs that only the numbers of files tell apart, the answers are the same.
-/

namespace Keypath

open Keypath.Tree

namespace SourceFile

def specifiers (file : SourceFile) : List String :=
  file.imports.map Import.specifier ++ file.namespaceImports.map NamespaceImport.specifier ++
    file.reexports.map Reexport.specifier

theorem file_eq_of_mem_definitionsOf {file : SourceFile} {name : String} {definition : Definition}
    (h : definition ∈ file.definitionsOf name) : definition.file = file.path := by
  obtain ⟨_, _, _, _, _, _, rfl⟩ := mem_definitionsOf.1 h
  rfl

namespace Alike

variable {file twin : SourceFile}

theorem path_eq (h : file.Alike twin) : file.path = twin.path := by
  cases h
  rfl

theorem definitionsOf_eq (h : file.Alike twin) (name : String) :
    file.definitionsOf name = twin.definitionsOf name := by
  cases h
  rfl

theorem imports_eq (h : file.Alike twin) : file.imports = twin.imports := by
  cases h
  rfl

theorem namespaceImports_eq (h : file.Alike twin) :
    file.namespaceImports = twin.namespaceImports := by
  cases h
  rfl

theorem reexports_eq (h : file.Alike twin) : file.reexports = twin.reexports := by
  cases h
  rfl

theorem defaultName?_eq (h : file.Alike twin) : file.defaultName? = twin.defaultName? := by
  cases h
  rfl

theorem textOf_eq (h : file.Alike twin) : file.textOf = twin.textOf := by
  cases h
  rfl

theorem referenceAt?_eq (h : file.Alike twin) : file.referenceAt? = twin.referenceAt? := by
  cases h
  rfl

theorem localName_eq (h : file.Alike twin) (name : String) :
    file.localName name = twin.localName name := by
  cases h
  rfl

end Alike

end SourceFile

namespace Program

/-! Files found by path. -/

theorem rel_cases {α β : Type} {Rel : α → β → Prop} {first : Option α} {second : Option β}
    (h : Option.Rel Rel first second) :
    first = none ∧ second = none ∨ ∃ a b, first = some a ∧ second = some b ∧ Rel a b := by
  cases h with
  | some hpair => exact .inr ⟨_, _, rfl, rfl, hpair⟩
  | none => exact .inl ⟨rfl, rfl⟩

/-- The files of two programs in pairs, each pair at one path. -/
structure Paired (program other : Program) (Pair : SourceFile → SourceFile → Prop) : Prop where
  path_eq : ∀ {file twin : SourceFile}, Pair file twin → file.path = twin.path
  exists_twin : ∀ file ∈ program.sources, ∃ twin ∈ other.sources, Pair file twin
  exists_file : ∀ twin ∈ other.sources, ∃ file ∈ program.sources, Pair file twin

theorem Keyed.get?_eq_some {program : Program} (h : program.Keyed) {key : List Component}
    {file : SourceFile} :
    program.files.get? key = some file ↔
      file ∈ program.sources ∧ file.path.components = key := by
  constructor
  · intro hget
    have hpair := Table.mem_of_get? hget
    exact ⟨List.mem_map.2 ⟨_, hpair, rfl⟩, (h.key_eq _ hpair).symm⟩
  · rintro ⟨hfile, rfl⟩
    obtain ⟨⟨key, file⟩, hpair, rfl⟩ := List.mem_map.1 hfile
    obtain rfl : key = file.path.components := h.key_eq _ hpair
    exact Table.lookup?_of_mem h.nodup hpair

section Paired

variable {program other : Program} {Pair : SourceFile → SourceFile → Prop}

theorem Paired.get?_rel (h : program.Paired other Pair) (hprogram : program.Keyed)
    (hother : other.Keyed) (key : List Component) :
    Option.Rel Pair (program.files.get? key) (other.files.get? key) := by
  have hkey {file twin : SourceFile} (hpair : Pair file twin) :
      file.path.components = twin.path.components := by rw [h.path_eq hpair]
  cases hget : program.files.get? key with
  | some file =>
      obtain ⟨hfile, rfl⟩ := hprogram.get?_eq_some.1 hget
      obtain ⟨twin, htwin, hpair⟩ := h.exists_twin file hfile
      rw [hother.get?_eq_some.2 ⟨htwin, (hkey hpair).symm⟩]
      exact .some hpair
  | none =>
      cases hget' : other.files.get? key with
      | none => exact .none
      | some twin =>
          obtain ⟨htwin, rfl⟩ := hother.get?_eq_some.1 hget'
          obtain ⟨file, hfile, hpair⟩ := h.exists_file twin htwin
          rw [hprogram.get?_eq_some.2 ⟨hfile, hkey hpair⟩] at hget
          cases hget

theorem Paired.find?_rel (h : program.Paired other Pair) (hprogram : program.Keyed)
    (hother : other.Keyed) (path : Path) :
    Option.Rel Pair (program.find? path) (other.find? path) := by
  unfold find?
  rcases rel_cases (h.get?_rel hprogram hother path.components) with
    ⟨hfile, htwin⟩ | ⟨file, twin, hfile, htwin, hpair⟩
  · simp only [hfile, htwin]
    exact h.get?_rel hprogram hother path.normalize.components
  · simp only [hfile, htwin]
    exact .some hpair

theorem findSome?_rel {α β γ : Type} {Rel : β → γ → Prop} {first : α → Option β}
    {second : α → Option γ} (h : ∀ a, Option.Rel Rel (first a) (second a)) (items : List α) :
    Option.Rel Rel (items.findSome? first) (items.findSome? second) := by
  induction items with
  | nil => exact .none
  | cons a rest ih =>
      rw [List.findSome?_cons, List.findSome?_cons]
      rcases rel_cases (h a) with ⟨hfirst, hsecond⟩ | ⟨b, c, hfirst, hsecond, hpair⟩
      · simp only [hfirst, hsecond]
        exact ih
      · simp only [hfirst, hsecond]
        exact .some hpair

theorem Paired.module?_rel (h : program.Paired other Pair) (hprogram : program.Keyed)
    (hother : other.Keyed) {file twin : SourceFile} (hpath : file.path = twin.path)
    (specifier : String) :
    Option.Rel Pair (program.module? file specifier) (other.module? twin specifier) := by
  unfold module?
  rw [hpath]
  split
  · exact findSome?_rel (fun path : Path => h.find?_rel hprogram hother path.normalize) _
  · exact .none

end Paired

end Program

/-- `Kin` pairs the files that a request reads: it holds on to the modules that specifiers lead to,
and to the scripts that names are found in. -/
structure Correspondence (program other : Program) (Kin : SourceFile → SourceFile → Prop) :
    Prop where
  alike : ∀ {file twin : SourceFile}, Kin file twin → file.Alike twin
  find? : ∀ {file twin : SourceFile}, Kin file twin →
    program.find? file.path = some file ∧ other.find? twin.path = some twin
  module? : ∀ {file twin : SourceFile}, Kin file twin → ∀ specifier ∈ file.specifiers,
    Option.Rel Kin (program.module? file specifier) (other.module? twin specifier)
  globals_eq : ∀ {file twin : SourceFile}, Kin file twin → ∀ name : String,
    file.definitionsOf name = [] → program.globals file name = other.globals twin name
  exists_script : ∀ {file twin : SourceFile}, Kin file twin → ∀ name : String,
    ∀ definition ∈ program.globals file name,
      ∃ script twin, Kin script twin ∧ definition.file = script.path

namespace Correspondence

open Program (rel_cases)

/-- A definition in a file that both programs have. -/
inductive Shared (Kin : SourceFile → SourceFile → Prop) : Definition → Definition → Prop where
  | intro {file twin : SourceFile} (hkin : Kin file twin) {definition : Definition}
      (hfile : definition.file = file.path) : Shared Kin definition definition

inductive SharedExport (Kin : SourceFile → SourceFile → Prop) : Export → Export → Prop where
  | intro {file twin : SourceFile} (hkin : Kin file twin) (name : String) :
      SharedExport Kin ⟨file, name⟩ ⟨twin, name⟩

/-- The same place of files that go together. -/
inductive SharedSite (Kin : SourceFile → SourceFile → Prop) : Site → Site → Prop where
  | intro {file twin : SourceFile} (hkin : Kin file twin) (focus : Focus) :
      SharedSite Kin ⟨file, focus⟩ ⟨twin, focus⟩

variable {program other : Program} {Kin : SourceFile → SourceFile → Prop}
variable {file twin : SourceFile}

/-! What a name means in a file and in its twin. -/

theorem shared_definitionsOf (h : Correspondence program other Kin) (hkin : Kin file twin)
    (name : String) :
    List.Forall₂ (Shared Kin) (file.definitionsOf name) (twin.definitionsOf name) := by
  rw [← (h.alike hkin).definitionsOf_eq, List.forall₂_same]
  exact fun _ hdefinition => .intro hkin (SourceFile.file_eq_of_mem_definitionsOf hdefinition)

theorem shared_source? (h : Correspondence program other Kin) (hkin : Kin file twin)
    {binding : Import} (hbinding : binding ∈ file.imports) :
    Option.Rel (SharedExport Kin) (program.source? file binding) (other.source? twin binding) := by
  have hspecifier : binding.specifier ∈ file.specifiers := by
    simp only [SourceFile.specifiers, List.mem_append]
    exact .inl (.inl (List.mem_map_of_mem hbinding))
  unfold Program.source?
  rcases rel_cases (h.module? hkin _ hspecifier) with
    ⟨hfirst, hsecond⟩ | ⟨target, target', hfirst, hsecond, htarget⟩
  · rw [hfirst, hsecond]
    exact .none
  · rw [hfirst, hsecond]
    exact .some (.intro htarget _)

theorem shared_passedSources (h : Correspondence program other Kin) (hkin : Kin file twin)
    (name : String) {statement : Reexport} (hstatement : statement ∈ file.reexports) :
    List.Forall₂ (SharedExport Kin) (program.passedSources file name statement)
      (other.passedSources twin name statement) := by
  have hspecifier : statement.specifier ∈ file.specifiers := by
    simp only [SourceFile.specifiers, List.mem_append]
    exact .inr (List.mem_map_of_mem hstatement)
  unfold Program.passedSources
  rcases rel_cases (h.module? hkin _ hspecifier) with
    ⟨hfirst, hsecond⟩ | ⟨target, target', hfirst, hsecond, htarget⟩
  · simp only [hfirst, hsecond]
    exact .nil
  · simp only [hfirst, hsecond]
    cases statement.listed with
    | none => exact .cons (.intro htarget name) .nil
    | some names =>
        simp only [List.forall₂_map_left_iff, List.forall₂_map_right_iff, List.forall₂_same]
        exact fun passed _ => .intro htarget passed.taken

theorem shared_defaultSource (h : Correspondence program other Kin) (hkin : Kin file twin)
    (name : String) :
    List.Forall₂ (SharedExport Kin) (program.defaultSource file name)
      (other.defaultSource twin name) := by
  unfold Program.defaultSource
  rw [← (h.alike hkin).imports_eq]
  cases hfind : file.imports.find? fun binding => binding.bound = name with
  | none => exact .nil
  | some binding =>
      rcases rel_cases (h.shared_source? hkin (List.mem_of_find?_eq_some hfind)) with
        ⟨hfirst, hsecond⟩ | ⟨source, source', hfirst, hsecond, hsource⟩
      · simp only [hfirst, hsecond]
        exact .nil
      · simp only [hfirst, hsecond]
        exact .cons hsource .nil

theorem shared_sourcesOf (h : Correspondence program other Kin) (hkin : Kin file twin)
    (name : String) :
    List.Forall₂ (SharedExport Kin) (program.sourcesOf ⟨file, name⟩)
      (other.sourcesOf ⟨twin, name⟩) := by
  unfold Program.sourcesOf
  simp only [← (h.alike hkin).defaultName?_eq, ← (h.alike hkin).reexports_eq]
  split
  · exact h.shared_defaultSource hkin _
  · refine List.rel_flatten ?_
    rw [List.forall₂_map_left_iff, List.forall₂_map_right_iff, List.forall₂_same]
    exact fun statement hstatement => h.shared_passedSources hkin _ hstatement

theorem shared_own (h : Correspondence program other Kin) (hkin : Kin file twin) (name : String)
    {rest rest' : List Definition}
    (hrest : file.definitionsOf name = [] → List.Forall₂ (Shared Kin) rest rest') :
    List.Forall₂ (Shared Kin)
      (match file.definitionsOf name with
        | [] => rest
        | own => own)
      (match twin.definitionsOf name with
        | [] => rest'
        | own => own) := by
  have hown := h.shared_definitionsOf hkin name
  rw [← (h.alike hkin).definitionsOf_eq] at hown ⊢
  split
  · rename_i hnone
    exact hrest hnone
  · exact hown

theorem shared_exported (h : Correspondence program other Kin) (hops : Nat)
    {wanted wanted' : Export} (hwanted : SharedExport Kin wanted wanted') :
    List.Forall₂ (Shared Kin) (program.exported hops wanted) (other.exported hops wanted') := by
  induction hops generalizing wanted wanted' with
  | zero =>
      obtain ⟨hkin, name⟩ := hwanted
      simp only [Program.exported, (h.alike hkin).localName_eq]
      exact h.shared_definitionsOf hkin _
  | succ hops ih =>
      obtain ⟨hkin, name⟩ := hwanted
      simp only [Program.exported, (h.alike hkin).localName_eq]
      apply h.shared_own hkin
      intro _
      exact List.rel_flatMap (h.shared_sourcesOf hkin name) fun _ _ hnext => ih hnext

theorem shared_imported? (h : Correspondence program other Kin) (hkin : Kin file twin)
    (name : String) :
    Option.Rel (List.Forall₂ (Shared Kin)) (program.imported? file name)
      (other.imported? twin name) := by
  unfold Program.imported?
  rw [← (h.alike hkin).imports_eq]
  cases hfind : file.imports.find? fun binding => binding.bound = name with
  | none => exact .none
  | some binding =>
      refine .some ?_
      rcases rel_cases (h.shared_source? hkin (List.mem_of_find?_eq_some hfind)) with
        ⟨hfirst, hsecond⟩ | ⟨source, source', hfirst, hsecond, hsource⟩
      · simp only [hfirst, hsecond]
        exact .nil
      · simp only [hfirst, hsecond]
        exact h.shared_exported _ hsource

theorem shared_unqualified (h : Correspondence program other Kin) (hkin : Kin file twin)
    (name : String) :
    List.Forall₂ (Shared Kin) (program.unqualified file name) (other.unqualified twin name) := by
  apply h.shared_own hkin
  intro hown
  rcases rel_cases (h.shared_imported? hkin name) with
    ⟨hfirst, hsecond⟩ | ⟨definitions, others, hfirst, hsecond, hshared⟩
  · simp only [hfirst, hsecond]
    rw [← h.globals_eq hkin name hown, List.forall₂_same]
    intro definition hdefinition
    obtain ⟨script, twin, hscript, hfile⟩ := h.exists_script hkin name definition hdefinition
    exact .intro hscript hfile
  · simp only [hfirst, hsecond]
    exact hshared

theorem shared_qualified (h : Correspondence program other Kin) (hkin : Kin file twin)
    (qualifier name : String) :
    List.Forall₂ (Shared Kin) (program.qualified file qualifier name)
      (other.qualified twin qualifier name) := by
  unfold Program.qualified
  rw [← (h.alike hkin).namespaceImports_eq]
  cases hfind : file.namespaceImports.find? fun binding => binding.bound = qualifier with
  | none => exact .nil
  | some binding =>
      have hspecifier : binding.specifier ∈ file.specifiers := by
        simp only [SourceFile.specifiers, List.mem_append]
        exact .inl (.inr (List.mem_map_of_mem (List.mem_of_find?_eq_some hfind)))
      rcases rel_cases (h.module? hkin _ hspecifier) with
        ⟨hfirst, hsecond⟩ | ⟨target, target', hfirst, hsecond, htarget⟩
      · simp only [hfirst, hsecond]
        exact .nil
      · simp only [hfirst, hsecond]
        exact h.shared_exported _ (.intro htarget name)

theorem shared_definitionsAt (h : Correspondence program other Kin) (hkin : Kin file twin)
    (offset : Nat) :
    List.Forall₂ (Shared Kin) (program.definitionsAt file.path offset)
      (other.definitionsAt twin.path offset) := by
  unfold Program.definitionsAt
  rw [(h.find? hkin).1, (h.find? hkin).2]
  simp only [← (h.alike hkin).referenceAt?_eq, ← (h.alike hkin).textOf_eq]
  split
  · exact .nil
  · exact h.shared_qualified hkin _ _
  · exact h.shared_unqualified hkin _

/-! What a usage names in a file and in its twin. -/

theorem rel_map_mk (hkin : Kin file twin) (place : Option Focus) :
    Option.Rel (SharedSite Kin) (place.map (Site.mk file)) (place.map (Site.mk twin)) := by
  cases place with
  | none => exact .none
  | some focus => exact .some (.intro hkin focus)

theorem shared_site? (h : Correspondence program other Kin) {definition definition' : Definition}
    (hshared : Shared Kin definition definition') :
    Option.Rel (SharedSite Kin) (program.site? definition) (other.site? definition') := by
  obtain ⟨hkin, hfile⟩ := hshared
  have hpath := hfile.trans (h.alike hkin).path_eq
  unfold Program.site?
  nth_rewrite 1 [hfile]
  rw [hpath, (h.find? hkin).1, (h.find? hkin).2]
  obtain ⟨id, id', path, text, tree⟩ := h.alike hkin
  simp only [Option.bind_some, SourceFile.locate?]
  exact rel_map_mk hkin _

theorem shared_configRoot? (h : Correspondence program other Kin) (hkin : Kin file twin)
    (marker : String) :
    Option.Rel (SharedSite Kin) (file.configRoot? marker) (twin.configRoot? marker) := by
  obtain ⟨id, id', path, text, tree⟩ := h.alike hkin
  exact rel_map_mk hkin _

theorem dropped?_eq (h : Correspondence program other Kin) {definition definition' : Definition}
    (hshared : Shared Kin definition definition') :
    program.dropped? definition = other.dropped? definition' := by
  have hsite := rel_cases (h.shared_site? hshared)
  obtain ⟨hkin, hfile⟩ := hshared
  unfold Program.dropped?
  rcases hsite with ⟨hfirst, hsecond⟩ | ⟨site, twin, hfirst, hsecond, _⟩
  · rw [hfirst, hsecond]
  · rw [hfirst, hsecond]

theorem filterMap_dropped?_eq (h : Correspondence program other Kin)
    {definitions others : List Definition}
    (hshared : List.Forall₂ (Shared Kin) definitions others) :
    definitions.filterMap program.dropped? = others.filterMap other.dropped? := by
  induction hshared with
  | nil => rfl
  | cons hfirst _ ih => rw [List.filterMap_cons, List.filterMap_cons, h.dropped?_eq hfirst, ih]

theorem events_eq (h : Correspondence program other Kin) (hkin : Kin file twin) (focus : Focus) :
    (program.lookup ⟨file, focus⟩).events = (other.lookup ⟨twin, focus⟩).events := by
  unfold Program.lookup
  cases focus.usageAnchor? with
  | none => rfl
  | some anchor =>
      have hshared := h.shared_definitionsAt hkin (probeOffset anchor)
      have hid : Site.id ⟨file, focus⟩ = Site.id ⟨twin, focus⟩ := by
        simp only [Site.id, (h.alike hkin).path_eq]
      simp only [hid, hshared.length_eq, h.filterMap_dropped?_eq hshared]

theorem simulation (h : Correspondence program other Kin) :
    Simulation program.lookup other.lookup (SharedSite Kin) where
  alike := by
    rintro site twin ⟨hkin, focus⟩
    exact .intro (h.alike hkin) focus
  inside := by
    rintro site twin focus ⟨hkin, _⟩ _
    exact .intro hkin focus
  events := by
    rintro site twin ⟨hkin, focus⟩
    exact h.events_eq hkin focus
  sites := by
    rintro site twin ⟨hkin, focus⟩
    unfold Program.lookup
    cases focus.usageAnchor? with
    | none => exact .nil
    | some anchor =>
        exact List.rel_filterMap (fun _ _ hshared => h.shared_site? hshared)
          (h.shared_definitionsAt hkin _)

/-! Requests. -/

theorem root_mem_sites {root : Site} {marker : String} (hfile : file ∈ program.sources)
    (hroot : file.configRoot? marker = some root) : root ∈ program.sites := by
  obtain ⟨focus, hfocus, rfl⟩ := Option.map_eq_some_iff.1 hroot
  exact Program.mem_sites.2
    ⟨hfile, SourceFile.mem_preorder_of_mem_topLevel (List.mem_of_find?_eq_some hfocus)⟩

/-- The budgets of the programs may differ, and make no difference. -/
theorem node_budget_eq (h : Correspondence program other Kin) (hprogram : program.Built)
    (hother : other.Built) {site twin : Site} (hshared : SharedSite Kin site twin)
    (hsite : site ∈ program.sites) (htwin : twin ∈ other.sites) :
    Expand.node program.lookup program.budget site .start =
      Expand.node other.lookup other.budget twin .start := by
  have hsame (budget : Nat) := congrFun (h.simulation.node_eq budget hshared) .start
  apply Option.ext
  intro result
  constructor
  · intro hrun
    exact Expand.node_budget_eq_some hother other.lookup_within htwin ((hsame _).symm.trans hrun)
  · intro hrun
    exact Expand.node_budget_eq_some hprogram program.lookup_within hsite ((hsame _).trans hrun)

theorem resolve_eq (h : Correspondence program other Kin) (hprogram : program.Built)
    (hother : other.Built) {path : Path}
    (hpath : Option.Rel Kin (program.find? path) (other.find? path)) (marker : String) :
    program.resolve path marker = other.resolve path marker := by
  unfold Program.resolve Program.resolveWith
  rcases rel_cases hpath with ⟨hfirst, hsecond⟩ | ⟨file, twin, hfirst, hsecond, hkin⟩
  · rw [hfirst, hsecond]
  · simp only [hfirst, hsecond]
    rcases rel_cases (h.shared_configRoot? hkin marker) with
      ⟨hroot, hroot'⟩ | ⟨root, root', hroot, hroot', hshared⟩
    · rw [hroot, hroot']
    · simp only [hroot, hroot']
      have hsite := root_mem_sites (Program.mem_sources_of_find? hfirst) hroot
      have htwin := root_mem_sites (Program.mem_sources_of_find? hsecond) hroot'
      rw [h.node_budget_eq hprogram hother hshared hsite htwin]

end Correspondence

end Keypath
