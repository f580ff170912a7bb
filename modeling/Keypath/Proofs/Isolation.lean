import Keypath.Proofs.Correspondence

/-!
Edits that no other file notices.

A module gives its declarations only to the files whose specifiers lead to it. Where there are none,
a request to another file never reads the module, through whatever imports, re-exports and scripts
its names are found.
-/

namespace Keypath

open Keypath.Tree

namespace Program

section Edit

variable {program other : Program} {earlier later : List SourceFile} {file edited : SourceFile}

/-- A file other than the edited one, which both programs have. -/
def Untouched (earlier later : List SourceFile) (file twin : SourceFile) : Prop :=
  twin = file ∧ file ∈ earlier ++ later

theorem mem_sources_of_untouched (h : program.sources = earlier ++ file :: later)
    {user twin : SourceFile} (huntouched : Untouched earlier later user twin) :
    user ∈ program.sources := by
  rw [h]
  rcases List.mem_append.1 huntouched.2 with huser | huser
  · exact List.mem_append_left _ huser
  · exact List.mem_append_right _ (List.mem_cons_of_mem _ huser)

theorem untouched_or_eq (h : program.sources = earlier ++ file :: later) {user : SourceFile}
    (huser : user ∈ program.sources) : Untouched earlier later user user ∨ user = file := by
  rw [h, List.mem_append, List.mem_cons] at huser
  rcases huser with huser | rfl | huser
  · exact .inl ⟨rfl, List.mem_append_left _ huser⟩
  · exact .inr rfl
  · exact .inl ⟨rfl, List.mem_append_right _ huser⟩

theorem paired_of_edit (hsources : program.sources = earlier ++ file :: later)
    (hedited : other.sources = earlier ++ edited :: later) (hpath : file.path = edited.path) :
    program.Paired other fun user twin =>
      Untouched earlier later user twin ∨ user = file ∧ twin = edited where
  path_eq := by
    rintro user twin (⟨rfl, _⟩ | ⟨rfl, rfl⟩)
    · rfl
    · exact hpath
  exists_twin := by
    intro user huser
    rcases untouched_or_eq hsources huser with huntouched | rfl
    · exact ⟨user, mem_sources_of_untouched hedited huntouched, .inl huntouched⟩
    · exact ⟨edited, by simp [hedited], .inr ⟨rfl, rfl⟩⟩
  exists_file := by
    intro twin htwin
    rcases untouched_or_eq hedited htwin with huntouched | rfl
    · exact ⟨twin, mem_sources_of_untouched hsources huntouched, .inl huntouched⟩
    · exact ⟨file, by simp [hsources], .inr ⟨rfl, rfl⟩⟩

theorem rel_untouched {first second : Option SourceFile}
    (h : Option.Rel (fun user twin => Untouched earlier later user twin ∨
      user = file ∧ twin = edited) first second) (hfirst : first ≠ some file) :
    Option.Rel (Untouched earlier later) first second := by
  cases h with
  | none => exact .none
  | some hpair =>
      rcases hpair with huntouched | ⟨rfl, rfl⟩
      · exact .some huntouched
      · exact absurd rfl hfirst

theorem globals_eq_of_edit (hsources : program.sources = earlier ++ file :: later)
    (hedited : other.sources = earlier ++ edited :: later) (hmodule : file.isModule = true)
    (hmodule' : edited.isModule = true) (user : SourceFile) (name : String) :
    program.globals user name = other.globals user name := by
  simp only [globals, hsources, hedited, List.filter_append, List.filter_cons, hmodule, hmodule',
    Bool.not_true, Bool.and_false]
  rfl

theorem correspondence_of_edit (hprogram : program.Keyed) (hother : other.Keyed)
    (hsources : program.sources = earlier ++ file :: later)
    (hedited : other.sources = earlier ++ edited :: later) (hpath : file.path = edited.path)
    (hmodule : file.isModule = true) (hmodule' : edited.isModule = true)
    (hunused : ∀ user ∈ earlier ++ later, ∀ specifier ∈ user.specifiers,
      program.module? user specifier ≠ some file) :
    Correspondence program other (Untouched earlier later) where
  alike := by
    rintro user twin ⟨rfl, _⟩
    exact .refl _
  find? := by
    intro user twin huntouched
    obtain ⟨rfl, _⟩ := id huntouched
    exact ⟨hprogram.find?_path (mem_sources_of_untouched hsources huntouched),
      hother.find?_path (mem_sources_of_untouched hedited huntouched)⟩
  module? := by
    rintro user twin ⟨rfl, huser⟩ specifier hspecifier
    exact rel_untouched
      ((paired_of_edit hsources hedited hpath).module?_rel hprogram hother rfl specifier)
      (hunused _ huser specifier hspecifier)
  globals_eq := by
    rintro user twin ⟨rfl, _⟩ name _
    exact globals_eq_of_edit hsources hedited hmodule hmodule' _ name
  exists_script := by
    intro user twin _ name definition hdefinition
    obtain ⟨script, hscript, hdefinition⟩ := List.mem_flatMap.1 hdefinition
    obtain ⟨hscript, hkept⟩ := List.mem_filter.1 hscript
    refine ⟨script, script, ?_, SourceFile.file_eq_of_mem_definitionsOf hdefinition⟩
    rcases untouched_or_eq hsources hscript with huntouched | rfl
    · exact huntouched
    · -- the edited file is a module, and modules are not searched
      simp [hmodule] at hkept

/-- An edit to a module that no other file imports or re-exports changes no answer to a request for
another file: neither the schema, nor the events, nor the error. -/
theorem resolve_eq_of_edit {text : String} {tree : Node} (hprogram : program.Built)
    (hother : other.Built) (hsources : program.sources = earlier ++ file :: later)
    (hedited : other.sources = earlier ++ { file with text, tree } :: later)
    (hmodule : file.isModule = true)
    (hmodule' : ({ file with text, tree } : SourceFile).isModule = true)
    (hunused : ∀ user ∈ earlier ++ later, ∀ specifier ∈ user.specifiers,
      program.module? user specifier ≠ some file)
    {path : Path} (hpath : program.find? path ≠ some file) (marker : String) :
    program.resolve path marker = other.resolve path marker := by
  have hcorrespondence := correspondence_of_edit hprogram.keyed hother.keyed hsources hedited rfl
    hmodule hmodule' hunused
  have hfound := (paired_of_edit hsources hedited rfl).find?_rel hprogram.keyed hother.keyed path
  exact hcorrespondence.resolve_eq hprogram hother (rel_untouched hfound hpath) marker

end Edit

/-- `import { B } from './b'` in front of `interface A extends B { k: string }`. -/
def spareUser : SourceFile :=
  let outline : Outline := ⟨'A', some 'B', [⟨'k', none⟩]⟩
  ⟨0, .ofText "/ws/a.ts", outline.importingText 'B' "./b", outline.importingTree "./b"⟩

def spareModule (outline : Outline) : SourceFile :=
  ⟨1, .ofText "/ws/c.ts", outline.exportingText, outline.exportingTree⟩

def spareBase : SourceFile :=
  let outline : Outline := ⟨'B', none, [⟨'l', none⟩]⟩
  ⟨2, .ofText "/ws/b.ts", outline.exportingText, outline.exportingTree⟩

def spareSample (outline : Outline) : Program :=
  [spareUser, spareModule outline, spareBase].foldl
    (fun program file => program.store file.path file.text file.tree) empty

theorem built_spareSample (outline : Outline) : (spareSample outline).Built :=
  .store (.store (.store .empty _ _ _) _ _ _) _ _ _

theorem sources_spareSample (outline : Outline) :
    (spareSample outline).sources = [spareUser] ++ spareModule outline :: [spareBase] := by
  rfl

set_option maxRecDepth 10000 in
theorem resolve_eq_of_edit_spare :
    let program := spareSample ⟨'B', none, [⟨'x', none⟩]⟩
    let other := spareSample ⟨'C', none, []⟩
    let file := spareModule ⟨'B', none, [⟨'x', none⟩]⟩
    program.Built ∧ other.Built ∧ file.isModule = true ∧
      program.find? (.ofText "/ws/a.ts") ≠ some file ∧
      ((program.resolve (.ofText "/ws/a.ts") "B").toOption.map fun answer => answer.schema.keys) =
        some ["l", "k"] ∧
      program.resolve (.ofText "/ws/a.ts") "B" = other.resolve (.ofText "/ws/a.ts") "B" := by
  intro program other file
  have hunused : ∀ user ∈ [spareUser] ++ [spareBase], ∀ specifier ∈ user.specifiers,
      (program.module? user specifier).map SourceFile.path ≠ some file.path := by
    decide +kernel
  have hpath : (program.find? (.ofText "/ws/a.ts")).map SourceFile.path ≠ some file.path := by
    decide +kernel
  have hfind : program.find? (.ofText "/ws/a.ts") ≠ some file :=
    fun h => hpath (congrArg (Option.map SourceFile.path) h)
  have hmodule : file.isModule = true := by decide +kernel
  refine ⟨built_spareSample _, built_spareSample _, hmodule, hfind, by decide +kernel, ?_⟩
  refine resolve_eq_of_edit (built_spareSample _) (built_spareSample _)
    (sources_spareSample _) (sources_spareSample _) hmodule (by decide +kernel) ?_ hfind _
  exact fun user huser specifier hspecifier h =>
    hunused user huser specifier hspecifier (congrArg (Option.map SourceFile.path) h)

end Program

end Keypath
