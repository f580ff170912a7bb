import Keypath.Definition

/-!
What a file makes visible under a name.

A hop leads from a name that a file does not declare itself to the name it stands for in another
file: along a re-export, or from a default export that the file has only imported. The declarations
that a file makes visible are the ones at the ends of chains of at most eight hops. Chains may run
in circles, and a file that declares a name itself ends every chain.
-/

namespace Keypath

open Keypath.Tree

namespace SourceFile

/-- The statement is an `export … from` and does not bind a namespace. -/
structure PassesOn (file : SourceFile) (statement source : Focus) : Prop where
  statement_mem : statement ∈ file.root.members
  kind_eq : statement.kind = .exportStatement
  source_eq : statement.child? .source = some source
  no_namespace : statement.member? .namespaceExport = none

/-- What a file declares under a name that it exports. -/
def declares (file : SourceFile) (name : String) : List Definition :=
  file.definitionsOf (file.localName name)

theorem mem_definitionsOf {file : SourceFile} {name : String} {definition : Definition} :
    definition ∈ file.definitionsOf name ↔
      ∃ focus ∈ file.topLevel, focus.kind.isDeclaration = true ∧ ∃ ident,
        focus.child? .name = some ident ∧ file.textOf ident = name ∧
          definition = ⟨file.path, ident.start, ident.stop - ident.start⟩ := by
  simp only [definitionsOf, List.mem_filterMap]
  constructor
  · rintro ⟨focus, hfocus, hdefinition⟩
    split at hdefinition
    case isFalse => cases hdefinition
    case isTrue hkind =>
      split at hdefinition
      case h_2 => cases hdefinition
      case h_1 ident hident =>
        split at hdefinition
        case isFalse => cases hdefinition
        case isTrue hname =>
          exact ⟨focus, hfocus, hkind, ident, hident, hname, (Option.some.inj hdefinition).symm⟩
  · rintro ⟨focus, hfocus, hkind, ident, hident, hname, rfl⟩
    exact ⟨focus, hfocus, by simp [hkind, hident, hname]⟩

theorem mem_reexports {file : SourceFile} {reexport : Reexport} :
    reexport ∈ file.reexports ↔ ∃ statement source, file.PassesOn statement source ∧
      reexport = ⟨file.unquoted source,
        (statement.member? .exportClause).map file.passedNames⟩ := by
  simp only [reexports, List.mem_filterMap]
  constructor
  · rintro ⟨statement, hstatement, hreexport⟩
    split at hreexport
    · rename_i source hsource
      split at hreexport
      · rename_i hexport
        simp only [Bool.and_eq_true, decide_eq_true_eq, Option.isNone_iff_eq_none] at hexport
        exact ⟨statement, source, ⟨hstatement, hexport.1, hsource, hexport.2⟩,
          (Option.some.inj hreexport).symm⟩
      · cases hreexport
    · cases hreexport
  · rintro ⟨statement, source, hpasses, rfl⟩
    refine ⟨statement, hpasses.statement_mem, ?_⟩
    simp [hpasses.source_eq, hpasses.kind_eq, hpasses.no_namespace]

theorem mem_passedNames {file : SourceFile} {clause : Focus} {passed : Passed} :
    passed ∈ file.passedNames clause ↔ ∃ listed ∈ clause.members, ∃ name,
      listed.child? .name = some name ∧
        passed = ⟨file.textOf ((listed.child? .rename).getD name), file.textOf name⟩ := by
  simp only [passedNames, List.mem_filterMap]
  constructor
  · rintro ⟨listed, hlisted, hpassed⟩
    split at hpassed
    · rename_i name hname
      exact ⟨listed, hlisted, name, hname, (Option.some.inj hpassed).symm⟩
    · cases hpassed
  · rintro ⟨listed, hlisted, name, hname, rfl⟩
    exact ⟨listed, hlisted, by simp [hname]⟩

theorem localName_of_default {file : SourceFile} {name : String}
    (h : file.defaultName? = some name) : file.localName "default" = name := by
  simp [localName, h]

theorem localName_of_not_default {file : SourceFile} {name : String}
    (h : name ≠ "default" ∨ file.defaultName? = none) : file.localName name = name := by
  unfold localName
  rcases h with hname | hnone
  · rw [if_neg hname]
  · rw [hnone]
    split <;> rfl

theorem declares_of_default {file : SourceFile} {name : String}
    (h : file.defaultName? = some name) : file.declares "default" = file.definitionsOf name := by
  rw [declares, localName_of_default h]

theorem declares_of_not_default {file : SourceFile} {name : String}
    (h : name ≠ "default" ∨ file.defaultName? = none) :
    file.declares name = file.definitionsOf name := by
  rw [declares, localName_of_not_default h]

end SourceFile

namespace Program

/-- Where a name comes from that a file exports and does not declare. -/
inductive Hop (program : Program) : Export → Export → Prop where
  /-- `export * from` passes on every name. -/
  | passed {file target : SourceFile} {name : String} {statement source : Focus}
      (hdefault : name ≠ "default" ∨ file.defaultName? = none)
      (hown : file.definitionsOf name = []) (hstatement : file.PassesOn statement source)
      (htarget : program.module? file (file.unquoted source) = some target)
      (hclause : statement.member? .exportClause = none) :
      Hop program ⟨file, name⟩ ⟨target, name⟩
  /-- `export { taken as name } from` and `export { name } from` pass on what they list. -/
  | listed {file target : SourceFile} {name : String} {statement source clause listed taken : Focus}
      (hdefault : name ≠ "default" ∨ file.defaultName? = none)
      (hown : file.definitionsOf name = []) (hstatement : file.PassesOn statement source)
      (htarget : program.module? file (file.unquoted source) = some target)
      (hclause : statement.member? .exportClause = some clause) (hlisted : listed ∈ clause.members)
      (htaken : listed.child? .name = some taken)
      (hname : file.textOf ((listed.child? .rename).getD taken) = name) :
      Hop program ⟨file, name⟩ ⟨target, file.textOf taken⟩
  /-- The file has only imported what it exports as its default. -/
  | imported {file target : SourceFile} {name : String} {binding : Import}
      (hdefault : file.defaultName? = some name) (hown : file.definitionsOf name = [])
      (hbinding : file.imports.find? (fun binding => binding.bound = name) = some binding)
      (htarget : program.module? file binding.specifier = some target) :
      Hop program ⟨file, "default"⟩ ⟨target, binding.exported⟩

/-- So many hops, one after the other. -/
inductive Hops (program : Program) : Nat → Export → Export → Prop where
  | here (wanted : Export) : Hops program 0 wanted wanted
  | hop {count : Nat} {wanted next source : Export} (hfirst : Hop program wanted next)
      (hrest : Hops program count next source) : Hops program (count + 1) wanted source

section Sources

variable {program : Program} {file : SourceFile} {name : String} {next : Export}

theorem sourcesOf_of_default (h : file.defaultName? = some name) :
    program.sourcesOf ⟨file, "default"⟩ = program.defaultSource file name := by
  simp only [sourcesOf, h]

theorem sourcesOf_of_not_default (h : name ≠ "default" ∨ file.defaultName? = none) :
    program.sourcesOf ⟨file, name⟩ =
      file.reexports.flatMap (program.passedSources file name) := by
  unfold sourcesOf
  split
  · rename_i hname hdefault
    rcases h with h | h
    · exact absurd hname h
    · rw [hdefault] at h
      cases h
  · rfl

theorem mem_defaultSource :
    next ∈ program.defaultSource file name ↔ ∃ binding target,
      file.imports.find? (fun binding => binding.bound = name) = some binding ∧
        program.module? file binding.specifier = some target ∧
          next = ⟨target, binding.exported⟩ := by
  unfold defaultSource
  cases hbinding : file.imports.find? fun binding => binding.bound = name with
  | none => simp
  | some binding =>
      simp only [source?, Option.mem_toList, Option.map_eq_some_iff, Option.some.injEq]
      constructor
      · rintro ⟨target, htarget, rfl⟩
        exact ⟨binding, target, rfl, htarget, rfl⟩
      · rintro ⟨_, target, rfl, htarget, rfl⟩
        exact ⟨target, htarget, rfl⟩

theorem mem_passedSources {statement : Reexport} :
    next ∈ program.passedSources file name statement ↔ ∃ target,
      program.module? file statement.specifier = some target ∧
        (statement.listed = none ∧ next = ⟨target, name⟩ ∨
          ∃ names, statement.listed = some names ∧ ∃ passed ∈ names,
            passed.exported = name ∧ next = ⟨target, passed.taken⟩) := by
  unfold passedSources
  cases program.module? file statement.specifier with
  | none => simp
  | some target =>
      cases statement.listed with
      | none => simp
      | some names =>
          simp [and_assoc, eq_comm]

theorem mem_sourcesOf_iff_hop {wanted : Export} (hown : wanted.file.declares wanted.name = []) :
    next ∈ program.sourcesOf wanted ↔ program.Hop wanted next := by
  obtain ⟨file, name⟩ := wanted
  constructor
  · intro hnext
    by_cases hdefault : name ≠ "default" ∨ file.defaultName? = none
    · rw [SourceFile.declares_of_not_default hdefault] at hown
      rw [sourcesOf_of_not_default hdefault] at hnext
      obtain ⟨reexport, hreexport, hpassed⟩ := List.mem_flatMap.1 hnext
      obtain ⟨statement, source, hstatement, rfl⟩ := SourceFile.mem_reexports.1 hreexport
      obtain ⟨target, htarget, hnames⟩ := mem_passedSources.1 hpassed
      rcases hnames with ⟨hlisted, rfl⟩ | ⟨names, hlisted, passed, hpassed, hname, rfl⟩
      · exact .passed hdefault hown hstatement htarget (Option.map_eq_none_iff.1 hlisted)
      · obtain ⟨clause, hclause, rfl⟩ := Option.map_eq_some_iff.1 hlisted
        obtain ⟨listed, hmember, taken, htaken, rfl⟩ := SourceFile.mem_passedNames.1 hpassed
        exact .listed hdefault hown hstatement htarget hclause hmember htaken hname
    · obtain ⟨hname, hsome⟩ := not_or.1 hdefault
      obtain rfl : name = "default" := Decidable.not_not.1 hname
      obtain ⟨localName, hlocal⟩ := Option.ne_none_iff_exists'.1 hsome
      rw [SourceFile.declares_of_default hlocal] at hown
      rw [sourcesOf_of_default hlocal] at hnext
      obtain ⟨binding, target, hbinding, htarget, rfl⟩ := mem_defaultSource.1 hnext
      exact .imported hlocal hown hbinding htarget
  · intro hhop
    cases hhop with
    | passed hdefault _ hstatement htarget hclause =>
        rw [sourcesOf_of_not_default hdefault, List.mem_flatMap]
        refine ⟨_, SourceFile.mem_reexports.2 ⟨_, _, hstatement, rfl⟩, ?_⟩
        exact mem_passedSources.2 ⟨_, htarget, .inl ⟨by rw [hclause]; rfl, rfl⟩⟩
    | @listed _ target _ _ _ clause listed taken hdefault _ hstatement htarget hclause hlisted
        htaken hname =>
        rw [sourcesOf_of_not_default hdefault, List.mem_flatMap]
        refine ⟨_, SourceFile.mem_reexports.2 ⟨_, _, hstatement, rfl⟩, ?_⟩
        have hpassed : ⟨_, _⟩ ∈ file.passedNames clause :=
          SourceFile.mem_passedNames.2 ⟨listed, hlisted, taken, htaken, rfl⟩
        exact mem_passedSources.2 ⟨target, htarget,
          .inr ⟨file.passedNames clause, by rw [hclause]; rfl, _, hpassed, hname, rfl⟩⟩
    | imported hdefault _ hbinding htarget =>
        rw [sourcesOf_of_default hdefault]
        exact mem_defaultSource.2 ⟨_, _, hbinding, htarget, rfl⟩

theorem Hop.declares_eq_nil {wanted : Export} (h : program.Hop wanted next) :
    wanted.file.declares wanted.name = [] := by
  cases h with
  | passed hdefault hown | listed hdefault hown =>
      exact (SourceFile.declares_of_not_default hdefault).trans hown
  | imported hdefault hown => exact (SourceFile.declares_of_default hdefault).trans hown

end Sources

section Exported

variable {program : Program} {definition : Definition}

theorem exported_succ_of_declares {wanted : Export} (hops : Nat)
    (h : wanted.file.declares wanted.name ≠ []) :
    program.exported (hops + 1) wanted = wanted.file.declares wanted.name := by
  rw [exported]
  split
  · rename_i hown
    exact absurd hown h
  · rfl

theorem mem_exported_succ {wanted : Export} {hops : Nat}
    (h : wanted.file.declares wanted.name = []) :
    definition ∈ program.exported (hops + 1) wanted ↔
      ∃ next, program.Hop wanted next ∧ definition ∈ program.exported hops next := by
  have hown : wanted.file.definitionsOf (wanted.file.localName wanted.name) = [] := h
  simp only [exported, hown, List.mem_flatMap, mem_sourcesOf_iff_hop h]

theorem mem_exported_iff_hops (hops : Nat) (wanted : Export) :
    definition ∈ program.exported hops wanted ↔ ∃ count ≤ hops, ∃ source,
      program.Hops count wanted source ∧ definition ∈ source.file.declares source.name := by
  induction hops generalizing wanted with
  | zero =>
      constructor
      · exact fun h => ⟨0, Nat.le_refl _, wanted, .here wanted, h⟩
      · rintro ⟨count, hcount, source, hchain, h⟩
        obtain rfl := Nat.le_zero.1 hcount
        cases hchain
        exact h
  | succ hops ih =>
      by_cases hown : wanted.file.declares wanted.name = []
      · rw [mem_exported_succ hown]
        constructor
        · rintro ⟨next, hhop, hnext⟩
          obtain ⟨count, hcount, source, hchain, h⟩ := (ih next).1 hnext
          exact ⟨count + 1, Nat.succ_le_succ hcount, source, .hop hhop hchain, h⟩
        · rintro ⟨count, hcount, source, hchain, h⟩
          cases hchain with
          | here => simp [hown] at h
          | hop hhop hrest =>
              exact ⟨_, hhop, (ih _).2 ⟨_, Nat.le_of_succ_le_succ hcount, source, hrest, h⟩⟩
      · -- what a file declares itself ends the search, and no chain leads on from there
        rw [exported_succ_of_declares hops hown]
        constructor
        · exact fun h => ⟨0, Nat.zero_le _, wanted, .here wanted, h⟩
        · rintro ⟨count, _, source, hchain, h⟩
          cases hchain with
          | here => exact h
          | hop hhop _ => exact absurd hhop.declares_eq_nil hown

/-- The declarations that a file makes visible under a name are the ones made where chains of at
most eight hops lead, under the name itself or, for a default export, under the name behind it. -/
theorem mem_exported_iff_chain (program : Program) (file : SourceFile) (name : String)
    (definition : Definition) :
    definition ∈ program.exported maxHops ⟨file, name⟩ ↔
      ∃ count ≤ 8, ∃ source, program.Hops count ⟨file, name⟩ source ∧
        definition ∈ source.file.definitionsOf
          (if source.name = "default" then source.file.defaultName?.getD source.name
            else source.name) :=
  mem_exported_iff_hops maxHops ⟨file, name⟩

end Exported

end Program

end Keypath
