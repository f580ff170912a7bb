import Keypath.Proofs.Hops
import Keypath.Proofs.Outline

/-!
Names that a file exports by a clause of its own, and default exports.

An exported name is looked for among the declarations of its file and in what the file re-exports;
the clauses that list local names are read for the default export only. So a name that a clause
exports under another one is found as `default` and not otherwise. A default is looked for along
`export * from` like any other name, up to a file that has one.
-/

namespace Keypath

open Keypath.Tree

namespace SourceFile

variable {file : SourceFile} {name other : String} {definition : Definition}

theorem textOf_eq_of_span {ident twin : Focus} (hstart : ident.start = twin.start)
    (hlength : ident.stop - ident.start = twin.stop - twin.start) :
    file.textOf ident = file.textOf twin := by
  simp only [textOf, hstart] at hlength ⊢
  by_cases hempty : twin.stop ≤ twin.start
  · have hempty' : ident.stop ≤ twin.start := by omega
    rw [Text.slice_of_le _ hempty, Text.slice_of_le _ hempty']
  · have hstop : ident.stop = twin.stop := by omega
    rw [hstop]

theorem name_eq_of_mem_definitionsOf (h : definition ∈ file.definitionsOf name)
    (hother : definition ∈ file.definitionsOf other) : name = other := by
  obtain ⟨_, _, _, ident, _, rfl, hspan⟩ := mem_definitionsOf.1 h
  obtain ⟨_, _, _, twin, _, rfl, hspan'⟩ := mem_definitionsOf.1 hother
  obtain ⟨_, hstart, hlength⟩ := Definition.mk.inj (hspan.symm.trans hspan')
  exact textOf_eq_of_span hstart hlength

/-- The names that a file exports by clauses without a source, each with the local name behind
it. -/
def localExports (file : SourceFile) : List Passed :=
  (file.root.members.filter fun statement =>
    statement.kind = .exportStatement && (statement.child? .source).isNone).flatMap
      fun statement => ((statement.member? .exportClause).map file.passedNames).getD []

end SourceFile

namespace Program

/-- What a name means in a file that declares or imports it, through at most the given number of
re-exports. -/
def meant (program : Program) (hops : Nat) (file : SourceFile) (name : String) :
    List Definition :=
  match file.definitionsOf name with
  | [] => (program.defaultSource file name).flatMap (program.exported hops)
  | own => own

/-- A name is used at an offset of one file. It stands there for what an import binds to it, and the
other file lists what is imported in a clause of its own, for a name that it declares or imports. -/
structure UsesListed (program : Program) (path : Path) (offset : Nat) (user file : SourceFile)
    (binding : Import) (listed : Passed) : Prop where
  user_eq : program.find? path = some user
  use : ∃ name, user.referenceAt? offset = some ⟨name, none⟩ ∧ user.textOf name = binding.bound
  undeclared : user.definitionsOf binding.bound = []
  binds : user.imports.find? (fun other => other.bound = binding.bound) = some binding
  target_eq : program.module? user binding.specifier = some file
  exported_eq : binding.exported = listed.exported
  listed_mem : listed ∈ file.localExports
  known : file.definitionsOf listed.taken ≠ [] ∨ program.defaultSource file listed.taken ≠ []

section Listed

variable {program : Program} {file : SourceFile} {name : String}

theorem meant_of_declared (hops : Nat) (h : file.definitionsOf name ≠ []) :
    program.meant hops file name = file.definitionsOf name := by
  unfold meant
  split
  · contradiction
  · rfl

theorem meant_of_undeclared (hops : Nat) (h : file.definitionsOf name = []) :
    program.meant hops file name =
      (program.defaultSource file name).flatMap (program.exported hops) := by
  simp only [meant, h]

theorem unqualified_eq_meant
    (h : file.definitionsOf name ≠ [] ∨ program.defaultSource file name ≠ []) :
    program.unqualified file name = program.meant maxHops file name := by
  by_cases hown : file.definitionsOf name = []
  · have hsource := h.resolve_left (not_not_intro hown)
    rw [meant_of_undeclared _ hown]
    simp only [unqualified, hown, imported?]
    unfold defaultSource at hsource ⊢
    cases hbinding : file.imports.find? fun binding => binding.bound = name with
    | none => simp [hbinding] at hsource
    | some binding =>
        cases hwanted : program.source? file binding with
        | none => simp [hbinding, hwanted] at hsource
        | some wanted => simp [hwanted]
  · rw [meant_of_declared _ hown]
    unfold unqualified
    split
    · contradiction
    · rfl

/-- A default export is what its local name means, one re-export further on. -/
theorem exported_default (hops : Nat) (h : file.defaultName? = some name) :
    program.exported (hops + 1) ⟨file, "default"⟩ = program.meant hops file name := by
  have hlocal := SourceFile.localName_of_default h
  by_cases hown : file.definitionsOf name = []
  · simp only [exported, hlocal, hown, sourcesOf_of_default h, meant_of_undeclared hops hown]
  · rw [meant_of_declared _ hown, exported_succ_of_declares, SourceFile.declares, hlocal]
    rwa [SourceFile.declares, hlocal]

section Undefaulted

variable (hops : Nat) (h : name ≠ "default" ∨ file.defaultName? = none)
include h

theorem exported_of_declared (hown : file.definitionsOf name ≠ []) :
    program.exported (hops + 1) ⟨file, name⟩ = file.definitionsOf name := by
  have hdeclares := SourceFile.declares_of_not_default h
  exact (exported_succ_of_declares hops (hdeclares ▸ hown)).trans hdeclares

theorem mem_exported_of_undeclared {definition : Definition}
    (hown : file.definitionsOf name = []) :
    definition ∈ program.exported (hops + 1) ⟨file, name⟩ ↔
      ∃ next, program.Hop ⟨file, name⟩ next ∧ definition ∈ program.exported hops next :=
  mem_exported_succ ((SourceFile.declares_of_not_default h).trans hown)

theorem exported_of_no_hop (hstuck : ∀ next, ¬program.Hop ⟨file, name⟩ next) :
    program.exported (hops + 1) ⟨file, name⟩ = file.definitionsOf name := by
  by_cases hown : file.definitionsOf name = []
  · rw [hown, List.eq_nil_iff_forall_not_mem]
    intro definition hdefinition
    obtain ⟨next, hhop, _⟩ := (mem_exported_of_undeclared hops h hown).1 hdefinition
    exact hstuck next hhop
  · exact exported_of_declared hops h hown

end Undefaulted

variable {path : Path} {offset : Nat} {user : SourceFile} {binding : Import} {listed : Passed}

theorem UsesListed.definitionsAt_eq
    (h : program.UsesListed path offset user file binding listed) :
    program.definitionsAt path offset = program.exported maxHops ⟨file, listed.exported⟩ := by
  obtain ⟨ident, hreference, hbound⟩ := h.use
  have hsource : program.source? user binding = some ⟨file, listed.exported⟩ := by
    rw [source?, h.target_eq, Option.map_some, h.exported_eq]
  simp only [definitionsAt, h.user_eq, hreference, hbound, unqualified, h.undeclared, imported?,
    h.binds, Option.map_some, hsource]

/-- A use of an imported name, where the other file exports it by a clause of its own. As the
default it is found wherever the name behind it leads within seven re-exports. Under any other name
the clause plays no part: what is found is declared or re-exported under the exported name, and
unless that is re-exported too, it is what the clause means just if the clause does not rename. -/
theorem definitionsAt_listed (h : program.UsesListed path offset user file binding listed) :
    (listed.exported = "default" → file.defaultName? = some listed.taken →
      program.definitionsAt path offset = program.meant 7 file listed.taken ∧
        program.unqualified file listed.taken = program.meant 8 file listed.taken) ∧
    (listed.exported ≠ "default" →
      (∀ definition, definition ∈ program.definitionsAt path offset ↔
        definition ∈ file.definitionsOf listed.exported ∨
          file.definitionsOf listed.exported = [] ∧
            ∃ next, program.Hop ⟨file, listed.exported⟩ next ∧
              definition ∈ program.exported 7 next) ∧
      ((∀ next, ¬program.Hop ⟨file, listed.exported⟩ next) →
        file.definitionsOf listed.taken ≠ [] →
          (program.definitionsAt path offset = program.unqualified file listed.taken ↔
            listed.exported = listed.taken))) := by
  rw [h.definitionsAt_eq]
  refine ⟨fun hexported hdefault => ⟨?_, unqualified_eq_meant h.known⟩, fun hexported => ⟨?_, ?_⟩⟩
  · rw [hexported]
    exact exported_default 7 hdefault
  · intro definition
    by_cases hown : file.definitionsOf listed.exported = []
    · simpa [hown, maxHops] using mem_exported_of_undeclared 7 (.inl hexported) hown
    · simp [hown, maxHops, exported_of_declared 7 (.inl hexported) hown]
  · intro hstuck hown
    rw [maxHops, exported_of_no_hop 7 (.inl hexported) hstuck, unqualified_eq_meant h.known,
      meant_of_declared _ hown]
    constructor
    · intro heq
      obtain ⟨definition, hdefinition⟩ := List.exists_mem_of_ne_nil _ hown
      exact SourceFile.name_eq_of_mem_definitionsOf (heq ▸ hdefinition) hdefinition
    · exact fun heq => congrArg _ heq

end Listed

open Outline in
/-- `interface L { l: string }`, exported by a clause under the given name, and a file that imports
that name as `D` for the type of a key `k`. -/
def listingSample (exported : String) : Program :=
  let width := exported.length
  let user : Outline := ⟨'A', some 'M', [⟨'k', some 'D'⟩]⟩
  let userText := "import \x7b " ++ exported ++ " as D \x7d from './b';\n" ++ user.text
  let specifier := inner (.other "import_specifier") 9 (width + 14) []
    [inner .identifier 9 (width + 9) [.name] [], mark "as" (width + 10),
      inner .identifier (width + 13) (width + 14) [.rename] []]
  let importing := inner .importStatement 0 (width + 28) []
    [mark "import" 0,
      inner .importClause 7 (width + 16) []
        [inner .namedImports 7 (width + 16) []
          [mark "\x7b" 7, specifier, mark "\x7d" (width + 15)]],
      mark "from" (width + 17),
      inner .stringLiteral (width + 22) (width + 27) [.source]
        [mark "'" (width + 22), mark "'" (width + 26)],
      mark ";" (width + 27)]
  let userTree := inner (.other "program") 0 userText.length []
    [importing, user.node (width + 29)]
  let declared : Outline := ⟨'L', none, [⟨'l', none⟩]⟩
  let text := declared.text ++ "\nexport \x7b L as " ++ exported ++ " \x7d;"
  let listed := inner (.other "export_specifier") 35 (width + 40) []
    [inner .identifier 35 36 [.name] [], mark "as" 37,
      inner .identifier 40 (width + 40) [.rename] []]
  let exporting := inner .exportStatement 26 (width + 43) []
    [mark "export" 26,
      inner .exportClause 33 (width + 42) []
        [mark "\x7b" 33, listed, mark "\x7d" (width + 41)],
      mark ";" (width + 42)]
  let tree := inner (.other "program") 0 text.length [] [declared.node 0, exporting]
  (empty.store (.ofText "/ws/a.ts") userText userTree).store (.ofText "/ws/b.ts") text tree

set_option maxRecDepth 10000 in
theorem usesListed_listingSample {exported : String} (h : exported ∈ ["L", "default", "E"]) :
    ∃ user file, (listingSample exported).UsesListed (.ofText "/ws/a.ts") (exported.length + 55)
      user file ⟨"D", exported, "./b"⟩ ⟨exported, "L"⟩ ∧ file.definitionsOf "L" ≠ [] ∧
        (exported = "default" → file.defaultName? = some "L") := by
  have hsample : ∀ exported ∈ ["L", "default", "E"],
      ((listingSample exported).find? (.ofText "/ws/a.ts")).any (fun user =>
        ((listingSample exported).module? user "./b").any fun file =>
          (user.referenceAt? (exported.length + 55)).any (fun reference =>
            reference.qualifier.isNone && decide (user.textOf reference.name = "D")) &&
          decide (user.definitionsOf "D" = [] ∧
            user.imports.find? (fun other => other.bound = "D") = some ⟨"D", exported, "./b"⟩ ∧
            ⟨exported, "L"⟩ ∈ file.localExports ∧ file.definitionsOf "L" ≠ [] ∧
            (exported = "default" → file.defaultName? = some "L"))) = true := by
    decide +kernel
  obtain ⟨user, huser, hsample⟩ := (Option.any_eq_true _ _).1 (hsample exported h)
  obtain ⟨file, hfile, hsample⟩ := (Option.any_eq_true _ _).1 hsample
  obtain ⟨huse, hsample⟩ := Bool.and_eq_true_iff.1 hsample
  obtain ⟨⟨name, qualifier⟩, hreference, huse⟩ := (Option.any_eq_true _ _).1 huse
  obtain ⟨hqualifier, hname⟩ := Bool.and_eq_true_iff.1 huse
  obtain rfl := Option.isNone_iff_eq_none.1 hqualifier
  obtain ⟨hundeclared, hbinds, hlisted, hown, hdefault⟩ := of_decide_eq_true hsample
  refine ⟨user, file, ⟨huser, ⟨name, hreference, of_decide_eq_true hname⟩, hundeclared, hbinds,
    hfile, rfl, hlisted, .inl hown⟩, hown, hdefault⟩

theorem definitionsAt_listed_sample :
    (∃ user file, (listingSample "L").UsesListed (.ofText "/ws/a.ts") 56 user file
        ⟨"D", "L", "./b"⟩ ⟨"L", "L"⟩ ∧ file.definitionsOf "L" ≠ [] ∧
        (∀ next, ¬(listingSample "L").Hop ⟨file, "L"⟩ next) ∧
        (listingSample "L").definitionsAt (.ofText "/ws/a.ts") 56 =
          (listingSample "L").unqualified file "L") ∧
      ∃ user file, (listingSample "default").UsesListed (.ofText "/ws/a.ts") 62 user file
        ⟨"D", "default", "./b"⟩ ⟨"default", "L"⟩ ∧ file.definitionsOf "L" ≠ [] ∧
        file.defaultName? = some "L" ∧
        (listingSample "default").definitionsAt (.ofText "/ws/a.ts") 62 =
          (listingSample "default").meant 7 file "L" := by
  constructor
  · obtain ⟨user, file, huses, hown, _⟩ :=
      @usesListed_listingSample "L" (by decide)
    have hstuck : ∀ next, ¬(listingSample "L").Hop ⟨file, "L"⟩ next := fun next hhop =>
      hown ((SourceFile.declares_of_not_default (.inl (by decide))).symm.trans hhop.declares_eq_nil)
    obtain ⟨_, hnamed⟩ := definitionsAt_listed huses
    obtain ⟨_, hsame⟩ := hnamed (by decide)
    exact ⟨user, file, huses, hown, hstuck, (hsame hstuck hown).2 rfl⟩
  · obtain ⟨user, file, huses, hown, hdefault⟩ :=
      @usesListed_listingSample "default" (by decide)
    obtain ⟨hnamed, _⟩ := definitionsAt_listed huses
    exact ⟨user, file, huses, hown, hdefault rfl, (hnamed rfl (hdefault rfl)).1⟩

theorem renamed_export_not_found :
    ∃ user file, (listingSample "E").UsesListed (.ofText "/ws/a.ts") 56 user file
      ⟨"D", "E", "./b"⟩ ⟨"E", "L"⟩ ∧ file.definitionsOf "L" ≠ [] ∧
      (listingSample "E").unqualified file "L" ≠ [] ∧
      (listingSample "E").definitionsAt (.ofText "/ws/a.ts") 56 = [] := by
  obtain ⟨user, file, huses, hown, _⟩ := @usesListed_listingSample "E" (by decide)
  have hmeant := (unqualified_eq_meant huses.known).trans (meant_of_declared _ hown)
  exact ⟨user, file, huses, hown, by rwa [hmeant], by decide +kernel⟩

end Program

/-! Defaults along `export * from`. -/

namespace SourceFile

/-- The file itself exports a default: by a statement of its own, or from another file by name. -/
def exportsDefault (file : SourceFile) : Bool :=
  file.defaultName?.isSome || file.reexports.any fun statement =>
    (statement.listed.getD []).any fun passed => passed.exported = "default"

/-- Also a type that goes by the name `default` is taken for one. -/
def HasDefault (file : SourceFile) : Prop :=
  file.exportsDefault = true ∨ file.definitionsOf "default" ≠ []

theorem not_hasDefault_iff {file : SourceFile} : ¬file.HasDefault ↔
    file.defaultName? = none ∧ file.definitionsOf "default" = [] ∧
      ∀ statement ∈ file.reexports, ∀ names, statement.listed = some names →
        ∀ passed ∈ names, passed.exported ≠ "default" := by
  have hlisted : ∀ statement : Reexport,
      (∀ passed ∈ statement.listed.getD [], passed.exported ≠ "default") ↔
        ∀ names, statement.listed = some names →
          ∀ passed ∈ names, passed.exported ≠ "default" := by
    intro statement
    cases statement.listed <;> simp
  simp only [← hlisted]
  simp [HasDefault, exportsDefault]
  tauto

end SourceFile

namespace Program

/-- So many `export * from`, one after the other, each in a file without a default. -/
inductive Stars (program : Program) : Nat → SourceFile → SourceFile → Prop where
  | here (file : SourceFile) : Stars program 0 file file
  | star {count : Nat} {file target source : SourceFile} {specifier : String}
      (hplain : ¬file.HasDefault) (hstar : ⟨specifier, none⟩ ∈ file.reexports)
      (htarget : program.module? file specifier = some target)
      (hrest : Stars program count target source) : Stars program (count + 1) file source

section Defaults

variable {program : Program} {file : SourceFile}

/-- A file without a default passes on the defaults of the files it re-exports as a whole. -/
theorem mem_sourcesOf_default (h : ¬file.HasDefault) {next : Export} :
    next ∈ program.sourcesOf ⟨file, "default"⟩ ↔ ∃ specifier target,
      ⟨specifier, none⟩ ∈ file.reexports ∧ program.module? file specifier = some target ∧
        next = ⟨target, "default"⟩ := by
  obtain ⟨hnone, _, hlisted⟩ := SourceFile.not_hasDefault_iff.1 h
  rw [sourcesOf_of_not_default (.inr hnone), List.mem_flatMap]
  constructor
  · rintro ⟨⟨specifier, listed⟩, hstatement, hnext⟩
    obtain ⟨target, htarget, hpassed⟩ := mem_passedSources.1 hnext
    rcases hpassed with ⟨rfl, rfl⟩ | ⟨names, hnames, passed, hpassed, hdefault, _⟩
    · exact ⟨specifier, target, hstatement, htarget, rfl⟩
    · exact absurd hdefault (hlisted _ hstatement names hnames passed hpassed)
  · rintro ⟨specifier, target, hstar, htarget, rfl⟩
    exact ⟨_, hstar, mem_passedSources.2 ⟨target, htarget, .inl ⟨rfl, rfl⟩⟩⟩

theorem Stars.eq_of_hasDefault {count : Nat} {source : SourceFile}
    (h : program.Stars count file source) (hfile : file.HasDefault) :
    count = 0 ∧ source = file := by
  cases h with
  | here => exact ⟨rfl, rfl⟩
  | star hplain => exact absurd hfile hplain

theorem mem_exported_default {definition : Definition} (hops : Nat) (file : SourceFile) :
    definition ∈ program.exported hops ⟨file, "default"⟩ ↔ ∃ count ≤ hops, ∃ source,
      program.Stars count file source ∧ source.HasDefault ∧
        definition ∈ program.exported (hops - count) ⟨source, "default"⟩ := by
  induction hops generalizing file with
  | zero =>
      constructor
      · intro h
        refine ⟨0, Nat.le_refl _, file, .here file, ?_, h⟩
        by_contra hplain
        obtain ⟨hnone, hown, _⟩ := SourceFile.not_hasDefault_iff.1 hplain
        rw [exported, SourceFile.localName_of_not_default (.inr hnone)] at h
        simp [hown] at h
      · rintro ⟨count, hcount, source, hstars, _, h⟩
        obtain rfl := Nat.le_zero.1 hcount
        cases hstars
        exact h
  | succ hops ih =>
      by_cases hdefault : file.HasDefault
      · constructor
        · exact fun h => ⟨0, Nat.zero_le _, file, .here file, hdefault, h⟩
        · rintro ⟨count, _, source, hstars, _, h⟩
          obtain ⟨rfl, rfl⟩ := hstars.eq_of_hasDefault hdefault
          exact h
      · -- one star leads on, and the rest of the chain has one step less to go
        obtain ⟨hnone, hown, _⟩ := SourceFile.not_hasDefault_iff.1 hdefault
        simp only [exported, SourceFile.localName_of_not_default (.inr hnone), hown,
          List.mem_flatMap, mem_sourcesOf_default hdefault]
        constructor
        · rintro ⟨_, ⟨specifier, target, hstar, htarget, rfl⟩, h⟩
          obtain ⟨count, hcount, source, hstars, hsource, h⟩ := (ih target).1 h
          refine ⟨count + 1, Nat.succ_le_succ hcount, source,
            .star hdefault hstar htarget hstars, hsource, ?_⟩
          rwa [Nat.add_sub_add_right]
        · rintro ⟨count, hcount, source, hstars, hsource, h⟩
          cases hstars with
          | here => exact absurd hsource hdefault
          | @star rest _ target _ _ _ hstar htarget hrest =>
              rw [Nat.add_sub_add_right] at h
              exact ⟨_, ⟨_, target, hstar, htarget, rfl⟩,
                (ih target).2 ⟨rest, Nat.le_of_succ_le_succ hcount, source, hrest, hsource, h⟩⟩

/-- A file shows a default exactly when so many `export * from` lead to a file that has one and
shows it in what is left of the depth. So a file that re-exports no other as a whole shows one only
if it exports one itself. -/
theorem exported_default_iff (program : Program) (hops : Nat) (file : SourceFile) :
    (program.exported hops ⟨file, "default"⟩ ≠ [] ↔ ∃ count ≤ hops, ∃ source,
      program.Stars count file source ∧ source.HasDefault ∧
        program.exported (hops - count) ⟨source, "default"⟩ ≠ []) ∧
    ((∀ specifier, ⟨specifier, none⟩ ∉ file.reexports) → file.definitionsOf "default" = [] →
      program.exported hops ⟨file, "default"⟩ ≠ [] → file.exportsDefault = true) := by
  have hchain : program.exported hops ⟨file, "default"⟩ ≠ [] ↔ ∃ count ≤ hops, ∃ source,
      program.Stars count file source ∧ source.HasDefault ∧
        program.exported (hops - count) ⟨source, "default"⟩ ≠ [] := by
    constructor
    · intro h
      obtain ⟨definition, hdefinition⟩ := List.exists_mem_of_ne_nil _ h
      obtain ⟨count, hcount, source, hstars, hsource, hmem⟩ :=
        (mem_exported_default hops file).1 hdefinition
      exact ⟨count, hcount, source, hstars, hsource, List.ne_nil_of_mem hmem⟩
    · rintro ⟨count, hcount, source, hstars, hsource, h⟩
      obtain ⟨definition, hdefinition⟩ := List.exists_mem_of_ne_nil _ h
      exact List.ne_nil_of_mem ((mem_exported_default hops file).2
        ⟨count, hcount, source, hstars, hsource, hdefinition⟩)
  refine ⟨hchain, fun hstars hown h => ?_⟩
  obtain ⟨count, _, source, hchain, hsource, _⟩ := hchain.1 h
  cases hchain with
  | here => exact hsource.resolve_right (not_not_intro hown)
  | star _ hstar => exact absurd hstar (hstars _)

end Defaults

open Outline in
/-- `export * from './c'`, where the other file has `export default D`. -/
def starSample : Program :=
  let text := "export * from './c';"
  let tree := inner (.other "program") 0 20 []
    [inner .exportStatement 0 20 []
      [mark "export" 0, mark "*" 7, mark "from" 9,
        inner .stringLiteral 14 19 [.source] [mark "'" 14, mark "'" 18], mark ";" 19]]
  let declared : Outline := ⟨'D', none, [⟨'d', none⟩]⟩
  let otherText := declared.text ++ "\nexport default D;"
  let keyword : Node := ⟨⟨.defaultKeyword, 33, 40, false, false, false, []⟩, []⟩
  let otherTree := inner (.other "program") 0 43 []
    [declared.node 0,
      inner .exportStatement 26 43 []
        [mark "export" 26, keyword, inner .identifier 41 42 [.value] [], mark ";" 42]]
  (empty.store (.ofText "/ws/b.ts") text tree).store (.ofText "/ws/c.ts") otherText otherTree

set_option maxRecDepth 10000 in
theorem exported_default_iff_sample :
    ∃ file ∈ starSample.sources, (∀ specifier, ⟨specifier, none⟩ ∉ file.reexports) ∧
      file.definitionsOf "default" = [] ∧ starSample.exported maxHops ⟨file, "default"⟩ ≠ [] ∧
      file.exportsDefault = true ∧ ∃ count ≤ maxHops, ∃ source,
        starSample.Stars count file source ∧ source.HasDefault := by
  let file := starSample.sources.get ⟨1, by decide +kernel⟩
  have hnone : file.reexports = [] := by decide +kernel
  have hstars : ∀ specifier, ⟨specifier, none⟩ ∉ file.reexports := by simp [hnone]
  have hown : file.definitionsOf "default" = [] := by decide +kernel
  have hshown : starSample.exported maxHops ⟨file, "default"⟩ ≠ [] := by decide +kernel
  obtain ⟨hchain, hplain⟩ := exported_default_iff starSample maxHops file
  obtain ⟨count, hcount, source, hsource, hdefault, _⟩ := hchain.1 hshown
  exact ⟨file, List.get_mem _ _, hstars, hown, hshown, hplain hstars hown hshown, count, hcount,
    source, hsource, hdefault⟩

set_option maxRecDepth 10000 in
theorem star_passes_default : ∃ file ∈ starSample.sources, file.isModule = true ∧
    file.exportsDefault = false ∧ file.definitionsOf "default" = [] ∧
      starSample.exported maxHops ⟨file, "default"⟩ ≠ [] := by
  let file := starSample.sources.get ⟨0, by decide +kernel⟩
  exact ⟨file, List.get_mem _ _, by decide +kernel, by decide +kernel, by decide +kernel,
    by decide +kernel⟩

end Program

end Keypath
