import Keypath.Proofs.Correspondence
import Keypath.Proofs.Relocation
import Keypath.Proofs.Schema.Termination
import Keypath.Workspace

/-!
Candidates for a schema.

The requested file and the files of the settings are tried in turn, each once. A file without a
configuration is passed over before anything of it is expanded; so the first file with one gives the
schema and all that is observed, and if there is none the requested file says why.
-/

namespace Keypath

open Keypath.Tree

/-- At file level an interface extends a type that goes by the marker's name. -/
def SourceFile.Configures (file : SourceFile) (marker : String) : Prop :=
  ∃ focus ∈ file.topLevel, focus.kind = .interfaceDeclaration ∧
    ∃ base ∈ focus.heritageEntries, ∃ name, base.typeName? = some name ∧ file.textOf name = marker

theorem SourceFile.isSome_configRoot? {file : SourceFile} {marker : String} :
    (file.configRoot? marker).isSome = true ↔ file.Configures marker := by
  rw [configRoot?, Option.isSome_map, List.find?_isSome]
  refine exists_congr fun focus => and_congr_right fun _ => ?_
  rw [Bool.and_eq_true, decide_eq_true_eq, List.any_eq_true]
  refine and_congr_right fun _ => exists_congr fun base => and_congr_right fun _ => ?_
  cases base.typeName? <;> simp

namespace Program

variable {program : Program} {marker : String} {path : Path}

def Configures (program : Program) (marker : String) (path : Path) : Prop :=
  ∃ file, program.find? path = some file ∧ file.Configures marker

def configRoot? (program : Program) (path : Path) (marker : String) : Option Site :=
  (program.find? path).bind fun file => file.configRoot? marker

theorem isSome_configRoot? :
    (program.configRoot? path marker).isSome = true ↔ program.Configures marker path := by
  unfold configRoot? Configures
  cases program.find? path with
  | none => simp
  | some file => simp [SourceFile.isSome_configRoot?]

/-- What an observer is told while a file is tried: the events of the expansion, if there is a
declaration to expand. -/
def observed (program : Program) (path : Path) (marker : String) : List Event :=
  match program.configRoot? path marker with
  | none => []
  | some root =>
      match Expand.node program.lookup program.budget root .start with
      | some (_, progress) => progress.events
      | none => []

/-- How a file is tried: there is nothing to expand, or there is and the expansion ends or not. -/
inductive Tried (program : Program) (marker : String) (path : Path) : Prop where
  | refused (hconfigures : ¬program.Configures marker path) (error : CompletionError)
      (hresolve : program.resolve path marker = .error error)
      (hobserved : program.observed path marker = [])
  | resolved (hconfigures : program.Configures marker path) (resolution : Resolution)
      (hresolve : program.resolve path marker = .ok resolution)
      (hobserved : program.observed path marker = resolution.events)
  | endless (hconfigures : program.Configures marker path)
      (hresolve : program.resolve path marker = .error (.endlessExpansion path))

theorem tried (program : Program) (marker : String) (path : Path) :
    program.Tried marker path := by
  have hconfigures : (program.configRoot? path marker).isSome = true ↔
      program.Configures marker path := isSome_configRoot?
  cases hfile : program.find? path with
  | none =>
      have hroot : program.configRoot? path marker = none := by rw [configRoot?, hfile]; rfl
      refine .refused (fun h => ?_) (.fileNotInProgram path) ?_ ?_
      · rw [hroot] at hconfigures
        cases hconfigures.2 h
      · rw [resolve, resolveWith, hfile]
      · rw [observed, hroot]
  | some file =>
      have hroot : program.configRoot? path marker = file.configRoot? marker := by
        rw [configRoot?, hfile]; rfl
      cases hfound : file.configRoot? marker with
      | none =>
          rw [hfound] at hroot
          refine .refused (fun h => ?_) (.noConfigSchema path marker) ?_ ?_
          · rw [hroot] at hconfigures
            cases hconfigures.2 h
          · simp only [resolve, resolveWith, hfile, hfound]
          · rw [observed, hroot]
      | some root =>
          rw [hfound] at hroot
          have hconfigured : program.Configures marker path :=
            hconfigures.1 (by rw [hroot, Option.isSome_some])
          cases hnode : Expand.node program.lookup program.budget root .start with
          | none =>
              refine .endless hconfigured ?_
              simp only [resolve, resolveWith, hfile, hfound, hnode]
          | some result =>
              refine .resolved hconfigured ⟨result.1, result.2.events⟩ ?_ ?_
              · simp only [resolve, resolveWith, hfile, hfound, hnode]
              · simp only [observed, hroot, hnode]

/-- Where names are set behind their keywords, an expansion ends. -/
theorem resolve_ne_endless (built : program.Built)
    (wellLaid : ∀ file ∈ program.sources, file.WellLaid) (path : Path) (marker : String) :
    program.resolve path marker ≠ .error (.endlessExpansion path) := by
  intro hendless
  unfold resolve resolveWith at hendless
  split at hendless
  · cases hendless
  · rename_i file hfile
    split at hendless
    · cases hendless
    · rename_i root hroot
      have hsite := Correspondence.root_mem_sites (mem_sources_of_find? hfile) hroot
      obtain ⟨schema, after, hnode⟩ :=
        Expand.exists_node (lookup_declares_of_wellLaid built wellLaid) hsite .start
      rw [hnode] at hendless
      cases hendless

end Program

/-! The search. -/

theorem Search.among_of_split {resolve : Path → Except CompletionError Resolution}
    {before : List Path} {found : Path} {resolution : Resolution}
    (hbefore : ∀ other ∈ before, ∃ error, resolve other = .error error)
    (hfound : resolve found = .ok resolution) (after : List Path) :
    (Search.among resolve (before ++ found :: after)).found = some (found, resolution) := by
  induction before with
  | nil => rw [List.nil_append, among, hfound]
  | cons other rest ih =>
      obtain ⟨⟨error, herror⟩, hrest⟩ := List.forall_mem_cons.1 hbefore
      rw [List.cons_append, among, herror]
      exact ih hrest

theorem Search.among_of_none {resolve : Path → Except CompletionError Resolution}
    {candidates : List Path}
    (h : ∀ candidate ∈ candidates, ∃ error, resolve candidate = .error error) :
    (Search.among resolve candidates).found = none := by
  induction candidates with
  | nil => rfl
  | cons candidate rest ih =>
      obtain ⟨⟨error, herror⟩, hrest⟩ := List.forall_mem_cons.1 h
      rw [among, herror]
      exact ih hrest

theorem Search.head?_failures {resolve : Path → Except CompletionError Resolution}
    {candidate : Path} {error : CompletionError} (h : resolve candidate = .error error)
    (rest : List Path) :
    (Search.among resolve (candidate :: rest)).failures.head? = some error := by
  rw [among, h]
  rfl

namespace Workspace

variable {workspace : Workspace} {requested found : Path}

theorem candidates_eq (workspace : Workspace) (requested : Path) :
    workspace.candidates requested =
      (requested.normalize :: workspace.settings.schemaFiles.map fun file =>
        (workspace.root.join file).normalize).eraseDups := by
  unfold candidates
  -- a file is compared with all that was collected before it
  induction workspace.settings.schemaFiles using List.reverseRecOn with
  | nil => rfl
  | append_singleton files file ih =>
      rw [List.foldl_concat, ih, List.map_append, List.map_singleton, ← List.cons_append,
        Table.eraseDups_concat]
      simp only [List.contains_iff_mem, List.mem_eraseDups]

theorem exists_candidates_cons (workspace : Workspace) (requested : Path) :
    ∃ rest, workspace.candidates requested = requested.normalize :: rest := by
  rw [candidates_eq, List.eraseDups_cons]
  exact ⟨_, rfl⟩

def FirstConfigured (workspace : Workspace) (requested found : Path) : Prop :=
  let Configures := workspace.program.Configures workspace.settings.markerType
  Configures found ∧ ∃ before after, workspace.candidates requested = before ++ found :: after ∧
    ∀ other ∈ before, ¬Configures other

/-- What an observer is told in the course of a search: all that it is told of the candidates that
are tried. -/
def observedAmong (program : Program) (marker : String) : List Path → List Event
  | [] => []
  | candidate :: rest =>
      program.observed candidate marker ++
        match program.resolve candidate marker with
        | .ok _ => []
        | .error _ => observedAmong program marker rest

def observed (workspace : Workspace) (requested : Path) : List Event :=
  observedAmong workspace.program workspace.settings.markerType (workspace.candidates requested)

theorem exists_firstConfigured {candidate : Path}
    (hcandidate : candidate ∈ workspace.candidates requested)
    (hconfigures : workspace.program.Configures workspace.settings.markerType candidate) :
    ∃ found, workspace.FirstConfigured requested found := by
  classical
  let configures (path : Path) : Bool :=
    decide (workspace.program.Configures workspace.settings.markerType path)
  have hsome : ((workspace.candidates requested).find? configures).isSome = true :=
    List.find?_isSome.2 ⟨candidate, hcandidate, decide_eq_true hconfigures⟩
  obtain ⟨found, hfound⟩ := Option.isSome_iff_exists.1 hsome
  obtain ⟨hconfigured, before, after, hsplit, hbefore⟩ := List.find?_eq_some_iff_append.1 hfound
  refine ⟨found, of_decide_eq_true hconfigured, before, after, hsplit, fun other hother => ?_⟩
  simpa [configures] using hbefore other hother

theorem observedAmong_append {program : Program} {marker : String} {before : List Path}
    (hbefore : ∀ other ∈ before, ¬program.Configures marker other) (rest : List Path) :
    observedAmong program marker (before ++ rest) = observedAmong program marker rest := by
  induction before with
  | nil => rfl
  | cons other before ih =>
      obtain ⟨hother, hbefore⟩ := List.forall_mem_cons.1 hbefore
      rw [List.cons_append, observedAmong]
      cases program.tried marker other with
      | refused _ error hresolve hobserved =>
          rw [hresolve, hobserved]
          exact ih hbefore
      | resolved hconfigures => exact absurd hconfigures hother
      | endless hconfigures => exact absurd hconfigures hother

theorem exists_error_of_not_configures {program : Program} {marker : String} {path : Path}
    (h : ¬program.Configures marker path) :
    ∃ error, program.resolve path marker = .error error := by
  cases program.tried marker path with
  | refused _ error hresolve => exact ⟨error, hresolve⟩
  | resolved hconfigures => exact absurd hconfigures h
  | endless hconfigures => exact absurd hconfigures h

theorem resolve_of_firstConfigured {resolution : Resolution}
    (hfirst : workspace.FirstConfigured requested found)
    (hresolution : workspace.program.resolve found workspace.settings.markerType = .ok resolution) :
    workspace.resolve requested = .ok (found, resolution) ∧
      workspace.observed requested = resolution.events := by
  obtain ⟨hconfigures, before, after, hsplit, hbefore⟩ := hfirst
  constructor
  · have hfound := Search.among_of_split
      (fun other hother => exists_error_of_not_configures (hbefore other hother)) hresolution after
    rw [Workspace.resolve, search, hsplit, hfound]
  · rw [observed, hsplit, observedAmong_append hbefore, observedAmong, hresolution, List.append_nil]
    cases workspace.program.tried workspace.settings.markerType found with
    | refused hnot => exact absurd hconfigures hnot
    | resolved _ other hresolve hobserved =>
        obtain rfl := Except.ok.inj (hresolve.symm.trans hresolution)
        exact hobserved
    | endless _ hresolve => cases hresolve.symm.trans hresolution

theorem resolve_of_none_configures
    (h : ∀ candidate ∈ workspace.candidates requested,
      ¬workspace.program.Configures workspace.settings.markerType candidate) :
    ∃ error, workspace.program.resolve requested.normalize workspace.settings.markerType =
        .error error ∧
      workspace.resolve requested = .error error ∧ workspace.observed requested = [] := by
  obtain ⟨rest, hcandidates⟩ := exists_candidates_cons workspace requested
  obtain ⟨error, herror⟩ := exists_error_of_not_configures
    (h requested.normalize (by rw [hcandidates]; exact List.mem_cons_self))
  refine ⟨error, herror, ?_, ?_⟩
  · have hfound := Search.among_of_none fun candidate hcandidate =>
      exists_error_of_not_configures (h candidate hcandidate)
    rw [Workspace.resolve, search, hfound, hcandidates, Search.head?_failures herror]
    rfl
  · rw [observed, ← List.append_nil (workspace.candidates requested), observedAmong_append h]
    rfl

theorem none_configures_or_exists_schema
    (hends : ∀ found, workspace.FirstConfigured requested found →
      workspace.program.resolve found workspace.settings.markerType ≠
        .error (.endlessExpansion found)) :
    (∀ candidate ∈ workspace.candidates requested,
      ¬workspace.program.Configures workspace.settings.markerType candidate) ∨
    ∃ first resolution, workspace.FirstConfigured requested first ∧
      workspace.program.resolve first workspace.settings.markerType = .ok resolution := by
  refine or_iff_not_imp_left.2 fun hsome => ?_
  push Not at hsome
  obtain ⟨candidate, hcandidate, hconfigures⟩ := hsome
  obtain ⟨first, hfirst⟩ := exists_firstConfigured hcandidate hconfigures
  cases workspace.program.tried workspace.settings.markerType first with
  | refused hnot => exact absurd hfirst.1 hnot
  | resolved _ resolution hresolve => exact ⟨first, resolution, hfirst, hresolve⟩
  | endless _ hresolve => exact absurd hresolve (hends first hfirst)

/-- The files that are tried are the requested one and the configured ones, normalised, each at its
first place. On files whose names are set behind their keywords every expansion ends. Whenever that
of the first candidate with a configuration does, a search finds this candidate with its schema and
nothing else; it fails just if there is no such candidate, with what is wrong with the requested
file; and an observer is told of the expansion that gives the schema and of no other. -/
theorem resolve_takes_first_configured {workspace : Workspace} (built : workspace.program.Built)
    (requested : Path) :
    let program := workspace.program
    let marker := workspace.settings.markerType
    let candidates := workspace.candidates requested
    let Ends := ∀ found, workspace.FirstConfigured requested found →
      program.resolve found marker ≠ .error (.endlessExpansion found)
    candidates = (requested.normalize :: workspace.settings.schemaFiles.map fun file =>
        (workspace.root.join file).normalize).eraseDups ∧
    candidates.Nodup ∧ candidates.head? = some requested.normalize ∧
    ((∀ file ∈ program.sources, file.WellLaid) → Ends) ∧
    (Ends →
      (∀ found resolution, workspace.resolve requested = .ok (found, resolution) ↔
        workspace.FirstConfigured requested found ∧
          program.resolve found marker = .ok resolution) ∧
      (∀ error, workspace.resolve requested = .error error ↔
        (∀ candidate ∈ candidates, ¬program.Configures marker candidate) ∧
          program.resolve requested.normalize marker = .error error) ∧
      workspace.observed requested =
        match workspace.resolve requested with
        | .ok (_, resolution) => resolution.events
        | .error _ => []) := by
  intro program marker candidates Ends
  have hcandidates := candidates_eq workspace requested
  obtain ⟨rest, hcons⟩ := exists_candidates_cons workspace requested
  refine ⟨hcandidates, ?_, ?_, ?_, fun hends => ?_⟩
  · exact Eq.mpr (congrArg List.Nodup hcandidates) (Table.nodup_eraseDups _)
  · exact congrArg List.head? hcons
  · exact fun wellLaid found _ => Program.resolve_ne_endless built wellLaid found marker
  rcases none_configures_or_exists_schema hends with hnone | ⟨first, schema, hfirst, hschema⟩
  · obtain ⟨reason, hreason, hresolve, hobserved⟩ := resolve_of_none_configures hnone
    refine ⟨fun found resolution => ⟨fun h => ?_, fun h => ?_⟩,
      fun error => ⟨fun h => ?_, fun h => ?_⟩, ?_⟩
    · cases hresolve.symm.trans h
    · exact (resolve_of_firstConfigured h.1 h.2).1
    · cases hresolve.symm.trans h
      exact ⟨hnone, hreason⟩
    · cases hreason.symm.trans h.2
      exact hresolve
    · rw [hobserved, hresolve]
  · obtain ⟨hresolve, hobserved⟩ := resolve_of_firstConfigured hfirst hschema
    refine ⟨fun found resolution => ⟨fun h => ?_, fun h => ?_⟩,
      fun error => ⟨fun h => ?_, fun h => ?_⟩, ?_⟩
    · cases hresolve.symm.trans h
      exact ⟨hfirst, hschema⟩
    · exact (resolve_of_firstConfigured h.1 h.2).1
    · cases hresolve.symm.trans h
    · obtain ⟨hconfigures, before, after, hsplit, _⟩ := hfirst
      exact absurd hconfigures (h.1 first (by simp [candidates, hsplit]))
    · rw [hobserved, hresolve]

/-- `A` in the requested file extends nothing; `B` and `C` in the files of the settings, of which
the requested one is another, extend the marker. -/
def candidatesSample : Workspace where
  root := .ofText "/ws"
  settings := { Settings.standard with
    markerType := "M"
    schemaFiles := [.ofText "b.ts", .ofText "./a.ts", .ofText "c.ts", .ofText "b.ts"] }
  program := [("/ws/a.ts", ⟨'A', none, [⟨'k', none⟩]⟩),
      ("/ws/b.ts", ⟨'B', some 'M', [⟨'l', none⟩]⟩),
      ("/ws/c.ts", ⟨'C', some 'M', [⟨'m', none⟩]⟩)].foldl
    (fun program (path, outline) => program.store (.ofText path) (Outline.sourceText [outline])
      (Outline.sourceTree [outline])) .empty

set_option maxRecDepth 10000 in
theorem resolve_takes_first_configured_sample :
    let requested := Path.ofText "/ws/x/../a.ts"
    let found := Path.ofText "/ws/b.ts"
    candidatesSample.program.Built ∧ (∀ file ∈ candidatesSample.program.sources, file.WellLaid) ∧
      candidatesSample.FirstConfigured requested found ∧
      ∃ resolution, candidatesSample.resolve requested = .ok (found, resolution) ∧
        candidatesSample.observed requested = resolution.events := by
  intro requested found
  have built : candidatesSample.program.Built :=
    .store (.store (.store .empty _ _ _) _ _ _) _ _ _
  have wellLaid : ∀ file ∈ candidatesSample.program.sources, file.WellLaid := by decide +kernel
  have hfound : candidatesSample.program.Configures "M" found :=
    Program.isSome_configRoot?.1 (by decide +kernel)
  have hfirst : candidatesSample.FirstConfigured requested found := by
    refine ⟨hfound, [.ofText "/ws/a.ts"], [.ofText "/ws/c.ts"], by decide +kernel, ?_⟩
    intro other hother hconfigures
    obtain rfl := List.mem_singleton.1 hother
    exact absurd (Program.isSome_configRoot?.2 hconfigures) (by decide +kernel)
  obtain ⟨-, -, -, hends, hsearch⟩ := resolve_takes_first_configured built requested
  obtain ⟨hok, -, hobserved⟩ := hsearch (hends wellLaid)
  refine ⟨built, wellLaid, hfirst, ?_⟩
  cases candidatesSample.program.tried "M" found with
  | refused hnot => exact absurd hfound hnot
  | endless _ hresolve => exact absurd hresolve (hends wellLaid found hfirst)
  | resolved _ resolution hresolve =>
      have hresult := (hok found resolution).2 ⟨hfirst, hresolve⟩
      rw [hresult] at hobserved
      exact ⟨resolution, hresult, hobserved⟩

end Workspace

end Keypath
