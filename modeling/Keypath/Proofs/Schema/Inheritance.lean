import Keypath.Proofs.Schema.Calls
import Keypath.Proofs.Schema.Provenance

/-!
Which keys a schema has of the declarations behind it.

A base type gives nothing while it is under way, and it may be under way without extending anything:
references through properties lead to it as well. Apart from bases that were under way when the
heritage entry that names them was expanded, a declaration has the keys of everything it extends, at
every depth of a schema and whichever schemas were taken from the record.
-/

namespace Keypath

open Keypath.Tree

def Site.bases (lookup : Lookup) (declaration : Site) : List Site :=
  declaration.heritageEntries.flatMap fun entry => (lookup entry).sites

def Site.Extends (lookup : Lookup) (declaration base : Site) : Prop :=
  base ∈ declaration.bases lookup

/-- When the usage was expanded, the declaration that it names was under way. -/
def CutIn (log : List Call) (usage declaration : Site) : Prop :=
  ∃ around progress, .follow (usage :: around) declaration progress ∈ log ∧
    declaration.id ∈ progress.expanding

/-- Names of keys written in a declaration or in one it extends, along bases that were not cut. -/
inductive Inherits (lookup : Lookup) (log : List Call) : (declaration : Site) → (name : String) →
    Prop where
  | own {declaration property : Site} {name : String} (hwrites : declaration.Writes property)
      (hname : property.propertyName? = some name) : Inherits lookup log declaration name
  | base {declaration entry base : Site} {name : String}
      (hinterface : declaration.has .interface = true)
      (hentry : entry ∈ declaration.heritageEntries) (hbase : base ∈ (lookup entry).sites)
      (hgiven : ¬CutIn log entry base) (hinherits : Inherits lookup log base name) :
      Inherits lookup log declaration name

/-! Keys that are passed on without being cut. -/

section Keeps

variable {lookup : Lookup} {log : List Call}

inductive Keeps (lookup : Lookup) (log : List Call) : Site → String → Prop where
  | self {site : Site} {name : String} (hproperty : site.has .property = true)
      (hname : site.propertyName? = some name) : Keeps lookup log site name
  | visit {site next : Site} {name : String} (hvisit : .visit next ∈ site.parts lookup)
      (hkeeps : Keeps lookup log next name) : Keeps lookup log site name
  | follow {site next : Site} {name : String} (hfollow : .follow next ∈ site.parts lookup)
      (hgiven : ¬CutIn log site next) (hkeeps : Keeps lookup log next name) :
      Keeps lookup log site name

theorem Site.visit_mem_parts {site next : Site} {shape : Shape}
    (hshape : shape ∈ Site.contributing) (hhas : site.has shape = true)
    (hnext : .visit next ∈ site.partsOf lookup shape) : .visit next ∈ site.parts lookup :=
  Site.mem_parts.2 ⟨shape, hshape, hhas, hnext⟩

theorem Site.Writes.keeps {declaration property : Site} {name : String}
    (h : declaration.Writes property) (hname : property.propertyName? = some name) :
    Keeps lookup log declaration name := by
  cases h with
  | member hinterface hmember hproperty =>
      refine .visit (Site.visit_mem_parts (by simp [Site.contributing]) hinterface ?_)
        (.self hproperty hname)
      simp [Site.partsOf, hmember]
  | @aliased literal halias hliteral hmember hproperty =>
      have hhas := (Option.filter_eq_some_iff.1 hliteral).2
      refine .visit (Site.visit_mem_parts (by simp [Site.contributing]) halias ?_)
        (.visit (Site.visit_mem_parts (by simp [Site.contributing]) hhas ?_)
          (.self hproperty hname))
      · simp [Site.partsOf, hliteral]
      · simp [Site.partsOf, hmember]

theorem Inherits.keeps {declaration : Site} {name : String}
    (h : Inherits lookup log declaration name) : Keeps lookup log declaration name := by
  induction h with
  | own hwrites hname => exact hwrites.keeps hname
  | @base declaration entry base name hinterface hentry hbase hgiven _ ih =>
      have hheritage : entry.has .heritage = true := by
        simp [Site.has, Site.isHeritageEntry_of_mem_heritageEntries hentry]
      have hfollow : .follow base ∈ entry.partsOf lookup .heritage := by simp [Site.partsOf, hbase]
      refine .visit (Site.visit_mem_parts (by simp [Site.contributing]) hinterface ?_)
        (.follow (Site.mem_parts.2 ⟨.heritage, ?_, hheritage, hfollow⟩) hgiven ih)
      · simp [Site.partsOf, hentry]
      · simp [Site.contributing]

def HasKept (lookup : Lookup) (log : List Call) (site : Site) (schema : Schema) : Prop :=
  ∀ name, Keeps lookup log site name → name ∈ schema.keys

def ChildrenKept (lookup : Lookup) (log : List Call) (property : Site) (entry : Entry) : Prop :=
  entry.kind = some .reference → ∀ children, entry.children = some children →
    ∀ declaration ∈ (lookup property).sites,
      ¬CutIn log property declaration ∨
        (∀ other ∈ (lookup property).sites, other = declaration) →
      ∀ name, Keeps lookup log declaration name → name ∈ children.keys

/-- A declaration that a usage names gives a schema of a kind, or it is cut. -/
def GivenOrCut (Kind : Site → Schema → Prop) (log : List Call) (usage declaration : Site) :
    Option Schema → Prop
  | some schema => Kind declaration schema
  | none => CutIn log usage declaration

theorem Composed.hasKept {site : Site} {schema : Schema}
    (h : Composed lookup (HasKept lookup log) (GivenOrCut (HasKept lookup log) log site) site
      schema) : HasKept lookup log site schema := by
  obtain ⟨found, hfound, rfl⟩ := h
  have hjoined (part : Part) {name : String} (hpart : part ∈ site.parts lookup)
      (hgiven : ∀ given, Given lookup (HasKept lookup log)
        (GivenOrCut (HasKept lookup log) log site) part given →
        ∃ schema, given = some schema ∧ name ∈ schema.keys) :
      name ∈ (Table.joined found.reduceOption).keys := by
    obtain ⟨given, hmem, hrel⟩ := forall₂_exists_right hfound hpart
    obtain ⟨schema, rfl, hname⟩ := hgiven given hrel
    exact Table.mem_keys_joined (by simpa [List.reduceOption] using hmem) hname
  intro name hkeeps
  cases hkeeps with
  | self hproperty hname =>
      have hpart : .key site name ∈ site.partsOf lookup .property := by simp [Site.partsOf, hname]
      refine hjoined (.key site name)
        (Site.mem_parts.2 ⟨.property, by simp [Site.contributing], hproperty, hpart⟩) ?_
      intro _ hresult
      obtain ⟨entry, rfl, _⟩ := hresult
      exact ⟨_, rfl, by simp [Table.single, Table.keys]⟩
  | @visit _ next _ hvisit hkeeps =>
      refine hjoined _ hvisit ?_
      intro given hresult
      obtain ⟨schema, rfl, hschema⟩ := hresult
      exact ⟨schema, rfl, hschema name hkeeps⟩
  | @follow _ next _ hfollow hnext hkeeps =>
      refine hjoined _ hfollow ?_
      intro given hgiven
      cases given with
      | none => exact absurd hgiven hnext
      | some schema => exact ⟨schema, rfl, hgiven name hkeeps⟩

theorem Described.childrenKept {Visit : Site → Schema → Prop} {property : Site} {entry : Entry}
    (h : Described lookup Visit (GivenOrCut (HasKept lookup log) log property) property entry) :
    ChildrenKept lookup log property entry := by
  intro hkind children hchildren declaration hdeclaration huncut name hkeeps
  cases h with
  | untyped | unresolved => cases hkind
  | literal _ hother | leaf _ hother => exact absurd (Option.some.inj hkind) hother
  | @reference written found _ _ _ hfound =>
      have hjoined := eq_joined_of_childrenOf hchildren
      obtain ⟨schema, hschema, hkept⟩ : ∃ schema, some schema ∈ found ∧
          HasKept lookup log declaration schema := by
        rcases huncut with huncut | honly
        · obtain ⟨given, hmem, hgiven⟩ := forall₂_exists_right hfound hdeclaration
          cases given with
          | none => exact absurd hgiven huncut
          | some schema => exact ⟨schema, hmem, hgiven⟩
        · -- not every declaration was cut, and there is no other one
          obtain ⟨schema, hmem⟩ := exists_some_of_childrenOf hchildren
          obtain ⟨other, hother, hgiven⟩ := forall₂_exists_left hfound hmem
          obtain rfl := honly other hother
          exact ⟨schema, hmem, hgiven⟩
      rw [hjoined]
      exact Table.mem_keys_joined (by simpa [List.reduceOption] using hschema) (hkept name hkeeps)

end Keeps

namespace Expand

def Complete (lookup : Lookup) (log : List Call) (site : Site) (schema : Schema) : Prop :=
  Traced lookup (fun property entry => entry.detail = property.writtenType?.map Site.text ∧
    ChildrenKept lookup log property entry) site schema ∧ HasKept lookup log site schema

section Complete

variable {program : Program} {lookup : Lookup} {log : List Call} {site : Site}

theorem complete_of_composed {schema : Schema}
    (h : Composed lookup (Complete lookup log) (GivenOrCut (Complete lookup log) log site) site
      schema) : Complete lookup log site schema := by
  have hfollow : ∀ next found, GivenOrCut (Complete lookup log) log site next found →
      GivenOrCut (HasKept lookup log) log site next found := by
    intro next found hfound
    cases found with
    | none => exact hfound
    | some schema => exact hfound.2
  constructor
  · refine h.traced (fun _ _ hnext => hnext.1) (fun _ _ hnext => hnext.1) ?_
    intro entry hentry
    have hkept := hentry.imp (fun _ _ _ hnext => hnext) fun next _ => hfollow next
    exact ⟨hentry.detail_eq, hkept.childrenKept⟩
  · exact (h.imp (fun _ _ _ hnext => hnext.2) fun next _ => hfollow next).hasKept

/-- Between the nodes of `around`, a run with complete records. -/
structure Going (program : Program) (lookup : Lookup) (log : List Call) (around : List Site)
    (progress : Progress) : Prop where
  fits : Fits around progress
  records : ∀ site ∈ program.sites, ∀ schema, progress.expanded.get? site.id = some schema →
    Complete lookup log site schema

variable {around : List Site} {progress done : Progress}

theorem going_start : Going program lookup log [] .start :=
  ⟨fits_start, fun _ _ _ h => nomatch h⟩

theorem Going.report (h : Going program lookup log around progress) (events : List Event) :
    Going program lookup log around (progress.report events) :=
  ⟨⟨h.fits.mem_expanding, h.fits.notMem_keys⟩, h.records⟩

theorem Going.opened (h : Going program lookup log around progress)
    (hfresh : site.isDeclaration = true → progress.knows site.id = false) :
    Going program lookup log (site :: around) (progress.opened site) :=
  ⟨h.fits.opened hfresh, by simpa using h.records⟩

theorem Going.closed (hprogram : program.Built) (hsite : site ∈ program.sites)
    (h : Going program lookup log (site :: around) done)
    (hbefore : Going program lookup log around progress)
    (hfresh : site.isDeclaration = true → progress.knows site.id = false) {schema : Schema}
    (hschema : Complete lookup log site schema) :
    Going program lookup log around (done.closed site schema) := by
  refine ⟨h.fits.closed hbefore.fits hfresh schema, ?_⟩
  intro other hother recorded hrecorded
  rw [Progress.get?_expanded_closed] at hrecorded
  split at hrecorded
  · rename_i hself
    obtain rfl := hprogram.eq_of_id_eq hother hsite hself.2
    obtain rfl := Option.some.inj hrecorded
    exact hschema
  · exact h.records other hother recorded hrecorded

/-- A declaration that a usage names while it is under way is cut on the log, whenever it is. -/
theorem Going.cutIn (h : Going program lookup log (site :: around) progress)
    (hfitting : ∀ call ∈ log, call.Fitting) {declaration : Site} {met : Progress}
    (hcall : .follow (site :: around) declaration met ∈ log)
    (hopen : declaration.id ∈ progress.expanding) : CutIn log site declaration := by
  have hthere : Fits (site :: around) met := hfitting _ hcall
  refine ⟨around, met, hcall, ?_⟩
  rw [hthere.mem_expanding, ← h.fits.mem_expanding]
  exact hopen

/-- Whatever is expanded inside the nodes of `around` has all keys that are not cut on the log. -/
def Completes (program : Program) (lookup : Lookup) (log : List Call) (around : List Site)
    (recurse : Site → Expand Schema) : Prop :=
  ∀ next ∈ program.sites, ∀ before, Going program lookup log around before →
    (next.isDeclaration = true → before.knows next.id = false) →
    Outcome True (fun schema after => Going program lookup log around after ∧
      Complete lookup log next schema) (recurse next before)

theorem Completes.keptByVisits {recurse : Site → Expand Schema} (hgrammar : program.Grammatical)
    (hsite : site ∈ program.sites) (h : Completes program lookup log (site :: around) recurse) :
    KeptByVisits True (Going program lookup log (site :: around)) (Complete lookup log) recurse
      (site.visits lookup) := by
  intro next hvisited before hbefore
  have hmem := (Site.holds_of_mem_visits hvisited).mem_sites hsite
  have hplain := hgrammar.isDeclaration_of_mem_visits hsite hvisited
  exact h next hmem before hbefore (by simp [hplain])

theorem Completes.keptByFollows {recurse : Site → Expand Schema} (hlookup : lookup.Declares program)
    (hsite : site ∈ program.sites) (h : Completes program lookup log (site :: around) recurse)
    (hfitting : ∀ call ∈ log, call.Fitting)
    (hmet : ∀ declaration ∈ site.follows lookup,
      ∃ met, .follow (site :: around) declaration met ∈ log) :
    KeptByFollows True (Going program lookup log (site :: around))
      (GivenOrCut (Complete lookup log) log site) recurse (site.follows lookup) := by
  intro declaration hfollowed before hbefore
  have hmem := hlookup.within site hsite declaration (Site.mem_sites_of_mem_follows hfollowed)
  obtain ⟨met, hcall⟩ := hmet declaration hfollowed
  apply outcome_followWith
  · intro recorded hrecorded
    exact ⟨hbefore, hbefore.records declaration hmem recorded hrecorded⟩
  · intro _ hopen name
    exact ⟨hbefore.report _, hbefore.cutIn hfitting hcall hopen⟩
  · intro hnone hopen
    have hunknown : before.knows declaration.id = false := by
      simp [Progress.knows, hnone, hopen]
    exact h declaration hmem before hbefore fun _ => hunknown

/-- A node whose calls are on the log has all keys that are not cut there. -/
theorem node_complete (hprogram : program.Built) (hgrammar : program.Grammatical)
    (hlookup : lookup.Declares program) (hfitting : ∀ call ∈ log, call.Fitting) (budget : Nat)
    {schema : Schema} {after : Progress} (hsite : site ∈ program.sites)
    (hgoing : Going program lookup log around progress)
    (hfresh : site.isDeclaration = true → progress.knows site.id = false)
    (hcalls : ∀ call ∈ calls lookup budget around site progress, call ∈ log)
    (h : node lookup budget site progress = some (schema, after)) :
    Going program lookup log around after ∧ Complete lookup log site schema := by
  induction budget generalizing around site progress after schema with
  | zero => cases h
  | succ budget ih =>
      -- the same run, with every call that is not on the log refused
      let recurse := restricted log (calls lookup budget (site :: around)) (node lookup budget)
      have hrun : nodeWith lookup recurse site progress = some (schema, after) :=
        (nodeWith_restricted hcalls).trans h
      have hcompletes : Completes program lookup log (site :: around) recurse := by
        intro next hnext before hbefore hunknown
        cases hresult : recurse next before with
        | none => trivial
        | some pair =>
            obtain ⟨hinner, hresult⟩ := of_restricted_eq_some hresult
            exact ih hnext hbefore hunknown hinner hresult
      have hmet : ∀ declaration ∈ site.follows lookup,
          ∃ met, .follow (site :: around) declaration met ∈ log := by
        intro declaration hfollowed
        obtain ⟨met, hcall⟩ := exists_follow_of_node h hfollowed around
        exact ⟨met, hcalls _ hcall⟩
      have hnode := outcome_nodeWith (fun before events _ hbefore => hbefore.report events)
        (hcompletes.keptByVisits hgrammar hsite)
        (hcompletes.keptByFollows hlookup hsite hfitting hmet) (hgoing.opened hfresh)
      rw [hrun] at hnode
      obtain ⟨done, hdone, hcomposed, rfl⟩ := hnode
      have hschema := complete_of_composed hcomposed
      exact ⟨hdone.closed hprogram hsite hgoing hfresh hschema, hschema⟩

end Complete

/-- The schema of a declaration has the names of the declaration and of what it extends. So have the
children of every reference in it, for the declarations that the property of the reference names.
Left out are only bases that were under way when the heritage entry that names them was expanded
and, among several declarations that one property names, those that were under way then. The run
reports a cycle for each of these and for nothing else. -/
theorem node_inherits_keys {program : Program} {lookup : Lookup} {root : Site}
    (hprogram : program.Built) (hgrammar : program.Grammatical)
    (hlookup : lookup.Declares program) (hroot : root ∈ program.declarations) :
    ∃ schema after, node lookup program.budget root .start = some (schema, after) ∧
      let log := Expand.calls lookup program.budget [] root .start
      after.events.filterMap Event.cut? = log.filterMap Call.cut? ∧
      (∀ name, Inherits lookup log root name → name ∈ schema.keys) ∧
      ∀ keys entry, Leads schema keys entry → ∃ property,
        Spells (Below lookup) (Belongs lookup root) keys property ∧
        entry.detail = property.writtenType?.map Site.text ∧
        (entry.kind = some .reference → ∀ children, entry.children = some children →
          ∀ declaration ∈ (lookup property).sites,
            ¬CutIn log property declaration ∨
              (∀ other ∈ (lookup property).sites, other = declaration) →
            ∀ name, Inherits lookup log declaration name → name ∈ children.keys) := by
  have hsite := (Program.mem_declarations.1 hroot).1
  obtain ⟨schema, after, hnode⟩ := exists_node hlookup hsite .start
  have hlogged := logged_calls hlookup
    (fun site hsite next hnext => hgrammar.isDeclaration_of_mem_visits hsite hnext)
    program.budget [] hsite (fun _ => rfl) hnode
  obtain ⟨_, htraced, hkept⟩ := node_complete hprogram hgrammar hlookup
    (hlogged.fits fits_start).2.1 program.budget hsite going_start (fun _ => rfl)
    (fun _ hcall => hcall) hnode
  refine ⟨schema, after, hnode, hlogged.cuts fits_start, fun name hname => hkept name hname.keeps,
    ?_⟩
  intro keys entry hkeys
  obtain ⟨property, hspells, hdetail, hchildren⟩ := htraced.belongs hgrammar hlookup hroot hkeys
  refine ⟨property, hspells, hdetail, ?_⟩
  intro hkind children hsome declaration hdeclaration huncut name hname
  exact hchildren hkind children hsome declaration hdeclaration huncut name hname.keeps

/-- `R` extends `B`, which extends `C`, which has a key of type `B`. -/
def baseSample : List Outline :=
  [⟨'R', some 'B', [⟨'c', some 'C'⟩]⟩, ⟨'B', some 'C', [⟨'y', none⟩]⟩,
   ⟨'C', none, [⟨'b', some 'B'⟩]⟩]

/-- The call does not cut a base type. -/
def sparesBases : Call → Bool
  | .follow (usage :: _) declaration progress =>
      !usage.focus.isHeritageEntry || !progress.expanding.contains declaration.id
  | _ => true

theorem not_cutIn {log : List Call} (h : log.all sparesBases = true) {entry base : Site}
    (hentry : entry.focus.isHeritageEntry = true) : ¬CutIn log entry base := by
  rintro ⟨around, progress, hcall, hopen⟩
  have hspares := List.all_eq_true.1 h _ hcall
  simp [sparesBases, hentry, hopen] at hspares

set_option maxRecDepth 10000 in
/-- `B` is cut at the key of `C`, and no base type is cut. -/
theorem node_inherits_keys_of_base :
    let program := Outline.program baseSample
    let root := Outline.site baseSample ⟨0, by decide +kernel⟩
    let log := Expand.calls program.lookup program.budget [] root .start
    Inherits program.lookup log root "b" ∧ (log.filterMap Call.cut?).length = 1 ∧
    ∃ schema after, node program.lookup program.budget root .start = some (schema, after) ∧
      "b" ∈ schema.keys := by
  intro program root log
  have hprogram : program.Built := Outline.built_program _
  have hgrammar : program.Grammatical := ⟨by decide +kernel, by decide +kernel⟩
  have hlookup : program.lookup.Declares program := Program.lookup_declares (by decide +kernel)
  have hroot : root ∈ program.declarations := Outline.site_mem_declarations _ _
  have hspares : log.all sparesBases = true := by decide +kernel
  have huncut {site entry base : Site} (hentry : entry ∈ site.heritageEntries) :
      ¬CutIn log entry base :=
    not_cutIn hspares (Site.isHeritageEntry_of_mem_heritageEntries hentry)
  have hchain : ∃ entry ∈ root.heritageEntries, ∃ base ∈ (program.lookup entry).sites,
      base.has .interface = true ∧
      ∃ further ∈ base.heritageEntries, ∃ last ∈ (program.lookup further).sites,
        last.has .interface = true ∧ ∃ property ∈ last.members,
          property.has .property = true ∧ property.propertyName? = some "b" := by decide +kernel
  obtain ⟨entry, hentry, base, hbase, hinterface, further, hfurther, last, hlast, hrest⟩ := hchain
  obtain ⟨hlastInterface, property, hmember, hproperty, hname⟩ := hrest
  have hinherits : Inherits program.lookup log root "b" :=
    .base (by decide +kernel) hentry hbase (huncut hentry)
      (.base hinterface hfurther hlast (huncut hfurther)
        (.own (.member hlastInterface hmember hproperty) hname))
  obtain ⟨schema, after, hnode, _, hkeys, _⟩ :=
    node_inherits_keys hprogram hgrammar hlookup hroot
  exact ⟨hinherits, by decide +kernel, schema, after, hnode, hkeys "b" hinherits⟩

/-- `D` extends `A`, which has a key of type `D`; `M` is not declared. -/
def inheritanceSample : List Outline :=
  [⟨'A', some 'M', [⟨'d', some 'D'⟩]⟩, ⟨'D', some 'A', [⟨'x', none⟩]⟩]

/-- There are two declarations of `A`, the first with a key of type `A`. -/
def twofoldSample : List Outline :=
  [⟨'A', none, [⟨'d', some 'A'⟩]⟩, ⟨'A', none, [⟨'x', none⟩]⟩]

theorem not_extends_itself {lookup : Lookup} {declaration : Site}
    (h : ∀ base ∈ declaration.bases lookup, base.bases lookup = []) :
    ¬Relation.TransGen (Site.Extends lookup) declaration declaration := by
  intro hcycle
  obtain ⟨base, hbase, hrest⟩ := Relation.TransGen.head'_iff.1 hcycle
  have hnone := h base hbase
  rcases Relation.ReflTransGen.cases_head hrest with rfl | ⟨next, hnext, _⟩
  · simp [Site.Extends, hnone] at hbase
  · simp [Site.Extends, hnone] at hnext

/-- No declaration extends itself, yet the children of the key of the root lack a name that is
written in a declaration of its type or in a base of one. -/
def LacksKey (program : Program) (root : Site) (key : String) : Prop :=
  (∀ declaration ∈ program.declarations,
    ¬Relation.TransGen (Site.Extends program.lookup) declaration declaration) ∧
  ∃ schema after entry children,
    node program.lookup program.budget root .start = some (schema, after) ∧
    Leads schema [key] entry ∧ entry.kind = some .reference ∧ entry.children = some children ∧
    ∃ property ∈ root.members, property.propertyName? = some key ∧
      ∃ declaration ∈ (program.lookup property).sites, ∃ missing name,
        Belongs program.lookup declaration missing ∧ missing.propertyName? = some name ∧
        name ∉ children.keys

theorem lacksKey_of_run {program : Program} {root : Site} {key : String} (names : List String)
    (hbases : ∀ declaration ∈ program.declarations, ∀ base ∈ declaration.bases program.lookup,
      (base.bases program.lookup).isEmpty = true)
    (hrun : (node program.lookup program.budget root .start).any (fun pair =>
      (pair.1.get? key).any fun entry => decide (entry.kind = some .reference) &&
        entry.children.any fun children => decide (children.keys = names)) = true)
    (hmissing : ∃ property ∈ root.members, property.propertyName? = some key ∧
      ∃ declaration ∈ (program.lookup property).sites, ∃ missing name,
        Belongs program.lookup declaration missing ∧ missing.propertyName? = some name ∧
        name ∉ names) : LacksKey program root key := by
  constructor
  · intro declaration hdeclaration
    apply not_extends_itself
    intro base hbase
    exact List.isEmpty_iff.1 (hbases declaration hdeclaration base hbase)
  · obtain ⟨⟨schema, after⟩, hnode, hrun⟩ := (Option.any_eq_true _ _).1 hrun
    obtain ⟨entry, hentry, hrun⟩ := (Option.any_eq_true _ _).1 hrun
    obtain ⟨hkind, hrun⟩ := Bool.and_eq_true_iff.1 hrun
    obtain ⟨children, hchildren, hkeys⟩ := (Option.any_eq_true _ _).1 hrun
    obtain rfl := of_decide_eq_true hkeys
    exact ⟨schema, after, entry, children, hnode, .last (Table.mem_of_get? hentry),
      of_decide_eq_true hkind, hchildren, hmissing⟩

set_option maxRecDepth 10000 in
/-- The children of `d` lack the key `d` of the base of `D`, which is under way where `D` is
expanded, and the key `d` of the one of two declarations that is under way. -/
theorem inherited_key_missing :
    LacksKey (Outline.program inheritanceSample)
      (Outline.site inheritanceSample ⟨0, by decide +kernel⟩) "d" ∧
    LacksKey (Outline.program twofoldSample)
      (Outline.site twofoldSample ⟨0, by decide +kernel⟩) "d" := by
  constructor
  · have hmissing : ∃ property ∈ (Outline.site inheritanceSample ⟨0, by decide +kernel⟩).members,
        property.propertyName? = some "d" ∧
        ∃ declaration ∈ ((Outline.program inheritanceSample).lookup property).sites,
          declaration.has .interface = true ∧ ∃ entry ∈ declaration.heritageEntries,
          ∃ base ∈ ((Outline.program inheritanceSample).lookup entry).sites,
            base.has .interface = true ∧ ∃ missing ∈ base.members,
              missing.has .property = true ∧ missing.propertyName? = some "d" := by decide +kernel
    obtain ⟨property, hproperty, hkey, declaration, hdeclaration, hinterface, entry, hentry, base,
      hbase, hbaseInterface, missing, hmember, hhas, hname⟩ := hmissing
    refine lacksKey_of_run ["x"] (by decide +kernel) (by decide +kernel) ⟨property, hproperty, hkey,
      declaration, hdeclaration, missing, "d", ?_, hname, by decide⟩
    exact .inherited hinterface hentry hbase (.own (.member hbaseInterface hmember hhas))
  · have hmissing : ∃ property ∈ (Outline.site twofoldSample ⟨0, by decide +kernel⟩).members,
        property.propertyName? = some "d" ∧
        ∃ declaration ∈ ((Outline.program twofoldSample).lookup property).sites,
          declaration.has .interface = true ∧ ∃ missing ∈ declaration.members,
            missing.has .property = true ∧ missing.propertyName? = some "d" := by decide +kernel
    obtain ⟨property, hproperty, hkey, declaration, hdeclaration, hinterface, missing, hmember,
      hhas, hname⟩ := hmissing
    exact lacksKey_of_run ["x"] (by decide +kernel) (by decide +kernel) ⟨property, hproperty, hkey,
      declaration, hdeclaration, missing, "d", .own (.member hinterface hmember hhas), hname,
      by decide⟩

end Expand

end Keypath
