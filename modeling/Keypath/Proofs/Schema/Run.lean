import Keypath.Proofs.Schema.Parts

/-!
What one node does to the progress of an expansion.

`Outcome` says what holds when a run ends. With `failed := False` it also says that the run gives a
result; with `failed := True` it says nothing of a run that gives none. The rule of the module is
`outcome_nodeWith`: an invariant that the visits and the followed declarations of a node keep is
kept by the node, and the schema it gives is `Composed` from what they give.
-/

namespace Keypath

open Keypath.Tree

def Event.isCycle : Event → Bool
  | .cycle _ _ => true
  | _ => false

def Outcome {α : Type} (failed : Prop) (ok : α → Progress → Prop) :
    Option (α × Progress) → Prop
  | none => failed
  | some (value, progress) => ok value progress

section Rules

variable {α β γ δ : Type} {failed : Prop}

theorem Outcome.imp {ok ok' : α → Progress → Prop} {result : Option (α × Progress)}
    (h : Outcome failed ok result)
    (himp : ∀ value progress, ok value progress → ok' value progress) :
    Outcome failed ok' result := by
  cases result with
  | none => exact h
  | some pair => exact himp pair.1 pair.2 h

theorem Outcome.exists_some {ok : α → Progress → Prop} {result : Option (α × Progress)}
    (h : Outcome False ok result) :
    ∃ value progress, result = some (value, progress) ∧ ok value progress := by
  cases result with
  | none => exact h.elim
  | some pair => exact ⟨pair.1, pair.2, rfl, h⟩

theorem outcome_pure {ok : α → Progress → Prop} {value : α} {progress : Progress}
    (h : ok value progress) : Outcome failed ok ((pure value : Expand α) progress) :=
  h

theorem outcome_bind {middle : α → Progress → Prop} {ok : β → Progress → Prop}
    {first : Expand α} {next : α → Expand β} {progress : Progress}
    (hfirst : Outcome failed middle (first progress))
    (hnext : ∀ value after, middle value after → Outcome failed ok (next value after)) :
    Outcome failed ok ((first >>= next) progress) := by
  change Outcome failed ok ((first progress).bind fun pair => next pair.1 pair.2)
  cases hresult : first progress with
  | none =>
      rw [hresult] at hfirst
      exact hfirst
  | some pair =>
      rw [hresult] at hfirst
      exact hnext pair.1 pair.2 hfirst

theorem outcome_foldlM {Inv : Progress → Prop} (Gives : γ → δ → Prop) (add : β → δ → β)
    {step : β → γ → Expand β} (items : List γ)
    (hstep : ∀ item ∈ items, ∀ sum progress, Inv progress →
      Outcome failed
        (fun sum' after => Inv after ∧ ∃ given, Gives item given ∧ sum' = add sum given)
        (step sum item progress))
    (sum : β) (progress : Progress) (hinv : Inv progress) :
    Outcome failed
      (fun sum' after => Inv after ∧ ∃ given, List.Forall₂ Gives items given ∧
        sum' = given.foldl add sum)
      (items.foldlM step sum progress) := by
  induction items generalizing sum progress with
  | nil =>
      rw [List.foldlM_nil]
      exact outcome_pure ⟨hinv, [], .nil, rfl⟩
  | cons item rest ih =>
      rw [List.foldlM_cons]
      refine outcome_bind (hstep item (by simp) sum progress hinv) ?_
      intro sum' after hresult
      obtain ⟨hafter, given, hgiven, rfl⟩ := hresult
      refine (ih (fun other hother => hstep other (by simp [hother])) _ after hafter).imp ?_
      intro sum'' last hresult
      obtain ⟨hlast, others, hothers, rfl⟩ := hresult
      exact ⟨hlast, given :: others, .cons hgiven hothers, rfl⟩

end Rules

/-! Adding up what parts give. -/

def addFound (schema : Schema) (found : Option Schema) : Schema := found.elim schema schema.merge

theorem foldl_addFound (found : List (Option Schema)) (schema : Schema) :
    found.foldl addFound schema = found.reduceOption.foldl Table.merge schema := by
  induction found generalizing schema with
  | nil => rfl
  | cons first rest ih =>
      cases first with
      | none => exact ih schema
      | some other => exact ih (schema.merge other)

def addChildren (children found : Option Schema) : Option Schema :=
  match found with
  | some schema => some ((children.getD ∅).merge schema)
  | none => children

theorem foldl_addChildren_some (found : List (Option Schema)) (schema : Schema) :
    found.foldl addChildren (some schema) =
      some (found.reduceOption.foldl Table.merge schema) := by
  induction found generalizing schema with
  | nil => rfl
  | cons first rest ih =>
      cases first with
      | none => exact ih schema
      | some other => exact ih (schema.merge other)

theorem foldl_addChildren (found : List (Option Schema)) :
    found.foldl addChildren none = childrenOf found := by
  induction found with
  | nil => rfl
  | cons first rest ih =>
      cases first with
      | none => exact ih
      | some other => exact foldl_addChildren_some rest _

namespace Progress

def opened (progress : Progress) (site : Site) : Progress :=
  if site.isDeclaration then progress.enter site.id else progress

def closed (progress : Progress) (site : Site) (schema : Schema) : Progress :=
  let reported := progress.report [.expanded site.id site.kind schema.size]
  if site.isDeclaration then reported.leave site.id schema else reported

section Fields

variable (progress : Progress) (site : Site) (schema : Schema)

@[simp] theorem events_report (events : List Event) :
    (progress.report events).events = progress.events ++ events := rfl

theorem expanded_report (events : List Event) :
    (progress.report events).expanded = progress.expanded := rfl

theorem expanding_report (events : List Event) :
    (progress.report events).expanding = progress.expanding := rfl

@[simp] theorem expanded_opened : (progress.opened site).expanded = progress.expanded := by
  unfold opened
  split <;> rfl

@[simp] theorem events_opened : (progress.opened site).events = progress.events := by
  unfold opened
  split <;> rfl

@[simp] theorem mem_expanding_opened {id : NodeId} :
    id ∈ (progress.opened site).expanding ↔
      id ∈ progress.expanding ∨ site.isDeclaration = true ∧ id = site.id := by
  unfold opened enter
  by_cases hdeclaration : site.isDeclaration = true
  · by_cases hmem : site.id ∈ progress.expanding
    · simp only [hdeclaration, if_true, List.contains_iff_mem, hmem, true_and, iff_self_or]
      rintro rfl
      exact hmem
    · simp [hdeclaration, hmem, or_comm]
  · simp [hdeclaration]

@[simp] theorem events_closed :
    (progress.closed site schema).events =
      progress.events ++ [.expanded site.id site.kind schema.size] := by
  unfold closed
  split <;> rfl

@[simp] theorem mem_expanding_closed {id : NodeId} :
    id ∈ (progress.closed site schema).expanding ↔
      id ∈ progress.expanding ∧ ¬(site.isDeclaration = true ∧ id = site.id) := by
  unfold closed leave
  by_cases hdeclaration : site.isDeclaration = true
  · simp [hdeclaration, expanding_report]
  · simp [hdeclaration, expanding_report]

theorem get?_expanded_closed (id : NodeId) :
    (progress.closed site schema).expanded.get? id =
      if site.isDeclaration = true ∧ id = site.id then some schema
      else progress.expanded.get? id := by
  unfold closed leave
  by_cases hdeclaration : site.isDeclaration = true
  · simp [hdeclaration, expanded_report, Table.get?_insert]
  · simp [hdeclaration, expanded_report]

end Fields

end Progress

namespace Expand

def Added (Inv : Progress → Prop) (Gives : Part → Option Schema → Prop) (parts : List Part)
    (schema schema' : Schema) (progress : Progress) : Prop :=
  Inv progress ∧ ∃ found, List.Forall₂ Gives parts found ∧ schema' = found.foldl addFound schema

section Node

variable {failed : Prop} {lookup : Lookup} {recurse : Site → Expand Schema} {site : Site}
variable {Inv : Progress → Prop} {Visit : Site → Schema → Prop}
variable {Follow : Site → Option Schema → Prop}

/-- Reports other than of a cut keep the invariant. -/
def KeptByReports (Inv : Progress → Prop) : Prop :=
  ∀ progress events, (∀ event ∈ events, event.isCycle = false) → Inv progress →
    Inv (progress.report events)

def KeptByVisits (failed : Prop) (Inv : Progress → Prop) (Visit : Site → Schema → Prop)
    (recurse : Site → Expand Schema) (sites : List Site) : Prop :=
  ∀ site ∈ sites, ∀ progress, Inv progress →
    Outcome failed (fun schema after => Inv after ∧ Visit site schema) (recurse site progress)

def KeptByFollows (failed : Prop) (Inv : Progress → Prop) (Follow : Site → Option Schema → Prop)
    (recurse : Site → Expand Schema) (declarations : List Site) : Prop :=
  ∀ declaration ∈ declarations, ∀ progress, Inv progress →
    Outcome failed (fun found after => Inv after ∧ Follow declaration found)
      (followWith recurse declaration progress)

theorem outcome_report (hreports : KeptByReports Inv) {events : List Event}
    (hevents : ∀ event ∈ events, event.isCycle = false) {progress : Progress}
    (hinv : Inv progress) : Outcome failed (fun _ after => Inv after) (report events progress) :=
  hreports progress events hevents hinv

theorem outcome_ask (hreports : KeptByReports Inv) (usage : Site) {progress : Progress}
    (hinv : Inv progress) :
    Outcome failed (fun sites after => Inv after ∧ sites = (lookup usage).sites)
      (ask lookup usage progress) := by
  refine outcome_bind (outcome_report hreports ?_ hinv) ?_
  · intro event hevent
    obtain ⟨reported, _, rfl⟩ := List.mem_map.1 hevent
    rfl
  · intro _ after hafter
    exact outcome_pure ⟨hafter, rfl⟩

theorem outcome_foldlM_added {sites : List Site} {part : Site → Part}
    {Gives : Part → Option Schema → Prop} {step : Schema → Site → Expand Schema}
    (hstep : ∀ site ∈ sites, ∀ merged progress, Inv progress →
      Outcome failed
        (fun merged' after => Inv after ∧ ∃ found, Gives (part site) found ∧
          merged' = addFound merged found)
        (step merged site progress))
    (schema : Schema) {progress : Progress} (hinv : Inv progress) :
    Outcome failed (Added Inv Gives (sites.map part) schema)
      (sites.foldlM step schema progress) := by
  refine (outcome_foldlM (fun site => Gives (part site)) addFound sites hstep schema progress
    hinv).imp ?_
  intro schema' after hresult
  obtain ⟨hafter, found, hfound, rfl⟩ := hresult
  exact ⟨hafter, found, List.forall₂_map_left_iff.2 hfound, rfl⟩

variable (lookup Follow) in
theorem outcome_mergeAllWith {sites : List Site}
    (hvisits : KeptByVisits failed Inv Visit recurse sites) (schema : Schema)
    {progress : Progress} (hinv : Inv progress) :
    Outcome failed (Added Inv (Given lookup Visit Follow) (sites.map .visit) schema)
      (mergeAllWith recurse sites schema progress) := by
  refine outcome_foldlM_added ?_ schema hinv
  intro site hsite merged before hbefore
  refine outcome_bind (hvisits site hsite before hbefore) ?_
  intro found after hresult
  obtain ⟨hafter, hfound⟩ := hresult
  exact outcome_pure ⟨hafter, some found, ⟨found, rfl, hfound⟩, rfl⟩

theorem outcome_mergeNamedWith (hreports : KeptByReports Inv) {usage : Site}
    (hfollows : KeptByFollows failed Inv Follow recurse (lookup usage).sites) (schema : Schema)
    {progress : Progress} (hinv : Inv progress) :
    Outcome failed (Added Inv (Given lookup Visit Follow) ((lookup usage).sites.map .follow) schema)
      (mergeNamedWith lookup recurse usage schema progress) := by
  refine outcome_bind (outcome_ask hreports usage hinv) ?_
  intro sites asked hresult
  obtain ⟨hasked, rfl⟩ := hresult
  refine outcome_foldlM_added ?_ schema hasked
  intro declaration hdeclaration merged before hbefore
  refine outcome_bind (hfollows declaration hdeclaration before hbefore) ?_
  intro found after hresult
  obtain ⟨hafter, hfound⟩ := hresult
  cases found with
  | none => exact outcome_pure ⟨hafter, none, hfound, rfl⟩
  | some schema => exact outcome_pure ⟨hafter, some schema, hfound, rfl⟩

theorem outcome_childrenWith {declarations : List Site}
    (hfollows : KeptByFollows failed Inv Follow recurse declarations) {progress : Progress}
    (hinv : Inv progress) :
    Outcome failed
      (fun children after => Inv after ∧ ∃ found,
        List.Forall₂ Follow declarations found ∧ children = childrenOf found)
      (childrenWith recurse declarations progress) := by
  simp only [← foldl_addChildren]
  refine outcome_foldlM Follow addChildren declarations ?_ none progress hinv
  intro declaration hdeclaration children before hbefore
  refine outcome_bind (hfollows declaration hdeclaration before hbefore) ?_
  intro found after hresult
  obtain ⟨hafter, hfound⟩ := hresult
  cases found with
  | none => exact outcome_pure ⟨hafter, none, hfound, rfl⟩
  | some schema => exact outcome_pure ⟨hafter, some schema, hfound, rfl⟩

theorem outcome_referenceEntryWith (hreports : KeptByReports Inv) {property written : Site}
    (hwritten : property.writtenType? = some written) (hkind : written.typeKind = .reference)
    (hfollows : KeptByFollows failed Inv Follow recurse (property.named lookup)) (name : String)
    {progress : Progress} (hinv : Inv progress) :
    Outcome failed
      (fun entry after => Inv after ∧ Described lookup Visit Follow property entry)
      (referenceEntryWith lookup recurse property name written.text progress) := by
  have hnamed : property.named lookup = (lookup property).sites := by
    simp [Site.named, hwritten, hkind]
  rw [hnamed] at hfollows
  refine outcome_bind (outcome_ask hreports property hinv) ?_
  intro sites asked hresult
  obtain ⟨hasked, hsites⟩ := hresult
  cases sites with
  | nil =>
      refine outcome_bind (outcome_report hreports (by simp [Event.isCycle]) hasked) ?_
      intro _ after hafter
      exact outcome_pure ⟨hafter, .unresolved hwritten hkind hsites.symm⟩
  | cons declaration rest =>
      have hsome : (lookup property).sites ≠ [] := by simp [← hsites]
      rw [← hsites] at hfollows
      refine outcome_bind (outcome_childrenWith hfollows hasked) ?_
      intro children after hresult
      obtain ⟨hafter, found, hfound, rfl⟩ := hresult
      rw [hsites] at hfound
      exact outcome_pure ⟨hafter, .reference hwritten hkind hsome hfound⟩

theorem outcome_writtenEntryWith {property written : Site}
    (hwritten : property.writtenType? = some written) (hkind : written.typeKind ≠ .reference)
    (hvisits : KeptByVisits failed Inv Visit recurse property.literal?.toList)
    {progress : Progress} (hinv : Inv progress) :
    Outcome failed
      (fun entry after => Inv after ∧ Described lookup Visit Follow property entry)
      (writtenEntryWith recurse written progress) := by
  change Outcome failed _ ((do
    let children ←
      if written.bare.has .typeLiteral then some <$> recurse written.bare else pure none
    return ⟨some written.typeKind, written.elementKind?, children, some written.text⟩ :
      Expand Entry) progress)
  by_cases hliteral : written.bare.has .typeLiteral = true
  · have hmem : written.bare ∈ property.literal?.toList := by
      simp [Site.literal?, hwritten, hliteral]
    simp only [hliteral, if_true, map_eq_pure_bind, bind_assoc]
    refine outcome_bind (hvisits _ hmem progress hinv) ?_
    intro children after hresult
    obtain ⟨hafter, hchildren⟩ := hresult
    exact outcome_pure ⟨hafter, .literal hwritten hkind hliteral hchildren⟩
  · simp only [hliteral]
    exact outcome_pure ⟨hinv, .leaf hwritten hkind (by simpa using hliteral)⟩

theorem outcome_propertyEntryWith (hreports : KeptByReports Inv) {property : Site}
    (hvisits : KeptByVisits failed Inv Visit recurse property.literal?.toList)
    (hfollows : KeptByFollows failed Inv Follow recurse (property.named lookup)) (name : String)
    {progress : Progress} (hinv : Inv progress) :
    Outcome failed
      (fun entry after => Inv after ∧ Described lookup Visit Follow property entry)
      (propertyEntryWith lookup recurse property name progress) := by
  unfold propertyEntryWith
  cases hfocus : property.focus.annotatedType? with
  | none => exact outcome_pure ⟨hinv, .untyped (by simp [Site.writtenType?, hfocus])⟩
  | some focus =>
      have hwritten : property.writtenType? = some (property.move focus) := by
        simp [Site.writtenType?, hfocus]
      by_cases hkind : (property.move focus).typeKind = .reference
      · simp only [hkind, if_true]
        exact outcome_referenceEntryWith hreports hwritten hkind hfollows name hinv
      · simp only [hkind, if_false]
        exact outcome_writtenEntryWith hwritten hkind hvisits hinv

theorem outcome_mergePropertyWith (hreports : KeptByReports Inv) {property : Site}
    (hvisits : KeptByVisits failed Inv Visit recurse
      ((property.partsOf lookup .property).flatMap Part.visits))
    (hfollows : KeptByFollows failed Inv Follow recurse
      ((property.partsOf lookup .property).flatMap (Part.follows lookup)))
    (schema : Schema) {progress : Progress} (hinv : Inv progress) :
    Outcome failed
      (Added Inv (Given lookup Visit Follow) (property.partsOf lookup .property) schema)
      (mergePropertyWith lookup recurse property schema progress) := by
  unfold mergePropertyWith
  cases hname : property.propertyName? with
  | none =>
      simp only [Site.partsOf, hname]
      exact outcome_pure ⟨hinv, [], .nil, rfl⟩
  | some name =>
      simp only [Site.partsOf, hname, Option.toList_some, List.map_cons, List.map_nil,
        List.flatMap_cons, List.flatMap_nil, List.append_nil] at hvisits hfollows ⊢
      refine outcome_bind (outcome_propertyEntryWith hreports hvisits hfollows name hinv) ?_
      intro entry after hresult
      obtain ⟨hafter, hentry⟩ := hresult
      refine outcome_pure ⟨hafter, [some (.single name entry)], ?_, rfl⟩
      exact .cons ⟨entry, rfl, hentry⟩ .nil

theorem outcome_mergeAliasWith {declaration : Site}
    (hvisits : KeptByVisits failed Inv Visit recurse declaration.aliasLiteral?.toList)
    (schema : Schema) {progress : Progress} (hinv : Inv progress) :
    Outcome failed
      (Added Inv (Given lookup Visit Follow) (declaration.partsOf lookup .typeAlias) schema)
      (mergeAliasWith recurse declaration schema progress) := by
  unfold mergeAliasWith
  cases hvalue : declaration.focus.child? .value with
  | none =>
      have hliteral : declaration.aliasLiteral? = none := by simp [Site.aliasLiteral?, hvalue]
      simp only [Site.partsOf, hliteral]
      exact outcome_pure ⟨hinv, [], .nil, rfl⟩
  | some focus =>
      by_cases hhas : (declaration.move focus.bareType).has .typeLiteral = true
      · have hliteral : declaration.aliasLiteral? = some (declaration.move focus.bareType) := by
          simp [Site.aliasLiteral?, hvalue, hhas]
        rw [hliteral] at hvisits
        simp only [Site.partsOf, hliteral, hhas, if_true]
        refine outcome_bind (hvisits _ (by simp) progress hinv) ?_
        intro found after hresult
        obtain ⟨hafter, hfound⟩ := hresult
        exact outcome_pure ⟨hafter, [some found], .cons ⟨found, rfl, hfound⟩ .nil, rfl⟩
      · have hliteral : declaration.aliasLiteral? = none := by
          simp [Site.aliasLiteral?, hvalue, hhas]
        simp only [Site.partsOf, hliteral, hhas]
        exact outcome_pure ⟨hinv, [], .nil, rfl⟩

theorem outcome_mergeInterfaceWith
    (hvisits : KeptByVisits failed Inv Visit recurse (site.heritageEntries ++ site.members))
    (schema : Schema) {progress : Progress} (hinv : Inv progress) :
    Outcome failed (Added Inv (Given lookup Visit Follow) (site.partsOf lookup .interface) schema)
      (mergeInterfaceWith recurse site schema progress) := by
  have hentries : KeptByVisits failed Inv Visit recurse site.heritageEntries :=
    fun entry hentry => hvisits entry (by simp [hentry])
  have hmembers : KeptByVisits failed Inv Visit recurse site.members :=
    fun member hmember => hvisits member (by simp [hmember])
  refine outcome_bind (outcome_mergeAllWith lookup Follow hentries schema hinv) ?_
  intro inherited middle hresult
  obtain ⟨hmiddle, bases, hbases, rfl⟩ := hresult
  refine (outcome_mergeAllWith lookup Follow hmembers _ hmiddle).imp ?_
  intro schema' after hresult
  obtain ⟨hafter, own, hown, rfl⟩ := hresult
  refine ⟨hafter, bases ++ own, ?_, by rw [List.foldl_append]⟩
  rw [Site.partsOf, List.map_append]
  exact List.rel_append hbases hown

theorem outcome_contribution (hreports : KeptByReports Inv)
    (hvisits : KeptByVisits failed Inv Visit recurse (site.visits lookup))
    (hfollows : KeptByFollows failed Inv Follow recurse (site.follows lookup))
    {contribution : Shape × (Site → Schema → Expand Schema)}
    (hmem : contribution ∈ contributionsWith lookup recurse)
    (hhas : site.has contribution.1 = true) (schema : Schema) {progress : Progress}
    (hinv : Inv progress) :
    Outcome failed
      (Added Inv (Given lookup Visit Follow) (site.partsOf lookup contribution.1) schema)
      (contribution.2 site schema progress) := by
  have hpart : ∀ part ∈ site.partsOf lookup contribution.1, part ∈ site.parts lookup := by
    intro part hpart
    refine Site.mem_parts.2 ⟨contribution.1, ?_, hhas, hpart⟩
    exact List.mem_map_of_mem (f := Prod.fst) hmem
  have hvisits' : KeptByVisits failed Inv Visit recurse
      ((site.partsOf lookup contribution.1).flatMap Part.visits) := by
    intro other hother
    obtain ⟨part, hmember, hother⟩ := List.mem_flatMap.1 hother
    exact hvisits other (List.mem_flatMap.2 ⟨part, hpart part hmember, hother⟩)
  have hfollows' : KeptByFollows failed Inv Follow recurse
      ((site.partsOf lookup contribution.1).flatMap (Part.follows lookup)) := by
    intro other hother
    obtain ⟨part, hmember, hother⟩ := List.mem_flatMap.1 hother
    exact hfollows other (List.mem_flatMap.2 ⟨part, hpart part hmember, hother⟩)
  clear hpart hhas
  simp only [contributionsWith, List.mem_cons, List.not_mem_nil, or_false] at hmem
  rcases hmem with rfl | rfl | rfl | rfl | rfl | rfl
  · refine outcome_mergeInterfaceWith ?_ schema hinv
    simpa [Site.partsOf, List.flatMap_map, Part.visits] using hvisits'
  · exact outcome_mergePropertyWith hreports hvisits' hfollows' schema hinv
  · refine outcome_mergeNamedWith hreports ?_ schema hinv
    simpa [Site.partsOf, List.flatMap_map, Part.follows] using hfollows'
  · refine outcome_mergeNamedWith hreports ?_ schema hinv
    simpa [Site.partsOf, List.flatMap_map, Part.follows] using hfollows'
  · refine outcome_mergeAllWith lookup Follow ?_ schema hinv
    simpa [Site.partsOf, List.flatMap_map, Part.visits] using hvisits'
  · refine outcome_mergeAliasWith ?_ schema hinv
    simpa [Site.partsOf, List.flatMap_map, Part.visits] using hvisits'

theorem outcome_followWith {ok : Option Schema → Progress → Prop} {declaration : Site}
    {progress : Progress}
    (hrecord : ∀ schema, progress.expanded.get? declaration.id = some schema →
      ok (some schema) progress)
    (hcut : progress.expanded.get? declaration.id = none →
      declaration.id ∈ progress.expanding → ∀ name,
        ok none (progress.report [.cycle declaration.id name]))
    (hopen : progress.expanded.get? declaration.id = none →
      declaration.id ∉ progress.expanding →
        Outcome failed (fun schema after => ok (some schema) after)
          (recurse declaration progress)) :
    Outcome failed ok (followWith recurse declaration progress) := by
  have hread : Outcome failed (fun state after => state = progress ∧ after = progress)
      ((get : Expand Progress) progress) := ⟨rfl, rfl⟩
  refine outcome_bind hread ?_
  intro state after hresult
  obtain ⟨hstate, hafter⟩ := hresult
  rw [hstate, hafter]
  cases hget : progress.expanded.get? declaration.id with
  | some schema => exact outcome_pure (hrecord schema hget)
  | none =>
      by_cases hmem : declaration.id ∈ progress.expanding
      · simp only [List.contains_iff_mem, hmem, if_true]
        exact hcut hget hmem _
      · simp only [List.contains_iff_mem, hmem, if_false]
        exact outcome_bind (hopen hget hmem) fun schema after h => outcome_pure h

def bodyWith (lookup : Lookup) (recurse : Site → Expand Schema) (site : Site) : Expand Schema :=
  (contributionsWith lookup recurse).foldlM (fun schema contribution =>
    if site.has contribution.1 then contribution.2 site schema else pure schema) ∅

theorem nodeWith_apply (lookup : Lookup) (recurse : Site → Expand Schema) (site : Site)
    (progress : Progress) :
    nodeWith lookup recurse site progress =
      (bodyWith lookup recurse site (progress.opened site)).bind
        fun pair => some (pair.1, pair.2.closed site pair.1) := by
  unfold nodeWith Progress.opened Progress.closed
  cases site.isDeclaration <;> rfl

theorem outcome_bodyWith (hreports : KeptByReports Inv)
    (hvisits : KeptByVisits failed Inv Visit recurse (site.visits lookup))
    (hfollows : KeptByFollows failed Inv Follow recurse (site.follows lookup))
    {progress : Progress} (hinv : Inv progress) :
    Outcome failed (Added Inv (Given lookup Visit Follow) (site.parts lookup) ∅)
      (bodyWith lookup recurse site progress) := by
  let shapeParts := fun shape => if site.has shape then site.partsOf lookup shape else []
  refine (outcome_foldlM
    (fun contribution => List.Forall₂ (Given lookup Visit Follow) (shapeParts contribution.1))
    (fun schema found => found.foldl addFound schema) _ ?_ ∅ progress hinv).imp ?_
  · intro contribution hmem schema before hbefore
    by_cases hhas : site.has contribution.1 = true
    · simp only [shapeParts, hhas, if_true]
      exact outcome_contribution hreports hvisits hfollows hmem hhas schema hbefore
    · simp only [shapeParts, hhas]
      exact outcome_pure ⟨hbefore, [], .nil, rfl⟩
  · intro schema after hresult
    obtain ⟨hafter, found, hfound, rfl⟩ := hresult
    refine ⟨hafter, found.flatten, ?_, List.foldl_flatten.symm⟩
    have hshapes : List.Forall₂ (List.Forall₂ (Given lookup Visit Follow))
        (((contributionsWith lookup recurse).map Prod.fst).map shapeParts) found := by
      rw [List.map_map]
      exact List.forall₂_map_left_iff.2 hfound
    exact List.rel_flatten hshapes

/-- An invariant that the visits and the followed declarations of a node keep is kept by the node,
and the schema of the node is composed from what they give. -/
theorem outcome_nodeWith (hreports : KeptByReports Inv)
    (hvisits : KeptByVisits failed Inv Visit recurse (site.visits lookup))
    (hfollows : KeptByFollows failed Inv Follow recurse (site.follows lookup))
    {progress : Progress} (hopened : Inv (progress.opened site)) :
    Outcome failed
      (fun schema after => ∃ done, Inv done ∧ Composed lookup Visit Follow site schema ∧
        after = done.closed site schema)
      (nodeWith lookup recurse site progress) := by
  have hbody : Outcome failed (Added Inv (Given lookup Visit Follow) (site.parts lookup) ∅)
      (bodyWith lookup recurse site (progress.opened site)) :=
    outcome_bodyWith hreports hvisits hfollows hopened
  rw [nodeWith_apply]
  cases hresult : bodyWith lookup recurse site (progress.opened site) with
  | none =>
      rw [hresult] at hbody
      exact hbody
  | some pair =>
      rw [hresult] at hbody
      obtain ⟨hinv, found, hfound, hschema⟩ := hbody
      rw [foldl_addFound] at hschema
      exact ⟨pair.2, hinv, ⟨found, hfound, hschema⟩, rfl⟩

end Node

end Expand

end Keypath
