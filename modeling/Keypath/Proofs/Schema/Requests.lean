import Keypath.Proofs.Schema.Run

/-!
What a node does and asks for, in the order in which it does.

A node is expanded by requests to other nodes and questions to the look-up. `Site.actions` lists
them, whatever the answers to the requests are, and `Performs` says of a computation that it does
just that. From the requests among them come both what an expansion does step by step (`Steps`) and
that answering more requests never takes a result away (`Refines`).
-/

namespace Keypath

open Keypath.Tree

inductive Request where
  | visit (site : Site)
  /-- The schema of a declaration, unless it is under way. -/
  | follow (declaration : Site)

namespace Request

def site : Request → Site
  | visit site => site
  | follow declaration => declaration

end Request

def Part.requests (lookup : Lookup) (part : Part) : List Request :=
  part.visits.map .visit ++ (part.follows lookup).map .follow

namespace Site

def requests (lookup : Lookup) (site : Site) : List Request :=
  (site.parts lookup).flatMap (Part.requests lookup)

theorem visit_mem_requests {lookup : Lookup} {site next : Site} :
    .visit next ∈ site.requests lookup ↔ next ∈ site.visits lookup := by
  simp [requests, visits, Part.requests]

theorem follow_mem_requests {lookup : Lookup} {site next : Site} :
    .follow next ∈ site.requests lookup ↔ next ∈ site.follows lookup := by
  simp [requests, follows, Part.requests]

theorem refers_iff_mem_requests {lookup : Lookup} {site next : Site} :
    Refers lookup site next ↔ ∃ request ∈ site.requests lookup, request.site = next := by
  constructor
  · intro h
    rcases h with h | h
    · exact ⟨.visit next, visit_mem_requests.2 h, rfl⟩
    · exact ⟨.follow next, follow_mem_requests.2 h, rfl⟩
  · rintro ⟨request, hrequest, rfl⟩
    cases request with
    | visit next => exact .inl (visit_mem_requests.1 hrequest)
    | follow next => exact .inr (follow_mem_requests.1 hrequest)

end Site

inductive Action where
  /-- The look-up is asked what a usage names. -/
  | ask (usage : Site)
  /-- It is reported that the name of a property's type means nothing known. -/
  | unresolved (property : Site) (name detail : String)
  | request (request : Request)

def Action.request? : Action → Option Request
  | request made => some made
  | _ => none

namespace Site

def referenceActions (lookup : Lookup) (property : Site) (name detail : String) : List Action :=
  .ask property ::
    match (lookup property).sites with
    | [] => [.unresolved property name detail]
    | declarations => declarations.map fun declaration => .request (.follow declaration)

def keyActions (lookup : Lookup) (property : Site) (name : String) : List Action :=
  match property.writtenType? with
  | none => []
  | some written =>
      if written.typeKind = .reference then property.referenceActions lookup name written.text
      else if written.bare.has .typeLiteral then [.request (.visit written.bare)]
      else []

def actionsOf (lookup : Lookup) (site : Site) : Shape → List Action
  | .interface => (site.heritageEntries ++ site.members).map fun next => .request (.visit next)
  | .property => site.propertyName?.toList.flatMap (site.keyActions lookup)
  | .importing | .heritage => .ask site ::
      (lookup site).sites.map fun declaration => .request (.follow declaration)
  | .typeLiteral => site.members.map fun next => .request (.visit next)
  | .typeAlias => site.aliasLiteral?.toList.map fun next => .request (.visit next)
  | .arrayType => []

def actions (lookup : Lookup) (site : Site) : List Action :=
  contributing.flatMap fun shape => if site.has shape then site.actionsOf lookup shape else []

theorem toList_literal? {property written : Site} (h : property.writtenType? = some written) :
    property.literal?.toList = if written.bare.has .typeLiteral then [written.bare] else [] := by
  by_cases hhas : written.bare.has .typeLiteral = true
  · simp [literal?, h, hhas]
  · simp [literal?, h, hhas]

theorem not_typeLiteral_of_reference {written : Site} (h : written.typeKind = .reference) :
    written.bare.has .typeLiteral = false := by
  by_contra hhas
  have hobject : written.bare.kind = .objectType := by simpa [has] using hhas
  have hkind : written.typeKind = .objectLiteral := by
    rw [bare] at hobject
    simp only [typeKind, hobject]
  rw [hkind] at h
  cases h

/-! The requests of a node are the ones among its actions. -/

theorem filterMap_request? {α : Type} (items : List α) (request : α → Request) :
    (items.map fun item => Action.request (request item)).filterMap Action.request? =
      items.map request := by
  induction items with
  | nil => rfl
  | cons item rest ih => simp [Action.request?, ih]

theorem requests_keyActions (lookup : Lookup) (property : Site) (name : String) :
    (property.keyActions lookup name).filterMap Action.request? =
      Part.requests lookup (.key property name) := by
  change _ = property.literal?.toList.map Request.visit ++
    (property.named lookup).map Request.follow
  unfold keyActions
  cases hwritten : property.writtenType? with
  | none => simp [literal?, named, hwritten]
  | some written =>
      simp only [toList_literal? hwritten, named, hwritten]
      by_cases hkind : written.typeKind = .reference
      · simp only [hkind, if_true, not_typeLiteral_of_reference hkind, Bool.false_eq_true,
          if_false, List.map_nil, List.nil_append, referenceActions]
        cases (lookup property).sites with
        | nil => rfl
        | cons declaration rest =>
            exact filterMap_request? (declaration :: rest) .follow
      · simp only [hkind, if_false, List.map_nil, List.append_nil]
        split
        · rfl
        · rfl

theorem requests_actionsOf (lookup : Lookup) (site : Site) (shape : Shape) :
    (site.actionsOf lookup shape).filterMap Action.request? =
      (site.partsOf lookup shape).flatMap (Part.requests lookup) := by
  have hvisits (sites : List Site) :
      (sites.map fun next => Action.request (.visit next)).filterMap Action.request? =
        (sites.map Part.visit).flatMap (Part.requests lookup) := by
    rw [filterMap_request?, List.flatMap_map, ← List.flatMap_pure_eq_map]
    rfl
  have hfollows (sites : List Site) :
      (sites.map fun next => Action.request (.follow next)).filterMap Action.request? =
        (sites.map Part.follow).flatMap (Part.requests lookup) := by
    rw [filterMap_request?, List.flatMap_map, ← List.flatMap_pure_eq_map]
    rfl
  cases shape with
  | interface => exact hvisits _
  | property =>
      simp only [actionsOf, partsOf]
      cases site.propertyName? with
      | none => rfl
      | some name => simpa using requests_keyActions lookup site name
  | importing | heritage => exact hfollows _
  | typeLiteral => exact hvisits _
  | typeAlias => exact hvisits _
  | arrayType => rfl

theorem requests_actions (lookup : Lookup) (site : Site) :
    (site.actions lookup).filterMap Action.request? = site.requests lookup := by
  simp only [actions, requests, parts, List.filterMap_flatMap, List.flatMap_assoc]
  refine List.flatMap_congr fun shape _ => ?_
  split
  · exact requests_actionsOf lookup site shape
  · rfl

end Site

namespace Expand

/-- The computation does what is listed, in this order. -/
inductive Performs (lookup : Lookup) {α : Type} :
    List Action → ((Site → Expand Schema) → Expand α) → Prop where
  | done (value : α) : Performs lookup [] fun _ => pure value
  | ask {actions : List Action} {rest : List Site → (Site → Expand Schema) → Expand α}
      (usage : Site) (hrest : Performs lookup actions (rest (lookup usage).sites)) :
      Performs lookup (.ask usage :: actions) fun recurse =>
        Expand.ask lookup usage >>= fun sites => rest sites recurse
  | unresolved {actions : List Action} {rest : (Site → Expand Schema) → Expand α}
      (property : Site) (name detail : String) (hrest : Performs lookup actions rest) :
      Performs lookup (.unresolved property name detail :: actions) fun recurse =>
        Expand.report [.unresolved property.id name detail] >>= fun _ => rest recurse
  | visit {actions : List Action} {rest : Schema → (Site → Expand Schema) → Expand α}
      (site : Site) (hrest : ∀ schema, Performs lookup actions (rest schema)) :
      Performs lookup (.request (.visit site) :: actions) fun recurse =>
        recurse site >>= fun schema => rest schema recurse
  | follow {actions : List Action} {rest : Option Schema → (Site → Expand Schema) → Expand α}
      (declaration : Site) (hrest : ∀ found, Performs lookup actions (rest found)) :
      Performs lookup (.request (.follow declaration) :: actions) fun recurse =>
        followWith recurse declaration >>= fun found => rest found recurse

section Performs

variable {α β γ : Type} {lookup : Lookup} {site : Site}

theorem Performs.bind {first : (Site → Expand Schema) → Expand α}
    {next : α → (Site → Expand Schema) → Expand β} {actions later : List Action}
    (hfirst : Performs lookup actions first) (hnext : ∀ value, Performs lookup later (next value)) :
    Performs lookup (actions ++ later) fun recurse =>
      first recurse >>= fun value => next value recurse := by
  induction hfirst with
  | done value =>
      simp only [pure_bind]
      exact hnext value
  | ask usage _ ih =>
      simp only [bind_assoc]
      exact .ask usage ih
  | unresolved property name detail _ ih =>
      simp only [bind_assoc]
      exact .unresolved property name detail ih
  | visit site _ ih =>
      simp only [bind_assoc]
      exact .visit site ih
  | follow declaration _ ih =>
      simp only [bind_assoc]
      exact .follow declaration ih

theorem Performs.map {first : (Site → Expand Schema) → Expand α} {actions : List Action}
    (hfirst : Performs lookup actions first) (value : α → β) :
    Performs lookup actions fun recurse => first recurse >>= fun given => pure (value given) := by
  rw [← List.append_nil actions]
  exact hfirst.bind fun given => .done (value given)

theorem performs_foldlM {step : (Site → Expand Schema) → β → γ → Expand β} {action : γ → Action}
    (items : List γ)
    (hstep : ∀ item sum, Performs lookup [action item] fun recurse => step recurse sum item)
    (sum : β) :
    Performs lookup (items.map action) fun recurse => items.foldlM (step recurse) sum := by
  induction items generalizing sum with
  | nil => exact .done sum
  | cons item rest ih =>
      simp only [List.foldlM_cons, List.map_cons]
      exact (hstep item sum).bind ih

/-! One fact for each of the computations that a node is expanded by. -/

theorem performs_mergeAllWith (sites : List Site) (schema : Schema) :
    Performs lookup (sites.map fun next => .request (.visit next)) fun recurse =>
      mergeAllWith recurse sites schema :=
  performs_foldlM sites
    (fun site merged => .visit site fun found => .done (merged.merge found)) schema

theorem performs_mergeInterfaceWith (schema : Schema) :
    Performs lookup (site.actionsOf lookup .interface) fun recurse =>
      mergeInterfaceWith recurse site schema := by
  rw [Site.actionsOf, List.map_append]
  exact (performs_mergeAllWith site.heritageEntries schema).bind
    (performs_mergeAllWith site.members)

theorem performs_mergeNamedWith (usage : Site) (schema : Schema) :
    Performs lookup (.ask usage ::
        (lookup usage).sites.map fun declaration => .request (.follow declaration)) fun recurse =>
      mergeNamedWith lookup recurse usage schema := by
  refine .ask usage (performs_foldlM _ (fun declaration merged => ?_) schema)
  refine .follow declaration fun found => ?_
  cases found with
  | none => exact .done merged
  | some schema => exact .done (merged.merge schema)

theorem performs_childrenWith (declarations : List Site) :
    Performs lookup (declarations.map fun declaration => .request (.follow declaration))
      fun recurse => childrenWith recurse declarations := by
  refine performs_foldlM declarations (fun declaration children => ?_) none
  refine .follow declaration fun found => ?_
  cases found with
  | none => exact .done children
  | some schema => exact .done (some ((children.getD ∅).merge schema))

theorem performs_referenceEntryWith (property : Site) (name detail : String) :
    Performs lookup (property.referenceActions lookup name detail) fun recurse =>
      referenceEntryWith lookup recurse property name detail := by
  refine .ask property ?_
  cases (lookup property).sites with
  | nil => exact .unresolved property name detail (.done _)
  | cons declaration rest =>
      let entry (children : Option Schema) : Entry :=
        ⟨some .reference, none, children, some detail⟩
      exact (performs_childrenWith (declaration :: rest)).map entry

theorem performs_writtenEntryWith (written : Site) :
    Performs lookup (if written.bare.has .typeLiteral then [.request (.visit written.bare)] else [])
      fun recurse => writtenEntryWith recurse written := by
  change Performs lookup _ fun recurse => ((do
    let children ←
      if written.bare.has .typeLiteral then some <$> recurse written.bare else pure none
    return ⟨some written.typeKind, written.elementKind?, children, some written.text⟩ :
      Expand Entry))
  by_cases hliteral : written.bare.has .typeLiteral = true
  · simp only [hliteral, if_true, map_eq_pure_bind, bind_assoc, pure_bind]
    exact .visit written.bare fun children => .done _
  · simp only [hliteral, Bool.false_eq_true, if_false, pure_bind]
    exact .done _

theorem performs_propertyEntryWith (property : Site) (name : String) :
    Performs lookup (property.keyActions lookup name) fun recurse =>
      propertyEntryWith lookup recurse property name := by
  unfold propertyEntryWith Site.keyActions Site.writtenType?
  cases property.focus.annotatedType? with
  | none => exact .done _
  | some focus =>
      simp only [Option.map_some]
      by_cases hkind : (property.move focus).typeKind = .reference
      · simp only [hkind, if_true]
        exact performs_referenceEntryWith property name _
      · simp only [hkind, if_false]
        exact performs_writtenEntryWith (property.move focus)

theorem performs_mergePropertyWith (property : Site) (schema : Schema) :
    Performs lookup (property.actionsOf lookup .property) fun recurse =>
      mergePropertyWith lookup recurse property schema := by
  unfold mergePropertyWith Site.actionsOf
  cases property.propertyName? with
  | none => exact .done schema
  | some name =>
      simp only [Option.toList_some, List.flatMap_cons, List.flatMap_nil, List.append_nil]
      exact (performs_propertyEntryWith property name).map (schema.insert name)

theorem performs_mergeAliasWith (declaration : Site) (schema : Schema) :
    Performs lookup (declaration.actionsOf lookup .typeAlias) fun recurse =>
      mergeAliasWith recurse declaration schema := by
  unfold mergeAliasWith Site.actionsOf
  cases hvalue : declaration.focus.child? .value with
  | none =>
      simp only [Site.aliasLiteral?, hvalue]
      exact .done schema
  | some focus =>
      by_cases hhas : (declaration.move focus.bareType).has .typeLiteral = true
      · have hliteral : declaration.aliasLiteral? = some (declaration.move focus.bareType) := by
          simp [Site.aliasLiteral?, hvalue, hhas]
        simp only [hliteral, hhas, if_true]
        exact .visit _ fun found => .done (schema.merge found)
      · have hliteral : declaration.aliasLiteral? = none := by
          simp [Site.aliasLiteral?, hvalue, hhas]
        simp only [hliteral, hhas]
        exact .done schema

theorem performs_contribution {shape : Shape}
    {contribute : (Site → Expand Schema) → Schema → Expand Schema}
    (hcontribute : ∀ schema, Performs lookup (site.actionsOf lookup shape)
      fun recurse => contribute recurse schema) (schema : Schema) :
    Performs lookup (if site.has shape then site.actionsOf lookup shape else []) fun recurse =>
      if site.has shape then contribute recurse schema else pure schema := by
  by_cases hhas : site.has shape = true
  · simpa only [hhas, if_true] using hcontribute schema
  · simp only [hhas, Bool.false_eq_true, if_false]
    exact .done schema

theorem performs_bodyWith (lookup : Lookup) (site : Site) :
    Performs lookup (site.actions lookup) fun recurse => bodyWith lookup recurse site := by
  simp only [bodyWith, contributionsWith, List.foldlM_cons, List.foldlM_nil, Site.actions,
    Site.contributing, List.flatMap_cons, List.flatMap_nil]
  exact (performs_contribution performs_mergeInterfaceWith ∅).bind fun schema =>
    (performs_contribution (performs_mergePropertyWith site) schema).bind fun schema =>
    (performs_contribution (performs_mergeNamedWith site) schema).bind fun schema =>
    (performs_contribution (performs_mergeNamedWith site) schema).bind fun schema =>
    (performs_contribution (performs_mergeAllWith site.members) schema).bind fun schema =>
    (performs_contribution (performs_mergeAliasWith site) schema).bind fun schema => .done schema

end Performs

/-- The computation makes the requests in their order and reports no cut besides. -/
inductive Asks {α : Type} : List Request → ((Site → Expand Schema) → Expand α) → Prop where
  | done (value : α) : Asks [] fun _ => pure value
  | report {requests : List Request} {rest : (Site → Expand Schema) → Expand α}
      (events : List Event) (hevents : ∀ event ∈ events, event.isCycle = false)
      (hrest : Asks requests rest) :
      Asks requests fun recurse => Expand.report events >>= fun _ => rest recurse
  | visit {requests : List Request} {rest : Schema → (Site → Expand Schema) → Expand α}
      (site : Site) (hrest : ∀ schema, Asks requests (rest schema)) :
      Asks (.visit site :: requests) fun recurse =>
        recurse site >>= fun schema => rest schema recurse
  | follow {requests : List Request} {rest : Option Schema → (Site → Expand Schema) → Expand α}
      (declaration : Site) (hrest : ∀ found, Asks requests (rest found)) :
      Asks (.follow declaration :: requests) fun recurse =>
        followWith recurse declaration >>= fun found => rest found recurse

theorem Performs.asks {α : Type} {lookup : Lookup} {actions : List Action}
    {body : (Site → Expand Schema) → Expand α} (h : Performs lookup actions body) :
    Asks (actions.filterMap Action.request?) body := by
  induction h with
  | done value => exact .done value
  | ask usage _ ih =>
      simp only [Expand.ask, bind_assoc, pure_bind]
      refine .report _ ?_ ih
      intro event hevent
      obtain ⟨reported, _, rfl⟩ := List.mem_map.1 hevent
      rfl
  | unresolved property name detail _ ih => exact .report _ (by simp [Event.isCycle]) ih
  | visit site _ ih => exact .visit site ih
  | follow declaration _ ih => exact .follow declaration ih

theorem asks_bodyWith (lookup : Lookup) (site : Site) :
    Asks (site.requests lookup) fun recurse => bodyWith lookup recurse site := by
  rw [← Site.requests_actions]
  exact (performs_bodyWith lookup site).asks

theorem followWith_apply (recurse : Site → Expand Schema) (declaration : Site)
    (progress : Progress) :
    followWith recurse declaration progress =
      match progress.expanded.get? declaration.id with
      | some schema => some (some schema, progress)
      | none =>
          if declaration.id ∈ progress.expanding then
            some (none, progress.report
              [.cycle declaration.id (declaration.nameText?.getD declaration.kind.name)])
          else
            (recurse declaration progress).bind fun pair => some (some pair.1, pair.2) := by
  change (match progress.expanded.get? declaration.id with
    | some schema => pure (some schema)
    | none =>
        if progress.expanding.contains declaration.id then
          (do report [.cycle declaration.id (declaration.nameText?.getD declaration.kind.name)]
              return none)
        else do return some (← recurse declaration) : Expand (Option Schema)) progress = _
  cases progress.expanded.get? declaration.id with
  | some schema => rfl
  | none =>
      by_cases hopen : declaration.id ∈ progress.expanding
      · simp only [List.contains_iff_mem, hopen, if_true]
        rfl
      · simp only [List.contains_iff_mem, hopen, if_false]
        rfl

/-- What following a reference comes to. -/
inductive Following (recurse : Site → Expand Schema) (declaration : Site) (before : Progress) :
    Option Schema → Progress → Prop where
  | recorded {schema : Schema} (hrecord : before.expanded.get? declaration.id = some schema) :
      Following recurse declaration before (some schema) before
  | cut (name : String) (hrecord : before.expanded.get? declaration.id = none)
      (hopen : declaration.id ∈ before.expanding) :
      Following recurse declaration before none (before.report [.cycle declaration.id name])
  | opened {schema : Schema} {after : Progress}
      (hrecord : before.expanded.get? declaration.id = none)
      (hopen : declaration.id ∉ before.expanding)
      (hvisit : recurse declaration before = some (schema, after)) :
      Following recurse declaration before (some schema) after

theorem following_of_followWith {recurse : Site → Expand Schema} {declaration : Site}
    {before after : Progress} {found : Option Schema}
    (h : followWith recurse declaration before = some (found, after)) :
    Following recurse declaration before found after := by
  rw [followWith_apply] at h
  cases hrecord : before.expanded.get? declaration.id with
  | some schema =>
      simp only [hrecord, Option.some.injEq, Prod.mk.injEq] at h
      obtain ⟨rfl, rfl⟩ := h
      exact .recorded hrecord
  | none =>
      simp only [hrecord] at h
      by_cases hopen : declaration.id ∈ before.expanding
      · simp only [hopen, if_true, Option.some.injEq, Prod.mk.injEq] at h
        obtain ⟨rfl, rfl⟩ := h
        exact .cut _ hrecord hopen
      · simp only [hopen, if_false] at h
        obtain ⟨pair, hvisit, heq⟩ := Option.bind_eq_some_iff.1 h
        obtain ⟨rfl, rfl⟩ := Prod.mk.inj (Option.some.inj heq)
        exact .opened hrecord hopen hvisit

theorem bind_eq_some {α β : Type} {first : Expand α} {next : α → Expand β} {progress : Progress}
    {result : β × Progress} :
    (first >>= next) progress = some result ↔
      ∃ value after, first progress = some (value, after) ∧ next value after = some result := by
  change (first progress).bind (fun pair => next pair.1 pair.2) = some result ↔ _
  rw [Option.bind_eq_some_iff]
  exact ⟨fun ⟨pair, hfirst, hnext⟩ => ⟨pair.1, pair.2, hfirst, hnext⟩,
    fun ⟨value, after, hfirst, hnext⟩ => ⟨(value, after), hfirst, hnext⟩⟩

section MapM

variable {recurse : Site → Expand Schema} {before after : Progress} {schemas : List Schema}

theorem mapM_cons_eq_some {site : Site} {sites : List Site} :
    (site :: sites).mapM recurse before = some (schemas, after) ↔
      ∃ schema middle later, recurse site before = some (schema, middle) ∧
        sites.mapM recurse middle = some (later, after) ∧ schemas = schema :: later := by
  rw [List.mapM_cons, bind_eq_some]
  constructor
  · rintro ⟨schema, middle, hsite, hrest⟩
    obtain ⟨later, last, hsites, hpure⟩ := bind_eq_some.1 hrest
    obtain ⟨rfl, rfl⟩ := Prod.mk.inj (Option.some.inj hpure)
    exact ⟨schema, middle, later, hsite, hsites, rfl⟩
  · rintro ⟨schema, middle, later, hsite, hsites, rfl⟩
    exact ⟨schema, middle, hsite, bind_eq_some.2 ⟨later, after, hsites, rfl⟩⟩

theorem mapM_append_eq_some {sites others : List Site}
    (h : (sites ++ others).mapM recurse before = some (schemas, after)) :
    ∃ earlier middle later, sites.mapM recurse before = some (earlier, middle) ∧
      others.mapM recurse middle = some (later, after) ∧ schemas = earlier ++ later := by
  rw [List.mapM_append] at h
  obtain ⟨earlier, middle, hsites, hrest⟩ := bind_eq_some.1 h
  obtain ⟨later, last, hothers, hpure⟩ := bind_eq_some.1 hrest
  obtain ⟨rfl, rfl⟩ := Prod.mk.inj (Option.some.inj hpure)
  exact ⟨earlier, middle, later, hsites, hothers, rfl⟩

theorem forall₂_of_mapM {Rel : Site → Schema → Prop} {sites : List Site}
    (hrecurse : ∀ site before schema after, recurse site before = some (schema, after) →
      Rel site schema)
    (h : sites.mapM recurse before = some (schemas, after)) : List.Forall₂ Rel sites schemas := by
  induction sites generalizing before schemas with
  | nil =>
      obtain ⟨rfl, rfl⟩ := Prod.mk.inj (Option.some.inj h)
      exact .nil
  | cons site rest ih =>
      obtain ⟨schema, middle, later, hsite, hrest, rfl⟩ := mapM_cons_eq_some.1 h
      exact .cons (hrecurse site before schema middle hsite) (ih hrest)

end MapM

/-! Answering more requests never takes a result away. -/

section Refines

variable {α β : Type} {recurse recurse' : Site → Expand Schema}

def Refines (first second : Expand α) : Prop :=
  ∀ progress result, first progress = some result → second progress = some result

theorem Refines.bind {first second : Expand α} {next next' : α → Expand β}
    (h : Refines first second) (hnext : ∀ value, Refines (next value) (next' value)) :
    Refines (first >>= next) (second >>= next') := by
  intro progress result hrun
  obtain ⟨value, after, hfirst, hrest⟩ := bind_eq_some.1 hrun
  exact bind_eq_some.2 ⟨value, after, h _ _ hfirst, hnext value _ _ hrest⟩

theorem Refines.followWith {declaration : Site}
    (h : Refines (recurse declaration) (recurse' declaration)) :
    Refines (followWith recurse declaration) (followWith recurse' declaration) := by
  intro progress result hrun
  rw [followWith_apply] at hrun ⊢
  cases hrecord : progress.expanded.get? declaration.id with
  | some schema => simpa only [hrecord] using hrun
  | none =>
      simp only [hrecord] at hrun
      by_cases hopen : declaration.id ∈ progress.expanding
      · simpa only [hopen, if_true] using hrun
      · simp only [hopen, if_false] at hrun ⊢
        obtain ⟨pair, hpair, heq⟩ := Option.bind_eq_some_iff.1 hrun
        rw [h _ _ hpair]
        exact heq

theorem Asks.refines {body : (Site → Expand Schema) → Expand α} {requests : List Request}
    (h : Asks requests body)
    (hrefines : ∀ request ∈ requests, Refines (recurse request.site) (recurse' request.site)) :
    Refines (body recurse) (body recurse') := by
  induction h with
  | done value => exact fun _ _ hrun => hrun
  | report events _ _ ih =>
      exact Refines.bind (fun _ _ hrun => hrun) fun _ => ih hrefines
  | visit site _ ih =>
      refine (hrefines (.visit site) (by simp)).bind fun schema => ih schema ?_
      exact fun request hrequest => hrefines request (by simp [hrequest])
  | follow declaration _ ih =>
      refine (hrefines (.follow declaration) (by simp)).followWith.bind fun found => ih found ?_
      exact fun request hrequest => hrefines request (by simp [hrequest])

theorem refines_nodeWith {lookup : Lookup} {site : Site}
    (h : ∀ next, Site.Refers lookup site next → Refines (recurse next) (recurse' next)) :
    Refines (nodeWith lookup recurse site) (nodeWith lookup recurse' site) := by
  have hbody : Refines (bodyWith lookup recurse site) (bodyWith lookup recurse' site) :=
    (asks_bodyWith lookup site).refines fun request hrequest =>
      h request.site (Site.refers_iff_mem_requests.2 ⟨request, hrequest, rfl⟩)
  intro progress result hrun
  rw [nodeWith_apply] at hrun ⊢
  obtain ⟨pair, hpair, heq⟩ := Option.bind_eq_some_iff.1 hrun
  rw [hbody _ _ hpair]
  exact heq

end Refines

/-! What an expansion does, request by request. -/

section Steps

variable {recurse : Site → Expand Schema}

/-- Requests answered one after the other, from one progress to another. -/
inductive Steps (recurse : Site → Expand Schema) : List Request → Progress → Progress → Prop where
  | done (progress : Progress) : Steps recurse [] progress progress
  | report {requests : List Request} {before after : Progress} {events : List Event}
      (hevents : ∀ event ∈ events, event.isCycle = false)
      (hrest : Steps recurse requests (before.report events) after) :
      Steps recurse requests before after
  | visit {requests : List Request} {site : Site} {schema : Schema}
      {before middle after : Progress} (hvisit : recurse site before = some (schema, middle))
      (hrest : Steps recurse requests middle after) :
      Steps recurse (.visit site :: requests) before after
  | recorded {requests : List Request} {declaration : Site} {schema : Schema}
      {before after : Progress} (hrecord : before.expanded.get? declaration.id = some schema)
      (hrest : Steps recurse requests before after) :
      Steps recurse (.follow declaration :: requests) before after
  | cut {requests : List Request} {declaration : Site} {name : String} {before after : Progress}
      (hrecord : before.expanded.get? declaration.id = none)
      (hopen : declaration.id ∈ before.expanding)
      (hrest : Steps recurse requests (before.report [.cycle declaration.id name]) after) :
      Steps recurse (.follow declaration :: requests) before after
  | opened {requests : List Request} {declaration : Site} {schema : Schema}
      {before middle after : Progress}
      (hrecord : before.expanded.get? declaration.id = none)
      (hopen : declaration.id ∉ before.expanding)
      (hvisit : recurse declaration before = some (schema, middle))
      (hrest : Steps recurse requests middle after) :
      Steps recurse (.follow declaration :: requests) before after

theorem Asks.steps {α : Type} {body : (Site → Expand Schema) → Expand α}
    {requests : List Request} (h : Asks requests body) {before after : Progress} {value : α}
    (hrun : body recurse before = some (value, after)) : Steps recurse requests before after := by
  induction h generalizing before with
  | done given =>
      obtain ⟨rfl, rfl⟩ := Prod.mk.inj (Option.some.inj hrun)
      exact .done _
  | report events hevents _ ih => exact .report hevents (ih hrun)
  | visit site _ ih =>
      obtain ⟨schema, middle, hvisit, hrest⟩ := bind_eq_some.1 hrun
      exact .visit hvisit (ih schema hrest)
  | follow declaration _ ih =>
      obtain ⟨found, middle, hfollow, hrest⟩ := bind_eq_some.1 hrun
      cases following_of_followWith hfollow with
      | recorded hrecord => exact .recorded hrecord (ih _ hrest)
      | cut _ hrecord hopen => exact .cut hrecord hopen (ih _ hrest)
      | opened hrecord hopen hvisit => exact .opened hrecord hopen hvisit (ih _ hrest)

theorem steps_of_nodeWith {lookup : Lookup} {site : Site} {schema : Schema}
    {before after : Progress}
    (h : nodeWith lookup recurse site before = some (schema, after)) :
    ∃ done, Steps recurse (site.requests lookup) (before.opened site) done ∧
      after = done.closed site schema := by
  rw [nodeWith_apply] at h
  obtain ⟨⟨schema', done⟩, hbody, heq⟩ := Option.bind_eq_some_iff.1 h
  obtain ⟨rfl, rfl⟩ := Prod.mk.inj (Option.some.inj heq)
  exact ⟨done, (asks_bodyWith lookup site).steps hbody, rfl⟩

end Steps

end Expand

end Keypath
