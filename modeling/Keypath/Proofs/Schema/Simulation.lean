import Keypath.Proofs.Schema.Parts

/-!
Expansions that go side by side.

Nothing in an expansion depends on the numbers of files. Two nodes are alike if only the numbers of
their files tell them apart. Where matching nodes are alike and usages that match have matching
answers, the expansions of matching nodes are the same, step by step.
-/

namespace Keypath

open Keypath.Tree

/-- Only the numbers of the files differ. -/
inductive SourceFile.Alike : SourceFile → SourceFile → Prop where
  | intro (id id' : Nat) (path : Path) (text : String) (tree : Node) :
      Alike ⟨id, path, text, tree⟩ ⟨id', path, text, tree⟩

theorem SourceFile.Alike.refl (file : SourceFile) : file.Alike file :=
  .intro file.id file.id file.path file.text file.tree

theorem SourceFile.Alike.symm {file twin : SourceFile} (h : file.Alike twin) :
    twin.Alike file := by
  cases h
  exact .intro ..

inductive Site.Alike : Site → Site → Prop where
  | intro {file twin : SourceFile} (hfile : file.Alike twin) (focus : Focus) :
      Alike ⟨file, focus⟩ ⟨twin, focus⟩

theorem Site.Alike.has_eq {site twin : Site} (h : site.Alike twin) : site.has = twin.has := by
  obtain ⟨⟨id, id', path, text, tree⟩, focus⟩ := h
  funext shape
  cases shape <;> rfl

theorem Site.Alike.elementKind_eq {site twin : Site} (h : site.Alike twin) :
    site.elementType?.map Site.typeKind = twin.elementType?.map Site.typeKind := by
  obtain ⟨⟨id, id', path, text, tree⟩, focus⟩ := h
  have hmap (place : Option Focus) : (place.map (Site.mk ⟨id, path, text, tree⟩)).map typeKind =
      (place.map (Site.mk ⟨id', path, text, tree⟩)).map typeKind := by
    rw [Option.map_map, Option.map_map]
    rfl
  unfold Site.elementType?
  simp only [Site.move, Site.kind, Focus.kind]
  cases focus.bareType.node.label.kind with
  | arrayType => exact hmap _
  | genericType =>
      cases focus.bareType.child? .typeArguments with
      | none => rfl
      | some arguments =>
          by_cases harray : (Site.mk ⟨id, path, text, tree⟩ focus.bareType).isArrayType = true
          · have harray' : (Site.mk ⟨id', path, text, tree⟩ focus.bareType).isArrayType = true :=
              harray
            simp only [harray, harray', if_true]
            exact hmap _
          · have harray' : ¬(Site.mk ⟨id', path, text, tree⟩ focus.bareType).isArrayType = true :=
              harray
            simp only [harray, harray']
            rfl
  | _ => rfl

/-- `Match` pairs the nodes that two expansions go through. -/
structure Simulation (lookup other : Lookup) (Match : Site → Site → Prop) : Prop where
  alike : ∀ {site twin : Site}, Match site twin → site.Alike twin
  inside : ∀ {site twin : Site} {focus : Focus}, Match site twin →
    Focus.Inside site.focus focus → Match (site.move focus) (twin.move focus)
  events : ∀ {site twin : Site}, Match site twin → (lookup site).events = (other twin).events
  sites : ∀ {site twin : Site}, Match site twin →
    List.Forall₂ Match (lookup site).sites (other twin).sites

namespace Expand

theorem foldlM_congr {α β γ : Type} {Rel : α → β → Prop} {items : List α} {others : List β}
    {step : γ → α → Expand γ} {step' : γ → β → Expand γ} (h : List.Forall₂ Rel items others)
    (hstep : ∀ item other, Rel item other → ∀ sum, step sum item = step' sum other) (sum : γ) :
    items.foldlM step sum = others.foldlM step' sum := by
  induction h generalizing sum with
  | nil => rfl
  | cons hfirst _ ih =>
      rw [List.foldlM_cons, List.foldlM_cons, hstep _ _ hfirst]
      exact congrArg _ (funext ih)

end Expand

namespace Simulation

open Expand

def Agree (Match : Site → Site → Prop) (recurse recurse' : Site → Expand Schema) : Prop :=
  ∀ site twin, Match site twin → recurse site = recurse' twin

variable {lookup other : Lookup} {Match : Site → Site → Prop}
variable {recurse recurse' : Site → Expand Schema} {site twin : Site}

/-! What a node leads to matches what its twin leads to. -/

theorem forall₂_move (h : Simulation lookup other Match) (hmatch : Match site twin)
    {places : List Focus} (hplaces : ∀ focus ∈ places, Focus.Inside site.focus focus) :
    List.Forall₂ Match (places.map site.move) (places.map twin.move) := by
  rw [List.forall₂_map_left_iff, List.forall₂_map_right_iff, List.forall₂_same]
  exact fun focus hfocus => h.inside hmatch (hplaces focus hfocus)

theorem members (h : Simulation lookup other Match) (hmatch : Match site twin) :
    List.Forall₂ Match site.members twin.members := by
  obtain ⟨hfile, focus⟩ := h.alike hmatch
  exact h.forall₂_move hmatch fun _ => Focus.inside_of_mem_bodyMembers

theorem heritageEntries (h : Simulation lookup other Match) (hmatch : Match site twin) :
    List.Forall₂ Match site.heritageEntries twin.heritageEntries := by
  obtain ⟨hfile, focus⟩ := h.alike hmatch
  exact h.forall₂_move hmatch fun _ => Focus.inside_of_mem_heritageEntries

/-! One fact for each of the computations that a node is expanded by. -/

theorem followWith_eq (h : Simulation lookup other Match)
    (hrecurse : Agree Match recurse recurse')
    (hmatch : Match site twin) : followWith recurse site = followWith recurse' twin := by
  unfold followWith
  rw [hrecurse _ _ hmatch]
  obtain ⟨⟨id, id', path, text, tree⟩, focus⟩ := h.alike hmatch
  rfl

theorem mergeAllWith_eq (hrecurse : Agree Match recurse recurse')
    {sites twins : List Site} (hsites : List.Forall₂ Match sites twins) (schema : Schema) :
    mergeAllWith recurse sites schema = mergeAllWith recurse' twins schema := by
  refine foldlM_congr hsites (fun site twin hmatch merged => ?_) schema
  rw [hrecurse _ _ hmatch]

theorem mergeInterfaceWith_eq (h : Simulation lookup other Match)
    (hrecurse : Agree Match recurse recurse')
    (hmatch : Match site twin) (schema : Schema) :
    mergeInterfaceWith recurse site schema = mergeInterfaceWith recurse' twin schema := by
  unfold mergeInterfaceWith
  rw [mergeAllWith_eq hrecurse (h.heritageEntries hmatch)]
  exact congrArg _ (funext (mergeAllWith_eq hrecurse (h.members hmatch)))

theorem ask_bind_eq {α : Type} (h : Simulation lookup other Match) (hmatch : Match site twin)
    {next next' : List Site → Expand α}
    (hnext : next (lookup site).sites = next' (other twin).sites) :
    ask lookup site >>= next = ask other twin >>= next' := by
  simp only [ask, bind_assoc, pure_bind, h.events hmatch, hnext]

theorem mergeNamedWith_eq (h : Simulation lookup other Match)
    (hrecurse : Agree Match recurse recurse')
    (hmatch : Match site twin) (schema : Schema) :
    mergeNamedWith lookup recurse site schema = mergeNamedWith other recurse' twin schema := by
  refine h.ask_bind_eq hmatch (foldlM_congr (h.sites hmatch) ?_ schema)
  intro declaration twin hdeclaration merged
  rw [h.followWith_eq hrecurse hdeclaration]

theorem childrenWith_eq (h : Simulation lookup other Match)
    (hrecurse : Agree Match recurse recurse')
    {sites twins : List Site} (hsites : List.Forall₂ Match sites twins) :
    childrenWith recurse sites = childrenWith recurse' twins := by
  refine foldlM_congr hsites (fun declaration twin hdeclaration children => ?_) none
  rw [h.followWith_eq hrecurse hdeclaration]

theorem referenceEntryWith_eq (h : Simulation lookup other Match)
    (hrecurse : Agree Match recurse recurse')
    (hmatch : Match site twin) (name detail : String) :
    referenceEntryWith lookup recurse site name detail =
      referenceEntryWith other recurse' twin name detail := by
  have hid : site.id = twin.id := by
    obtain ⟨⟨id, id', path, text, tree⟩, focus⟩ := h.alike hmatch
    rfl
  refine h.ask_bind_eq hmatch ?_
  have hsites := h.sites hmatch
  generalize (lookup site).sites = sites at hsites ⊢
  generalize (other twin).sites = twins at hsites ⊢
  cases hsites with
  | nil => rw [hid]
  | cons hfirst hrest =>
      simp only [h.childrenWith_eq hrecurse (.cons hfirst hrest)]

theorem writtenEntryWith_eq (h : Simulation lookup other Match)
    (hrecurse : Agree Match recurse recurse')
    (hmatch : Match site twin) {focus : Focus} (hinside : Focus.Inside site.focus focus) :
    writtenEntryWith recurse (site.move focus) = writtenEntryWith recurse' (twin.move focus) := by
  have hbare : Match (site.move focus.bareType) (twin.move focus.bareType) :=
    h.inside hmatch (hinside.trans_left (Focus.within_bareType focus))
  have hrun : recurse ((site.move focus).move focus.bareType) =
      recurse' ((twin.move focus).move focus.bareType) := hrecurse _ _ hbare
  have hkind := (h.alike hbare).elementKind_eq
  have hhas := (h.alike hbare).has_eq
  have htext : (site.move focus).typeKind = (twin.move focus).typeKind ∧
      (site.move focus).text = (twin.move focus).text := by
    obtain ⟨⟨id, id', path, text, tree⟩, _⟩ := h.alike hmatch
    exact ⟨rfl, rfl⟩
  simp only [Site.move] at hrun hkind hhas htext
  simp only [writtenEntryWith, Site.move, hrun, hkind, hhas, htext.1, htext.2]
  rfl

theorem propertyEntryWith_eq (h : Simulation lookup other Match)
    (hrecurse : Agree Match recurse recurse')
    (hmatch : Match site twin) (name : String) :
    propertyEntryWith lookup recurse site name =
      propertyEntryWith other recurse' twin name := by
  have hfocus : site.focus = twin.focus := by
    obtain ⟨_, focus⟩ := h.alike hmatch
    rfl
  unfold propertyEntryWith
  rw [← hfocus]
  cases hwritten : site.focus.annotatedType? with
  | none => rfl
  | some focus =>
      have hinside := Focus.inside_of_annotatedType? hwritten
      have hkind : (site.move focus).typeKind = (twin.move focus).typeKind ∧
          (site.move focus).text = (twin.move focus).text := by
        obtain ⟨⟨id, id', path, text, tree⟩, _⟩ := h.alike hmatch
        exact ⟨rfl, rfl⟩
      simp only [hkind.1, hkind.2, h.referenceEntryWith_eq hrecurse hmatch,
        h.writtenEntryWith_eq hrecurse hmatch hinside]

theorem mergePropertyWith_eq (h : Simulation lookup other Match)
    (hrecurse : Agree Match recurse recurse')
    (hmatch : Match site twin) (schema : Schema) :
    mergePropertyWith lookup recurse site schema =
      mergePropertyWith other recurse' twin schema := by
  have hname : site.propertyName? = twin.propertyName? := by
    obtain ⟨⟨id, id', path, text, tree⟩, focus⟩ := h.alike hmatch
    rfl
  unfold mergePropertyWith
  simp only [hname, h.propertyEntryWith_eq hrecurse hmatch]

theorem mergeAliasWith_eq (h : Simulation lookup other Match)
    (hrecurse : Agree Match recurse recurse')
    (hmatch : Match site twin) (schema : Schema) :
    mergeAliasWith recurse site schema = mergeAliasWith recurse' twin schema := by
  have hfocus : site.focus = twin.focus := by
    obtain ⟨_, focus⟩ := h.alike hmatch
    rfl
  unfold mergeAliasWith
  rw [← hfocus]
  cases hvalue : site.focus.child? .value with
  | none => rfl
  | some focus =>
      have hinside := (Focus.inside_of_child? hvalue).trans_left (Focus.within_bareType focus)
      have hliteral := h.inside hmatch hinside
      simp only [(h.alike hliteral).has_eq, hrecurse _ _ hliteral]

theorem nodeWith_eq (h : Simulation lookup other Match)
    (hrecurse : Agree Match recurse recurse')
    (hmatch : Match site twin) : nodeWith lookup recurse site = nodeWith other recurse' twin := by
  have hbody : (contributionsWith lookup recurse).foldlM (fun schema contribution =>
        if site.has contribution.1 then contribution.2 site schema else pure schema) (∅ : Schema) =
      (contributionsWith other recurse').foldlM (fun schema contribution =>
        if twin.has contribution.1 then contribution.2 twin schema else pure schema) ∅ := by
    simp only [contributionsWith, List.foldlM_cons, List.foldlM_nil, (h.alike hmatch).has_eq,
      h.mergeInterfaceWith_eq hrecurse hmatch, h.mergePropertyWith_eq hrecurse hmatch,
      h.mergeNamedWith_eq hrecurse hmatch, mergeAllWith_eq hrecurse (h.members hmatch),
      h.mergeAliasWith_eq hrecurse hmatch]
  unfold nodeWith
  rw [hbody]
  obtain ⟨⟨id, id', path, text, tree⟩, focus⟩ := h.alike hmatch
  rfl

theorem node_eq (h : Simulation lookup other Match) (budget : Nat) (hmatch : Match site twin) :
    node lookup budget site = node other budget twin := by
  induction budget generalizing site twin with
  | zero => rfl
  | succ budget ih => exact h.nodeWith_eq (fun _ _ hnext => ih hnext) hmatch

end Simulation

end Keypath
