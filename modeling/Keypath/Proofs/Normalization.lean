import Keypath.Path
import Keypath.Text.Slice

/-!
Normalised paths.

Normalising leaves a root or none, then one `..` or none, and names behind them. A list of this kind
is read back from the path that is written for it; so the components of a normalised path are known,
and normalising it again changes nothing. Steps of a second path are worked off behind those of the
first, so it makes no difference whether a path is normalised before another is joined to it.
-/

namespace Keypath

namespace Text

variable {α : Type} {mark : α → Bool}

theorem splitWhere_of_notMem {items : List α} (h : ∀ item ∈ items, mark item = false) :
    splitWhere mark items = [items] := by
  induction items with
  | nil => rfl
  | cons item rest ih =>
      have hrest := ih fun other hother => h other (List.mem_cons_of_mem _ hother)
      unfold splitWhere at hrest ⊢
      rw [List.foldr_cons, hrest, h item List.mem_cons_self]
      rfl

theorem splitWhere_ne_nil (items : List α) : splitWhere mark items ≠ [] := by
  cases items with
  | nil => exact List.cons_ne_nil _ _
  | cons item rest =>
      unfold splitWhere
      rw [List.foldr_cons]
      split
      · exact List.cons_ne_nil _ _
      · split <;> exact List.cons_ne_nil _ _

theorem splitWhere_append_mark (items : List α) {item : α} (hitem : mark item = true)
    (rest : List α) :
    splitWhere mark (items ++ item :: rest) = splitWhere mark items ++ splitWhere mark rest := by
  induction items with
  | nil => simp [splitWhere, hitem]
  | cons first more ih =>
      obtain ⟨piece, pieces, hmore⟩ := List.exists_cons_of_ne_nil (splitWhere_ne_nil more)
      rw [hmore] at ih
      rw [List.cons_append]
      unfold splitWhere at hmore ih ⊢
      rw [List.foldr_cons, List.foldr_cons, ih, hmore]
      cases mark first <;> rfl

theorem not_mark_of_mem_splitWhere {items piece : List α} {item : α}
    (hpiece : piece ∈ splitWhere mark items) (hitem : item ∈ piece) : mark item = false := by
  induction items generalizing piece with
  | nil =>
      obtain rfl := List.mem_singleton.1 hpiece
      cases hitem
  | cons first rest ih =>
      unfold splitWhere at hpiece ih
      rw [List.foldr_cons] at hpiece
      split at hpiece
      · rcases List.mem_cons.1 hpiece with rfl | hpiece
        · cases hitem
        · exact ih hpiece hitem
      · rename_i hfirst
        split at hpiece
        · obtain rfl := List.mem_singleton.1 hpiece
          obtain rfl := List.mem_singleton.1 hitem
          exact eq_false_of_ne_true hfirst
        · rename_i next later hrest
          rw [hrest] at ih
          rcases List.mem_cons.1 hpiece with rfl | hpiece
          · rcases List.mem_cons.1 hitem with rfl | hitem
            · exact eq_false_of_ne_true hfirst
            · exact ih List.mem_cons_self hitem
          · exact ih (List.mem_cons_of_mem _ hpiece) hitem

end Text

namespace Component

/-- A component that is read back from its bytes when they stand between slashes. -/
structure IsStep (component : Component) : Prop where
  slash_notMem : slash ∉ component.bytes
  ofSegment?_bytes : ofSegment? component.bytes = some component

theorem isStep_up : IsStep .up := ⟨by decide, rfl⟩

theorem isStep_of_ofSegment? {segment : List UInt8} {component : Component}
    (hslash : slash ∉ segment) (h : ofSegment? segment = some component) : component.IsStep := by
  have hbytes : component.bytes = segment := by
    unfold ofSegment? at h
    split at h
    · cases h
    · split at h
      · cases h
      · split at h
        · rename_i hsegment
          cases h
          exact hsegment.symm
        · cases h
          rfl
  exact ⟨hbytes ▸ hslash, hbytes.symm ▸ h⟩

namespace IsStep

variable {component : Component}

theorem bytes_ne_nil (h : component.IsStep) : component.bytes ≠ [] := by
  intro hbytes
  have hread := h.ofSegment?_bytes
  rw [hbytes] at hread
  cases hread

theorem bytes_ne_dot (h : component.IsStep) : component.bytes ≠ [dot] := by
  intro hbytes
  have hread := h.ofSegment?_bytes
  rw [hbytes] at hread
  cases hread

theorem head?_bytes (h : component.IsStep) : component.bytes.head? ≠ some slash :=
  fun hhead => h.slash_notMem (List.mem_of_mem_head? hhead)

end IsStep

end Component

namespace Path

open Component

/-! Reading back what is written for steps. -/

theorem splitWhere_joinSlashes {segments : List (List UInt8)} (hne : segments ≠ [])
    (h : ∀ segment ∈ segments, slash ∉ segment) :
    Text.splitWhere (· = slash) (joinSlashes segments) = segments := by
  have hmark : ∀ segment ∈ segments, ∀ byte ∈ segment, decide (byte = slash) = false := by
    intro segment hsegment byte hbyte
    exact decide_eq_false fun heq => h segment hsegment (heq ▸ hbyte)
  fun_induction joinSlashes segments with
  | case1 => exact absurd rfl hne
  | case2 segment => exact Text.splitWhere_of_notMem (hmark segment List.mem_cons_self)
  | case3 segment rest hrest ih =>
      have hfirst := Text.splitWhere_of_notMem (hmark segment List.mem_cons_self)
      rw [Text.splitWhere_append_mark segment (decide_eq_true rfl), hfirst, List.singleton_append,
        ih (by simpa using hrest) (fun other hother => h other (List.mem_cons_of_mem _ hother))
          fun other hother => hmark other (List.mem_cons_of_mem _ hother)]

theorem head?_joinSlashes {segment : List UInt8} (h : segment ≠ []) (rest : List (List UInt8)) :
    (joinSlashes (segment :: rest)).head? = segment.head? := by
  cases segment with
  | nil => exact absurd rfl h
  | cons byte more => cases rest <;> rfl

/-- The components of a path behind its root or leading `.`. -/
def steps (path : Path) : List Component := path.segments.filterMap ofSegment?

theorem components_slash (rest : List UInt8) :
    (Path.mk (slash :: rest)).components = .root :: (Path.mk rest).steps := by
  have hsegments : (Path.mk (slash :: rest)).segments = [] :: (Path.mk rest).segments := rfl
  have habsolute : (Path.mk (slash :: rest)).isAbsolute = true := rfl
  rw [components, habsolute, if_pos rfl, hsegments, List.filterMap_cons_none rfl, steps]

section Steps

variable {steps : List Component}

theorem slash_notMem_bytes (h : ∀ step ∈ steps, step.IsStep) :
    ∀ segment ∈ steps.map Component.bytes, slash ∉ segment := by
  intro segment hsegment
  obtain ⟨step, hstep, rfl⟩ := List.mem_map.1 hsegment
  exact (h step hstep).slash_notMem

theorem filterMap_bytes (h : ∀ step ∈ steps, step.IsStep) :
    (steps.map Component.bytes).filterMap ofSegment? = steps := by
  induction steps with
  | nil => rfl
  | cons step rest ih =>
      rw [List.map_cons, List.filterMap_cons_some (h step List.mem_cons_self).ofSegment?_bytes,
        ih fun other hother => h other (List.mem_cons_of_mem _ hother)]

theorem filterMap_splitWhere (h : ∀ step ∈ steps, step.IsStep) :
    (Text.splitWhere (· = slash) (joinSlashes (steps.map Component.bytes))).filterMap ofSegment? =
      steps := by
  cases steps with
  | nil => rfl
  | cons step rest =>
      rw [splitWhere_joinSlashes (by simp) (slash_notMem_bytes h), filterMap_bytes h]

theorem components_root_steps (h : ∀ step ∈ steps, step.IsStep) :
    (ofComponents (.root :: steps)).components = .root :: steps := by
  have hpath : ofComponents (.root :: steps) =
      ⟨slash :: joinSlashes (steps.map Component.bytes)⟩ := rfl
  rw [hpath, components_slash, Path.steps, segments, filterMap_splitWhere h]

theorem ofComponents_steps (h : ∀ step ∈ steps, step.IsStep) :
    ofComponents steps = ⟨joinSlashes (steps.map Component.bytes)⟩ := by
  cases steps with
  | nil => rfl
  | cons step rest =>
      cases step with
      | root => exact absurd (List.mem_singleton_self _) (h _ List.mem_cons_self).slash_notMem
      | here | up | name => rfl

theorem components_steps (h : ∀ step ∈ steps, step.IsStep) :
    (ofComponents steps).components = steps := by
  have hnamed := filterMap_splitWhere h
  rw [ofComponents_steps h]
  cases steps with
  | nil => rfl
  | cons step rest =>
      have hstep := h step List.mem_cons_self
      have hsegments := splitWhere_joinSlashes (by simp) (slash_notMem_bytes h)
      rw [List.map_cons] at hsegments hnamed ⊢
      have hrelative :
          (Path.mk (joinSlashes (step.bytes :: rest.map Component.bytes))).isAbsolute = false := by
        rw [isAbsolute, head?_joinSlashes hstep.bytes_ne_nil]
        exact decide_eq_false hstep.head?_bytes
      have hhere : (step.bytes :: rest.map Component.bytes).head? ≠ some [dot] :=
        fun heq => hstep.bytes_ne_dot (Option.some.inj heq)
      unfold components segments
      rw [hnamed, hrelative, hsegments, if_neg Bool.false_ne_true, if_neg hhere]

end Steps

/-! What normalising keeps. -/

/-- What is kept while a path is normalised, innermost first. -/
inductive Kept : List Component → Prop where
  | nothing : Kept []
  | root : Kept [.root]
  | up : Kept [.up]
  | rootUp : Kept [.up, .root]
  | name {stack : List Component} {bytes : List UInt8} (hname : IsStep (.name bytes))
      (hstack : Kept stack) : Kept (.name bytes :: stack)

theorem Kept.settle {stack : List Component} {component : Component} (h : Kept stack)
    (hcomponent : component = .root ∨ component = .here ∨ component.IsStep) :
    Kept (settle stack component) := by
  cases component with
  | here => exact h
  | root => exact .root
  | name bytes =>
      rcases hcomponent with hroot | hhere | hstep
      · cases hroot
      · cases hhere
      · exact .name hstep h
  | up =>
      cases h with
      | nothing => exact .up
      | root => exact .rootUp
      | up => exact .nothing
      | rootUp => exact .root
      | name _ hstack => exact hstack

theorem mem_components {path : Path} {component : Component} (h : component ∈ path.components) :
    component = .root ∨ component = .here ∨ component.IsStep := by
  have hnamed : component ∈ path.segments.filterMap ofSegment? → component.IsStep := by
    intro hmem
    obtain ⟨segment, hsegment, hread⟩ := List.mem_filterMap.1 hmem
    refine isStep_of_ofSegment? (fun hslash => ?_) hread
    have hmark := Text.not_mark_of_mem_splitWhere hsegment hslash
    exact of_decide_eq_false hmark rfl
  unfold components at h
  split at h
  · rcases List.mem_cons.1 h with rfl | h
    · exact .inl rfl
    · exact .inr (.inr (hnamed h))
  · split at h
    · rcases List.mem_cons.1 h with rfl | h
      · exact .inr (.inl rfl)
      · exact .inr (.inr (hnamed h))
    · exact .inr (.inr (hnamed h))

theorem Kept.foldl_settle {stack components : List Component} (h : Kept stack)
    (hcomponents : ∀ component ∈ components,
      component = .root ∨ component = .here ∨ component.IsStep) :
    Kept (components.foldl Path.settle stack) := by
  induction components generalizing stack with
  | nil => exact h
  | cons component rest ih =>
      exact ih (h.settle (hcomponents component List.mem_cons_self))
        fun other hother => hcomponents other (List.mem_cons_of_mem _ hother)

theorem kept_settled (path : Path) : Kept (settled path.components).reverse := by
  rw [settled, List.reverse_reverse]
  exact Kept.nothing.foldl_settle fun _ => mem_components

theorem Kept.reverse_cases {stack : List Component} (h : Kept stack) :
    ∃ steps : List Component, (∀ step ∈ steps, step.IsStep) ∧
      (stack.reverse = steps ∨ stack.reverse = .root :: steps) := by
  induction h with
  | nothing => exact ⟨[], by simp, .inl rfl⟩
  | root => exact ⟨[], by simp, .inr rfl⟩
  | up => exact ⟨[.up], by simp [isStep_up], .inl rfl⟩
  | rootUp => exact ⟨[.up], by simp [isStep_up], .inr rfl⟩
  | @name stack bytes hname _ ih =>
      obtain ⟨steps, hsteps, hstack⟩ := ih
      refine ⟨steps ++ [.name bytes], ?_, ?_⟩
      · intro step hstep
        rcases List.mem_append.1 hstep with hstep | hstep
        · exact hsteps step hstep
        · obtain rfl := List.mem_singleton.1 hstep
          exact hname
      · rcases hstack with hstack | hstack
        · exact .inl (by rw [List.reverse_cons, hstack])
        · exact .inr (by rw [List.reverse_cons, hstack, List.cons_append])

theorem Kept.components_ofComponents {stack : List Component} (h : Kept stack) :
    (ofComponents stack.reverse).components = stack.reverse := by
  obtain ⟨steps, hsteps, hstack⟩ := h.reverse_cases
  rcases hstack with hstack | hstack
  · rw [hstack, components_steps hsteps]
  · rw [hstack, components_root_steps hsteps]

theorem Kept.foldl_reverse {stack : List Component} (h : Kept stack) :
    stack.reverse.foldl Path.settle [] = stack := by
  induction h with
  | nothing | root | up | rootUp => rfl
  | name _ _ ih =>
      rw [List.reverse_cons, List.foldl_append, ih, List.foldl_cons, List.foldl_nil, Path.settle]

/-! Normalised paths. -/

theorem components_normalize (path : Path) :
    path.normalize.components = settled path.components := by
  have hkept := (kept_settled path).components_ofComponents
  rwa [List.reverse_reverse] at hkept

theorem settled_settled (path : Path) :
    settled (settled path.components) = settled path.components := by
  have hkept := (kept_settled path).foldl_reverse
  rw [List.reverse_reverse] at hkept
  rw [settled, hkept, List.reverse_reverse]

theorem normalize_normalize (path : Path) : path.normalize.normalize = path.normalize := by
  rw [normalize, components_normalize, settled_settled]
  rfl

theorem normalize_eq_iff {path other : Path} :
    path.normalize = other.normalize ↔
      path.normalize.components = other.normalize.components := by
  refine ⟨congrArg components, fun h => ?_⟩
  rw [components_normalize, components_normalize] at h
  rw [normalize, h]
  rfl

/-! Normalised paths are told by their components. -/

/-- A root or none, then one `..` or none, and names behind them. -/
def Normal (components : List Component) : Prop :=
  ∃ front ∈ [[], [.root], [.up], [.root, .up]], ∃ names : List (List UInt8),
    components = front ++ names.map Component.name

theorem Kept.normal {stack : List Component} (h : Kept stack) : Normal stack.reverse := by
  induction h with
  | nothing => exact ⟨[], by simp, [], rfl⟩
  | root => exact ⟨[.root], by simp, [], rfl⟩
  | up => exact ⟨[.up], by simp, [], rfl⟩
  | rootUp => exact ⟨[.root, .up], by simp, [], rfl⟩
  | @name stack bytes _ _ ih =>
      obtain ⟨front, hfront, names, hstack⟩ := ih
      refine ⟨front, hfront, names ++ [bytes], ?_⟩
      rw [List.reverse_cons, hstack, List.map_append, List.append_assoc]
      rfl

theorem foldl_settle_names (names : List (List UInt8)) (stack : List Component) :
    (names.map Component.name).foldl settle stack =
      (names.map Component.name).reverse ++ stack := by
  induction names generalizing stack with
  | nil => rfl
  | cons name rest ih => simp [settle, ih]

theorem settled_of_normal {components : List Component} (h : Normal components) :
    settled components = components := by
  obtain ⟨front, hfront, names, rfl⟩ := h
  have hstack : front.foldl settle [] = front.reverse := by
    simp only [List.mem_cons, List.not_mem_nil, or_false] at hfront
    rcases hfront with rfl | rfl | rfl | rfl <;> rfl
  rw [settled, List.foldl_append, hstack, foldl_settle_names, List.reverse_append,
    List.reverse_reverse, List.reverse_reverse]

theorem normal_components_normalize (path : Path) : Normal path.normalize.components := by
  have hnormal := (kept_settled path).normal
  rwa [List.reverse_reverse, ← components_normalize] at hnormal

theorem components_normalize_eq_iff {path : Path} :
    path.normalize.components = path.components ↔ Normal path.components := by
  constructor
  · intro h
    exact h ▸ normal_components_normalize path
  · intro h
    rw [components_normalize, settled_of_normal h]

/-! Joined paths. What the first path leaves is what the second one goes on from. -/

theorem foldl_settle_components {path : Path} (h : path.isAbsolute = false)
    (stack : List Component) :
    path.components.foldl settle stack = path.steps.foldl settle stack := by
  rw [components, h, if_neg Bool.false_ne_true]
  split <;> rfl

theorem foldl_settle_of_isAbsolute {path : Path} (h : path.isAbsolute = true)
    (stack other : List Component) :
    path.components.foldl settle stack = path.components.foldl settle other := by
  rw [components, if_pos h]
  rfl

theorem segments_append_slash (bytes rest : List UInt8) :
    (Path.mk (bytes ++ slash :: rest)).segments =
      (Path.mk bytes).segments ++ (Path.mk rest).segments :=
  Text.splitWhere_append_mark bytes (decide_eq_true rfl) rest

theorem isAbsolute_append {bytes : List UInt8} (hbytes : bytes ≠ []) (rest : List UInt8) :
    (Path.mk (bytes ++ rest)).isAbsolute = (Path.mk bytes).isAbsolute := by
  obtain ⟨byte, more, rfl⟩ := List.exists_cons_of_ne_nil hbytes
  rfl

theorem components_append_slash {bytes : List UInt8} (hbytes : bytes ≠ []) (rest : List UInt8) :
    (Path.mk (bytes ++ slash :: rest)).components =
      (Path.mk bytes).components ++ (Path.mk rest).steps := by
  have hhead : (Path.mk (bytes ++ slash :: rest)).segments.head? =
      (Path.mk bytes).segments.head? := by
    have hne : (Path.mk bytes).segments ≠ [] := Text.splitWhere_ne_nil bytes
    obtain ⟨segment, more, hsegments⟩ := List.exists_cons_of_ne_nil hne
    rw [segments_append_slash, hsegments]
    rfl
  have hsteps : (Path.mk (bytes ++ slash :: rest)).steps =
      (Path.mk bytes).steps ++ (Path.mk rest).steps := by
    rw [steps, segments_append_slash, List.filterMap_append]
    rfl
  unfold components
  rw [isAbsolute_append hbytes, hhead, ← steps, ← steps, hsteps]
  split
  · rfl
  · split <;> rfl

theorem components_join {path next : Path} (hpath : path.bytes ≠ [])
    (hnext : next.isAbsolute = false) :
    (path.join next).components = path.components ++ next.steps := by
  obtain ⟨bytes⟩ := path
  rw [join, hnext, if_neg Bool.false_ne_true, if_neg hpath]
  split
  · rename_i hlast
    -- the slash at the end of the first path parts the two
    obtain ⟨front, rfl⟩ := List.getLast?_eq_some_iff.1 hlast
    have hnothing : (Path.mk []).steps = [] := rfl
    rw [List.append_assoc, List.singleton_append]
    cases front with
    | nil =>
        rw [List.nil_append, List.nil_append, components_slash, components_slash, hnothing]
        rfl
    | cons byte more =>
        rw [components_append_slash (List.cons_ne_nil _ _),
          components_append_slash (List.cons_ne_nil _ _), hnothing, List.append_nil]
  · exact components_append_slash hpath next.bytes

theorem foldl_settle_join (path next : Path) :
    (path.join next).components.foldl settle [] =
      next.components.foldl settle (path.components.foldl settle []) := by
  cases hnext : next.isAbsolute with
  | true =>
      rw [join, if_pos hnext]
      exact foldl_settle_of_isAbsolute hnext _ _
  | false =>
      by_cases hpath : path.bytes = []
      · rw [join, hnext, if_neg Bool.false_ne_true, if_pos hpath]
        obtain ⟨bytes⟩ := path
        obtain rfl : bytes = [] := hpath
        rfl
      · rw [components_join hpath hnext, List.foldl_append, foldl_settle_components hnext]

theorem normalize_join (path next : Path) :
    (path.join next).normalize = (path.normalize.join next).normalize := by
  have hkept := (kept_settled path).foldl_reverse
  rw [List.reverse_reverse] at hkept
  rw [normalize, settled, foldl_settle_join, normalize, settled, foldl_settle_join,
    components_normalize, hkept, settled, List.reverse_reverse]

/-- A normalised path is a root or none, then one `..` or none, and names behind them, and a path
of this form keeps its components; normalising a path again changes nothing; and joining to it
another path comes, once that is normalised, to the same as joining to the path as it was written. -/
theorem normalize_laws :
    (∀ path : Path, Normal path.normalize.components) ∧
    (∀ path : Path, path.normalize.components = path.components ↔ Normal path.components) ∧
    (∀ path : Path, path.normalize.normalize = path.normalize) ∧
    ∀ path next : Path, (path.join next).normalize = (path.normalize.join next).normalize :=
  ⟨normal_components_normalize, fun _ => components_normalize_eq_iff, normalize_normalize,
    normalize_join⟩

example : (Path.ofText "/../a//b/../..").normalize = .ofText "/.." := by decide

end Path

end Keypath
