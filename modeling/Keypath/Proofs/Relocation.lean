import Keypath.Proofs.Layout
import Keypath.Proofs.Outline
import Keypath.Proofs.Schema.Parts

/-!
Definitions point back to the declarations they come from.

A declaration is anchored at the end of the keyword in front of its name, and a definition is looked
for one byte before the name. Where one byte lies between the two, no node before the declaration
has that anchor; everywhere else no node of the file has it.
-/

namespace Keypath

open Keypath.Tree

/-- In front of the node stands a leaf of at least two bytes, and between the two there are only
extras without children. -/
def Tree.Focus.followsKeyword (name : Focus) : Bool :=
  match name.above with
  | [] => false
  | frame :: _ =>
      let gap := frame.before.takeWhile fun node => node.label.extra
      gap.all (fun node => node.children.isEmpty) &&
        match frame.before.find? fun node => !node.label.extra with
        | some keyword => keyword.children.isEmpty && keyword.label.start + 2 ≤ keyword.label.stop
        | none => false

structure SourceFile.WellLaid (file : SourceFile) : Prop where
  laid : file.root.LaidOut
  keyword : ∀ declaration ∈ file.root.preorder, declaration.kind.isDeclaration = true →
    ∀ name ∈ declaration.child? .name, name.followsKeyword = true
  /-- What a statement exports is no extra. -/
  exported : ∀ place ∈ file.root.preorder, .declaration ∈ place.label.roles →
    place.label.extra = false

namespace SourceFile

instance (file : SourceFile) : Decidable file.WellLaid :=
  decidable_of_iff
    (file.root.LaidOut ∧
      (∀ declaration ∈ file.root.preorder, declaration.kind.isDeclaration = true →
        ∀ name ∈ declaration.child? .name, name.followsKeyword = true) ∧
      ∀ place ∈ file.root.preorder, .declaration ∈ place.label.roles →
        place.label.extra = false)
    ⟨fun h => ⟨h.1, h.2.1, h.2.2⟩, fun h => ⟨h.laid, h.keyword, h.exported⟩⟩

/-! Names and their keywords. -/

/-- A name with the keyword in front of it, as children of a declaration. -/
structure Headed (declaration keyword name : Focus) : Prop where
  keyword_mem : keyword ∈ declaration.children
  name_mem : name ∈ declaration.children
  leaf : keyword.node.children = []
  wide : keyword.start + 2 ≤ keyword.stop
  fullStart_eq : name.fullStart = keyword.stop
  /-- The other children stand before the keyword, between the two, or behind the start of the
  name. -/
  apart : ∀ child ∈ declaration.children, child.stop ≤ keyword.start ∨ child = keyword ∨
    child.label.extra = true ∧ child.node.children = [] ∨ name.start ≤ child.start

theorem headed_of_followsKeyword {declaration name : Focus} (laid : declaration.LaidOut)
    (hname : name ∈ declaration.children) (h : name.followsKeyword = true) :
    ∃ keyword, Headed declaration keyword name := by
  obtain ⟨earlier, later, hsplit, habove⟩ := Focus.split_children hname
  simp only [Focus.followsKeyword, habove, Bool.and_eq_true] at h
  obtain ⟨hchildless, hkeyword⟩ := h
  rcases Focus.split_extras earlier with
    ⟨front, keyword, gap, rfl, -, hgap, hfind⟩ | ⟨_, hfind⟩
  · simp only [hfind, Bool.and_eq_true, List.isEmpty_iff, decide_eq_true_eq] at hkeyword
    have hmem : keyword ∈ declaration.children := by simp [hsplit]
    refine ⟨keyword, hmem, hname, hkeyword.1, hkeyword.2, ?_, ?_⟩
    · simp only [Focus.fullStart, habove, fullStartUnder, hfind]
    · intro child hchild
      have hspan := laid.span_child hname
      have hkeywordSplit : declaration.children = front ++ keyword :: (gap ++ name :: later) := by
        simp [hsplit]
      simp only [hsplit, List.mem_append, List.mem_cons] at hchild
      rcases hchild with (h | rfl | h) | rfl | h
      · exact .inl (laid.stop_le_of_split hkeywordSplit h)
      · exact .inr (.inl rfl)
      · obtain ⟨hextra, hnode⟩ := hgap child h
        have hleaf := List.all_eq_true.1 hchildless child.node hnode
        exact .inr (.inr (.inl ⟨hextra, List.isEmpty_iff.1 hleaf⟩))
      · exact .inr (.inr (.inr (Nat.le_refl _)))
      · have hbehind := laid.le_start_of_split hsplit h
        exact .inr (.inr (.inr (by omega)))
  · simp [hfind] at hkeyword

variable {file : SourceFile} {declaration keyword name place : Focus}

theorem WellLaid.headed (wellLaid : file.WellLaid) (hmem : declaration ∈ file.root.preorder)
    (hkind : declaration.kind.isDeclaration = true)
    (hname : declaration.child? .name = some name) : ∃ keyword, Headed declaration keyword name :=
  headed_of_followsKeyword (wellLaid.laid.within (Focus.mem_preorder.1 hmem))
    (List.mem_of_find?_eq_some hname) (wellLaid.keyword declaration hmem hkind name hname)

theorem Headed.stop_eq (headed : Headed declaration keyword name) {root : Focus}
    (laid : root.LaidOut) (hmem : declaration ∈ root.preorder) (hplace : place ∈ root.preorder)
    (hextra : place.label.extra = false) (hbehind : keyword.start < place.stop)
    (hbefore : place.stop < name.start) : place.stop = keyword.stop := by
  have laidHere := laid.within (Focus.mem_preorder.1 hmem)
  have hspan := (laid.within (Focus.mem_preorder.1 hplace)).span
  have hkeyword := laidHere.span_child headed.keyword_mem
  have hname := laidHere.span_child headed.name_mem
  rcases laid.within_or_apart hmem hplace with hin | hin | hapart | hapart
  · rcases Relation.ReflTransGen.cases_head hin with rfl | ⟨child, hchild, hin⟩
    · omega
    · have hinner := (laidHere.within (.single hchild)).span_within hin
      rcases headed.apart child hchild with h | rfl | ⟨hextra', hleaf⟩ | h
      · omega
      · obtain rfl := Focus.eq_of_within_leaf headed.leaf hin
        rfl
      · obtain rfl := Focus.eq_of_within_leaf hleaf hin
        rw [hextra] at hextra'
        cases hextra'
      · omega
  · have houter := (laid.within (Focus.mem_preorder.1 hplace)).span_within hin
    omega
  · omega
  · omega

/-! Anchors. -/

theorem exists_fullStart_of_anchor? {offset : Nat} (hplace : place ∈ file.root.preorder)
    (h : place.anchor? = some offset) :
    ∃ inner ∈ file.root.preorder, inner.fullStart = offset := by
  unfold Focus.anchor? at h
  split at h
  · cases h
  · split at h
    · obtain ⟨name, hname, hstart⟩ := Option.map_eq_some_iff.1 h
      exact ⟨name, (Focus.inside_of_child? hname).mem_preorder hplace, hstart⟩
    · exact ⟨place, hplace, Option.some.inj h⟩

theorem Headed.anchor?_eq (headed : Headed declaration keyword name)
    (hkind : declaration.kind.isDeclaration = true) (hextra : declaration.label.extra = false)
    (hname : declaration.child? .name = some name) :
    declaration.anchor? = some keyword.stop := by
  simp [Focus.anchor?, hextra, hkind, hname, headed.fullStart_eq]

theorem Headed.eq_of_anchor? (headed : Headed declaration keyword name)
    (wellLaid : file.WellLaid) (hmem : declaration ∈ file.root.preorder)
    (hplace : place ∈ file.root.preorder) (hkind : place.kind.isDeclaration = true)
    (hanchor : place.anchor? = some keyword.stop) : place = declaration := by
  unfold Focus.anchor? at hanchor
  split at hanchor
  · cases hanchor
  · obtain ⟨other, hother, hstart⟩ := Option.map_eq_some_iff.1 hanchor
    obtain ⟨keyword', headed'⟩ := wellLaid.headed hplace hkind hother
    -- leaves do not overlap, so the two keywords are one
    have hsame : keyword' = keyword := by
      have hwide := headed.wide
      have hwide' := headed'.wide
      refine wellLaid.laid.eq_of_stop_eq
        (Focus.mem_preorder_of_mem_children hplace headed'.keyword_mem)
        (Focus.mem_preorder_of_mem_children hmem headed.keyword_mem) headed'.leaf headed.leaf
        (by omega) (by omega) ?_
      rw [← headed'.fullStart_eq, hstart]
    have hparent := Focus.parent?_of_mem_children headed.keyword_mem
    have hparent' := Focus.parent?_of_mem_children headed'.keyword_mem
    rw [hsame, hparent] at hparent'
    exact (Option.some.inj hparent').symm

theorem Headed.anchor?_ne (headed : Headed declaration keyword name)
    (wellLaid : file.WellLaid) (hmem : declaration ∈ file.root.preorder)
    (hplace : place ∈ file.root.preorder)
    (hfront : Focus.Inside place declaration ∨ place.stop ≤ declaration.start) :
    place.anchor? ≠ some keyword.stop := by
  intro hanchor
  have laid := wellLaid.laid.within (Focus.mem_preorder.1 hmem)
  have hkeyword := laid.span_child headed.keyword_mem
  have hwide := headed.wide
  cases hkind : place.kind.isDeclaration with
  | true =>
      obtain rfl := headed.eq_of_anchor? wellLaid hmem hplace hkind hanchor
      rcases hfront with hinside | hapart
      · exact Nat.lt_irrefl _ hinside.size_lt
      · omega
  | false =>
      have hstart : place.start ≤ declaration.start := by
        have laidThere := wellLaid.laid.within (Focus.mem_preorder.1 hplace)
        rcases hfront with hinside | hapart
        · exact (laidThere.span_within hinside.to_reflTransGen).1
        · exact Nat.le_trans laidThere.span hapart
      have hfull := wellLaid.laid.fullStart_le_start rfl (Focus.mem_preorder.1 hplace)
      unfold Focus.anchor? at hanchor
      split at hanchor
      · cases hanchor
      · rw [hkind] at hanchor
        have := Option.some.inj hanchor
        omega

theorem locate?_eq (wellLaid : file.WellLaid) (hmem : declaration ∈ file.root.preorder)
    (hkind : declaration.kind.isDeclaration = true) (hextra : declaration.label.extra = false)
    (hname : declaration.child? .name = some name) :
    file.locate? (locateOffset name.start) =
      if name.fullStart + 1 = name.start then some ⟨file, declaration⟩ else none := by
  obtain ⟨keyword, headed⟩ := wellLaid.headed hmem hkind hname
  have hwide := headed.wide
  have hfull := headed.fullStart_eq
  split
  case isTrue hset =>
    have hoffset : locateOffset name.start = keyword.stop := by
      unfold locateOffset
      omega
    obtain ⟨earlier, later, hsplit⟩ := List.append_of_mem hmem
    have hfind : (file.root.preorder.find? fun focus => focus.anchor? = some keyword.stop) =
        some declaration := by
      rw [List.find?_eq_some_iff_append]
      refine ⟨by simpa using headed.anchor?_eq hkind hextra hname, earlier, later, hsplit, ?_⟩
      intro place hplace
      have hpairs := wellLaid.laid.pairwise_preorder
      rw [hsplit, List.pairwise_append] at hpairs
      have hne := headed.anchor?_ne wellLaid hmem (by simp [hsplit, hplace])
        (hpairs.2.2 place hplace declaration (by simp))
      simpa using hne
    rw [hoffset, locate?, hfind]
    rfl
  case isFalse hset =>
    have hle : keyword.stop ≤ name.start := by
      rw [← hfull]
      exact wellLaid.laid.fullStart_le_start rfl
        (Focus.mem_preorder.1 (Focus.mem_preorder_of_mem_children hmem headed.name_mem))
    rw [locate?, Option.map_eq_none_iff, List.find?_eq_none]
    intro place hplace hanchor
    obtain ⟨inner, hinner, hstart⟩ :=
      exists_fullStart_of_anchor? hplace (of_decide_eq_true hanchor)
    unfold locateOffset at hstart
    rcases Focus.exists_stop_eq_fullStart rfl (Focus.mem_preorder.1 hinner) with
      hzero | ⟨ending, hending, hextra, hstop⟩
    · omega
    · have := headed.stop_eq wellLaid.laid hmem hending hextra (by omega) (by omega)
      omega

/-! Declarations at file level. -/

theorem within_of_declared? {focus inner : Focus} (h : focus.declared? = some inner) :
    Focus.Within focus inner := by
  fun_induction Focus.declared? focus with
  | case1 focus _ child hchild ih => exact .head (List.mem_of_find?_eq_some hchild) (ih h)
  | case2 | case5 =>
      cases h
      exact .refl
  | case3 focus _ child hchild ih =>
      have hmember := Focus.mem_members_of_firstMember? hchild
      exact .head (Focus.mem_children_of_mem_members hmember) (ih h)
  | case4 => cases h

theorem extra_of_mem_members {focus member : Focus} (h : member ∈ focus.members) :
    member.label.extra = false := by
  have hmember := (List.mem_filter.1 h).2
  simp only [Label.isMember, Bool.and_eq_true, Bool.not_eq_true'] at hmember
  exact hmember.2

theorem extra_of_declared? {focus inner : Focus}
    (hexported : ∀ place, Focus.Within focus place → .declaration ∈ place.label.roles →
      place.label.extra = false)
    (hfocus : focus.label.extra = false) (h : focus.declared? = some inner) :
    inner.label.extra = false := by
  fun_induction Focus.declared? focus with
  | case1 focus _ child hchild ih =>
      have hmem := List.mem_of_find?_eq_some hchild
      have hrole : .declaration ∈ child.label.roles := by simpa using List.find?_some hchild
      exact ih (fun place hplace => hexported place (.head hmem hplace))
        (hexported child (.single hmem) hrole) h
  | case2 | case5 =>
      cases h
      exact hfocus
  | case3 focus _ child hchild ih =>
      have hmember := Focus.mem_members_of_firstMember? hchild
      have hmem := Focus.mem_children_of_mem_members hmember
      exact ih (fun place hplace => hexported place (.head hmem hplace))
        (extra_of_mem_members hmember) h
  | case4 => cases h

theorem mem_preorder_of_mem_topLevel (h : declaration ∈ file.topLevel) :
    declaration ∈ file.root.preorder := by
  obtain ⟨statement, hstatement, hdeclared⟩ := List.mem_filterMap.1 h
  rw [Focus.mem_preorder]
  exact .head (Focus.mem_children_of_mem_members hstatement) (within_of_declared? hdeclared)

theorem WellLaid.extra_of_mem_topLevel (wellLaid : file.WellLaid)
    (h : declaration ∈ file.topLevel) : declaration.label.extra = false := by
  obtain ⟨statement, hstatement, hdeclared⟩ := List.mem_filterMap.1 h
  have hmem := Focus.mem_children_of_mem_members hstatement
  refine extra_of_declared? (fun place hplace => ?_) (extra_of_mem_members hstatement) hdeclared
  exact wellLaid.exported place (Focus.mem_preorder.2 (.head hmem hplace))

end SourceFile

/-! Definitions. -/

/-- The definition is the span of the name of a declaration at file level. -/
structure Definition.Spans (program : Program) (definition : Definition) (site : Site)
    (name : Focus) : Prop where
  found : program.find? definition.file = some site.file
  topLevel : site.focus ∈ site.file.topLevel
  declaration : site.isDeclaration = true
  name_eq : site.focus.child? .name = some name
  start_eq : definition.start = name.start
  length_eq : definition.length = name.stop - name.start

def Definition.IsOf (program : Program) (definition : Definition) (site : Site) : Prop :=
  ∃ name, definition.Spans program site name

/-- One byte lies between the name of a declaration and the keyword in front of it. -/
def Site.nameSetOff (site : Site) : Bool :=
  match site.focus.child? .name with
  | some name => name.fullStart + 1 = name.start
  | none => false

namespace Program

variable {program : Program}

def Defines (program : Program) (definition : Definition) : Prop :=
  ∃ file ∈ program.sources, ∃ name, definition ∈ file.definitionsOf name

theorem mem_sources_of_module? {file target : SourceFile} {specifier : String}
    (h : program.module? file specifier = some target) : target ∈ program.sources := by
  unfold module? at h
  split at h
  · obtain ⟨path, _, hfind⟩ := List.exists_of_findSome?_eq_some h
    exact mem_sources_of_find? hfind
  · cases h

theorem mem_sources_of_source? {file : SourceFile} {binding : Import} {wanted : Export}
    (h : program.source? file binding = some wanted) : wanted.file ∈ program.sources := by
  obtain ⟨target, htarget, rfl⟩ := Option.map_eq_some_iff.1 h
  exact mem_sources_of_module? htarget

theorem mem_sources_of_mem_sourcesOf {wanted next : Export}
    (h : next ∈ program.sourcesOf wanted) : next.file ∈ program.sources := by
  unfold sourcesOf at h
  split at h
  · unfold defaultSource at h
    split at h
    · exact mem_sources_of_source? (Option.mem_toList.1 h)
    · cases h
  · obtain ⟨statement, _, hpassed⟩ := List.mem_flatMap.1 h
    unfold passedSources at hpassed
    split at hpassed
    · cases hpassed
    · rename_i target htarget
      have hfile : next.file = target := by
        split at hpassed
        · rw [List.mem_singleton.1 hpassed]
        · obtain ⟨_, _, rfl⟩ := List.mem_map.1 hpassed
          rfl
      rw [hfile]
      exact mem_sources_of_module? htarget

theorem defines_of_mem_exported {hops : Nat} {wanted : Export} {definition : Definition}
    (hfile : wanted.file ∈ program.sources) (h : definition ∈ program.exported hops wanted) :
    program.Defines definition := by
  induction hops generalizing wanted with
  | zero => exact ⟨wanted.file, hfile, _, h⟩
  | succ hops ih =>
      rw [exported] at h
      split at h
      · obtain ⟨next, hnext, hmem⟩ := List.mem_flatMap.1 h
        exact ih (mem_sources_of_mem_sourcesOf hnext) hmem
      · exact ⟨wanted.file, hfile, _, h⟩

theorem defines_of_mem_qualified {file : SourceFile} {qualifier name : String}
    {definition : Definition} (h : definition ∈ program.qualified file qualifier name) :
    program.Defines definition := by
  unfold qualified at h
  split at h
  · cases h
  · split at h
    · rename_i target htarget
      exact defines_of_mem_exported (mem_sources_of_module? htarget) h
    · cases h

theorem defines_of_mem_unqualified {file : SourceFile} {name : String} {definition : Definition}
    (hfile : file ∈ program.sources) (h : definition ∈ program.unqualified file name) :
    program.Defines definition := by
  unfold unqualified at h
  split at h
  · split at h
    · rename_i definitions himported
      obtain ⟨binding, _, rfl⟩ := Option.map_eq_some_iff.1 himported
      split at h
      · rename_i wanted hwanted
        exact defines_of_mem_exported (mem_sources_of_source? hwanted) h
      · cases h
    · obtain ⟨script, hscript, hmem⟩ := List.mem_flatMap.1 h
      exact ⟨script, (List.mem_filter.1 hscript).1, name, hmem⟩
  · exact ⟨file, hfile, name, h⟩

theorem defines_of_mem_definitionsAt {path : Path} {offset : Nat} {definition : Definition}
    (h : definition ∈ program.definitionsAt path offset) : program.Defines definition := by
  unfold definitionsAt at h
  split at h
  · cases h
  · rename_i file hfile
    split at h
    · cases h
    · exact defines_of_mem_qualified h
    · exact defines_of_mem_unqualified (mem_sources_of_find? hfile) h

theorem Defines.exists_spans (built : program.Built) {definition : Definition}
    (h : program.Defines definition) :
    ∃ site name, definition.Spans program site name ∧ site.file ∈ program.sources := by
  obtain ⟨file, hfile, text, hmem⟩ := h
  obtain ⟨focus, hfocus, hdefinition⟩ := List.mem_filterMap.1 hmem
  split at hdefinition
  case isFalse => cases hdefinition
  case isTrue hkind =>
    split at hdefinition
    case h_2 => cases hdefinition
    case h_1 name hname =>
      split at hdefinition
      case isFalse => cases hdefinition
      case isTrue =>
        cases hdefinition
        exact ⟨⟨file, focus⟩, name,
          ⟨built.keyed.find?_path hfile, hfocus, hkind, hname, rfl, rfl⟩, hfile⟩

end Program

theorem Definition.Spans.locate?_eq {program : Program} {definition : Definition} {site : Site}
    {name : Focus} (h : definition.Spans program site name) (wellLaid : site.file.WellLaid) :
    site.file.locate? (locateOffset definition.start) =
      if name.fullStart + 1 = name.start then some site else none := by
  rw [h.start_eq]
  exact SourceFile.locate?_eq wellLaid (SourceFile.mem_preorder_of_mem_topLevel h.topLevel)
    h.declaration (wellLaid.extra_of_mem_topLevel h.topLevel) h.name_eq

theorem Definition.Spans.site?_eq {program : Program} {definition : Definition} {site : Site}
    {name : Focus} (h : definition.Spans program site name) (wellLaid : site.file.WellLaid) :
    program.site? definition = if site.nameSetOff then some site else none := by
  rw [Program.site?, h.found, Option.bind_some, h.locate?_eq wellLaid]
  simp only [Site.nameSetOff, h.name_eq, decide_eq_true_eq]

namespace Program

variable {program : Program}

theorem exists_spanned (built : program.Built)
    (wellLaid : ∀ file ∈ program.sources, file.WellLaid) (definitions : List Definition)
    (h : ∀ definition ∈ definitions, program.Defines definition) :
    ∃ sites, List.Forall₂ (Definition.IsOf program) definitions sites ∧
      definitions.filterMap program.site? = sites.filter Site.nameSetOff := by
  induction definitions with
  | nil => exact ⟨[], .nil, rfl⟩
  | cons definition rest ih =>
      obtain ⟨sites, hspans, hsites⟩ := ih fun other hother => h other (by simp [hother])
      obtain ⟨site, name, hspan, hfile⟩ := (h definition (by simp)).exists_spans built
      refine ⟨site :: sites, .cons ⟨name, hspan⟩ hspans, ?_⟩
      rw [List.filterMap_cons, hspan.site?_eq (wellLaid _ hfile), hsites, List.filter_cons]
      cases site.nameSetOff <;> rfl

theorem lookup_declares_of_wellLaid (built : program.Built)
    (wellLaid : ∀ file ∈ program.sources, file.WellLaid) : program.lookup.Declares program := by
  apply lookup_declares
  intro usage _ site hsite
  unfold lookup at hsite
  split at hsite
  · cases hsite
  · obtain ⟨definition, hdefinition, hsite⟩ := List.mem_filterMap.1 hsite
    obtain ⟨declaration, name, hspans, hfile⟩ :=
      (defines_of_mem_definitionsAt hdefinition).exists_spans built
    rw [hspans.site?_eq (wellLaid _ hfile)] at hsite
    split at hsite
    · cases hsite
      exact hspans.declaration
    · cases hsite

/-- Every definition spans the name of a declaration at file level and leads back to it if one byte
stands in front of the name, else to nothing; so a look-up answers, in order, the declarations that
are named and have their names set off. -/
theorem definitionsAt_relocate (built : program.Built)
    (wellLaid : ∀ file ∈ program.sources, file.WellLaid) :
    (∀ path offset, ∀ definition ∈ program.definitionsAt path offset,
      ∃ site name, definition.Spans program site name ∧
        site.file.locate? (locateOffset definition.start) =
          if name.fullStart + 1 = name.start then some site else none) ∧
    ∀ usage : Site,
      (usage.focus.usageAnchor? = none → (program.lookup usage).sites = []) ∧
      ∀ anchor, usage.focus.usageAnchor? = some anchor →
        ∃ sites, List.Forall₂ (Definition.IsOf program)
            (program.definitionsAt usage.file.path (probeOffset anchor)) sites ∧
          (program.lookup usage).sites = sites.filter Site.nameSetOff := by
  constructor
  · intro path offset definition hdefinition
    obtain ⟨site, name, hspans, hfile⟩ :=
      (defines_of_mem_definitionsAt hdefinition).exists_spans built
    exact ⟨site, name, hspans, hspans.locate?_eq (wellLaid _ hfile)⟩
  · intro usage
    constructor
    · intro hnone
      simp only [lookup, hnone]
    · intro anchor hanchor
      obtain ⟨sites, hspans, hsites⟩ := exists_spanned built wellLaid
        (program.definitionsAt usage.file.path (probeOffset anchor))
        fun _ => defines_of_mem_definitionsAt
      refine ⟨sites, hspans, ?_⟩
      simp only [lookup, hanchor]
      exact hsites

/-- `interface  C` has two blanks before its name. -/
def looseTree : Node :=
  let loose := Outline.inner .interfaceDeclaration 43 59 []
    [Outline.mark "interface" 43, Outline.inner .typeIdentifier 54 55 [.name] [],
      Outline.inner (.other "interface_body") 56 59 [.body]
        [Outline.mark "\x7b" 56, Outline.mark "\x7d" 58]]
  Outline.inner (.other "program") 0 59 []
    (Outline.nodesFrom 0
      [⟨'A', none, [⟨'b', some 'B'⟩, ⟨'c', some 'C'⟩]⟩, ⟨'B', none, []⟩] ++ [loose])

def looseProgram : Program :=
  let text := "interface A \x7b b: B; c: C \x7d\ninterface B \x7b \x7d\ninterface  C \x7b \x7d"
  Program.empty.store (.ofText "/ws/a.ts") text looseTree

set_option maxRecDepth 10000 in
theorem definitionsAt_relocate_loose :
    let path := Path.ofText "/ws/a.ts"
    looseProgram.Built ∧ (∀ file ∈ looseProgram.sources, file.WellLaid) ∧
      (⟨path, 37, 1⟩ ∈ looseProgram.definitionsAt path 17 ∧
        ∃ site name, Definition.Spans looseProgram ⟨path, 37, 1⟩ site name ∧
          site.file.locate? (locateOffset 37) = some site) ∧
      (⟨path, 54, 1⟩ ∈ looseProgram.definitionsAt path 23 ∧
        ∃ site name, Definition.Spans looseProgram ⟨path, 54, 1⟩ site name ∧
          site.file.locate? (locateOffset 54) = none) := by
  intro path
  have built : looseProgram.Built := .store .empty _ _ _
  have wellLaid : ∀ file ∈ looseProgram.sources, file.WellLaid := by decide +kernel
  have hset : ⟨path, 37, 1⟩ ∈ looseProgram.definitionsAt path 17 := by decide +kernel
  have hloose : ⟨path, 54, 1⟩ ∈ looseProgram.definitionsAt path 23 := by decide +kernel
  have hkept : (looseProgram.site? ⟨path, 37, 1⟩).isSome = true := by decide +kernel
  have hdropped : looseProgram.site? ⟨path, 54, 1⟩ = none := by
    rw [← Option.isNone_iff_eq_none]
    decide +kernel
  obtain ⟨hdefinitions, _⟩ := definitionsAt_relocate built wellLaid
  refine ⟨built, wellLaid, ⟨hset, ?_⟩, hloose, ?_⟩
  · obtain ⟨site, name, hspans, hlocate⟩ := hdefinitions path 17 _ hset
    refine ⟨site, name, hspans, ?_⟩
    rw [site?, hspans.found, Option.bind_some, hlocate] at hkept
    split at hkept
    · rename_i hbyte
      rw [hlocate, if_pos hbyte]
    · cases hkept
  · obtain ⟨site, name, hspans, _⟩ := hdefinitions path 23 _ hloose
    rw [site?, hspans.found, Option.bind_some] at hdropped
    exact ⟨site, name, hspans, hdropped⟩

end Program

end Keypath
