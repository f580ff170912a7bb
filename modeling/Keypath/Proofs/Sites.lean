import Keypath.Program
import Keypath.Proofs.Place
import Keypath.Proofs.Tables

namespace Keypath

open Keypath.Tree

namespace Program

/-- Programs that come about by storing files, one after the other. -/
inductive Built : Program → Prop where
  | empty : Built empty
  | store {program : Program} (built : Built program) (path : Path) (text : String) (tree : Node) :
      Built (program.store path text tree)

structure Keyed (program : Program) : Prop where
  nodup : program.files.keys.Nodup
  key_eq : ∀ pair ∈ program.files.entries, pair.1 = pair.2.path.components

theorem Built.keyed {program : Program} (h : program.Built) : program.Keyed := by
  induction h with
  | empty => exact ⟨List.nodup_nil, by simp [Program.empty, Table.empty]⟩
  | store built path text tree ih =>
      constructor
      · exact Table.nodup_keys_insert _ _ ih.nodup
      · intro pair hpair
        rcases Table.mem_insert hpair with rfl | hpair
        · rfl
        · exact ih.key_eq pair hpair

theorem Keyed.eq_of_path_eq {program : Program} (h : program.Keyed) {file other : SourceFile}
    (hfile : file ∈ program.sources) (hother : other ∈ program.sources)
    (hpath : file.path = other.path) : file = other := by
  obtain ⟨pair, hpair, rfl⟩ := List.mem_map.1 hfile
  obtain ⟨pair', hpair', rfl⟩ := List.mem_map.1 hother
  have hkey : pair.1 = pair'.1 := by rw [h.key_eq pair hpair, h.key_eq pair' hpair', hpath]
  rw [List.inj_on_of_nodup_map h.nodup hpair hpair' hkey]

theorem mem_sources_of_find? {program : Program} {path : Path} {file : SourceFile}
    (h : program.find? path = some file) : file ∈ program.sources := by
  have hget : ∃ key, program.files.get? key = some file := by
    unfold find? at h
    split at h
    · exact ⟨_, (by assumption : _ = some _).trans h⟩
    · exact ⟨_, h⟩
  obtain ⟨key, hget⟩ := hget
  exact List.mem_map_of_mem (f := Prod.snd) (Table.mem_of_get? hget)

theorem Keyed.find?_path {program : Program} (h : program.Keyed) {file : SourceFile}
    (hfile : file ∈ program.sources) : program.find? file.path = some file := by
  obtain ⟨pair, hpair, rfl⟩ := List.mem_map.1 hfile
  obtain ⟨key, file⟩ := pair
  have hkey : key = file.path.components := h.key_eq _ hpair
  have hget : program.files.get? file.path.components = some file :=
    Table.lookup?_of_mem h.nodup (hkey ▸ hpair)
  simp only [find?, hget]

theorem sources_store_of_notMem {program : Program} {path : Path}
    (h : path.normalize.components ∉ program.files.keys) (text : String) (tree : Node) :
    (program.store path text tree).sources =
      program.sources ++ [⟨program.numberFor path.normalize, path.normalize, text, tree⟩] := by
  simp only [store, sources, Table.values, Table.insert, Table.write_of_notMem h, List.map_append]
  rfl

theorem mem_sites {program : Program} {site : Site} :
    site ∈ program.sites ↔
      site.file ∈ program.sources ∧ site.focus ∈ site.file.root.preorder := by
  constructor
  · intro h
    obtain ⟨file, hfile, hsite⟩ := List.mem_flatMap.1 h
    obtain ⟨focus, hfocus, rfl⟩ := List.mem_map.1 hsite
    exact ⟨hfile, hfocus⟩
  · intro h
    exact List.mem_flatMap.2 ⟨site.file, h.1, List.mem_map.2 ⟨site.focus, h.2, rfl⟩⟩

theorem mem_declarations {program : Program} {site : Site} :
    site ∈ program.declarations ↔ site ∈ program.sites ∧ site.isDeclaration = true :=
  List.mem_filter

theorem Built.eq_of_id_eq {program : Program} (h : program.Built) {site other : Site}
    (hsite : site ∈ program.sites) (hother : other ∈ program.sites) (hid : site.id = other.id) :
    site = other := by
  obtain ⟨file, focus⟩ := site
  obtain ⟨file', focus'⟩ := other
  obtain ⟨hfile, hfocus⟩ := mem_sites.1 hsite
  obtain ⟨hfile', hfocus'⟩ := mem_sites.1 hother
  simp only [Site.id, NodeId.mk.injEq] at hid
  obtain rfl := h.keyed.eq_of_path_eq hfile hfile' hid.1
  obtain rfl := Focus.eq_of_address_eq hfocus hfocus' hid.2
  rfl

theorem size_le_length_sites {program : Program} {site : Site} (h : site ∈ program.sites) :
    site.size ≤ program.sites.length := by
  obtain ⟨hfile, hfocus⟩ := mem_sites.1 h
  have hsublist : (site.file.root.preorder.map (Site.mk site.file)).Sublist program.sites := by
    apply List.sublist_flatten_of_mem
    exact List.mem_map_of_mem hfile
  have hlength := hsublist.length_le
  rw [List.length_map, Focus.length_preorder] at hlength
  exact Nat.le_trans (Focus.size_le_of_mem_preorder hfocus) hlength

end Program

/-! Nodes inside a node of the same file. -/

namespace Site

def Holds (outer inner : Site) : Prop :=
  inner.file = outer.file ∧ Focus.Inside outer.focus inner.focus

theorem Holds.size_lt {outer inner : Site} (h : Holds outer inner) : inner.size < outer.size :=
  h.2.size_lt

theorem Holds.mem_sites {program : Program} {outer inner : Site} (h : Holds outer inner)
    (houter : outer ∈ program.sites) : inner ∈ program.sites := by
  obtain ⟨hfile, hfocus⟩ := Program.mem_sites.1 houter
  rw [Program.mem_sites, h.1]
  exact ⟨hfile, h.2.mem_preorder hfocus⟩

theorem holds_of_mem_heritageEntries {site entry : Site} (h : entry ∈ site.heritageEntries) :
    Holds site entry := by
  obtain ⟨focus, hfocus, rfl⟩ := List.mem_map.1 h
  exact ⟨rfl, Focus.inside_of_mem_heritageEntries hfocus⟩

theorem holds_of_mem_members {site member : Site} (h : member ∈ site.members) :
    Holds site member := by
  obtain ⟨focus, hfocus, rfl⟩ := List.mem_map.1 h
  exact ⟨rfl, Focus.inside_of_mem_bodyMembers hfocus⟩

end Site

end Keypath
