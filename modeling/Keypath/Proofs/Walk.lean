import Keypath.Proofs.Normalization
import Keypath.Proofs.Tables
import Keypath.Snapshot

/-!
Walks over a directory.

A walk comes to every file that no excluded directory keeps it from, each under a path of its own,
and reading at that path finds the file.
-/

namespace Keypath

open Component (IsStep slash)

namespace Path

def below (path : Path) (names : List (List UInt8)) : Path :=
  names.foldl (fun path name => path.join ⟨name⟩) path

section Names

variable {path : Path} {name : List UInt8} {names : List (List UInt8)}

theorem isStep_of_mem_names (h : name ∈ path.names) : IsStep (.name name) := by
  obtain ⟨component, hcomponent, hname⟩ := List.mem_filterMap.1 h
  split at hname
  · obtain rfl := Option.some.inj hname
    rcases mem_components hcomponent with hroot | hhere | hstep
    · cases hroot
    · cases hhere
    · exact hstep
  · cases hname

theorem isAbsolute_of_isStep (h : IsStep (.name name)) : (Path.mk name).isAbsolute = false :=
  decide_eq_false h.head?_bytes

theorem segments_of_isStep (h : IsStep (.name name)) : (Path.mk name).segments = [name] :=
  Text.splitWhere_of_notMem fun _ hbyte =>
    decide_eq_false fun heq => h.slash_notMem (heq ▸ hbyte)

theorem steps_of_isStep (h : IsStep (.name name)) : (Path.mk name).steps = [.name name] := by
  have hread : Component.ofSegment? name = some (.name name) := h.ofSegment?_bytes
  rw [steps, segments_of_isStep h, List.filterMap_cons_some hread, List.filterMap_nil]

theorem bytes_join_ne_nil (h : IsStep (.name name)) (path : Path) :
    (path.join ⟨name⟩).bytes ≠ [] := by
  have hname : name ≠ [] := h.bytes_ne_nil
  rw [join, isAbsolute_of_isStep h, if_neg Bool.false_ne_true]
  split
  · exact hname
  · split <;> simp [hname]

theorem components_below (hpath : path.bytes ≠ []) (h : ∀ name ∈ names, IsStep (.name name)) :
    (path.below names).components = path.components ++ names.map Component.name := by
  induction names generalizing path with
  | nil => exact (List.append_nil _).symm
  | cons name rest ih =>
      have hname := h name List.mem_cons_self
      have hrest := ih (bytes_join_ne_nil hname path) fun other hother =>
        h other (List.mem_cons_of_mem _ hother)
      rw [components_join hpath (isAbsolute_of_isStep hname), steps_of_isStep hname,
        List.append_assoc] at hrest
      exact hrest

theorem components_normalize_below (hpath : path.bytes ≠ [])
    (h : ∀ name ∈ names, IsStep (.name name)) :
    (path.below names).normalize.components =
      settled path.components ++ names.map Component.name := by
  rw [components_normalize, components_below hpath h, settled, List.foldl_append,
    foldl_settle_names, List.reverse_append, List.reverse_reverse, settled]

end Names

end Path

namespace DiskEntry

def at? : List (List UInt8) → DiskEntry → Option DiskEntry
  | [], entry => some entry
  | _ :: _, file _ => none
  | name :: rest, directory listing => (listing.get? name).bind (at? rest)

/-- A directory lists different names, each of which is a step of a path. -/
inductive Orderly : DiskEntry → Prop where
  | file (bytes : ByteArray) : Orderly (.file bytes)
  | directory {listing : Table (List UInt8) DiskEntry}
      (names : ∀ name ∈ listing.keys, IsStep (.name name)) (nodup : listing.keys.Nodup)
      (entries : ∀ pair ∈ listing.entries, Orderly pair.2) : Orderly (.directory listing)

variable {entry inner : DiskEntry} {listing : Table (List UInt8) DiskEntry}
  {names : List (List UInt8)}

theorem Orderly.isStep_of_get? (h : (DiskEntry.directory listing).Orderly) {name : List UInt8}
    (hget : listing.get? name = some inner) : IsStep (.name name) ∧ inner.Orderly := by
  cases h with
  | directory hnames _ hentries =>
      have hpair := Table.mem_of_get? hget
      exact ⟨hnames name (List.mem_map_of_mem hpair), hentries _ hpair⟩

theorem Orderly.isStep_of_at? (h : entry.Orderly) (hat : entry.at? names = some inner) :
    ∀ name ∈ names, IsStep (.name name) := by
  induction names generalizing entry with
  | nil => exact fun _ hname => nomatch hname
  | cons name rest ih =>
      cases entry with
      | file bytes => cases hat
      | directory listing =>
          obtain ⟨next, hget, hnext⟩ := Option.bind_eq_some_iff.1 hat
          obtain ⟨hname, horderly⟩ := h.isStep_of_get? hget
          exact List.forall_mem_cons.2 ⟨hname, ih horderly hnext⟩

theorem orderly_empty : (DiskEntry.directory ∅).Orderly :=
  .directory (fun _ hname => nomatch hname) .nil fun _ hpair => nomatch hpair

theorem Orderly.insert (h : (DiskEntry.directory listing).Orderly) {name : List UInt8}
    (hname : IsStep (.name name)) (hinner : inner.Orderly) :
    (DiskEntry.directory (listing.insert name inner)).Orderly := by
  cases h with
  | directory hkeys hnodup hentries =>
      refine .directory ?_ (Table.nodup_keys_insert _ _ hnodup) ?_
      · intro other hother
        rcases Table.mem_keys_insert.1 hother with hother | rfl
        · exact hkeys other hother
        · exact hname
      · intro pair hpair
        rcases Table.mem_insert hpair with rfl | hpair
        · exact hinner
        · exact hentries pair hpair

theorem Orderly.write (bytes : ByteArray) (hnames : ∀ name ∈ names, IsStep (.name name))
    {start : Option DiskEntry} (h : ∀ entry ∈ start, entry.Orderly) :
    (DiskEntry.write bytes names start).Orderly := by
  induction names generalizing start with
  | nil => exact .file bytes
  | cons name rest ih =>
      obtain ⟨hname, hrest⟩ := List.forall_mem_cons.1 hnames
      have hwritten {listing : Table (List UInt8) DiskEntry}
          (horderly : (DiskEntry.directory listing).Orderly) :
          (DiskEntry.directory
            (listing.insert name (DiskEntry.write bytes rest (listing.get? name)))).Orderly :=
        horderly.insert hname (ih hrest fun inner hinner => (horderly.isStep_of_get? hinner).2)
      match start with
      | none => exact hwritten orderly_empty
      | some (.file _) => exact hwritten orderly_empty
      | some (.directory listing) => exact hwritten (h _ rfl)

theorem isDirectory_of_at?_file {bytes : ByteArray} (h : entry.at? names = some (.file bytes)) :
    entry.isDirectory = true ↔ names ≠ [] := by
  cases names with
  | nil =>
      obtain rfl := Option.some.inj h
      simp [isDirectory]
  | cons name rest =>
      cases entry with
      | file bytes => cases h
      | directory listing => simp [isDirectory]

/-! The walk. -/

theorem walkAll_eq (excluded : List UInt8 → Bool) (path : Path)
    (entries : List (List UInt8 × DiskEntry)) :
    walkAll excluded path entries = entries.flatMap fun pair =>
      if pair.2.isDirectory && excluded pair.1 then []
      else walk excluded (path.join ⟨pair.1⟩) pair.2 := by
  induction entries with
  | nil => rfl
  | cons pair rest ih => rw [walkAll, ih, List.flatMap_cons]

theorem walk_directory (excluded : List UInt8 → Bool) (path : Path) :
    walk excluded path (.directory listing) = listing.entries.flatMap fun pair =>
      if pair.2.isDirectory && excluded pair.1 then []
      else walk excluded (path.join ⟨pair.1⟩) pair.2 := by
  rw [walk, walkAll_eq]

theorem forall_mem_dropLast_cons {p : List UInt8 → Prop} {name : List UInt8} :
    (∀ other ∈ (name :: names).dropLast, p other) ↔
      (names ≠ [] → p name) ∧ ∀ other ∈ names.dropLast, p other := by
  cases names <;> simp

theorem Orderly.mem_walk (h : entry.Orderly) {excluded : List UInt8 → Bool} {root path : Path} :
    path ∈ entry.walk excluded root ↔
      ∃ names bytes, entry.at? names = some (.file bytes) ∧
        (∀ name ∈ names.dropLast, excluded name = false) ∧ path = root.below names := by
  induction h generalizing root with
  | file bytes =>
      rw [walk, List.mem_singleton]
      constructor
      · intro hpath
        exact ⟨[], bytes, rfl, by simp, hpath⟩
      · rintro ⟨names, _, hat, _, hpath⟩
        cases names with
        | nil => exact hpath
        | cons name rest => cases hat
  | @directory listing hnames hnodup hentries ih =>
      rw [walk_directory, List.mem_flatMap]
      constructor
      · rintro ⟨⟨name, inner⟩, hpair, hpath⟩
        split at hpath
        · cases hpath
        · rename_i hentered
          obtain ⟨names, bytes, hat, hincluded, rfl⟩ := (ih _ hpair).1 hpath
          refine ⟨name :: names, bytes, ?_, forall_mem_dropLast_cons.2 ⟨?_, hincluded⟩, rfl⟩
          · rw [at?, Table.get?, Table.lookup?_of_mem hnodup hpair, Option.bind_some, hat]
          · intro hne
            simpa [(isDirectory_of_at?_file hat).2 hne] using hentered
      · rintro ⟨names, bytes, hat, hincluded, rfl⟩
        cases names with
        | nil => cases hat
        | cons name rest =>
            obtain ⟨inner, hget, hat⟩ := Option.bind_eq_some_iff.1 hat
            obtain ⟨hname, hrest⟩ := forall_mem_dropLast_cons.1 hincluded
            have hpair := Table.mem_of_get? hget
            refine ⟨(name, inner), hpair, ?_⟩
            rw [if_neg]
            · exact (ih _ hpair).2 ⟨rest, bytes, hat, hrest, rfl⟩
            · intro hleftOut
              rw [Bool.and_eq_true] at hleftOut
              have hne := (isDirectory_of_at?_file hat).1 hleftOut.1
              exact Bool.false_ne_true ((hname hne).symm.trans hleftOut.2)

theorem Orderly.components_of_mem_walk (h : inner.Orderly) {excluded : List UInt8 → Bool}
    {root path : Path} (hroot : root.bytes ≠ []) {name : List UInt8} (hname : IsStep (.name name))
    (hpath : path ∈ inner.walk excluded (root.join ⟨name⟩)) :
    ∃ rest, path.normalize.components = Path.settled root.components ++ .name name :: rest := by
  obtain ⟨names, bytes, hat, _, rfl⟩ := h.mem_walk.1 hpath
  have hnames : ∀ other ∈ name :: names, IsStep (.name other) :=
    List.forall_mem_cons.2 ⟨hname, h.isStep_of_at? hat⟩
  have hcomponents := Path.components_normalize_below hroot hnames
  exact ⟨names.map Component.name, hcomponents⟩

theorem Orderly.pairwise_walk (h : entry.Orderly) (excluded : List UInt8 → Bool) {root : Path}
    (hroot : root.bytes ≠ []) :
    (entry.walk excluded root).Pairwise fun path other =>
      path.normalize.components ≠ other.normalize.components := by
  induction h generalizing root with
  | file bytes => exact List.pairwise_singleton _ _
  | @directory listing hnames hnodup hentries ih =>
      rw [walk_directory, List.pairwise_flatMap]
      constructor
      · intro pair hpair
        split
        · exact .nil
        · exact ih pair hpair (Path.bytes_join_ne_nil (hnames _ (List.mem_map_of_mem hpair)) root)
      · -- the components part at the name in the directory
        refine List.Pairwise.imp_of_mem ?_ (List.pairwise_map.1 hnodup)
        intro pair other hpair hother hne path hpath place hplace
        have hstep (pair : List UInt8 × DiskEntry) (hpair : pair ∈ listing.entries) :
            IsStep (.name pair.1) := hnames _ (List.mem_map_of_mem hpair)
        split at hpath
        · cases hpath
        · split at hplace
          · cases hplace
          · obtain ⟨rest, hrest⟩ :=
              (hentries _ hpair).components_of_mem_walk hroot (hstep _ hpair) hpath
            obtain ⟨rest', hrest'⟩ :=
              (hentries _ hother).components_of_mem_walk hroot (hstep _ hother) hplace
            intro heq
            rw [hrest, hrest', List.append_cancel_left_eq, List.cons.injEq] at heq
            exact hne (Component.name.inj heq.1)

end DiskEntry

/-! Reading at the path of an entry. -/

namespace Disk

variable {disk : Disk}

def Orderly (disk : Disk) : Prop := (DiskEntry.directory disk.root).Orderly

theorem Orderly.write (h : disk.Orderly) (path : Path) (bytes : ByteArray) :
    (disk.write path.names bytes).Orderly := by
  have hwritten : (DiskEntry.write bytes path.names (some (.directory disk.root))).Orderly :=
    DiskEntry.Orderly.write bytes (fun _ => Path.isStep_of_mem_names)
      fun entry hentry => Option.some.inj hentry ▸ h
  unfold Disk.write
  split
  · rename_i root hroot
    rwa [hroot] at hwritten
  · exact h

/-- A snapshot holds its files in directories as a file system does. -/
theorem orderly_snapshot (snapshot : Snapshot) : snapshot.disk.Orderly := by
  unfold Snapshot.disk
  have hempty : Disk.empty.Orderly := DiskEntry.orderly_empty
  generalize Disk.empty = disk at hempty
  induction snapshot.files generalizing disk with
  | nil => exact hempty
  | cons file rest ih => exact ih _ (hempty.write file.path file.bytes)

/-- Where a path leads to, with the directories above it. -/
def place? (disk : Disk) (path : Path) : Option (List DiskEntry) :=
  let root := [DiskEntry.directory disk.root]
  let start :=
    if path.bytes = [] then none
    else if path.isAbsolute then some root
    else follow root disk.workingDirectory
  start.bind fun place => follow place path.segments

theorem entry?_eq (disk : Disk) (path : Path) :
    disk.entry? path = (disk.place? path).bind List.head? := rfl

theorem place?_append_slash (disk : Disk) {bytes : List UInt8} (hbytes : bytes ≠ [])
    (rest : List UInt8) :
    disk.place? ⟨bytes ++ Component.slash :: rest⟩ =
      (disk.place? ⟨bytes⟩).bind fun place => follow place (Path.mk rest).segments := by
  have hne : bytes ++ Component.slash :: rest ≠ [] := by simp
  simp only [place?, Path.isAbsolute_append hbytes, hne, hbytes, if_false, Path.segments_append_slash, follow,
    List.foldlM_append, Option.bind_assoc]
  rfl

theorem place?_slash (disk : Disk) (rest : List UInt8) :
    disk.place? ⟨Component.slash :: rest⟩ =
      follow [.directory disk.root] (Path.mk rest).segments := rfl

section Steps

variable {listing : Table (List UInt8) DiskEntry} {above place reached : List DiskEntry}
  {name : List UInt8}

theorem follow_nothing (h : follow place [[]] = some reached) : place = reached := by
  cases place with
  | nil => cases h
  | cons entry above =>
      cases entry with
      | file bytes => cases h
      | directory listing => exact Option.some.inj h

theorem follow_name (hname : IsStep (.name name)) :
    follow (.directory listing :: above) (Path.mk name).segments =
      (listing.get? name).map fun entry => entry :: .directory listing :: above := by
  have hnil : name ≠ [] := hname.bytes_ne_nil
  have hdot : name ≠ [Component.dot] := hname.bytes_ne_dot
  have hup : name ≠ [Component.dot, Component.dot] := by
    rintro rfl
    cases hname.ofSegment?_bytes
  have hstep : step (.directory listing :: above) name =
      (listing.get? name).map fun entry => entry :: .directory listing :: above := by
    simp only [step, hnil, hdot, hup, decide_false, Bool.or_self, Bool.false_eq_true, if_false]
  rw [Path.segments_of_isStep hname, follow, List.foldlM_cons, hstep]
  cases listing.get? name <;> rfl

theorem place?_join (hname : IsStep (.name name)) {path : Path}
    (h : disk.place? path = some (.directory listing :: above)) :
    disk.place? (path.join ⟨name⟩) =
      (listing.get? name).map fun entry => entry :: .directory listing :: above := by
  obtain ⟨bytes⟩ := path
  have hbytes : bytes ≠ [] := by
    rintro rfl
    cases h
  rw [Path.join, Path.isAbsolute_of_isStep hname, if_neg Bool.false_ne_true, if_neg hbytes]
  split
  · rename_i hlast
    -- the path ends in a slash, behind which the name is put
    obtain ⟨front, rfl⟩ := List.getLast?_eq_some_iff.1 hlast
    rw [List.append_assoc, List.singleton_append]
    cases front with
    | nil =>
        rw [List.nil_append, place?_slash] at h ⊢
        rw [follow_nothing h, follow_name hname]
    | cons byte more =>
        rw [place?_append_slash disk (List.cons_ne_nil _ _)] at h ⊢
        obtain ⟨place, hplace, hend⟩ := Option.bind_eq_some_iff.1 h
        rw [hplace, Option.bind_some, follow_nothing hend, follow_name hname]
  · rw [place?_append_slash disk hbytes, h, Option.bind_some, follow_name hname]

end Steps

theorem entry?_below {root : Path} {top entry : DiskEntry} {names : List (List UInt8)}
    (horderly : top.Orderly) (htop : disk.entry? root = some top)
    (hat : top.at? names = some entry) : disk.entry? (root.below names) = some entry := by
  induction names generalizing root top with
  | nil =>
      obtain rfl := Option.some.inj hat
      exact htop
  | cons name rest ih =>
      cases top with
      | file bytes => cases hat
      | directory listing =>
          obtain ⟨inner, hget, hat⟩ := Option.bind_eq_some_iff.1 hat
          obtain ⟨hname, hinner⟩ := horderly.isStep_of_get? hget
          refine ih hinner ?_ hat
          obtain ⟨place, hplace, hhead⟩ := Option.bind_eq_some_iff.1 htop
          obtain ⟨above, rfl⟩ := List.head?_eq_some_iff.1 hhead
          rw [entry?_eq, place?_join hname hplace, hget]
          rfl

theorem orderly_of_follow {place reached : List DiskEntry} {segments : List (List UInt8)}
    (h : ∀ entry ∈ place, entry.Orderly) (hfollow : follow place segments = some reached) :
    ∀ entry ∈ reached, entry.Orderly := by
  induction segments generalizing place with
  | nil =>
      obtain rfl := Option.some.inj hfollow
      exact h
  | cons segment rest ih =>
      rw [follow, List.foldlM_cons] at hfollow
      obtain ⟨next, hstep, hrest⟩ := Option.bind_eq_some_iff.1 hfollow
      refine ih ?_ hrest
      unfold step at hstep
      split at hstep
      · rename_i listing above
        split at hstep
        · obtain rfl := Option.some.inj hstep
          exact h
        · split at hstep
          · split at hstep
            · obtain rfl := Option.some.inj hstep
              exact h
            · obtain rfl := Option.some.inj hstep
              exact fun entry hentry => h entry (List.mem_cons_of_mem _ hentry)
          · obtain ⟨inner, hget, rfl⟩ := Option.map_eq_some_iff.1 hstep
            have hdirectory := h _ List.mem_cons_self
            exact List.forall_mem_cons.2 ⟨(hdirectory.isStep_of_get? hget).2, h⟩
      · cases hstep

theorem Orderly.entry (h : disk.Orderly) {path : Path} {entry : DiskEntry}
    (hentry : disk.entry? path = some entry) : entry.Orderly := by
  have hroot : ∀ entry ∈ [DiskEntry.directory disk.root], entry.Orderly := by
    intro entry hentry
    obtain rfl := List.mem_singleton.1 hentry
    exact h
  obtain ⟨place, hplace, hhead⟩ := Option.bind_eq_some_iff.1 hentry
  obtain ⟨start, hstart, hfollow⟩ := Option.bind_eq_some_iff.1 hplace
  refine orderly_of_follow ?_ hfollow entry (List.mem_of_mem_head? hhead)
  split at hstart
  · cases hstart
  · split at hstart
    · obtain rfl := Option.some.inj hstart
      exact hroot
    · exact orderly_of_follow hroot hstart

theorem read_below (orderly : disk.Orderly) {root : Path} {names : List (List UInt8)}
    {bytes : ByteArray}
    (h : (disk.entry? root).bind (DiskEntry.at? names) = some (.file bytes)) :
    disk.read (root.below names) =
      match String.fromUTF8? bytes with
      | some text => .ok text
      | none => .error .notText := by
  obtain ⟨top, htop, hat⟩ := Option.bind_eq_some_iff.1 h
  have hentry := entry?_below (orderly.entry htop) htop hat
  cases htext : String.fromUTF8? bytes <;> simp only [read, hentry, htext]

theorem mem_walk (orderly : disk.Orderly) {excluded : List UInt8 → Bool} {root path : Path} :
    path ∈ disk.walk excluded root ↔
      ∃ names bytes, (disk.entry? root).bind (DiskEntry.at? names) = some (.file bytes) ∧
        (∀ name ∈ names.dropLast, excluded name = false) ∧ path = root.below names := by
  rw [walk]
  cases htop : disk.entry? root with
  | none => simp
  | some top => exact (orderly.entry htop).mem_walk

theorem pairwise_walk (orderly : disk.Orderly) (excluded : List UInt8 → Bool) (root : Path) :
    (disk.walk excluded root).Pairwise fun path other =>
      path.normalize.components ≠ other.normalize.components := by
  rw [walk]
  cases htop : disk.entry? root with
  | none => exact .nil
  | some top =>
      refine (orderly.entry htop).pairwise_walk excluded ?_
      intro hroot
      rw [entry?_eq, place?, if_pos hroot] at htop
      cases htop

end Disk

end Keypath
