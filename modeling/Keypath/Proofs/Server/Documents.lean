import Keypath.Proofs.Outline
import Keypath.Proofs.Server.Steps

/-!
Open documents and the program.

A client tells of its documents in notifications, and what it has in them is a fold over what it has
sent. The server holds the same texts as long as a notification brings one change at a time, and its
program has them at the paths of the documents.
-/

namespace Keypath.Server

namespace Notification

/-- The whole texts that a notification brings, in order. -/
def texts : Notification → List String
  | .didOpen _ text _ => [text]
  | .didChange _ changes _ => changes
  | _ => []

def heldText (pick : List String → Option String) (uri : Uri) (sent : List Notification) :
    Option String :=
  sent.foldl (textWith pick uri) none

/-- What a client has in a document: of several changes each replaces the one before. -/
def clientText (uri : Uri) (sent : List Notification) : Option String :=
  heldText List.getLast? uri sent

def EverOpen (uri : Uri) (sent : List Notification) : Prop :=
  ∃ earlier, earlier <+: sent ∧ (clientText uri earlier).isSome = true

/-- Documents that are not the same do not name the same file. -/
def OnePerPath (sent : List Notification) : Prop :=
  ∀ uri ∈ sent.filterMap document?, ∀ other ∈ sent.filterMap document?,
    uri.filePath?.isSome = true →
      uri.filePath?.map Path.normalize = other.filePath?.map Path.normalize → uri = other

instance (sent : List Notification) : Decidable (OnePerPath sent) :=
  inferInstanceAs (Decidable (∀ uri ∈ _, ∀ other ∈ _, _ → _ → uri = other))

theorem OnePerPath.eq_of_path {sent : List Notification} (h : OnePerPath sent) {uri other : Uri}
    {path place : Path} (huri : uri ∈ sent.filterMap document?)
    (hother : other ∈ sent.filterMap document?) (hpath : uri.filePath? = some path)
    (hplace : other.filePath? = some place) (heq : path.normalize = place.normalize) :
    uri = other := by
  refine h uri huri other hother ?_ ?_
  · rw [hpath, Option.isSome_some]
  · rw [hpath, hplace, Option.map_some, Option.map_some, heq]

theorem OnePerPath.of_append {sent later : List Notification} (h : OnePerPath (sent ++ later)) :
    OnePerPath sent := by
  intro uri huri other hother
  refine h uri ?_ other ?_
  · rw [List.filterMap_append]
    exact List.mem_append_left _ huri
  · rw [List.filterMap_append]
    exact List.mem_append_left _ hother

theorem heldText_concat (pick : List String → Option String) (uri : Uri)
    (sent : List Notification) (last : Notification) :
    heldText pick uri (sent ++ [last]) = last.textWith pick uri (heldText pick uri sent) :=
  List.foldl_concat _ _ _ _

theorem textWith_of_ne {notification : Notification} {uri : Uri}
    (hne : notification.document? ≠ some uri) (pick : List String → Option String)
    (held : Option String) : notification.textWith pick uri held = held := by
  cases notification with
  | started => rfl
  | didOpen other text version => exact if_neg fun heq => hne (congrArg some heq)
  | didChange other changes version => exact if_neg fun heq => hne (congrArg some heq)
  | didClose other => exact if_neg fun heq => hne (congrArg some heq)

theorem textWith_getLast? {notification : Notification} {uri : Uri}
    (hdocument : notification.document? = some uri) (htexts : notification.texts ≠ [])
    (held : Option String) :
    notification.textWith List.getLast? uri held = notification.texts.getLast? := by
  cases notification with
  | started => cases hdocument
  | didOpen other text version => exact if_pos (Option.some.inj hdocument)
  | didChange other changes version =>
      refine (if_pos (Option.some.inj hdocument)).trans ?_
      have hlast : changes.getLast? = some (changes.getLast htexts) :=
        List.getLast?_eq_getLast_of_ne_nil htexts
      rw [hlast, Option.some_or]
      exact hlast.symm
  | didClose other => exact absurd rfl htexts

theorem textWith_congr {notification : Notification} {pick other : List String → Option String}
    (hpick : pick notification.texts = other notification.texts) (uri : Uri)
    (held : Option String) :
    notification.textWith pick uri held = notification.textWith other uri held := by
  cases notification with
  | didChange changed changes version =>
      simp only [textWith]
      rw [show pick changes = other changes from hpick]
  | _ => rfl

theorem head?_eq_getLast? {texts : List String} (hsingle : texts.length ≤ 1) :
    texts.head? = texts.getLast? := by
  match texts, hsingle with
  | [], _ => rfl
  | [_], _ => rfl

theorem heldText_congr {pick other : List String → Option String} {sent : List Notification}
    (hpick : ∀ notification ∈ sent, pick notification.texts = other notification.texts)
    (uri : Uri) : heldText pick uri sent = heldText other uri sent := by
  induction sent using List.reverseRecOn with
  | nil => rfl
  | append_singleton sent last ih =>
      rw [heldText_concat, heldText_concat,
        ih fun notification h => hpick notification (List.mem_append_left _ h)]
      exact textWith_congr (hpick last (List.mem_append_right _ List.mem_cons_self)) uri _

theorem mem_of_isSome_heldText {pick : List String → Option String} {uri : Uri}
    {sent : List Notification} (h : (heldText pick uri sent).isSome = true) :
    uri ∈ sent.filterMap document? := by
  induction sent using List.reverseRecOn with
  | nil => cases h
  | append_singleton sent last ih =>
      rw [List.filterMap_append, List.mem_append]
      by_cases hlast : last.document? = some uri
      · exact .inr (List.mem_filterMap.2 ⟨last, List.mem_cons_self, hlast⟩)
      · rw [heldText_concat, textWith_of_ne hlast] at h
        exact .inl (ih h)

theorem EverOpen.mem {uri : Uri} {sent : List Notification} (h : EverOpen uri sent) :
    uri ∈ sent.filterMap document? := by
  obtain ⟨earlier, hearlier, hopen⟩ := h
  exact (hearlier.filterMap document?).subset (mem_of_isSome_heldText hopen)

end Notification

namespace State

open Notification

variable {parse : Parser} {state : State} {workspace : Workspace} {uri : Uri} {path : Path}

/-- A server after notifications, each of them taken with the disk as it was by then. -/
def after (parse : Parser) (state : State) (arrivals : List (Disk × Notification)) : State :=
  arrivals.foldl
    (fun state arrival => (state.notification parse arrival.1 (.ok arrival.2)).state) state

theorem phase_after (hrunning : state.phase = .running) (arrivals : List (Disk × Notification)) :
    (state.after parse arrivals).phase = .running := by
  induction arrivals using List.reverseRecOn with
  | nil => exact hrunning
  | append_singleton arrivals arrival ih =>
      rw [after, List.foldl_concat, ← after, notification_of_running ih, phase_notify, ih]

theorem after_concat (hrunning : state.phase = .running) (arrivals : List (Disk × Notification))
    (arrival : Disk × Notification) :
    state.after parse (arrivals ++ [arrival]) =
      ((state.after parse arrivals).notify parse arrival.1 arrival.2).state := by
  rw [after, List.foldl_concat, ← after, notification_of_running (phase_after hrunning arrivals)]

theorem Sound.after (h : state.Sound) (hparse : parse.Total) (hrunning : state.phase = .running)
    (arrivals : List (Disk × Notification)) : (state.after parse arrivals).Sound := by
  induction arrivals using List.reverseRecOn with
  | nil => exact h
  | append_singleton arrivals arrival ih =>
      rw [after_concat hrunning]
      exact ih.notify hparse (phase_after hrunning arrivals) arrival.2

theorem textOf?_after (hrunning : state.phase = .running) (hclosed : state.textOf? uri = none)
    (arrivals : List (Disk × Notification)) :
    (state.after parse arrivals).textOf? uri =
      heldText List.head? uri (arrivals.map Prod.snd) := by
  induction arrivals using List.reverseRecOn with
  | nil => exact hclosed
  | append_singleton arrivals arrival ih =>
      rw [after_concat hrunning, textOf?_notify, ih, List.map_append]
      exact (heldText_concat _ _ _ _).symm

theorem exists_workspace_after (hrunning : state.phase = .running)
    (hworkspace : state.workspace = some workspace) (arrivals : List (Disk × Notification)) :
    ∃ next, (state.after parse arrivals).workspace = some next := by
  induction arrivals using List.reverseRecOn with
  | nil => exact ⟨workspace, hworkspace⟩
  | append_singleton arrivals arrival ih =>
      obtain ⟨held, hheld⟩ := ih
      rw [after_concat hrunning]
      exact (notify_follows hheld arrival.2).imp fun next hnext => hnext.1

theorem getElem?_sources_after (hsound : state.Sound) (hparse : parse.Total)
    (hrunning : state.phase = .running) (hworkspace : state.workspace = some workspace)
    {place : Nat} {file : SourceFile} (hfile : workspace.program.sources[place]? = some file)
    {arrivals : List (Disk × Notification)}
    (hnever : ∀ earlier, earlier <+: arrivals → ∀ uri path,
      ((state.after parse earlier).textOf? uri).isSome = true → uri.filePath? = some path →
        path.normalize ≠ file.path) {next : Workspace}
    (hnext : (state.after parse arrivals).workspace = some next) :
    next.program.sources[place]? = some file := by
  induction arrivals using List.reverseRecOn generalizing next with
  | nil =>
      obtain rfl := Option.some.inj (hworkspace.symm.trans hnext)
      exact hfile
  | append_singleton arrivals arrival ih =>
      obtain ⟨held, hheld⟩ := exists_workspace_after hrunning hworkspace arrivals
      have hkept : held.program.sources[place]? = some file :=
        ih (fun earlier h => hnever earlier (h.trans (List.prefix_append _ _))) hheld
      have hbefore := hnever arrivals (List.prefix_append _ _)
      have hafter := hnever _ (List.prefix_refl _)
      rw [after_concat hrunning] at hnext hafter
      obtain ⟨found, hfound, hchange⟩ := notify_follows hheld arrival.2
      obtain rfl := Option.some.inj (hfound.symm.trans hnext)
      -- what a notification changes belongs to a document that is open before or after it
      rcases hchange with rfl | ⟨uri, _, hopen, hfollows⟩
      · exact hkept
      · refine hfollows.getElem?_sources ((hsound.after hparse hrunning arrivals).built _ hheld)
          hkept ?_
        intro path hpath
        rcases hopen with hopen | hopen
        · exact hbefore uri path hopen hpath
        · exact hafter uri path hopen hpath

/-! The program has the texts of the documents. -/

/-- The program has each open source file with the text of its document. -/
def Mirrors (state : State) : Prop :=
  ∀ uri path text workspace, state.textOf? uri = some text → uri.filePath? = some path →
    path.isTypeScript = true → state.workspace = some workspace →
      workspace.textAt? path = some text

theorem Mirrors.notify {disk : Disk} {notification : Notification} (h : state.Mirrors)
    (hparse : parse.Total) (hworkspace : state.workspace = some workspace)
    (hbuilt : workspace.program.Built)
    (hapart : ∀ uri other path place, notification.document? = some uri →
      (state.textOf? other).isSome = true → uri.filePath? = some path →
        other.filePath? = some place → place.normalize = path.normalize → other = uri) :
    (state.notify parse disk notification).state.Mirrors := by
  intro other place text next hopen hplace hsource hnext
  -- a document other than the one the notification is about keeps its text and its file
  have hframe : ∀ uri, notification.document? = some uri → other ≠ uri →
      state.textOf? other = some text → workspace.Follows uri next →
        next.textAt? place = some text := by
    intro uri hdocument hne hheld hfollows
    rw [← h other place text workspace hheld hplace hsource hworkspace]
    refine hfollows.textAt?_eq hbuilt ?_
    intro path hpath heq
    exact hne (hapart uri other path place hdocument (by rw [hheld]; rfl) hpath hplace heq)
  rcases notify_cases parse disk state notification with
    hsame | ⟨uri, hdocument, ⟨taken, version, htake⟩ | hclose⟩
  · rw [hsame] at hopen hnext
    exact h other place text next hopen hplace hsource hnext
  · rw [htake] at hopen hnext
    rw [textOf?_takeText] at hopen
    split at hopen
    · rename_i heq
      obtain rfl := heq
      rw [textAt?_takeText hparse hworkspace hbuilt hplace hsource hnext, hopen]
    · rename_i hne
      obtain ⟨found, hfound, hfollows⟩ := takeText_follows hworkspace taken version
      obtain rfl := Option.some.inj (hfound.symm.trans hnext)
      exact hframe uri hdocument (Ne.symm hne) hopen hfollows
  · rw [hclose] at hopen hnext
    rw [textOf?_didClose] at hopen
    split at hopen
    · cases hopen
    · rename_i hne
      obtain ⟨found, hfound, hfollows⟩ := didClose_follows hworkspace
      obtain rfl := Option.some.inj (hfound.symm.trans hnext)
      exact hframe uri hdocument (Ne.symm hne) hopen hfollows

theorem Mirrors.after (hsound : state.Sound) (hparse : parse.Total)
    (hrunning : state.phase = .running) (hclosed : ∀ uri, state.textOf? uri = none)
    (hworkspace : state.workspace = some workspace) {arrivals : List (Disk × Notification)}
    (hapart : OnePerPath (arrivals.map Prod.snd)) : (state.after parse arrivals).Mirrors := by
  induction arrivals using List.reverseRecOn with
  | nil =>
      intro uri path text workspace hopen
      cases (hclosed uri).symm.trans hopen
  | append_singleton arrivals arrival ih =>
      rw [List.map_append] at hapart
      obtain ⟨held, hheld⟩ := exists_workspace_after hrunning hworkspace arrivals
      rw [after_concat hrunning]
      refine Mirrors.notify (ih hapart.of_append) hparse hheld
        ((hsound.after hparse hrunning arrivals).built held hheld) ?_
      intro uri other path place hdocument hopen hpath hplace heq
      rw [textOf?_after hrunning (hclosed other)] at hopen
      refine hapart.eq_of_path ?_ ?_ hplace hpath heq
      · rw [List.filterMap_append]
        exact List.mem_append_left _ (mem_of_isSome_heldText hopen)
      · rw [List.filterMap_append]
        refine List.mem_append_right _ (List.mem_filterMap.2 ⟨arrival.2, ?_, hdocument⟩)
        exact List.mem_cons_self

/-! A workspace of three files, `/ws/a.ts`, `/ws/b.ts` and `/ws/c.ts`, with one interface each, such
as `interface A { k: string }`. -/

def sketch (name key : Char) : List Outline := [⟨name, none, [⟨key, none⟩]⟩]

def sketchText (name key : Char) : String := Outline.sourceText (sketch name key)

/-- A parser for a few sketches. Any other text is an error from end to end. -/
def sketchParse : Parser := fun _ text =>
  let known := [sketch 'A' 'k', sketch 'A' 'l', sketch 'A' 'm', sketch 'B' 'k', sketch 'C' 'k']
  match known.find? fun outlines => Outline.sourceText outlines = text with
  | some outlines => some (Outline.sourceTree outlines)
  | none => some (Outline.inner (.other "ERROR") 0 text.utf8ByteSize [] [])

theorem total_sketchParse : sketchParse.Total := by
  intro dialect text
  simp only [sketchParse]
  split <;> rfl

def sketchPath (file : String) : Path := .ofText ("/ws/" ++ file)

def sketchUri (file : String) : Uri := ⟨"file", some .none, .steps ["ws", file], none, none⟩

def sketchDisk : Disk :=
  [("a.ts", 'A'), ("b.ts", 'B'), ("c.ts", 'C')].foldl
    (fun disk (file, name) =>
      disk.write [Text.bytes "ws", Text.bytes file] (sketchText name 'k').toUTF8) .empty

def sketchStart : State :=
  (State.start.receive sketchParse sketchDisk "initialize" false
    (some (.object [("capabilities", .object []), ("rootUri", .string "file:///ws")]))).state

theorem reached_sketchStart : Reached sketchParse sketchStart :=
  .receive .start _ _ _ _

def sketchArrivals : List (Disk × Notification) :=
  [(sketchDisk, .didOpen (sketchUri "a.ts") (sketchText 'A' 'k') 1),
   (sketchDisk, .didChange (sketchUri "a.ts") [sketchText 'A' 'l'] 2),
   (sketchDisk, .didOpen (sketchUri "b.ts") (sketchText 'B' 'k') 1),
   (.empty, .didClose (sketchUri "b.ts"))]

/-! Servers that have just started. -/

theorem started_of_workspace {disk : Disk} {next : State}
    (hnext : Received parse disk .start next) (hworkspace : next.workspace = some workspace) :
    next.phase = .running ∧ ∀ uri, next.textOf? uri = none := by
  cases hnext with
  | same => cases hworkspace
  | stopped => cases hworkspace
  | started _ root options =>
      unfold State.begin
      cases root.bind Uri.filePath? <;> exact ⟨rfl, fun _ => rfl⟩
  | notified hrunning => cases hrunning

/-- Once a server has started on a workspace, its documents have the texts that they have on the
client's side, the program has those texts too, and files of which no document was ever open stay as
they were found at the start. -/
theorem open_documents_mirrored (hparse : parse.Total) (disk : Disk) (params : Option Json)
    {begun : Workspace}
    (hbegun : (State.start.receive parse disk "initialize" false params).state.workspace =
      some begun)
    (arrivals : List (Disk × Notification))
    (hsingle : ∀ notification ∈ arrivals.map Prod.snd, notification.texts.length ≤ 1)
    (hapart : OnePerPath (arrivals.map Prod.snd)) :
    let sent := arrivals.map Prod.snd
    let state :=
      (State.start.receive parse disk "initialize" false params).state.after parse arrivals
    ∃ workspace, state.workspace = some workspace ∧
      (∀ uri, state.textOf? uri = clientText uri sent) ∧
      (∀ uri path text, clientText uri sent = some text → uri.filePath? = some path →
        path.isTypeScript = true → workspace.textAt? path = some text) ∧
      ∀ (place : Nat) (file : SourceFile), begun.program.sources[place]? = some file →
        (∀ uri path, EverOpen uri sent → uri.filePath? = some path →
          path.normalize ≠ file.path) →
        workspace.program.sources[place]? = some file := by
  intro sent state
  have hreceived := received_receive parse disk .start "initialize" false params
  have hsound := sound_start.received hparse hreceived
  obtain ⟨hrunning, hclosed⟩ := started_of_workspace hreceived hbegun
  obtain ⟨workspace, hworkspace⟩ := exists_workspace_after hrunning hbegun arrivals
  -- with one text at a time the first is the last, at each moment of the run
  have htexts : ∀ earlier, earlier <+: arrivals → ∀ uri,
      ((State.start.receive parse disk "initialize" false params).state.after parse
        earlier).textOf? uri = clientText uri (earlier.map Prod.snd) := by
    intro earlier hearlier uri
    rw [textOf?_after hrunning (hclosed uri), clientText]
    refine heldText_congr ?_ uri
    intro notification hnotification
    exact head?_eq_getLast? (hsingle notification ((hearlier.map Prod.snd).subset hnotification))
  refine ⟨workspace, hworkspace, htexts arrivals (List.prefix_refl _), ?_, ?_⟩
  · intro uri path text htext hpath hsource
    refine Mirrors.after hsound hparse hrunning hclosed hbegun hapart uri path text workspace ?_
      hpath hsource hworkspace
    rw [htexts arrivals (List.prefix_refl _), htext]
  · intro place file hfile hnever
    refine getElem?_sources_after hsound hparse hrunning hbegun hfile ?_ hworkspace
    intro earlier hearlier uri path hopen hpath
    rw [htexts earlier hearlier] at hopen
    exact hnever uri path ⟨_, hearlier.map Prod.snd, hopen⟩ hpath

theorem open_documents_mirrored_sketch :
    ∃ workspace, (sketchStart.after sketchParse sketchArrivals).workspace = some workspace ∧
      workspace.textAt? (sketchPath "a.ts") = some (sketchText 'A' 'l') ∧
      ∃ file, workspace.program.sources[2]? = some file ∧
        file.path = sketchPath "c.ts" ∧ file.text = sketchText 'C' 'k' := by
  have hfound : (sketchStart.workspace.bind fun begun => begun.program.sources[2]?.map fun file =>
      (file.path, file.text)) = some (sketchPath "c.ts", sketchText 'C' 'k') := by
    decide +kernel
  have haway : ∀ uri ∈ (sketchArrivals.map Prod.snd).filterMap document?,
      uri.filePath?.map Path.normalize ≠ some (sketchPath "c.ts") := by
    decide +kernel
  obtain ⟨begun, hbegun, hfound⟩ := Option.bind_eq_some_iff.1 hfound
  obtain ⟨file, hfile, hfound⟩ := Option.map_eq_some_iff.1 hfound
  obtain ⟨hpath, htext⟩ := Prod.mk.inj hfound
  obtain ⟨workspace, hworkspace, _, hopen, hrest⟩ :=
    open_documents_mirrored total_sketchParse sketchDisk _ hbegun sketchArrivals
      (by decide) (by decide +kernel)
  refine ⟨workspace, hworkspace, ?_, file, ?_, hpath, htext⟩
  · exact hopen (sketchUri "a.ts") _ _ rfl (by decide +kernel) (by decide +kernel)
  · refine hrest 2 file hfile ?_
    intro uri path hever huri heq
    refine haway uri hever.mem ?_
    rw [huri, Option.map_some, heq, hpath]

/-! Several changes at once. -/

theorem notify_of_texts (parse : Parser) (disk : Disk) (state : State)
    {notification : Notification} {text : String} (hdocument : notification.document? = some uri)
    (htext : notification.texts.head? = some text) :
    ∃ version, (state.notify parse disk notification).state =
      (state.takeText parse uri text version).value := by
  cases notification with
  | started => cases hdocument
  | didOpen other opened version =>
      obtain rfl := Option.some.inj hdocument
      obtain rfl := Option.some.inj htext
      exact ⟨version, rfl⟩
  | didChange other changes version =>
      obtain rfl := Option.some.inj hdocument
      cases changes with
      | nil => cases htext
      | cons first rest =>
          obtain rfl := Option.some.inj htext
          exact ⟨version, rfl⟩
  | didClose other => cases htext

/-- The document and the program come to have the first of the texts that the last notification
brings. It is the text of the client only if the last of them is the same. -/
theorem first_change_is_taken (hparse : parse.Total) (hreached : Reached parse state)
    (hrunning : state.phase = .running) (arrivals : List (Disk × Notification)) (disk : Disk)
    {last : Notification} (hdocument : last.document? = some uri) (htexts : last.texts ≠ []) :
    let sent := arrivals.map Prod.snd ++ [last]
    let next := state.after parse (arrivals ++ [(disk, last)])
    next.textOf? uri = last.texts.head? ∧
      (∀ path workspace, uri.filePath? = some path → path.isTypeScript = true →
        next.workspace = some workspace → workspace.textAt? path = last.texts.head?) ∧
      (next.textOf? uri = clientText uri sent ↔ last.texts.head? = last.texts.getLast?) := by
  intro sent next
  obtain ⟨text, htext⟩ : ∃ text, last.texts.head? = some text :=
    ⟨_, List.head?_eq_some_head htexts⟩
  obtain ⟨version, htake⟩ :=
    notify_of_texts parse disk (state.after parse arrivals) hdocument htext
  have hnext : next = ((state.after parse arrivals).takeText parse uri text version).value :=
    (after_concat hrunning arrivals (disk, last)).trans htake
  have hstored : next.textOf? uri = last.texts.head? := by
    rw [hnext, textOf?_takeText, if_pos rfl, htext]
  have hclient : clientText uri sent = last.texts.getLast? :=
    (heldText_concat _ _ _ _).trans (textWith_getLast? hdocument htexts _)
  refine ⟨hstored, ?_, by rw [hstored, hclient]⟩
  intro path workspace hpath hsource hworkspace
  rw [hnext] at hworkspace
  cases hheld : (state.after parse arrivals).workspace with
  | none => cases (workspace_takeText_of_none hheld uri text version).symm.trans hworkspace
  | some held =>
      have hbuilt := ((hreached.sound hparse).after hparse hrunning arrivals).built held hheld
      rw [textAt?_takeText hparse hheld hbuilt hpath hsource hworkspace, htext]

theorem first_change_is_taken_sketch :
    (sketchStart.after sketchParse
        [(sketchDisk, .didOpen (sketchUri "a.ts") (sketchText 'A' 'k') 1),
         (sketchDisk, .didChange (sketchUri "a.ts") [sketchText 'A' 'l'] 2)]).textOf?
        (sketchUri "a.ts") =
      clientText (sketchUri "a.ts")
        [.didOpen (sketchUri "a.ts") (sketchText 'A' 'k') 1,
         .didChange (sketchUri "a.ts") [sketchText 'A' 'l'] 2] :=
  (first_change_is_taken total_sketchParse reached_sketchStart (by decide +kernel)
    [(sketchDisk, .didOpen (sketchUri "a.ts") (sketchText 'A' 'k') 1)] sketchDisk rfl
    (by decide)).2.2.2 rfl

theorem second_change_is_lost :
    let changed : Notification :=
      .didChange (sketchUri "a.ts") [sketchText 'A' 'l', sketchText 'A' 'm'] 2
    let opened : Notification := .didOpen (sketchUri "a.ts") (sketchText 'A' 'k') 1
    let state := sketchStart.after sketchParse [(sketchDisk, opened), (sketchDisk, changed)]
    clientText (sketchUri "a.ts") [opened, changed] = some (sketchText 'A' 'm') ∧
      state.textOf? (sketchUri "a.ts") = some (sketchText 'A' 'l') ∧
      state.workspace.bind (fun workspace => workspace.textAt? (sketchPath "a.ts")) =
        some (sketchText 'A' 'l') ∧
      sketchText 'A' 'l' ≠ sketchText 'A' 'm' := by
  decide +kernel

/-! Closing a document. -/

/-- The program goes back to the text on disk if there is one that can be read. If there is none it
stays as it is, and the path keeps its entry. -/
theorem closing_reverts_iff_readable (hparse : parse.Total) (hreached : Reached parse state)
    (hrunning : state.phase = .running) (hworkspace : state.workspace = some workspace)
    (hopen : (state.textOf? uri).isSome = true) (hpath : uri.filePath? = some path)
    (hsource : path.isTypeScript = true) (disk : Disk) :
    ∃ next, (state.notification parse disk (.ok (.didClose uri))).state.workspace = some next ∧
      (∀ text, disk.read path = .ok text → next.textAt? path = some text) ∧
      (∀ reason, disk.read path = .error reason →
        next = workspace ∧ (next.textAt? path).isSome = true) ∧
      (next.textAt? path = (disk.read path).toOption ↔ ∃ text, disk.read path = .ok text) := by
  have hsound := hreached.sound hparse
  obtain ⟨document, hdocument⟩ : ∃ document, state.documents.get? uri = some document :=
    Option.isSome_iff_exists.1 (by simpa only [textOf?, Option.isSome_map] using hopen)
  rw [notification_of_running hrunning]
  refine ⟨_, workspace_didClose hdocument hworkspace hpath, ?_⟩
  cases hread : disk.read path with
  | ok text =>
      have htext : (workspace.reloaded parse disk path).textAt? path = some text := by
        rw [Workspace.reloaded_of_read hsource hread,
          Workspace.textAt?_offer hparse (hsound.built workspace hworkspace)]
      refine ⟨?_, ?_, fun _ => ⟨text, rfl⟩, fun _ => htext⟩
      · intro other hother
        rw [htext, Except.ok.inj hother]
      · intro reason hreason
        cases hreason
  | error reason =>
      have hknown := hsound.known uri path workspace hopen hpath hsource hworkspace
      rw [Workspace.reloaded_of_error hread]
      refine ⟨?_, fun _ _ => ⟨rfl, hknown⟩, ?_, ?_⟩
      · intro text htext
        cases htext
      · intro hnone
        rw [hnone] at hknown
        cases hknown
      · rintro ⟨text, htext⟩
        cases htext

def sketchOpened : State :=
  (sketchStart.receive sketchParse sketchDisk "textDocument/didOpen" true
    (some (.object [("textDocument", .object
      [("uri", .string "file:///ws/a.ts"), ("languageId", .string "typescript"),
       ("version", .number (.integer 1)), ("text", .string (sketchText 'A' 'l'))])]))).state

theorem closing_reverts_iff_readable_sketch :
    ∃ next, (sketchOpened.notification sketchParse sketchDisk
        (.ok (.didClose (sketchUri "a.ts")))).state.workspace = some next ∧
      next.textAt? (sketchPath "a.ts") = some (sketchText 'A' 'k') := by
  obtain ⟨workspace, hworkspace⟩ : ∃ workspace, sketchOpened.workspace = some workspace :=
    Option.isSome_iff_exists.1 (by decide +kernel)
  have hpath : (sketchUri "a.ts").filePath? = some (sketchPath "a.ts") := by
    decide +kernel
  obtain ⟨next, hnext, hread, _⟩ :=
    closing_reverts_iff_readable total_sketchParse (.receive reached_sketchStart _ _ _ _)
      (by decide +kernel) hworkspace (by decide +kernel) hpath (by decide +kernel) sketchDisk
  exact ⟨next, hnext, hread _ (by decide +kernel)⟩

theorem closing_keeps_unsaved_text :
    let state := sketchStart.after sketchParse
      [(sketchDisk, .didOpen (sketchUri "d.ts") (sketchText 'B' 'k') 1),
       (sketchDisk, .didClose (sketchUri "d.ts"))]
    sketchDisk.read (sketchPath "d.ts") = .error .missing ∧
      state.textOf? (sketchUri "d.ts") = none ∧
      state.workspace.bind (fun workspace => workspace.textAt? (sketchPath "d.ts")) =
        some (sketchText 'B' 'k') := by
  decide +kernel

end State

end Keypath.Server
