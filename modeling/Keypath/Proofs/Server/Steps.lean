import Keypath.Proofs.FileTable
import Keypath.Server.State

/-!
What one message does to a server.

Its documents and its program change in two ways only: a text is taken over, or a document is closed
and the text on disk is read again. Both put at most one file into the program, at the path of the
document. The invariant of the states that a server comes to is read off from this.
-/

namespace Keypath

open Keypath.Tree

def Parser.Total (parse : Parser) : Prop :=
  ∀ dialect text, (parse dialect text).isSome = true

namespace Workspace

def textAt? (workspace : Workspace) (path : Path) : Option String :=
  (workspace.program.find? path).map SourceFile.text

def put (workspace : Workspace) (path : Path) (text : String) (tree : Node) : Workspace :=
  { workspace with program := workspace.program.store path text tree }

theorem textAt?_put {workspace : Workspace} (hbuilt : workspace.program.Built) (path other : Path)
    (text : String) (tree : Node) :
    (workspace.put path text tree).textAt? other =
      if other.normalize = path.normalize then some text else workspace.textAt? other := by
  rw [textAt?, put, hbuilt.find?_store]
  split <;> rfl

def offer (parse : Parser) (workspace : Workspace) (path : Path) (text : String) : Workspace :=
  match parse (.ofPath path.normalize) text with
  | some tree => workspace.put path text tree
  | none => workspace

theorem textAt?_offer {parse : Parser} (hparse : parse.Total) {workspace : Workspace}
    (hbuilt : workspace.program.Built) (path : Path) (text : String) :
    (workspace.offer parse path text).textAt? path = some text := by
  obtain ⟨tree, htree⟩ := Option.isSome_iff_exists.1 (hparse (.ofPath path.normalize) text)
  simp only [offer, htree]
  rw [textAt?_put hbuilt, if_pos rfl]

theorem value_update (parse : Parser) (workspace : Workspace) (path : Path) (text : String) :
    (workspace.update parse path text).value =
      if path.isTypeScript then workspace.offer parse path text else workspace := by
  unfold update offer Program.insert?
  split
  · cases parse (.ofPath path.normalize) text <;> rfl
  · rfl

def reloaded (parse : Parser) (disk : Disk) (workspace : Workspace) (path : Path) : Workspace :=
  match workspace.reload parse disk path with
  | .ok next => next
  | .error _ => workspace

theorem reloaded_of_read {parse : Parser} {disk : Disk} {path : Path} {text : String}
    (hsource : path.isTypeScript = true) (hread : disk.read path = .ok text)
    (workspace : Workspace) :
    workspace.reloaded parse disk path = workspace.offer parse path text := by
  have hexists : disk.exists? path = true := by
    unfold Disk.exists?
    unfold Disk.read at hread
    cases hentry : disk.entry? path with
    | none => rw [hentry] at hread; cases hread
    | some entry => rfl
  simp only [reloaded, reload, hsource, hexists, Bool.and_self, if_true, index, hread,
    Program.insert?, offer]
  cases parse (.ofPath path.normalize) text <;> rfl

theorem reloaded_of_error {parse : Parser} {disk : Disk} {path : Path} {reason : ReadError}
    (hread : disk.read path = .error reason) (workspace : Workspace) :
    workspace.reloaded parse disk path = workspace := by
  unfold reloaded reload
  split
  · rename_i next hnext
    split at hnext
    · simp only [index, hread] at hnext
      cases hnext
    · exact (Except.ok.inj hnext).symm
  · rfl

theorem reloaded_of_not_source {parse : Parser} {disk : Disk} {path : Path}
    (hsource : path.isTypeScript = false) (workspace : Workspace) :
    workspace.reloaded parse disk path = workspace := by
  simp only [reloaded, reload, hsource, Bool.false_and, Bool.false_eq_true, if_false]

/-- Nothing has changed but, perhaps, the file at the path of a document. -/
inductive Follows (uri : Uri) (workspace : Workspace) : Workspace → Prop where
  | same : Follows uri workspace workspace
  | put {path : Path} (hpath : uri.filePath? = some path) (text : String) (tree : Node) :
      Follows uri workspace (workspace.put path text tree)

theorem follows_offer {uri : Uri} {path : Path} (hpath : uri.filePath? = some path)
    (parse : Parser) (workspace : Workspace) (text : String) :
    workspace.Follows uri (workspace.offer parse path text) := by
  unfold offer
  cases parse (.ofPath path.normalize) text with
  | none => exact .same
  | some tree => exact .put hpath text tree

theorem follows_update {uri : Uri} {path : Path} (hpath : uri.filePath? = some path)
    (parse : Parser) (workspace : Workspace) (text : String) :
    workspace.Follows uri (workspace.update parse path text).value := by
  rw [value_update]
  split
  · exact follows_offer hpath parse workspace text
  · exact .same

theorem follows_reloaded {uri : Uri} {path : Path} (hpath : uri.filePath? = some path)
    (parse : Parser) (disk : Disk) (workspace : Workspace) :
    workspace.Follows uri (workspace.reloaded parse disk path) := by
  cases hsource : path.isTypeScript with
  | false =>
      rw [reloaded_of_not_source hsource]
      exact .same
  | true =>
      cases hread : disk.read path with
      | error reason =>
          rw [reloaded_of_error hread]
          exact .same
      | ok text =>
          rw [reloaded_of_read hsource hread]
          exact follows_offer hpath parse workspace text

namespace Follows

variable {uri : Uri} {workspace next : Workspace}

theorem built (h : workspace.Follows uri next) (hbuilt : workspace.program.Built) :
    next.program.Built := by
  cases h with
  | same => exact hbuilt
  | put _ text tree => exact .store hbuilt _ text tree

theorem textAt?_eq (h : workspace.Follows uri next) (hbuilt : workspace.program.Built)
    {other : Path} (hother : ∀ path, uri.filePath? = some path → other.normalize ≠ path.normalize) :
    next.textAt? other = workspace.textAt? other := by
  cases h with
  | same => rfl
  | put hpath text tree => rw [textAt?_put hbuilt, if_neg (hother _ hpath)]

theorem isSome_textAt? (h : workspace.Follows uri next) (hbuilt : workspace.program.Built)
    {path : Path} (hknown : (workspace.textAt? path).isSome = true) :
    (next.textAt? path).isSome = true := by
  cases h with
  | same => exact hknown
  | put _ text tree =>
      rw [textAt?_put hbuilt]
      split
      · rfl
      · exact hknown

theorem getElem?_sources (h : workspace.Follows uri next) (hbuilt : workspace.program.Built)
    {place : Nat} {file : SourceFile} (hfile : workspace.program.sources[place]? = some file)
    (hother : ∀ path, uri.filePath? = some path → path.normalize ≠ file.path) :
    next.program.sources[place]? = some file := by
  cases h with
  | same => exact hfile
  | put hpath text tree =>
      refine (hbuilt.getElem?_sources_store hfile _ text tree).trans ?_
      rw [if_neg (Ne.symm (hother _ hpath))]

end Follows

/-! Indexing. -/

theorem built_index {parse : Parser} {disk : Disk} {workspace next : Workspace} {path : Path}
    (hbuilt : workspace.program.Built) (h : workspace.index parse disk path = .ok next) :
    next.program.Built := by
  unfold index Program.insert? at h
  split at h
  · cases h
  · split at h
    · rename_i program hprogram
      obtain ⟨tree, _, rfl⟩ := Option.map_eq_some_iff.1 hprogram
      cases h
      exact .store hbuilt path _ tree
    · cases h

theorem built_indexAll (parse : Parser) (disk : Disk) (workspace : Workspace)
    (hbuilt : workspace.program.Built) (paths : List Path) :
    (workspace.indexAll parse disk paths).value.program.Built := by
  have hstate : (Logged.mk workspace ([] : List LogEntry)).value.program.Built := hbuilt
  unfold indexAll
  generalize Logged.mk workspace ([] : List LogEntry) = state at hstate ⊢
  induction paths generalizing state with
  | nil => exact hstate
  | cons path rest ih =>
      rw [List.foldl_cons]
      refine ih _ ?_
      cases hnext : state.value.index parse disk path with
      | ok next => exact built_index hstate hnext
      | error error => exact hstate

theorem built_populate (parse : Parser) (disk : Disk) (root : Path) (settings : Settings) :
    ((Workspace.new root settings).populate parse disk).value.program.Built :=
  built_indexAll parse disk _ .empty _

end Workspace

namespace Server

def Notification.document? : Notification → Option Uri
  | .started => none
  | .didOpen uri _ _ => some uri
  | .didChange uri _ _ => some uri
  | .didClose uri => some uri

/-- What a notification makes of the text of a document. Where several changes come at once, `pick`
says which of them counts. -/
def Notification.textWith (pick : List String → Option String) (uri : Uri) (held : Option String) :
    Notification → Option String
  | .started => held
  | .didOpen opened text _ => if opened = uri then some text else held
  | .didChange changed changes _ => if changed = uri then (pick changes).or held else held
  | .didClose closed => if closed = uri then none else held

namespace State

variable {parse : Parser} {disk : Disk} {state : State} {workspace : Workspace} {uri : Uri}
  {path : Path}

def textOf? (state : State) (uri : Uri) : Option String :=
  (state.documents.get? uri).map Document.text

/-! Taking a text over. -/

theorem textOf?_takeText (parse : Parser) (state : State) (uri other : Uri) (text : String)
    (version : Int) :
    (state.takeText parse uri text version).value.textOf? other =
      if uri = other then some text else state.textOf? other := by
  simp only [takeText, textOf?, Table.get?_insert, eq_comm]
  split <;> rfl

theorem workspace_takeText (hworkspace : state.workspace = some workspace)
    (hpath : uri.filePath? = some path) (text : String) (version : Int) :
    (state.takeText parse uri text version).value.workspace =
      some (workspace.update parse path text).value := by
  simp only [takeText, hpath, hworkspace]

theorem textAt?_takeText (hparse : parse.Total) (hworkspace : state.workspace = some workspace)
    (hbuilt : workspace.program.Built) (hpath : uri.filePath? = some path)
    (hsource : path.isTypeScript = true) {text : String} {version : Int} {next : Workspace}
    (hnext : (state.takeText parse uri text version).value.workspace = some next) :
    next.textAt? path = some text := by
  rw [workspace_takeText hworkspace hpath, Workspace.value_update, hsource, if_pos rfl] at hnext
  rw [← Option.some.inj hnext, Workspace.textAt?_offer hparse hbuilt]

theorem workspace_takeText_of_no_path (hpath : uri.filePath? = none) (text : String)
    (version : Int) :
    (state.takeText parse uri text version).value.workspace = state.workspace := by
  simp only [takeText, hpath]

theorem workspace_takeText_of_none (hworkspace : state.workspace = none) (uri : Uri)
    (text : String) (version : Int) :
    (state.takeText parse uri text version).value.workspace = none := by
  unfold takeText
  rw [hworkspace]
  cases uri.filePath? <;> rfl

theorem takeText_follows (hworkspace : state.workspace = some workspace) (text : String)
    (version : Int) :
    ∃ next, (state.takeText parse uri text version).value.workspace = some next ∧
      workspace.Follows uri next := by
  cases hpath : uri.filePath? with
  | none => exact ⟨workspace, (workspace_takeText_of_no_path hpath _ _).trans hworkspace, .same⟩
  | some path =>
      exact ⟨_, workspace_takeText hworkspace hpath _ _, Workspace.follows_update hpath _ _ _⟩

/-! Closing a document. -/

theorem didClose_of_closed (hclosed : state.documents.get? uri = none) :
    (state.didClose parse disk uri).value = state := by
  simp only [didClose, hclosed]

theorem documents_didClose {document : Document}
    (hopen : state.documents.get? uri = some document) :
    (state.didClose parse disk uri).value.documents = state.documents.erase uri := by
  simp only [didClose, hopen]
  split
  · split <;> rfl
  · rfl

theorem phase_didClose (parse : Parser) (disk : Disk) (state : State) (uri : Uri) :
    (state.didClose parse disk uri).value.phase = state.phase := by
  unfold didClose
  split
  · rfl
  · split
    · split <;> rfl
    · rfl

theorem workspace_didClose {document : Document} (hopen : state.documents.get? uri = some document)
    (hworkspace : state.workspace = some workspace) (hpath : uri.filePath? = some path) :
    (state.didClose parse disk uri).value.workspace =
      some (workspace.reloaded parse disk path) := by
  simp only [didClose, hopen, hworkspace, hpath, Workspace.reloaded]
  cases workspace.reload parse disk path <;> rfl

theorem workspace_didClose_of_no_path (hpath : uri.filePath? = none) :
    (state.didClose parse disk uri).value.workspace = state.workspace := by
  unfold didClose
  rw [hpath]
  split <;> rfl

theorem workspace_didClose_of_none (hworkspace : state.workspace = none) (uri : Uri) :
    (state.didClose parse disk uri).value.workspace = none := by
  unfold didClose
  rw [hworkspace]
  split
  · exact hworkspace
  · cases uri.filePath? <;> rfl

theorem didClose_follows (hworkspace : state.workspace = some workspace) :
    ∃ next, (state.didClose parse disk uri).value.workspace = some next ∧
      workspace.Follows uri next := by
  cases hopen : state.documents.get? uri with
  | none => exact ⟨workspace, by rw [didClose_of_closed hopen, hworkspace], .same⟩
  | some document =>
      cases hpath : uri.filePath? with
      | none => exact ⟨workspace, (workspace_didClose_of_no_path hpath).trans hworkspace, .same⟩
      | some path =>
          exact ⟨_, workspace_didClose hopen hworkspace hpath,
            Workspace.follows_reloaded hpath _ _ _⟩

theorem textOf?_didClose (parse : Parser) (disk : Disk) (state : State) (uri other : Uri) :
    (state.didClose parse disk uri).value.textOf? other =
      if uri = other then none else state.textOf? other := by
  cases hopen : state.documents.get? uri with
  | none =>
      rw [didClose_of_closed hopen]
      split
      · rename_i heq
        rw [textOf?, ← heq, hopen, Option.map_none]
      · rfl
  | some document =>
      rw [textOf?, documents_didClose hopen, Table.get?_erase, textOf?]
      simp only [eq_comm]
      split <;> rfl

/-! Notifications. -/

theorem notify_cases (parse : Parser) (disk : Disk) (state : State)
    (notification : Notification) :
    (state.notify parse disk notification).state = state ∨
      ∃ uri, notification.document? = some uri ∧
        ((∃ text version, (state.notify parse disk notification).state =
            (state.takeText parse uri text version).value) ∨
          (state.notify parse disk notification).state =
            (state.didClose parse disk uri).value) := by
  cases notification with
  | started => exact .inl rfl
  | didOpen uri text version => exact .inr ⟨uri, rfl, .inl ⟨text, version, rfl⟩⟩
  | didChange uri changes version =>
      cases changes with
      | nil => exact .inl rfl
      | cons text rest => exact .inr ⟨uri, rfl, .inl ⟨text, version, rfl⟩⟩
  | didClose uri => exact .inr ⟨uri, rfl, .inr rfl⟩

theorem phase_notify (parse : Parser) (disk : Disk) (state : State) (notification : Notification) :
    (state.notify parse disk notification).state.phase = state.phase := by
  rcases notify_cases parse disk state notification with
    hsame | ⟨uri, _, ⟨text, version, htake⟩ | hclose⟩
  · rw [hsame]
  · rw [htake]
    rfl
  · rw [hclose, phase_didClose]

theorem textOf?_notify (parse : Parser) (disk : Disk) (state : State)
    (notification : Notification) (uri : Uri) :
    (state.notify parse disk notification).state.textOf? uri =
      notification.textWith List.head? uri (state.textOf? uri) := by
  cases notification with
  | started => rfl
  | didOpen opened text version => exact textOf?_takeText parse state opened uri text version
  | didChange changed changes version =>
      cases changes with
      | nil => simp [notify, didChange, Notification.textWith]
      | cons text rest => exact textOf?_takeText parse state changed uri text version
  | didClose closed => exact textOf?_didClose parse disk state closed uri

theorem notify_follows (hworkspace : state.workspace = some workspace)
    (notification : Notification) :
    ∃ next, (state.notify parse disk notification).state.workspace = some next ∧
      (next = workspace ∨ ∃ uri, notification.document? = some uri ∧
        ((state.textOf? uri).isSome = true ∨
          ((state.notify parse disk notification).state.textOf? uri).isSome = true) ∧
        workspace.Follows uri next) := by
  rcases notify_cases parse disk state notification with
    hsame | ⟨uri, hdocument, ⟨text, version, htake⟩ | hclose⟩
  · exact ⟨workspace, by rw [hsame, hworkspace], .inl rfl⟩
  · rw [htake]
    obtain ⟨next, hnext, hfollows⟩ := takeText_follows hworkspace text version
    refine ⟨next, hnext, .inr ⟨uri, hdocument, .inr ?_, hfollows⟩⟩
    rw [textOf?_takeText, if_pos rfl, Option.isSome_some]
  · rw [hclose]
    cases hopen : state.documents.get? uri with
    | none => exact ⟨workspace, by rw [didClose_of_closed hopen, hworkspace], .inl rfl⟩
    | some document =>
        obtain ⟨next, hnext, hfollows⟩ := didClose_follows hworkspace
        refine ⟨next, hnext, .inr ⟨uri, hdocument, .inl ?_, hfollows⟩⟩
        rw [textOf?, hopen, Option.map_some, Option.isSome_some]

theorem workspace_notify_of_none (hworkspace : state.workspace = none)
    (notification : Notification) :
    (state.notify parse disk notification).state.workspace = none := by
  rcases notify_cases parse disk state notification with
    hsame | ⟨uri, _, ⟨text, version, htake⟩ | hclose⟩
  · rw [hsame, hworkspace]
  · rw [htake, workspace_takeText_of_none hworkspace]
  · rw [hclose, workspace_didClose_of_none hworkspace]

theorem notify_of_opened {notification : Notification} (hclosed : state.textOf? uri = none)
    (hopened : ((state.notify parse disk notification).state.textOf? uri).isSome = true) :
    ∃ text version, (state.notify parse disk notification).state =
      (state.takeText parse uri text version).value := by
  rcases notify_cases parse disk state notification with
    hsame | ⟨other, _, ⟨text, version, htake⟩ | hclose⟩
  · rw [hsame, hclosed] at hopened
    cases hopened
  · rw [htake, textOf?_takeText] at hopened
    split at hopened
    · rename_i heq
      exact ⟨text, version, heq ▸ htake⟩
    · rw [hclosed] at hopened
      cases hopened
  · rw [hclose, textOf?_didClose, hclosed, ite_self] at hopened
    cases hopened

/-! Messages. -/

theorem notification_of_running (hrunning : state.phase = .running)
    (notification : Notification) :
    state.notification parse disk (.ok notification) = state.notify parse disk notification := by
  simp only [State.notification, hrunning]

theorem exists_of_readAs {α : Type} {form : Form} {take : Value → Option α}
    {params : Option Json} {message : α} (hread : readAs form take params = .ok message) :
    ∃ value, take value = some message := by
  unfold readAs at hread
  split at hread
  · cases hread
  · split at hread
    · cases hread
    · rename_i value _
      refine ⟨value, ?_⟩
      cases htaken : take value with
      | none => rw [htaken] at hread; cases hread
      | some taken => rw [htaken] at hread; exact congrArg some (Except.ok.inj hread)

theorem state_answer_of_read? {method : String} {params : Option Json} {request : Request}
    (hread : Request.read? method params = some (.ok request)) :
    (state.answer parse disk request).state = state := by
  unfold Request.read? at hread
  split at hread
  · obtain ⟨value, hvalue⟩ := exists_of_readAs (Option.some.inj hread)
    obtain ⟨uri, _, hrequest⟩ := Option.bind_eq_some_iff.1 hvalue
    obtain rfl := Option.some.inj hrequest
    rfl
  · obtain ⟨value, hvalue⟩ := exists_of_readAs (Option.some.inj hread)
    obtain ⟨command, _, hrequest⟩ := Option.bind_eq_some_iff.1 hvalue
    obtain rfl := Option.some.inj hrequest
    simp only [answer]
    split <;> rfl
  · cases hread

/-- What a message can leave behind: a server that has started, that has taken a notification, that
has stopped, or that is as it was. -/
inductive Received (parse : Parser) (disk : Disk) (state : State) : State → Prop where
  | same : Received parse disk state state
  | stopped : Received parse disk state { state with phase := .stopped }
  | started (hfresh : state.phase = .fresh) (root : Option Uri) (options : Option Json) :
      Received parse disk state (state.begin parse disk root options).value
  | notified (hrunning : state.phase = .running) (notification : Notification) :
      Received parse disk state (state.notify parse disk notification).state

theorem received_request {read : Except RpcError Request}
    (hread : ∀ request, read = .ok request → request = .shutdown ∨
      (state.answer parse disk request).state = state) :
    Received parse disk state (state.request parse disk read).state := by
  unfold request
  split
  · exact .same
  · exact .same
  · split
    · rename_i request
      rcases hread request rfl with rfl | hsame
      · exact .stopped
      · rw [hsame]
        exact .same
    · exact .same

theorem received_firstRequest (params : Option Json) :
    Received parse disk state
      (state.firstRequest parse disk (readAs Params.start Request.ofStart params)).state := by
  unfold firstRequest
  split
  · rename_i request hfresh hread
    obtain ⟨value, hvalue⟩ := exists_of_readAs hread
    obtain rfl := Option.some.inj hvalue
    exact .started hfresh _ _
  · exact .same
  · exact .same

theorem received_lastRequest (params : Option Json) :
    Received parse disk state (state.lastRequest parse disk params).state := by
  unfold lastRequest
  split
  · exact .stopped
  · refine received_request fun request hrequest => .inl ?_
    exact (Except.ok.inj hrequest).symm

theorem received_notification (read : Except RpcError Notification) :
    Received parse disk state (state.notification parse disk read).state := by
  unfold State.notification
  split
  · rename_i notification hrunning
    exact .notified hrunning notification
  · exact .same

theorem received_receive (parse : Parser) (disk : Disk) (state : State) (method : String)
    (isNotification : Bool) (params : Option Json) :
    Received parse disk state (state.receive parse disk method isNotification params).state := by
  unfold receive
  split
  · unfold receiveNotification
    split
    · simp only [Outcome.idle]
      split
      · exact .stopped
      · exact .same
    · exact received_notification _
    · exact .same
  · unfold receiveRequest
    split
    · exact received_firstRequest params
    · exact received_lastRequest params
    · rename_i read _ _ hread
      refine received_request fun request hrequest => .inr ?_
      exact state_answer_of_read? (hread.trans (congrArg some hrequest))
    · exact received_request fun request hrequest => nomatch hrequest
    · exact .same

/-! The states that a server comes to. -/

/-- Before the start no document is open; from then on each open source file has an entry in the
program, which is made of stored files. -/
structure Sound (state : State) : Prop where
  built : ∀ workspace, state.workspace = some workspace → workspace.program.Built
  closed : state.phase = .fresh → ∀ uri, state.textOf? uri = none
  known : ∀ uri path workspace, (state.textOf? uri).isSome = true → uri.filePath? = some path →
    path.isTypeScript = true → state.workspace = some workspace →
      (workspace.textAt? path).isSome = true

theorem sound_start : Sound .start where
  built := fun _ h => nomatch h
  closed := fun _ _ => rfl
  known := fun _ _ _ h => nomatch h

namespace Sound

theorem begin (h : state.Sound) (hfresh : state.phase = .fresh) (root : Option Uri)
    (options : Option Json) : (state.begin parse disk root options).value.Sound where
  built := by
    intro workspace hworkspace
    unfold State.begin at hworkspace
    cases hroot : root.bind Uri.filePath? with
    | none =>
        simp only [hroot] at hworkspace
        exact h.built workspace hworkspace
    | some path =>
        simp only [hroot, Option.some.injEq] at hworkspace
        rw [← hworkspace]
        exact Workspace.built_populate parse disk _ _
  closed := by
    intro hphase
    unfold State.begin at hphase
    cases hroot : root.bind Uri.filePath? <;> simp [hroot] at hphase
  known := by
    intro uri path workspace hopen
    have hdocuments : (state.begin parse disk root options).value.documents = state.documents := by
      unfold State.begin
      cases hroot : root.bind Uri.filePath? <;> rfl
    rw [textOf?, hdocuments] at hopen
    rw [← textOf?, h.closed hfresh uri] at hopen
    cases hopen

theorem stopped (h : state.Sound) : Sound { state with phase := .stopped } where
  built := h.built
  closed := fun hphase => nomatch hphase
  known := h.known

theorem notify (h : state.Sound) (hparse : parse.Total) (hrunning : state.phase = .running)
    (notification : Notification) : (state.notify parse disk notification).state.Sound := by
  have hphase : (state.notify parse disk notification).state.phase ≠ .fresh := by
    rw [phase_notify, hrunning]
    exact fun hfresh => nomatch hfresh
  cases hworkspace : state.workspace with
  | none =>
      have hnone : (state.notify parse disk notification).state.workspace = none :=
        workspace_notify_of_none hworkspace notification
      refine ⟨?_, fun hfresh => absurd hfresh hphase, ?_⟩
      · intro workspace hnext
        cases hnone.symm.trans hnext
      · intro uri path workspace _ _ _ hnext
        cases hnone.symm.trans hnext
  | some workspace =>
      have hbuilt := h.built workspace hworkspace
      obtain ⟨next, hnext, hchange⟩ := notify_follows hworkspace notification
      refine ⟨?_, fun hfresh => absurd hfresh hphase, ?_⟩
      · intro found hfound
        obtain rfl := Option.some.inj (hnext.symm.trans hfound)
        rcases hchange with rfl | ⟨uri, _, _, hfollows⟩
        · exact hbuilt
        · exact hfollows.built hbuilt
      · intro uri path found hopen hpath hsource hfound
        obtain rfl := Option.some.inj (hnext.symm.trans hfound)
        cases hheld : state.textOf? uri with
        | some text =>
            have hknown := h.known uri path workspace (by rw [hheld]; rfl) hpath hsource hworkspace
            rcases hchange with rfl | ⟨_, _, _, hfollows⟩
            · exact hknown
            · exact hfollows.isSome_textAt? hbuilt hknown
        | none =>
            obtain ⟨text, version, htake⟩ := notify_of_opened hheld hopen
            rw [htake] at hfound
            rw [textAt?_takeText hparse hworkspace hbuilt hpath hsource hfound, Option.isSome_some]

theorem received (h : state.Sound) (hparse : parse.Total) {next : State}
    (hnext : Received parse disk state next) : next.Sound := by
  cases hnext with
  | same => exact h
  | stopped => exact h.stopped
  | started hfresh root options => exact h.begin hfresh root options
  | notified hrunning notification => exact h.notify hparse hrunning notification

end Sound

/-- The states that a server comes to, whatever it is sent and whatever is on disk by then. -/
inductive Reached (parse : Parser) : State → Prop where
  | start : Reached parse .start
  | receive {state : State} (hstate : Reached parse state) (disk : Disk) (method : String)
      (isNotification : Bool) (params : Option Json) :
      Reached parse (state.receive parse disk method isNotification params).state

theorem Reached.sound (h : Reached parse state) (hparse : parse.Total) : state.Sound := by
  induction h with
  | start => exact sound_start
  | receive _ disk method isNotification params ih =>
      exact ih.received hparse (received_receive parse disk _ method isNotification params)

end State

end Server

end Keypath
