import Mathlib.Data.List.InsertIdx
import Mathlib.Data.List.Sort
import Aoun.Lib.Async
import Aoun.Records
import Aoun.Text

/-!
# The chat screen

`ChatViewController` shows the conversation of two users. `loadChat()` asks for the `Chats`
documents of the current user; it attaches to the first one that the other user is in, or
creates one and asks again. On the `thread` of the document it is attached to, the screen has a
listener, which rebuilds `messages` from every snapshot and marks the messages of the other user
as read. A message that is sent is shown at once, and written if the screen is attached.

Documents are identified by numbers, in the order in which they were created; the place of a
chat among the ids is the environment's choice. A snapshot may come from the cache of the
device: it has the messages of some version of the thread. The notification that follows a
message, and what the screen only shows, are left out.

## Main definitions

* `Aoun.Message`, `Aoun.MessageData` — a message, and the data of its document.
* `Aoun.ChatsCollection` — the collection `Chats`, with the threads of its documents.
* `Aoun.ChatViewController` — the screen, with its methods.
* `Aoun.chatSystem` — any number of such screens over one server.

## Main results

* `Aoun.Message.ofDictionary_eq_some_iff` — decoding a message inverts encoding it.
* `Aoun.ChatsCollection.serve_cases` — what the server does.
* `Aoun.ChatViewController.showThread_eq` — what a snapshot of encoded messages does.
* `Aoun.ChatViewController.recv_cases` — what the callbacks do.
-/

set_option relaxedAutoImplicit false
set_option autoImplicit false

namespace Aoun

/-! ## Messages -/

/-- `struct Message`. -/
structure Message where
  id : String
  content : String
  created : Timestamp
  senderID : String
  senderName : String
  isRead : Bool
  deriving DecidableEq

/-- The data of a document of a thread. -/
structure MessageData where
  id : Option String
  content : Option String
  created : Option Timestamp
  senderID : Option String
  senderName : Option String
  isRead : Option Bool
  deriving DecidableEq

namespace Message

/-- `dictionary`. -/
def dictionary (m : Message) : MessageData :=
  ⟨some m.id, some m.content, some m.created, some m.senderID, some m.senderName,
    some m.isRead⟩

/-- `init?(dictionary:)`. -/
def ofDictionary (dictionary : MessageData) : Option Message := do
  let id ← dictionary.id
  let content ← dictionary.content
  let created ← dictionary.created
  let senderID ← dictionary.senderID
  let senderName ← dictionary.senderName
  let isRead ← dictionary.isRead
  some ⟨id, content, created, senderID, senderName, isRead⟩

@[simp] lemma ofDictionary_dictionary (m : Message) : ofDictionary m.dictionary = some m := rfl

/-- **Decoding inverts encoding.** The data that decode to a message are those it encodes to. -/
theorem ofDictionary_eq_some_iff {d : MessageData} {m : Message} :
    ofDictionary d = some m ↔ d = m.dictionary := by
  constructor
  · intro h
    obtain ⟨id, hid, h⟩ := Option.bind_eq_some_iff.mp h
    obtain ⟨content, hcontent, h⟩ := Option.bind_eq_some_iff.mp h
    obtain ⟨created, hcreated, h⟩ := Option.bind_eq_some_iff.mp h
    obtain ⟨senderID, hsenderID, h⟩ := Option.bind_eq_some_iff.mp h
    obtain ⟨senderName, hsenderName, h⟩ := Option.bind_eq_some_iff.mp h
    obtain ⟨isRead, hisRead, h⟩ := Option.bind_eq_some_iff.mp h
    obtain rfl := Option.some.inj h
    cases d
    simp_all [dictionary]
  · rintro rfl
    rfl

lemma dictionary_inj {m m' : Message} (h : m.dictionary = m'.dictionary) : m = m' := by
  rw [← ofDictionary_eq_some_iff, ofDictionary_dictionary] at h
  exact Option.some.inj h

end Message

/-- The data after `updateData(d')`: the fields of `d'` replace those there are. -/
def MessageData.updateData (d d' : MessageData) : MessageData :=
  ⟨d'.id <|> d.id, d'.content <|> d.content, d'.created <|> d.created,
    d'.senderID <|> d.senderID, d'.senderName <|> d.senderName, d'.isRead <|> d.isRead⟩

/-- Updating by an encoded message replaces all fields. -/
@[simp] lemma MessageData.updateData_dictionary (d : MessageData) (m : Message) :
    d.updateData m.dictionary = m.dictionary := rfl

/-! ## The collection -/

/-- A document of `Chats`. -/
structure ChatDoc where
  documentID : ℕ
  users : List String
  /-- The documents of the thread, numbered in the order of their creation. -/
  thread : List MessageData
  /-- The thread as it was before each of its changes, the latest first. -/
  past : List (List MessageData)
  deriving DecidableEq

/-- The collection `Chats`, in the order of its document ids. -/
structure ChatsCollection where
  docs : List ChatDoc
  /-- The ids of the documents are the first numbers. -/
  ids : (docs.map (·.documentID)).Perm (List.range docs.length)

namespace ChatsCollection

/-- The empty collection. -/
def empty : ChatsCollection := ⟨[], List.Perm.refl _⟩

variable (c : ChatsCollection)

lemma nodup : (c.docs.map (·.documentID)).Nodup := c.ids.nodup_iff.mpr List.nodup_range

/-- `whereField("users", arrayContains: uid)`. -/
def withUser (uid : String) : List (ℕ × List String) :=
  (c.docs.filter fun d => uid ∈ d.users).map fun d => (d.documentID, d.users)

/-- The document with an id. -/
def document (id : ℕ) : Option ChatDoc := c.docs.find? fun d => d.documentID = id

/-- `addDocument(data: ["users": users])`; the new id comes at the place `position`. -/
def addDocument (users : List String) (position : ℕ) : ChatsCollection where
  docs := c.docs.insertIdx (min position c.docs.length) ⟨c.docs.length, users, [], []⟩
  ids := by
    have hperm := List.perm_insertIdx (⟨c.docs.length, users, [], []⟩ : ChatDoc) c.docs
      (Nat.min_le_right position c.docs.length)
    refine (hperm.map (·.documentID)).trans ?_
    rw [hperm.length_eq, List.length_cons, List.range_succ, List.map_cons]
    exact (c.ids.cons _).trans (List.perm_append_singleton _ _).symm

/-- The document `d` after a change of its thread, if it is the document with the id `id`. -/
def changeThread (id : ℕ) (thread : List MessageData) (d : ChatDoc) : ChatDoc :=
  if d.documentID = id then { d with thread := thread, past := d.thread :: d.past } else d

@[simp] lemma changeThread_documentID (id : ℕ) (thread : List MessageData) (d : ChatDoc) :
    (changeThread id thread d).documentID = d.documentID := by
  unfold changeThread
  split_ifs <;> rfl

@[simp] lemma changeThread_users (id : ℕ) (thread : List MessageData) (d : ChatDoc) :
    (changeThread id thread d).users = d.users := by
  unfold changeThread
  split_ifs <;> rfl

/-- The collection after a change of the thread of the document with the id `id`. -/
def setThread (id : ℕ) (thread : List MessageData) : ChatsCollection where
  docs := c.docs.map (changeThread id thread)
  ids := by
    rw [List.map_map, List.length_map]
    refine List.Perm.trans ?_ c.ids
    refine List.Perm.of_eq (List.map_congr_left fun d _ => ?_)
    exact changeThread_documentID id thread d

variable {c}

/-- A document is found under its id. -/
lemma document_eq_some_iff {id : ℕ} {d : ChatDoc} :
    c.document id = some d ↔ d ∈ c.docs ∧ d.documentID = id :=
  find?_eq_some_iff_of_nodup c.nodup

lemma mem_withUser {uid : String} {p : ℕ × List String} :
    p ∈ c.withUser uid ↔ ∃ d ∈ c.docs, uid ∈ d.users ∧ (d.documentID, d.users) = p := by
  simp [withUser, and_assoc]

lemma mem_addDocument {users : List String} {position : ℕ} {d : ChatDoc} :
    d ∈ (c.addDocument users position).docs ↔
      d = ⟨c.docs.length, users, [], []⟩ ∨ d ∈ c.docs := by
  rw [addDocument, (List.perm_insertIdx _ c.docs
    (Nat.min_le_right position c.docs.length)).mem_iff, List.mem_cons]

end ChatsCollection

/-- The version of the thread that was the current one `n` changes ago. -/
def ChatDoc.version (d : ChatDoc) (n : ℕ) : List MessageData :=
  ((d.thread :: d.past)[n]?).getD d.thread

/-- The documents of a thread with their numbers, `order(by: "created", descending: false)`. -/
def orderedByCreated (thread : List MessageData) : List (ℕ × MessageData) :=
  ((thread.zipIdx.map Prod.swap).filter fun d => d.2.created.isSome).insertionSort
    fun d d' => d.2.created.getD 0 ≤ d'.2.created.getD 0

/-! ## The server -/

/-- What the screen asks of Firestore. -/
inductive ChatRequest
  /-- The query of `loadChat()`. -/
  | loadChat (uid : String)
  /-- The `addDocument` of `createNewChat()`. -/
  | createNewChat (users : List String)
  /-- The next call of the listener of a thread. -/
  | listen (chat : ℕ)
  /-- The `addDocument` of `save(_:)`. -/
  | save (chat : ℕ) (data : MessageData)
  /-- The `updateData` of the listener. -/
  | updateData (chat k : ℕ) (data : MessageData)
  deriving DecidableEq

/-- The answers. -/
inductive ChatAnswer
  | chats (documents : List (ℕ × List String))
  | thread (documents : List (ℕ × MessageData))
  | written
  | error
  | neither
  deriving DecidableEq

/-- What the history of the screens records. -/
inductive ChatEffect
  /-- A message was accepted, and `docReference` was the given one. -/
  | sent (docReference : Option ℕ) (message : Message)
  /-- The document of a message was added to a thread, under a number. -/
  | stored (chat k : ℕ) (data : MessageData)
  /-- Adding the document of a message failed. -/
  | unsent (chat : ℕ) (data : MessageData)
  /-- The listener of the screen of a user received the documents of a thread. -/
  | received (uid : String) (chat : ℕ) (documents : List (ℕ × MessageData))
  /-- The `updateData` of a document failed. -/
  | unread (chat k : ℕ)
  deriving DecidableEq

/-- The environment's choice: a request succeeds, with the place of a new document among the
ids, or the age of a snapshot in changes of the thread; or it fails, or ends with neither a
result nor an error. -/
inductive ChatChoice
  | success (n : ℕ)
  | error
  | neither
  deriving DecidableEq

/-- How the server handles a request. -/
def ChatsCollection.serve (c : ChatsCollection) (q : ChatRequest) (e : ChatChoice) :
    Served ChatsCollection ChatAnswer ChatEffect :=
  match q, e with
  | .loadChat uid, .success _ => ⟨c, .chats (c.withUser uid), []⟩
  | .loadChat _, .error => ⟨c, .error, []⟩
  | .loadChat _, .neither => ⟨c, .neither, []⟩
  | .createNewChat users, .success n => ⟨c.addDocument users n, .written, []⟩
  | .createNewChat _, _ => ⟨c, .error, []⟩
  | .listen chat, .success n =>
    ⟨c, .thread (orderedByCreated (((c.document chat).map (·.version n)).getD [])), []⟩
  | .listen _, _ => ⟨c, .error, []⟩
  | .save chat data, .success _ =>
    match c.document chat with
    | some d =>
      ⟨c.setThread chat (d.thread ++ [data]), .written, [.stored chat d.thread.length data]⟩
    | none => ⟨c, .error, [.unsent chat data]⟩
  | .save chat data, _ => ⟨c, .error, [.unsent chat data]⟩
  | .updateData chat k data, .success _ =>
    match c.document chat with
    | some d =>
      if k < d.thread.length then
        ⟨c.setThread chat (d.thread.modify k fun old => old.updateData data), .written, []⟩
      else ⟨c, .error, [.unread chat k]⟩
    | none => ⟨c, .error, [.unread chat k]⟩
  | .updateData chat k _, _ => ⟨c, .error, [.unread chat k]⟩

/-- The effects of a request that fails. -/
def ChatRequest.failed : ChatRequest → List ChatEffect
  | .save chat data => [.unsent chat data]
  | .updateData chat k _ => [.unread chat k]
  | _ => []

/-- **What the server does**: it creates a chat, adds a message to a thread, updates one, or
leaves the collection as it is. -/
lemma ChatsCollection.serve_cases (c : ChatsCollection) (q : ChatRequest) (e : ChatChoice) :
    (∃ users n, q = .createNewChat users ∧ e = .success n ∧
      c.serve q e = ⟨c.addDocument users n, .written, []⟩) ∨
    (∃ chat data d, q = .save chat data ∧ c.document chat = some d ∧ c.serve q e =
      ⟨c.setThread chat (d.thread ++ [data]), .written, [.stored chat d.thread.length data]⟩) ∨
    (∃ chat k data d, q = .updateData chat k data ∧ c.document chat = some d ∧
      k < d.thread.length ∧ c.serve q e =
        ⟨c.setThread chat (d.thread.modify k fun old => old.updateData data), .written, []⟩) ∨
    ((∀ users n, q = .createNewChat users → e ≠ .success n) ∧ (c.serve q e).server = c ∧
      (c.serve q e).answer ≠ .written ∧ (c.serve q e).effects = q.failed) := by
  cases q with
  | loadChat uid => right; right; right; cases e <;> simp [serve, ChatRequest.failed]
  | createNewChat users =>
    cases e with
    | success n => exact Or.inl ⟨users, n, rfl, rfl, rfl⟩
    | _ => right; right; right; simp [serve, ChatRequest.failed]
  | listen chat => right; right; right; cases e <;> simp [serve, ChatRequest.failed]
  | save chat data =>
    cases e with
    | success n =>
      cases hd : c.document chat with
      | none => right; right; right; simp [serve, hd, ChatRequest.failed]
      | some d => exact Or.inr (Or.inl ⟨chat, data, d, rfl, hd, by simp [serve, hd]⟩)
    | _ => right; right; right; simp [serve, ChatRequest.failed]
  | updateData chat k data =>
    cases e with
    | success n =>
      cases hd : c.document chat with
      | none => right; right; right; simp [serve, hd, ChatRequest.failed]
      | some d =>
        by_cases hk : k < d.thread.length
        · exact Or.inr (Or.inr (Or.inl ⟨chat, k, data, d, rfl, hd, hk, by simp [serve, hd, hk]⟩))
        · right; right; right; simp [serve, hd, hk, ChatRequest.failed]
    | _ => right; right; right; simp [serve, ChatRequest.failed]

/-- The effect changes the messages that the screen shows. -/
def ChatEffect.Redraws : ChatEffect → Prop
  | .sent _ _ => True
  | .received _ _ _ => True
  | _ => False

/-- The server neither sends messages nor receives snapshots. -/
lemma ChatsCollection.serve_effects (c : ChatsCollection) (q : ChatRequest) (e : ChatChoice) :
    ∀ o ∈ (c.serve q e).effects, ¬ o.Redraws := by
  rcases c.serve_cases q e with ⟨users, n, -, -, hs⟩ | ⟨chat, data, d', -, -, hs⟩ |
    ⟨chat, k, data, d', -, -, -, hs⟩ | ⟨-, -, -, hs⟩
  · simp [hs]
  · simp [hs, ChatEffect.Redraws]
  · simp [hs]
  · rw [hs]
    cases q <;> simp [ChatRequest.failed, ChatEffect.Redraws]

/-! ## The screen -/

/-- The registration of the listener of a thread. -/
structure ListenerRegistration where
  chat : ℕ
  removed : Bool
  deriving DecidableEq

/-- `User.displayName`. -/
def User.displayName (u : User) : String := trimmed (u.FirstName ++ " " ++ u.LastName)

/-- `ChatViewController`. -/
structure ChatViewController where
  currentUser : User
  otherUser : User
  docReference : Option ℕ
  messages : List Message
  newMessageListner : Option ListenerRegistration
  /-- The program has stopped at a forced unwrapping. -/
  trapped : Bool
  deriving DecidableEq

/-- What the user can do on the screen. -/
inductive ChatTap
  /-- `inputBar(_:didPressSendButtonWith:)`, with the new UUID and the time. -/
  | didPressSendButtonWith (text uuidString : String) (now : Timestamp)
  /-- `viewWillDisappear(_:)`. -/
  | viewWillDisappear
  deriving DecidableEq

/-- A reaction of the screen. -/
abbrev ChatReaction := Reaction ChatViewController ChatRequest ChatEffect

namespace ChatViewController

variable (vc : ChatViewController)

/-- `createNewChat()`. -/
def createNewChat : ChatReaction :=
  ⟨vc, [.createNewChat [vc.currentUser.uid, vc.otherUser.uid]], []⟩

/-- `loadChat()`. -/
def loadChat : ChatReaction := ⟨vc, [.loadChat vc.currentUser.uid], []⟩

/-- The completion of the query of `loadChat()`. -/
def chatsFound (documents : List (ℕ × List String)) : ChatReaction :=
  if documents.length = 0 then vc.createNewChat
  else
    match documents.find? fun doc => vc.otherUser.uid ∈ doc.2 with
    | some doc =>
      ⟨{ vc with docReference := some doc.1, newMessageListner := some ⟨doc.1, false⟩ },
        [.listen doc.1], []⟩
    | none => vc.createNewChat

/-- The message is one of the other user, and not yet read. -/
def Unread (uid : String) (msg : Message) : Prop := msg.senderID ≠ uid ∧ msg.isRead = false

instance (uid : String) (msg : Message) : Decidable (Unread uid msg) :=
  inferInstanceAs (Decidable (_ ∧ _))

/-- The loop of the listener over the documents of a snapshot. -/
def showThread (chat : ℕ) : List (ℕ × MessageData) → ChatViewController → ChatReaction
  | [], vc => .skip vc
  | (k, data) :: documents, vc =>
    match Message.ofDictionary data with
    | none => .skip { vc with trapped := true }
    | some msg =>
      if Unread vc.currentUser.uid msg then
        let msg := { msg with isRead := true }
        (⟨{ vc with messages := vc.messages ++ [msg] },
          [.updateData chat k msg.dictionary], []⟩ : ChatReaction).next
            (showThread chat documents)
      else
        (⟨{ vc with messages := vc.messages ++ [msg] }, [], []⟩ : ChatReaction).next
          (showThread chat documents)

/-- The listener, called with a snapshot of the thread. -/
def threadChanged (chat : ℕ) (documents : List (ℕ × MessageData)) : ChatReaction :=
  ((⟨{ vc with messages := [] }, [], [.received vc.currentUser.uid chat documents]⟩ :
    ChatReaction).next (showThread chat documents)).next fun vc => ⟨vc, [.listen chat], []⟩

/-- `insertNewMessage(_:)`. -/
def insertNewMessage (message : Message) : ChatViewController :=
  { vc with messages := vc.messages ++ [message] }

/-- `save(_:)`. -/
def save (message : Message) : ChatReaction :=
  match vc.docReference with
  | none => .skip vc
  | some chat => ⟨vc, [.save chat { message with isRead := false }.dictionary], []⟩

/-- `inputBar(_:didPressSendButtonWith:)`. -/
def didPressSendButtonWith (text uuidString : String) (now : Timestamp) : ChatReaction :=
  let message : Message :=
    { id := uuidString, content := text, created := now, senderID := vc.currentUser.uid,
      senderName := vc.currentUser.displayName, isRead := false }
  (⟨vc.insertNewMessage message, [], [.sent vc.docReference message]⟩ : ChatReaction).next
    fun vc => vc.save message

/-- `viewWillDisappear(_:)`. -/
def viewWillDisappear : ChatViewController :=
  { vc with newMessageListner := vc.newMessageListner.map fun l => { l with removed := true } }

/-- `viewDidLoad()` of the screen that a user opens on another. -/
def viewDidLoad (currentUser otherUser : User) : ChatReaction :=
  let vc : ChatViewController :=
    { currentUser := currentUser, otherUser := otherUser, docReference := none, messages := [],
      newMessageListner := none, trapped := false }
  vc.loadChat

/-- The reactions to the user. -/
def ui : ChatTap → Option ChatReaction
  | .didPressSendButtonWith text uuidString now =>
    if vc.trapped = false then some (vc.didPressSendButtonWith text uuidString now) else none
  | .viewWillDisappear =>
    if vc.trapped = false then some (.skip vc.viewWillDisappear) else none

/-- The callbacks. A listener that was removed, or has reported an error, is not called any
more. -/
def callback : ChatRequest → ChatAnswer → ChatReaction
  | .loadChat _, .chats documents => vc.chatsFound documents
  | .createNewChat _, .written => vc.loadChat
  | .listen chat, .thread documents =>
    if vc.newMessageListner = some ⟨chat, false⟩ then vc.threadChanged chat documents
    else .skip vc
  | _, _ => .skip vc

/-- The callbacks, if the program has not stopped. -/
def recv (q : ChatRequest) (a : ChatAnswer) : ChatReaction :=
  if vc.trapped then .skip vc else vc.callback q a

/-! ### What the methods do -/

/-- A reaction leaves alone whose screen it is and what it is attached to. -/
def SameScreen (vc' : ChatViewController) : Prop :=
  vc'.currentUser = vc.currentUser ∧ vc'.otherUser = vc.otherUser ∧
    vc'.docReference = vc.docReference ∧ vc'.newMessageListner = vc.newMessageListner

/-- The message that the screen of a user shows for the data of a document. -/
def shown (uid : String) (data : MessageData) : Option Message :=
  (Message.ofDictionary data).map fun msg =>
    if Unread uid msg then { msg with isRead := true } else msg

/-- The receipt that the screen of a user writes for a document. -/
def receipt (uid : String) (chat : ℕ) (doc : ℕ × MessageData) : Option ChatRequest :=
  (Message.ofDictionary doc.2).bind fun msg =>
    if Unread uid msg then some (.updateData chat doc.1 { msg with isRead := true }.dictionary)
    else none

variable {vc} {chat : ℕ} {documents : List (ℕ × MessageData)}

/-- The loop of the listener leaves the screen attached as it is, and writes receipts only for
documents of the snapshot. -/
lemma showThread_cases (documents : List (ℕ × MessageData)) (vc : ChatViewController) :
    vc.SameScreen (showThread chat documents vc).client ∧
      (showThread chat documents vc).effects = [] ∧
      ∀ q ∈ (showThread chat documents vc).requests,
        ∃ doc ∈ documents, receipt vc.currentUser.uid chat doc = some q := by
  induction documents generalizing vc with
  | nil => exact ⟨⟨rfl, rfl, rfl, rfl⟩, rfl, by simp [showThread]⟩
  | cons doc documents ih =>
    obtain ⟨k, data⟩ := doc
    rw [showThread]
    cases hm : Message.ofDictionary data with
    | none => exact ⟨⟨rfl, rfl, rfl, rfl⟩, rfl, by simp⟩
    | some msg =>
      dsimp only
      split_ifs with hread
      · obtain ⟨hsame, heff, hreq⟩ := ih
          { vc with messages := vc.messages ++ [{ msg with isRead := true }] }
        refine ⟨hsame, heff, fun q hq => ?_⟩
        rcases List.mem_append.mp hq with hq | hq
        · rw [List.mem_singleton] at hq
          exact ⟨(k, data), by simp, by simp [receipt, hm, hread, hq]⟩
        · obtain ⟨doc, hdoc, hr⟩ := hreq q hq
          exact ⟨doc, List.mem_cons_of_mem _ hdoc, hr⟩
      · obtain ⟨hsame, heff, hreq⟩ := ih { vc with messages := vc.messages ++ [msg] }
        refine ⟨hsame, heff, fun q hq => ?_⟩
        obtain ⟨doc, hdoc, hr⟩ := hreq q hq
        exact ⟨doc, List.mem_cons_of_mem _ hdoc, hr⟩

/-- **What a snapshot does.** If all its documents are encoded messages, the screen shows them
all, and writes a receipt for each one of the other user that is not read. -/
theorem showThread_eq (hdocs : ∀ doc ∈ documents, ∃ m : Message, doc.2 = m.dictionary)
    (vc : ChatViewController) : showThread chat documents vc =
      ⟨{ vc with messages :=
          vc.messages ++ documents.filterMap fun doc => shown vc.currentUser.uid doc.2 },
        documents.filterMap (receipt vc.currentUser.uid chat), []⟩ := by
  induction documents generalizing vc with
  | nil => simp [showThread, Reaction.skip]
  | cons doc documents ih =>
    obtain ⟨k, data⟩ := doc
    obtain ⟨⟨msg, hmsg⟩, hrest⟩ := List.forall_mem_cons.mp hdocs
    obtain rfl : data = msg.dictionary := hmsg
    rw [showThread, Message.ofDictionary_dictionary]
    dsimp only
    split_ifs with hread <;>
      simp [Reaction.next, ih hrest, shown, receipt, hread]

/-- A snapshot of encoded messages replaces what the screen shows. -/
lemma threadChanged_eq (hdocs : ∀ doc ∈ documents, ∃ m : Message, doc.2 = m.dictionary)
    (vc : ChatViewController) : vc.threadChanged chat documents =
      ⟨{ vc with messages := documents.filterMap fun doc => shown vc.currentUser.uid doc.2 },
        documents.filterMap (receipt vc.currentUser.uid chat) ++ [.listen chat],
        [.received vc.currentUser.uid chat documents]⟩ := by
  rw [threadChanged]
  simp only [Reaction.next, showThread_eq hdocs, List.nil_append, List.append_nil]

/-- The screen attaches to a chat that the other user is in, or creates one. -/
lemma chatsFound_cases (vc : ChatViewController) (documents : List (ℕ × List String)) :
    (∃ doc ∈ documents, vc.otherUser.uid ∈ doc.2 ∧ vc.chatsFound documents =
      ⟨{ vc with docReference := some doc.1, newMessageListner := some ⟨doc.1, false⟩ },
        [.listen doc.1], []⟩) ∨ vc.chatsFound documents = vc.createNewChat := by
  unfold chatsFound
  split_ifs with hcount
  · exact Or.inr rfl
  · cases hf : documents.find? fun doc => vc.otherUser.uid ∈ doc.2 with
    | none => exact Or.inr rfl
    | some doc =>
      have hother : vc.otherUser.uid ∈ doc.2 := by simpa using List.find?_some hf
      exact Or.inl ⟨doc, List.mem_of_find?_eq_some hf, hother, rfl⟩

/-- **What the callbacks do.** They find chats, load them again after creating one, show a
snapshot of the thread listened to, or do nothing. -/
lemma recv_cases (vc : ChatViewController) (q : ChatRequest) (a : ChatAnswer) :
    (∃ uid documents, q = .loadChat uid ∧ a = .chats documents ∧
      vc.recv q a = vc.chatsFound documents) ∨
    (∃ users, q = .createNewChat users ∧ vc.recv q a = vc.loadChat) ∨
    (∃ chat documents, q = .listen chat ∧ a = .thread documents ∧
      vc.newMessageListner = some ⟨chat, false⟩ ∧
      vc.recv q a = vc.threadChanged chat documents) ∨
    vc.recv q a = .skip vc := by
  unfold recv
  split_ifs with ht
  · exact Or.inr (Or.inr (Or.inr rfl))
  · unfold callback
    split
    · exact Or.inl ⟨_, _, rfl, rfl, rfl⟩
    · exact Or.inr (Or.inl ⟨_, rfl, rfl⟩)
    · split_ifs with hl
      · exact Or.inr (Or.inr (Or.inl ⟨_, _, rfl, rfl, hl, rfl⟩))
      · exact Or.inr (Or.inr (Or.inr rfl))
    · exact Or.inr (Or.inr (Or.inr rfl))

/-- The listener is called with a snapshot. -/
lemma recv_listen (halive : vc.trapped = false)
    (hl : vc.newMessageListner = some ⟨chat, false⟩) :
    vc.recv (.listen chat) (.thread documents) = vc.threadChanged chat documents := by
  simp [recv, callback, halive, hl]

/-- A screen that is attached to a chat after a callback has just been attached to it, or was
attached as it is. -/
lemma recv_attached (vc : ChatViewController) (q : ChatRequest) (a : ChatAnswer)
    (hchat : (vc.recv q a).client.docReference = some chat) :
    vc.recv q a = ⟨{ vc with docReference := some chat, newMessageListner := some ⟨chat, false⟩ },
        [.listen chat], []⟩ ∨ vc.SameScreen (vc.recv q a).client := by
  rcases vc.recv_cases q a with ⟨uid, documents, -, -, hv⟩ | ⟨users, -, hv⟩ |
    ⟨chat', documents, -, -, -, hv⟩ | hv
  · rw [hv] at hchat ⊢
    rcases vc.chatsFound_cases documents with ⟨doc, -, -, hc⟩ | hc
    · rw [hc] at hchat ⊢
      obtain rfl : doc.1 = chat := Option.some.inj hchat
      exact Or.inl rfl
    · rw [hc]
      exact Or.inr ⟨rfl, rfl, rfl, rfl⟩
  · rw [hv]
    exact Or.inr ⟨rfl, rfl, rfl, rfl⟩
  · rw [hv]
    exact Or.inr (showThread_cases documents { vc with messages := [] }).1
  · rw [hv]
    exact Or.inr ⟨rfl, rfl, rfl, rfl⟩

/-- **What the user can do**: send a message, or leave the screen. -/
lemma ui_cases {u : ChatTap} {r : ChatReaction} (h : vc.ui u = some r) :
    (∃ text uuidString now, u = .didPressSendButtonWith text uuidString now ∧
      r = vc.didPressSendButtonWith text uuidString now) ∨
    u = .viewWillDisappear ∧ r = .skip vc.viewWillDisappear := by
  cases u with
  | didPressSendButtonWith text uuidString now =>
    simp only [ui, Option.ite_none_right_eq_some, Option.some.injEq] at h
    exact Or.inl ⟨text, uuidString, now, rfl, h.2.symm⟩
  | viewWillDisappear =>
    simp only [ui, Option.ite_none_right_eq_some, Option.some.injEq] at h
    exact Or.inr ⟨rfl, h.2.symm⟩

end ChatViewController

/-- Any number of chat screens, each opened by a user on another. -/
def chatSystem : AsyncSystem ChatsCollection ChatViewController (User × User) ChatTap
    ChatRequest ChatChoice ChatAnswer Unit ChatEffect where
  boot := fun users => ChatViewController.viewDidLoad users.1 users.2
  ui := ChatViewController.ui
  serve := ChatsCollection.serve
  recv := fun vc q a _ => vc.recv q a

/-- The states of the system. -/
abbrev ChatWorld :=
  AsyncSystem.World ChatsCollection ChatViewController ChatRequest ChatAnswer ChatEffect

/-- What can happen in it. -/
abbrev ChatEvent := AsyncSystem.Event (User × User) ChatTap ChatChoice Unit

end Aoun
