import Mathlib.Data.List.Basic
import Aoun.Chat.Screen

/-!
# The list of chats

`VCChatRoster` lists the chats of the user. `loadChatRoster()` clears the list, asks for the
unread messages of every chat found, and assigns the new list when as many queries have answered
as there are chats. The table takes its cells from a pool: a cell that is dequeued may have been
used before, and keeps the `user` it had. The other user of a chat is asked for when its row is
shown, and the answer is stored in the cell, whatever chat it shows by then. A tap on a row opens
the chat screen on the user in the row's cell.

The environment chooses what the queries find. What runs on the main queue later,
`DispatchQueue.main.async`, is a request that waits to be delivered. `reloadData()` puts all
cells back into the pool, so that the table asks for the cell of a tapped row again. The texts of
the cells are left out.

## Main definitions

* `Aoun.Chat`, `Aoun.otherUserID` — a chat, and the participant taken for the other one.
* `Aoun.RosterCall` — the variables of one call of `loadChatRoster()`.
* `Aoun.VCChatRoster` — the screen, with its methods.
* `Aoun.rosterSystem` — any number of such screens.

## Main results

* `Aoun.VCChatRoster.recv_cases`, `Aoun.VCChatRoster.ui_cases` — what the screen does.
-/

set_option relaxedAutoImplicit false
set_option autoImplicit false

namespace Aoun

/-- `struct Chat`. Its field `otherUser` is never set. -/
structure Chat where
  users : List String
  documentID : Option ℕ
  unreadCount : Option ℕ
  deriving DecidableEq

/-- `init?(dictionary:)`, for a document that has users. -/
def Chat.ofDictionary (users : List String) : Chat := ⟨users, none, none⟩

/-- The last one of the users that is not the signed-in one. -/
def otherUserID (currentUser : Option String) (users : List String) : Option String :=
  currentUser.bind fun uid => (users.filter fun user => user ≠ uid).getLast?

/-- The query of a thread for the messages of a sender that are not read. -/
def ChatsCollection.unread (c : ChatsCollection) (chat : ℕ) (senderID : String) :
    List MessageData :=
  (((c.document chat).map (·.thread)).getD []).filter fun data =>
    data.senderID = some senderID ∧ data.isRead = some false

/-- What the screen asks of Firestore, and the block that it puts on the main queue. -/
inductive RosterRequest
  /-- The query of `loadChatRoster()`. -/
  | chats (uid : String)
  /-- The query for the messages of `otherUserID` in the thread of a document. -/
  | unread (call : ℕ) (doc : ℕ × List String) (otherUserID : String)
  /-- The block that assigns `chats`. -/
  | assignChats (call : ℕ)
  /-- The users query of `loadOtherUser(_:)`, with the cell that its completion has. -/
  | loadOtherUser (cell : ℕ) (otherUserID : String)
  deriving DecidableEq

/-- The answers. -/
inductive RosterAnswer
  | chats (documents : List (ℕ × List String))
  | thread (documents : List MessageData)
  | users (documents : List UserDoc)
  | error
  | neither
  deriving DecidableEq

/-- What the history of the screens records. -/
inductive RosterEffect
  /-- A call of `loadChatRoster()` has found chats, for the user signed in then. -/
  | found (call : ℕ) (currentUser : Option String) (documents : List (ℕ × List String))
  /-- The unread messages of a chat were answered; `none` is an error. -/
  | answered (call : ℕ) (doc : ℕ × List String) (otherUserID : String)
    (documents : Option (List MessageData))
  /-- The counter of a call was found to be the number of its documents. -/
  | counted (call : ℕ)
  /-- `chats` was assigned by a call. -/
  | assigned (call : ℕ) (chats : List Chat)
  /-- A user was stored in a cell. -/
  | loaded (cell : ℕ) (uid : String)
  /-- A tap on a row opened the chat screen on `otherUser`. -/
  | opened (row : ℕ) (otherUser : Option User)
  deriving DecidableEq

/-- The environment's choice: a query finds what is stored at the moment, or fails, or ends with
neither a result nor an error. -/
inductive RosterChoice
  | success (chats : ChatsCollection) (users : UsersCollection)
  | error
  | neither

/-- The answer to a request. -/
def RosterRequest.serve : RosterRequest → RosterChoice → RosterAnswer
  | .chats uid, .success c _ => .chats (c.withUser uid)
  | .unread _ doc otherUserID, .success c _ => .thread (c.unread doc.1 otherUserID)
  | .assignChats _, _ => .neither
  | .loadOtherUser _ otherUserID, .success _ c => .users (c.withUid otherUserID)
  | _, .error => .error
  | _, .neither => .neither

/-- The variables of a call of `loadChatRoster()` that its closures share. -/
structure RosterCall where
  sds : List (ℕ × List String)
  cs : List Chat
  dataLoadCounter : ℕ
  deriving DecidableEq

/-- The row for a document, once its unread messages are answered. -/
def rosterRow (doc : ℕ × List String) (documents : Option (List MessageData)) : Chat :=
  { Chat.ofDictionary doc.2 with
    documentID := some doc.1, unreadCount := documents.map List.length }

/-- The variables of a call after the unread messages of a document are answered. -/
def RosterCall.answered (c : RosterCall) (doc : ℕ × List String)
    (documents : Option (List MessageData)) : RosterCall :=
  { c with cs := c.cs ++ [rosterRow doc documents], dataLoadCounter := c.dataLoadCounter + 1 }

/-- `UserCell`. -/
structure UserCell where
  chat : Option Chat
  user : Option User
  deriving DecidableEq

/-- `VCChatRoster`, with its calls of `loadChatRoster()`, oldest first. -/
structure VCChatRoster where
  /-- The user that is signed in. -/
  currentUser : Option String
  noMessageLabel : String
  chats : List Chat
  calls : List RosterCall
  /-- All cells that were ever made. -/
  cells : List UserCell
  /-- The rows that are shown, with the numbers of their cells. -/
  rows : List (ℕ × ℕ)
  deriving DecidableEq

/-- What the user and the table view can do. -/
inductive RosterTap
  /-- Another user signs in, or nobody is signed in any more. -/
  | signIn (uid : Option String)
  | refreshChatData
  /-- The table shows a row, with a cell from the pool or a new one. -/
  | cellForRowAt (row cell : ℕ)
  /-- A row is scrolled out of sight. -/
  | didEndDisplaying (row : ℕ)
  /-- A tap on a row, for which the table then dequeues a cell again. -/
  | didSelectRowAt (row cell : ℕ)
  deriving DecidableEq

/-- A reaction of the screen. -/
abbrev RosterReaction := Reaction VCChatRoster RosterRequest RosterEffect

namespace VCChatRoster

variable (vc : VCChatRoster)

/-! ### Loading the chats -/

/-- `reloadData()`. -/
def reloadData : VCChatRoster := { vc with rows := [] }

/-- An assignment to `chats`, which reloads the table. -/
def setChats (chats : List Chat) : VCChatRoster := { vc with chats := chats }.reloadData

/-- `loadChatRoster()`. -/
def loadChatRoster : RosterReaction :=
  let vc := { vc with noMessageLabel := "" }
  match vc.currentUser with
  | none => .skip vc
  | some uid => ⟨vc, [.chats uid], []⟩

/-- The completion of the query of `loadChatRoster()`. -/
def chatsFound (sds : List (ℕ × List String)) : RosterReaction :=
  if sds.length = 0 then .skip { vc with noMessageLabel := "No chats" }
  else
    ⟨{ vc.setChats [] with calls := vc.calls ++ [⟨sds, [], 0⟩] },
      sds.filterMap fun d =>
        (otherUserID vc.currentUser d.2).map (.unread vc.calls.length d),
      [.found vc.calls.length vc.currentUser sds]⟩

/-- The completion of the query for the unread messages of a document. -/
def unreadFound (call : ℕ) (doc : ℕ × List String) (otherUserID : String)
    (documents : Option (List MessageData)) : RosterReaction :=
  let vc := { vc with calls := vc.calls.modify call fun c => c.answered doc documents }
  if (vc.calls[call]?).any fun c => c.dataLoadCounter = c.sds.length then
    ⟨vc, [.assignChats call], [.answered call doc otherUserID documents, .counted call]⟩
  else ⟨vc, [], [.answered call doc otherUserID documents]⟩

/-- The block of a call. -/
def assignChats (call : ℕ) : RosterReaction :=
  match vc.calls[call]? with
  | none => .skip vc
  | some c => ⟨vc.setChats c.cs, [], [.assigned call c.cs]⟩

/-- `viewDidLoad()`, with the user who is signed in. -/
def viewDidLoad (currentUser : Option String) : RosterReaction :=
  let vc : VCChatRoster :=
    { currentUser := currentUser, noMessageLabel := "", chats := [], calls := [], cells := [],
      rows := [] }
  vc.loadChatRoster

/-! ### The cells -/

/-- The cell is in the pool, or the next new one. -/
def CanDequeue (cell : ℕ) : Prop := cell ≤ vc.cells.length ∧ cell ∉ vc.rows.map Prod.snd

instance (cell : ℕ) : Decidable (vc.CanDequeue cell) := inferInstanceAs (Decidable (_ ∧ _))

/-- `dequeueReusableCell(withIdentifier:)`, or a new cell. -/
def dequeue (cell : ℕ) : VCChatRoster :=
  if cell = vc.cells.length then { vc with cells := vc.cells ++ [⟨none, none⟩] } else vc

/-- `tableView(_:cellForRowAt:)`, with the cell that is dequeued. -/
def cellForRowAt (row cell : ℕ) (c : Chat) : RosterReaction :=
  let vc := vc.dequeue cell
  ⟨{ vc with
      cells := vc.cells.modify cell fun cell => { cell with chat := some c }
      rows := vc.rows ++ [(row, cell)] },
    (otherUserID vc.currentUser c.users).toList.map (.loadOtherUser cell), []⟩

/-- The completion of the users query of `loadOtherUser(_:)`, and the closure of
`tableView(_:cellForRowAt:)`. -/
def userFound (cell : ℕ) (otherUserID : String) (documents : List UserDoc) : RosterReaction :=
  match documents.head? with
  | none => .skip vc
  | some user =>
    let ou : User := ⟨user.FirstName.getD "", user.LastName.getD "", otherUserID,
      some user.documentID⟩
    ⟨{ vc with cells := vc.cells.modify cell fun cell => { cell with user := some ou } }, [],
      [.loaded cell otherUserID]⟩

/-- `prepare(for:sender:)`, where the sender is a cell. -/
def prepare (row cell : ℕ) : RosterReaction :=
  let user := (vc.cells[cell]?).bind (·.user)
  ⟨if user.isSome then vc.reloadData else vc, [], [.opened row user]⟩

/-- `tableView(_:didSelectRowAt:)` on the chat `c` of a row, with the cell that the table
dequeues for the row. -/
def didSelectRowAt (row cell : ℕ) (c : Chat) : RosterReaction :=
  let c := { c with unreadCount := some 0 }
  ((vc.setChats (vc.chats.set row c)).cellForRowAt row cell c).next fun vc => vc.prepare row cell

/-! ### What happens to the screen -/

/-- The reactions to the user and to the table view. -/
def ui : RosterTap → Option RosterReaction
  | .signIn uid => some (.skip { vc with currentUser := uid })
  | .refreshChatData => some vc.loadChatRoster
  | .cellForRowAt row cell =>
    if vc.CanDequeue cell ∧ row ∉ vc.rows.map Prod.fst then
      (vc.chats[row]?).map (vc.cellForRowAt row cell)
    else none
  | .didEndDisplaying row => some (.skip { vc with rows := vc.rows.filter fun p => p.1 ≠ row })
  | .didSelectRowAt row cell =>
    if row ∈ vc.rows.map Prod.fst ∧ cell ≤ vc.cells.length then
      (vc.chats[row]?).map (vc.didSelectRowAt row cell)
    else none

/-- The callbacks, and the block on the main queue. -/
def recv : RosterRequest → RosterAnswer → RosterReaction
  | .chats _, .chats documents => vc.chatsFound documents
  | .chats _, .neither => vc.chatsFound []
  | .unread call doc otherUserID, .thread documents =>
    vc.unreadFound call doc otherUserID (some documents)
  | .unread call doc otherUserID, .neither => vc.unreadFound call doc otherUserID (some [])
  | .unread call doc otherUserID, _ => vc.unreadFound call doc otherUserID none
  | .assignChats call, _ => vc.assignChats call
  | .loadOtherUser cell otherUserID, .users documents => vc.userFound cell otherUserID documents
  | _, _ => .skip vc

variable {vc}

/-- **What the user and the table view can do.** They ask for the chats, show a row, tap on one,
or change only who is signed in and which rows are shown. -/
lemma ui_cases {u : RosterTap} {r : RosterReaction} (h : vc.ui u = some r) :
    r = vc.loadChatRoster ∨
    (∃ row cell c, u = .cellForRowAt row cell ∧ vc.CanDequeue cell ∧ vc.chats[row]? = some c ∧
      r = vc.cellForRowAt row cell c) ∨
    (∃ row cell c, u = .didSelectRowAt row cell ∧ cell ≤ vc.cells.length ∧
      vc.chats[row]? = some c ∧ r = vc.didSelectRowAt row cell c) ∨
    ∃ uid rows, r = .skip { vc with currentUser := uid, rows := rows } := by
  cases u with
  | signIn uid => exact Or.inr (Or.inr (Or.inr ⟨uid, vc.rows, (Option.some.inj h).symm⟩))
  | refreshChatData => exact Or.inl (Option.some.inj h).symm
  | cellForRowAt row cell =>
    simp only [ui, Option.ite_none_right_eq_some, Option.map_eq_some_iff] at h
    obtain ⟨⟨hcell, -⟩, c, hc, rfl⟩ := h
    exact Or.inr (Or.inl ⟨row, cell, c, rfl, hcell, hc, rfl⟩)
  | didEndDisplaying row =>
    exact Or.inr (Or.inr (Or.inr ⟨vc.currentUser, _, (Option.some.inj h).symm⟩))
  | didSelectRowAt row cell =>
    simp only [ui, Option.ite_none_right_eq_some, Option.map_eq_some_iff] at h
    obtain ⟨⟨-, hcell⟩, c, hc, rfl⟩ := h
    exact Or.inr (Or.inr (Or.inl ⟨row, cell, c, rfl, hcell, hc, rfl⟩))

variable (vc)

/-- **What the callbacks do.** They find chats, count the answer for one, run a block, find the
user for a cell, or do nothing. -/
lemma recv_cases (q : RosterRequest) (a : RosterAnswer) :
    (∃ uid documents, q = .chats uid ∧ vc.recv q a = vc.chatsFound documents) ∨
    (∃ call doc otherUserID documents, q = .unread call doc otherUserID ∧
      vc.recv q a = vc.unreadFound call doc otherUserID documents) ∨
    (∃ call, q = .assignChats call ∧ vc.recv q a = vc.assignChats call) ∨
    (∃ cell otherUserID documents, q = .loadOtherUser cell otherUserID ∧
      vc.recv q a = vc.userFound cell otherUserID documents) ∨
    (((∃ uid, q = .chats uid) ∨ ∃ cell otherUserID, q = .loadOtherUser cell otherUserID) ∧
      vc.recv q a = .skip vc) := by
  cases q with
  | chats uid =>
    cases a with
    | chats documents => exact Or.inl ⟨uid, documents, rfl, rfl⟩
    | neither => exact Or.inl ⟨uid, [], rfl, rfl⟩
    | _ => exact Or.inr (Or.inr (Or.inr (Or.inr ⟨Or.inl ⟨uid, rfl⟩, rfl⟩)))
  | unread call doc otherUserID =>
    right; left
    cases a with
    | thread documents => exact ⟨call, doc, otherUserID, some documents, rfl, rfl⟩
    | neither => exact ⟨call, doc, otherUserID, some [], rfl, rfl⟩
    | _ => exact ⟨call, doc, otherUserID, none, rfl, rfl⟩
  | assignChats call => exact Or.inr (Or.inr (Or.inl ⟨call, rfl, rfl⟩))
  | loadOtherUser cell otherUserID =>
    right; right; right
    cases a with
    | users documents => exact Or.inl ⟨cell, otherUserID, documents, rfl, rfl⟩
    | _ => exact Or.inr ⟨Or.inr ⟨cell, otherUserID, rfl⟩, rfl⟩

end VCChatRoster

/-- Any number of lists of chats. The environment chooses what the queries find. -/
def rosterSystem : AsyncSystem Unit VCChatRoster (Option String) RosterTap RosterRequest
    RosterChoice RosterAnswer Unit RosterEffect where
  boot := VCChatRoster.viewDidLoad
  ui := VCChatRoster.ui
  serve := fun s q e => ⟨s, q.serve e, []⟩
  recv := fun vc q a _ => vc.recv q a

/-- The states of the system. -/
abbrev RosterWorld :=
  AsyncSystem.World Unit VCChatRoster RosterRequest RosterAnswer RosterEffect

/-- What can happen in it. -/
abbrev RosterEvent := AsyncSystem.Event (Option String) RosterTap RosterChoice Unit

end Aoun
