import Mathlib.Data.List.Basic
import Aoun.Lib.Async
import Aoun.Records

/-!
# The list of notes

`ViewNotesViewController` shows the notes the user has bought, `myNotes`, and the others,
`notes`. `loadUserReference()` asks for the user's document, then for the entries of
`purchasedNotes`, then for the note of each entry, and when it has them it calls
`loadNotes()`, which asks for all notes. It is called when the screen is launched and after a
purchase; `loadNotes()` also after a note has been posted. Nothing keeps these chains of
queries apart.

The store is not modelled: a query may be answered by any documents. What runs on the main
queue later, `DispatchQueue.main.async`, is a request that waits to be delivered. What the
screen only shows, and the search, are left out.

## Main definitions

* `Aoun.PurchasedNotesCall` — the variables of one call of `purchasedNotes(userID:)`.
* `Aoun.ViewNotesViewController` — the screen, with its methods.
* `Aoun.notesListSystem` — any number of such screens.

## Main results

* `Aoun.ViewNotesViewController.recv_cases` — what the callbacks do.
-/

set_option relaxedAutoImplicit false
set_option autoImplicit false

namespace Aoun

/-- A document of the collection `purchasedNotes` of a user, as the query finds it. -/
structure PurchasedEntry where
  note : Option String
  purchaseDate : Timestamp
  deriving DecidableEq

deriving instance DecidableEq for NoteData

/-- What the screen asks of Firestore, and the blocks it puts on the main queue. -/
inductive NotesListRequest
  /-- The users query of `loadUserReference()`. -/
  | loadUserReference (userId : String)
  /-- The query of `purchasedNotes(userID:complition:)`. -/
  | purchasedNotes (userID : String)
  /-- The `getDocument` for the note of an entry. -/
  | getDocument (call : ℕ) (entry : PurchasedEntry)
  /-- The block that calls the completion. -/
  | complition (call : ℕ)
  /-- The query of `loadNotes()`. -/
  | loadNotes
  /-- The block that assigns `notes`. -/
  | assignNotes (lnotes : List NoteFile)
  deriving DecidableEq

/-- The answers. -/
inductive NotesListAnswer
  | users (documents : List UserDoc)
  | entries (documents : List PurchasedEntry)
  | document (data : Option NoteData)
  | notes (documents : List (String × NoteData))
  | error
  | neither
  deriving DecidableEq

/-- What the history of the screens records. -/
inductive NotesListEffect
  /-- The query of a call of `purchasedNotes(userID:complition:)` was answered. -/
  | entries (call : ℕ) (es : List PurchasedEntry)
  /-- The note of an entry was answered, with its data if there are any. -/
  | answered (call : ℕ) (entry : PurchasedEntry) (data : Option NoteData)
  /-- The counter of a call was found to be the number of its entries. -/
  | counted (call : ℕ)
  /-- The completion of a call was called with `ns`, and `myNotes` was assigned. -/
  | complition (call : ℕ) (ns myNotes : List NoteFile)
  /-- `loadNotes()` was called. -/
  | loadNotes
  /-- `notes` was assigned from the decoded notes of a snapshot. -/
  | assignedNotes (lnotes : List NoteFile)
  deriving DecidableEq

/-- The variables of a call of `purchasedNotes(userID:complition:)` that its closures share. -/
structure PurchasedNotesCall where
  purchasedNotes : List PurchasedEntry
  counter : ℕ
  ns : List NoteFile
  deriving DecidableEq

/-- The note of an entry, from the data of its document. -/
def PurchasedEntry.purchasedNote (entry : PurchasedEntry) (data : Option NoteData) :
    Option NoteFile := do
  let noteId ← entry.note
  let d ← data
  let n ← ViewNotesViewController.note d noteId
  some { n with purchasedDate := some entry.purchaseDate }

/-- The variables of a call after the note of an entry is answered. -/
def PurchasedNotesCall.answered (c : PurchasedNotesCall) (entry : PurchasedEntry)
    (data : Option NoteData) : PurchasedNotesCall :=
  { c with counter := c.counter + 1, ns := c.ns ++ (entry.purchasedNote data).toList }

/-- `ViewNotesViewController`, with its calls of `purchasedNotes(userID:complition:)`, oldest
first. -/
structure ViewNotesViewController where
  myNotes : List NoteFile
  notes : List NoteFile
  calls : List PurchasedNotesCall
  deriving DecidableEq

/-- What the user can do on the screens that the list opens. -/
inductive NotesListTap
  /-- `postNote(_:note:added:)`. -/
  | postNote (added : Bool)
  /-- `detail(_:notePurched:)`, with the user who is signed in. -/
  | detail (currentUser : Option String)
  deriving DecidableEq

/-- A reaction of the screen. -/
abbrev NotesListReaction := Reaction ViewNotesViewController NotesListRequest NotesListEffect

namespace ViewNotesViewController

variable (vc : ViewNotesViewController)

/-- `purchasedNotesIds`. -/
def purchasedNotesIds : List String := vc.myNotes.map (·.id)

/-- `loadNotes()`. -/
def loadNotes : NotesListReaction := ⟨vc, [.loadNotes], [.loadNotes]⟩

/-- The completion of the query of `loadNotes()`. -/
def notesFound (documents : List (String × NoteData)) : NotesListReaction :=
  ⟨vc, [.assignNotes (documents.filterMap fun doc => note doc.2 doc.1)], []⟩

/-- The block of `loadNotes()`. -/
def assignNotes (lnotes : List NoteFile) : NotesListReaction :=
  ⟨{ vc with notes := lnotes.filter fun n => n.id ∉ vc.purchasedNotesIds }, [],
    [.assignedNotes lnotes]⟩

/-- The date of a note that was bought. -/
def purchasedDate (n : NoteFile) : Timestamp := n.purchasedDate.getD 0

/-- `ns.sorted(by:)` with the later date first; all notes of `ns` have a date. -/
def sortedByDate (ns : List NoteFile) : List NoteFile :=
  ns.mergeSort fun a b => decide (purchasedDate b ≤ purchasedDate a)

/-- The completion that `loadUserReference()` gives to `purchasedNotes(userID:complition:)`. -/
def complition (notes : Option (List NoteFile)) : NotesListReaction :=
  match notes with
  | some ns => { vc with myNotes := sortedByDate ns }.loadNotes
  | none => vc.loadNotes

/-- `loadUserReference()`. -/
def loadUserReference (currentUser : Option String) : NotesListReaction :=
  match currentUser with
  | none => .skip vc
  | some userId => ⟨vc, [.loadUserReference userId], []⟩

/-- The completion of the users query of `loadUserReference()`. -/
def userFound (documents : List UserDoc) : NotesListReaction :=
  match documents.head? with
  | none => .skip vc
  | some user => ⟨vc, [.purchasedNotes user.documentID], []⟩

/-- The completion of the query of `purchasedNotes(userID:complition:)`: the documents are asked
for the entries that have a note. -/
def entriesFound (documents : List PurchasedEntry) : NotesListReaction :=
  ⟨{ vc with calls := vc.calls ++ [⟨documents, 0, []⟩] },
    (documents.filter fun pn => pn.note.isSome).map (.getDocument vc.calls.length),
    [.entries vc.calls.length documents]⟩

/-- The completion of the `getDocument` for the note of an entry. -/
def gotDocument (call : ℕ) (entry : PurchasedEntry) (data : Option NoteData) :
    NotesListReaction :=
  let vc := { vc with calls := vc.calls.modify call fun c => c.answered entry data }
  if (vc.calls[call]?).any fun c => c.counter = c.purchasedNotes.length then
    ⟨vc, [.complition call], [.answered call entry data, .counted call]⟩
  else ⟨vc, [], [.answered call entry data]⟩

/-- The block of a call of `purchasedNotes(userID:complition:)`. -/
def runComplition (call : ℕ) : NotesListReaction :=
  match vc.calls[call]? with
  | none => .skip vc
  | some c =>
    (⟨vc, [], [.complition call c.ns (sortedByDate c.ns)]⟩ : NotesListReaction).next
      fun vc => vc.complition (some c.ns)

/-- `viewDidLoad()`. -/
def viewDidLoad (currentUser : Option String) : NotesListReaction :=
  let vc : ViewNotesViewController := { myNotes := [], notes := [], calls := [] }
  vc.loadUserReference currentUser

/-- The reactions to the screens that the list opens. -/
def ui : NotesListTap → NotesListReaction
  | .postNote added => if added then vc.loadNotes else .skip vc
  | .detail currentUser => vc.loadUserReference currentUser

/-- The callbacks, and the blocks on the main queue. -/
def recv : NotesListRequest → NotesListAnswer → NotesListReaction
  | .loadUserReference _, .users documents => vc.userFound documents
  | .purchasedNotes _, .entries documents => vc.entriesFound documents
  | .purchasedNotes _, .error => .skip vc
  | .purchasedNotes _, _ => vc.complition none
  | .getDocument call entry, .document data => vc.gotDocument call entry data
  | .getDocument call entry, _ => vc.gotDocument call entry none
  | .complition call, _ => vc.runComplition call
  | .loadNotes, .notes documents => vc.notesFound documents
  | .assignNotes lnotes, _ => vc.assignNotes lnotes
  | _, _ => .skip vc

/-- **What the callbacks do.** They take over entries, count a note, run a block, find notes, or
leave the lists and the calls alone and ask for entries or notes at most. -/
lemma recv_cases (vc : ViewNotesViewController) (q : NotesListRequest) (a : NotesListAnswer) :
    (∃ uid documents, q = .purchasedNotes uid ∧ vc.recv q a = vc.entriesFound documents) ∨
    (∃ call entry data, q = .getDocument call entry ∧
      vc.recv q a = vc.gotDocument call entry data) ∨
    (∃ call, q = .complition call ∧ vc.recv q a = vc.runComplition call) ∨
    (∃ documents, q = .loadNotes ∧ a = .notes documents ∧
      vc.recv q a = vc.notesFound documents) ∨
    (∃ lnotes, q = .assignNotes lnotes ∧ vc.recv q a = vc.assignNotes lnotes) ∨
    (((∃ uid, q = .loadUserReference uid) ∨ (∃ uid, q = .purchasedNotes uid) ∨
        q = .loadNotes ∧ ∀ documents, a ≠ .notes documents) ∧
      (vc.recv q a = .skip vc ∨ (∃ id, vc.recv q a = ⟨vc, [.purchasedNotes id], []⟩) ∨
        vc.recv q a = vc.loadNotes)) := by
  cases q with
  | loadUserReference uid =>
    right; right; right; right; right
    refine ⟨Or.inl ⟨uid, rfl⟩, ?_⟩
    cases a with
    | users documents =>
      simp only [recv, userFound]
      cases documents.head? with
      | none => exact Or.inl rfl
      | some user => exact Or.inr (Or.inl ⟨user.documentID, rfl⟩)
    | _ => exact Or.inl rfl
  | purchasedNotes uid =>
    cases a with
    | entries documents => exact Or.inl ⟨uid, documents, rfl, rfl⟩
    | error =>
      exact Or.inr (Or.inr (Or.inr (Or.inr (Or.inr
        ⟨Or.inr (Or.inl ⟨uid, rfl⟩), Or.inl rfl⟩))))
    | _ =>
      exact Or.inr (Or.inr (Or.inr (Or.inr (Or.inr
        ⟨Or.inr (Or.inl ⟨uid, rfl⟩), Or.inr (Or.inr rfl)⟩))))
  | getDocument call entry =>
    right; left
    cases a with
    | document data => exact ⟨call, entry, data, rfl, rfl⟩
    | _ => exact ⟨call, entry, none, rfl, rfl⟩
  | complition call => exact Or.inr (Or.inr (Or.inl ⟨call, rfl, rfl⟩))
  | loadNotes =>
    cases a with
    | notes documents => exact Or.inr (Or.inr (Or.inr (Or.inl ⟨documents, rfl, rfl, rfl⟩)))
    | _ =>
      exact Or.inr (Or.inr (Or.inr (Or.inr (Or.inr
        ⟨Or.inr (Or.inr ⟨rfl, by simp⟩), Or.inl rfl⟩))))
  | assignNotes lnotes =>
    exact Or.inr (Or.inr (Or.inr (Or.inr (Or.inl ⟨lnotes, rfl, rfl⟩))))

end ViewNotesViewController

/-- Any number of lists of notes. The environment chooses the answers. -/
def notesListSystem : AsyncSystem Unit ViewNotesViewController (Option String) NotesListTap
    NotesListRequest NotesListAnswer NotesListAnswer Unit NotesListEffect where
  boot := ViewNotesViewController.viewDidLoad
  ui := fun vc u => some (vc.ui u)
  serve := fun s _ a => ⟨s, a, []⟩
  recv := fun vc q a _ => vc.recv q a

/-- The states of the system. -/
abbrev NotesListWorld :=
  AsyncSystem.World Unit ViewNotesViewController NotesListRequest NotesListAnswer
    NotesListEffect

/-- What can happen in it. -/
abbrev NotesListEvent := AsyncSystem.Event (Option String) NotesListTap NotesListAnswer Unit

end Aoun
