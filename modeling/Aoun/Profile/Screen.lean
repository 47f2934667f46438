import Aoun.Lib.Async
import Aoun.Loaders

/-!
# The profiles

`ProfileDetailViewController` shows a user the notes and the resources that they have posted. A row
opens `deleteNote` or `deleteResViewController`, which delete the document after an alert.
`OtherUserProfile` is the same screen for another user: its rows of notes open the detail screen of
`Aoun.Note.Screen` instead, but its rows of resources are those of the class that it inherits from.

A table shows the rows that it had when it was reloaded last. The workshops of a profile, its name
and balance, downloads and what the screens only show are left out; so is posting, which makes new
documents only.

## Main definitions

* `Aoun.ProfileServer` — the collections `users`, `Notes` and `Resources`.
* `Aoun.ProfileScreen` — a profile, one's own or another's, with what it has presented.
* `Aoun.profileSystem` — any number of profiles of any users over one server.
-/

set_option relaxedAutoImplicit false
set_option autoImplicit false

namespace Aoun

/-! ## The server -/

/-- A document of `Notes`. -/
structure NoteDoc where
  documentID : String
  data : NoteData

/-- A document of `Resources`. -/
structure ResourceDoc where
  documentID : String
  uid : String
  data : ResourceData

/-- The collections. -/
structure ProfileServer where
  users : UsersCollection
  Notes : List NoteDoc
  Resources : List ResourceDoc
  notes_nodup : (Notes.map (·.documentID)).Nodup
  resources_nodup : (Resources.map (·.documentID)).Nodup

/-- What the profiles ask of Firestore. A deletion carries the number of the details that ask for
it. -/
inductive ProfileRequest
  /-- The query of `getName(completion:)`. -/
  | getName (thisUserId : String)
  /-- The query of `loadNotes(user:noDataMessage:)`. -/
  | loadNotes (uid noDataMessage : String)
  /-- The query of `loadResources(user:noDataMessage:)`. -/
  | loadResources (uid noDataMessage : String)
  /-- `delete(note:)`. -/
  | deleteNote (documentId : String) (vc : ℕ)
  /-- `delete(resource:)`. -/
  | deleteRes (documentId : String) (vc : ℕ)
  deriving DecidableEq

/-- The answers. -/
inductive ProfileAnswer
  | users (documents : List UserDoc)
  | notes (documents : List (String × NoteData))
  | resources (documents : List (String × ResourceData))
  | deleted
  | error

/-- The history records the deletions that are asked for, and those that are carried out. -/
inductive ProfileEffect
  | deletesNote (documentId : String)
  | deletesRes (documentId : String)
  | deletedNote (documentId : String)
  | deletedRes (documentId : String)
  deriving DecidableEq

namespace ProfileServer

variable (s : ProfileServer)

/-- `delete` of the note `documentId`. -/
def deleteNote (documentId : String) : ProfileServer :=
  { s with
    Notes := s.Notes.filter fun d => d.documentID ≠ documentId
    notes_nodup := s.notes_nodup.sublist (List.filter_sublist.map _) }

/-- `delete` of the resource `documentId`. -/
def deleteRes (documentId : String) : ProfileServer :=
  { s with
    Resources := s.Resources.filter fun d => d.documentID ≠ documentId
    resources_nodup := s.resources_nodup.sublist (List.filter_sublist.map _) }

/-- How the server handles a request that succeeds, or fails. -/
def serve (q : ProfileRequest) (success : Bool) :
    Served ProfileServer ProfileAnswer ProfileEffect :=
  match q, success with
  | _, false => ⟨s, .error, []⟩
  | .getName thisUserId, true => ⟨s, .users (s.users.withUid thisUserId), []⟩
  | .loadNotes uid _, true =>
    ⟨s, .notes ((s.Notes.filter fun d => d.data.uid = some uid).map fun d =>
      (d.documentID, d.data)), []⟩
  | .loadResources uid _, true =>
    ⟨s, .resources ((s.Resources.filter fun d => d.uid = uid).map fun d =>
      (d.documentID, d.data)), []⟩
  | .deleteNote documentId _, true =>
    ⟨s.deleteNote documentId, .deleted, [.deletedNote documentId]⟩
  | .deleteRes documentId _, true =>
    ⟨s.deleteRes documentId, .deleted, [.deletedRes documentId]⟩

end ProfileServer

/-! ## The screens -/

/-- What a profile has presented. -/
inductive ProfilePresented
  /-- `deleteNote`, with or without its alert. -/
  | deleteNote (note : NoteFile) (alert : Bool)
  /-- `deleteResViewController`, with or without its alert. -/
  | deleteRes (resource : resFile) (alert : Bool)
  /-- `detailedNoteViewController`. -/
  | detailedNote (note : NoteFile)
  deriving DecidableEq

/-- `ProfileDetailViewController`, with its subclass `OtherUserProfile`. -/
structure ProfileScreen where
  /-- The screen is an `OtherUserProfile`. -/
  other : Bool
  currentUser : Option String
  user : Option User
  lists : ProfileDetailViewController
  /-- The rows that `notesTable` shows. -/
  noteRows : ℕ
  /-- The rows that `resTable` shows. -/
  resRows : ℕ
  presented : Option ProfilePresented
  /-- The number of details presented so far. -/
  details : ℕ
  /-- The program has stopped at a forced unwrapping or an index out of range. -/
  trapped : Bool
  deriving DecidableEq

/-- What the user can do. -/
inductive ProfileTap
  /-- `tableView(_:didSelectRowAt:)` of `notesTable`. -/
  | selectNote (row : ℕ)
  /-- `tableView(_:didSelectRowAt:)` of `resTable`. -/
  | selectRes (row : ℕ)
  /-- `deleteNote(_:)` or `deleteRes(_:)` of the details. -/
  | delete
  /-- "Delete" or "Cancel" in the alert. -/
  | answerAlert (delete : Bool)
  /-- What is presented is closed. -/
  | close
  /-- `editView(editVC:profile:updated:)`, when the profile has been edited. -/
  | editView
  deriving DecidableEq

/-- A reaction of a profile. -/
abbrev ProfileReaction := Reaction ProfileScreen ProfileRequest ProfileEffect

namespace ProfileScreen

variable (vc : ProfileScreen)

/-- The program stops. -/
def trap : ProfileReaction := .skip { vc with trapped := true }

/-- `loadNotes(user:noDataMessage:)`. -/
def loadNotes (user : User)
    (noDataMessage : String := "You haven’t posted any notes yet") : ProfileReaction :=
  ⟨{ vc with lists := { vc.lists with notes := [] } }, [.loadNotes user.uid noDataMessage], []⟩

/-- `loadResources(user:noDataMessage:)`. -/
def loadResources (user : User)
    (noDataMessage : String := "You haven’t posted any resources yet") : ProfileReaction :=
  ⟨{ vc with lists := { vc.lists with resources := [] } },
    [.loadResources user.uid noDataMessage], []⟩

/-- The completion of the query of `loadNotes(user:noDataMessage:)`, which reloads the table. -/
def notesFound (noDataMessage : String) (documents : List (String × NoteData)) : ProfileScreen :=
  let lists := vc.lists.notesFound noDataMessage documents
  { vc with lists := lists, noteRows := lists.notes.length }

/-- The completion of the query of `loadResources(user:noDataMessage:)`, which reloads the table
for each resource, or if there are no documents. -/
def resourcesFound (noDataMessage : String) (documents : List (String × ResourceData)) :
    ProfileScreen :=
  let lists := vc.lists.resourcesFound noDataMessage documents
  let reloads := documents = [] ∨
    documents.filterMap (fun doc => ProfileDetailViewController.resource doc.2 doc.1) ≠ []
  { vc with lists := lists, resRows := if reloads then lists.resources.length else vc.resRows }

/-- `getName(completion:)`, which `OtherUserProfile` overrides. -/
def getName : ProfileReaction :=
  if vc.other then
    match vc.user with
    | none => vc.trap
    | some _ => .skip vc
  else
    match vc.currentUser with
    | none => .skip vc
    | some thisUserId => ⟨vc, [.getName thisUserId], []⟩

/-- The completion of the users query of `getName(completion:)`. -/
def nameFound (thisUserId : String) (documents : List UserDoc) : ProfileReaction :=
  match documents.getLast? with
  | none => .skip vc
  | some userData =>
    let firstname := userData.FirstName.getD ""
    let lastName := userData.LastName.getD ""
    let user : User := ⟨firstname, lastName, thisUserId, some userData.documentID⟩
    ({ vc with user := some user }.loadNotes user).next fun vc => vc.loadResources user

/-- `viewDidLoad()` of one's own profile, for the signed-in user `currentUser`. -/
def viewDidLoad (currentUser : Option String) : ProfileReaction :=
  getName { other := false, currentUser := currentUser, user := none,
            lists := { notes := [], resources := [], notesHeader := none, resHeader := none },
            noteRows := 0, resRows := 0, presented := none, details := 0, trapped := false }

/-- `viewDidLoad()` of the profile of `user`, which `OtherUserProfile` overrides. -/
def viewDidLoadOther (user : User) (currentUser : Option String) : ProfileReaction :=
  ((getName { other := true, currentUser := currentUser, user := some user,
              lists := { notes := [], resources := [], notesHeader := none, resHeader := none },
              noteRows := 0, resRows := 0, presented := none, details := 0, trapped := false }).next
    fun vc => vc.loadNotes user "No Notes.").next fun vc => vc.loadResources user "No Resourses."

/-- `present(_:animated:)`. -/
def present (p : ProfilePresented) : ProfileScreen :=
  { vc with presented := some p, details := vc.details + 1 }

/-- `tableView(_:didSelectRowAt:)` of `notesTable`, which `OtherUserProfile` overrides. -/
def selectNote (row : ℕ) : ProfileReaction :=
  match vc.lists.notes[row]? with
  | none => vc.trap
  | some note =>
    .skip (vc.present (if vc.other then .detailedNote note else .deleteNote note false))

/-- `tableView(_:didSelectRowAt:)` of `resTable`, which `OtherUserProfile` inherits. -/
def selectRes (row : ℕ) : ProfileReaction :=
  match vc.lists.resources[row]? with
  | none => vc.trap
  | some res => .skip (vc.present (.deleteRes res false))

/-- `delete(note:)` of the details. -/
def deleteNote (note : NoteFile) : ProfileReaction :=
  match note.documentId with
  | none => vc.trap
  | some documentId => ⟨vc, [.deleteNote documentId vc.details], [.deletesNote documentId]⟩

/-- `delete(resource:)` of the details. -/
def deleteRes (resource : resFile) : ProfileReaction :=
  match resource.documentId with
  | none => vc.trap
  | some documentId => ⟨vc, [.deleteRes documentId vc.details], [.deletesRes documentId]⟩

/-- `dismiss(animated:)` of the details with the number `details`: it takes away their alert if it
is presented, and the details if not. -/
def dismiss (details : ℕ) : ProfileScreen :=
  if vc.details = details then
    { vc with
      presented := match vc.presented with
        | some (.deleteNote note true) => some (.deleteNote note false)
        | some (.deleteRes resource true) => some (.deleteRes resource false)
        | _ => none }
  else vc

/-- `delAt(index:)`. -/
def delAt : ProfileReaction :=
  match vc.user with
  | none => vc.trap
  | some user => vc.loadNotes user

/-- `resource(_:deletedAt:)`. -/
def resourceDeleted : ProfileReaction :=
  match vc.user with
  | none => vc.trap
  | some user => vc.loadResources user

/-- The reactions to the user. -/
def ui (u : ProfileTap) : Option ProfileReaction :=
  if vc.trapped then none
  else
    match u, vc.presented with
    | .selectNote row, none => if row < vc.noteRows then some (vc.selectNote row) else none
    | .selectRes row, none => if row < vc.resRows then some (vc.selectRes row) else none
    | .editView, none => if vc.other then none else some vc.getName
    | .delete, some (.deleteNote note false) =>
      some (.skip { vc with presented := some (.deleteNote note true) })
    | .delete, some (.deleteRes resource false) =>
      some (.skip { vc with presented := some (.deleteRes resource true) })
    | .answerAlert delete, some (.deleteNote note true) =>
      let vc := { vc with presented := some (.deleteNote note false) }
      some (if delete then vc.deleteNote note else .skip vc)
    | .answerAlert delete, some (.deleteRes resource true) =>
      let vc := { vc with presented := some (.deleteRes resource false) }
      some (if delete then vc.deleteRes resource else .skip vc)
    | .close, some (.deleteNote _ false) => some (.skip { vc with presented := none })
    | .close, some (.deleteRes _ false) => some (.skip { vc with presented := none })
    | .close, some (.detailedNote _) => some (.skip { vc with presented := none })
    | _, _ => none

/-- The completions of a program that has not stopped. -/
def callback : ProfileRequest → ProfileAnswer → ProfileReaction
  | .getName thisUserId, .users documents => vc.nameFound thisUserId documents
  | .getName _, _ => .skip vc
  | .loadNotes _ noDataMessage, .notes documents => .skip (vc.notesFound noDataMessage documents)
  | .loadNotes _ noDataMessage, _ => .skip (vc.notesFound noDataMessage [])
  | .loadResources _ noDataMessage, .resources documents =>
    .skip (vc.resourcesFound noDataMessage documents)
  | .loadResources _ noDataMessage, _ => .skip (vc.resourcesFound noDataMessage [])
  | .deleteNote _ details, .deleted => (vc.dismiss details).delAt
  | .deleteRes _ details, .deleted => (vc.dismiss details).resourceDeleted
  | _, _ => .skip vc

/-- The completions. -/
def recv (q : ProfileRequest) (a : ProfileAnswer) : ProfileReaction :=
  if vc.trapped then .skip vc else vc.callback q a

end ProfileScreen

/-- How a profile is opened: one's own, or that of another user. -/
inductive ProfileOpened
  | own (currentUser : Option String)
  | other (user : User) (currentUser : Option String)

/-- Any number of profiles over one server. -/
def profileSystem : AsyncSystem ProfileServer ProfileScreen ProfileOpened ProfileTap ProfileRequest
    Bool ProfileAnswer Unit ProfileEffect where
  boot := fun
    | .own currentUser => ProfileScreen.viewDidLoad currentUser
    | .other user currentUser => ProfileScreen.viewDidLoadOther user currentUser
  ui := ProfileScreen.ui
  serve := ProfileServer.serve
  recv := fun vc q a _ => vc.recv q a

/-- The states of the system of profiles. -/
abbrev ProfileWorld :=
  AsyncSystem.World ProfileServer ProfileScreen ProfileRequest ProfileAnswer ProfileEffect

/-- What can happen in it. -/
abbrev ProfileEvent := AsyncSystem.Event ProfileOpened ProfileTap Bool Unit

end Aoun
