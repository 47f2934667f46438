import Mathlib.Data.List.Basic
import Mathlib.Logic.Function.Basic
import Aoun.Lib.Async
import Aoun.Records
import Aoun.Text

/-!
# Posting files

`PostNoteViewController` and `resPostViewController`, the two forms that upload a file to
Firebase Storage and store a document with its download URL, and `DownloadManager`, which
fetches the file again. Storage addresses an object by its path, and a new upload replaces the
object there. A download URL, as `downloadURL` gives it and `reference(forURL:)` reads it, is a
parameter.

The two forms differ in their checks and texts, and in that the one for notes stores no
document without a signed-in user. Characters are counted as `Char`s.

## Main definitions

* `Aoun.FilesServer` — Storage and the collections `Notes` and `Resources`.
* `Aoun.FileForm`, `Aoun.PostViewController` — the forms, with their methods.
* `Aoun.DownloadManager.download` — the download.
* `Aoun.filesSystem` — any number of forms over one server.

## Main results

* `Aoun.Upload.Plain.path_eq_iff` — when two submissions upload to the same path.
-/

set_option relaxedAutoImplicit false
set_option autoImplicit false

namespace Aoun

/-- The contents of a file. -/
abbrev FileData := List UInt8

/-! ## The forms -/

/-- What is filled in. -/
inductive FileForm
  /-- The texts of `PostNoteViewController`, and whether its price switch is on. -/
  | note (noteTitle auther description price : String) (priceSwitch : Bool)
  /-- The texts of `resPostViewController`. -/
  | resource (name author publisher desc : String)
  deriving DecidableEq

/-- The checks of `PostNoteViewController.submitButton(_:)`: the text of the label `error`,
which was `error` before, and whether the file is uploaded. -/
def PostNoteViewController.check (noteTitle auther description price : String)
    (priceSwitch : Bool) (files : List String) (error : String) : String × Bool :=
  let error :=
    if trimmed noteTitle = "" then "Please fill in note title"
    else if trimmed auther = "" then "Please fill in author name"
    else if trimmed description = "*Description" then "Please fill in the description"
    else error
  let error :=
    if noteTitle = "" ∧ auther = "" ∧ description = "*Description" then
      "Please fill in all missing fields"
    else error
  if noteTitle = "" ∨ auther = "" ∨ description = "*Description" then (error, false)
  else if priceSwitch ∧ price = "" then ("Please fill in the price", false)
  else if files = [] ∨ description = "" then ("Please attach file", false)
  else if (trimmed noteTitle).length < 4 then
    ("Note Title must be more than 3 characters.", false)
  else if (trimmed auther).length < 4 then
    ("Aurhor Name must be more than 3 characters.", false)
  else if (trimmed description).length < 11 then
    ("Description must be more than 10 characters.", false)
  else ("", true)

/-- The checks of `resPostViewController.submit(_:)`: the text of the label `msg`, which was
`msg` before, and whether the file is uploaded. -/
def resPostViewController.check (resource author publisher : String) (files : List String)
    (msg : String) : String × Bool :=
  let msg :=
    if trimmed resource = "" then "Please fill in resource name."
    else if trimmed author = "" then "Please fill in author name."
    else if trimmed publisher = "" then "Please fill in publisher name."
    else msg
  let msg :=
    if trimmed resource = "" ∧ trimmed author = "" ∧ trimmed publisher = "" then
      "Please fill in all missing fields."
    else msg
  if trimmed resource = "" ∨ trimmed author = "" ∨ trimmed publisher = "" then (msg, false)
  else if (trimmed resource).length < 4 then
    ("Resource name must be more than 3 characters.", false)
  else if (trimmed author).length < 4 then
    ("Author name must be more than 3 characters.", false)
  else if (trimmed publisher).length < 4 then
    ("Publisher name must be more than 3 characters.", false)
  else if files = [] then ("Please attach file", false)
  else ("", true)

namespace FileForm

/-- The collection that the form posts to, which is also the folder of its files. -/
def collection : FileForm → String
  | .note .. => "Notes"
  | .resource .. => "Resources"

/-- The checks of a form. -/
def check (files : List String) (error : String) : FileForm → String × Bool
  | .note noteTitle auther description price priceSwitch =>
    PostNoteViewController.check noteTitle auther description price priceSwitch files error
  | .resource name author publisher _ =>
    resPostViewController.check name author publisher files error

/-- The text for a file that could not be uploaded. -/
def uploadError : FileForm → String
  | .note .. => "File couldn't be uploaded"
  | .resource .. => "File couldn't be uploaded."

end FileForm

/-! ## The server -/

/-- A document that `createDocument(with:)` stores. -/
inductive FileDocument
  /-- A document of `Notes`. -/
  | note (noteTitle autherName briefDescription price : String) (url : URL) (uid : String)
    (createDate : Timestamp)
  /-- A document of `Resources`. -/
  | resource (ResName authorName pubName desc : String) (url : URL) (uid : Option String)
    (createDate : Timestamp)
  deriving DecidableEq

/-- The URL of the file. -/
def FileDocument.url : FileDocument → URL
  | .note _ _ _ _ url _ _ => url
  | .resource _ _ _ _ url _ _ => url

/-- What a submission uploads, and where. -/
structure Upload where
  collection : String
  uid : String
  filename : String
  data : FileData
  deriving DecidableEq

/-- The path in Storage. -/
def Upload.path (upload : Upload) : String :=
  upload.collection ++ "/" ++ upload.uid ++ "/" ++ upload.filename

/-- The objects of Storage by their paths, and the documents of `Notes` and `Resources`, each
with the upload of its own submission. -/
structure FilesServer where
  objects : String → Option FileData
  documents : List (FileDocument × Upload)

/-- What the forms ask of Storage and Firestore. A request after the upload carries the
upload, for the collections. -/
inductive FilesRequest
  | putData (upload : Upload)
  | downloadURL (upload : Upload)
  | setData (document : FileDocument) (upload : Upload)
  deriving DecidableEq

/-- The answers. -/
inductive FilesAnswer
  | metadata
  | url (url : URL)
  | written
  | error (localizedDescription : String)
  | neither
  deriving DecidableEq

/-- The answer to `downloadURL`: there is a URL if there is an object. -/
def FilesServer.urlAnswer (downloadURL : String → URL) (s : FilesServer) (path : String) :
    FilesAnswer :=
  match s.objects path with
  | some _ => .url (downloadURL path)
  | none => .error ""

/-- How the server handles a request, where `downloadURL` gives the URL of a path. -/
def FilesServer.serve (downloadURL : String → URL) (s : FilesServer) :
    FilesRequest → Outcome → Served FilesServer FilesAnswer Empty
  | _, .failure e => ⟨s, .error e, []⟩
  | _, .neither => ⟨s, .neither, []⟩
  | .putData upload, .success =>
    ⟨{ s with objects := Function.update s.objects upload.path (some upload.data) },
      .metadata, []⟩
  | .downloadURL upload, .success => ⟨s, s.urlAnswer downloadURL upload.path, []⟩
  | .setData document upload, .success =>
    ⟨{ s with documents := s.documents ++ [(document, upload)] }, .written, []⟩

/-! ## The download -/

/-- The size that `getData(maxSize:)` is called with. -/
def DownloadManager.maxSize : ℕ := 12 * 1024 * 1024

/-- What `DownloadManager.download(url:completion:)` yields, where `reference` gives the path
that a URL addresses. -/
def DownloadManager.download (reference : URL → String) (s : FilesServer) (url : URL) :
    Option FileData :=
  (s.objects (reference url)).filter fun data => data.length ≤ maxSize

/-! ## The screen -/

/-- The screen of a form, for the signed-in user `currentUser`. -/
structure PostViewController where
  form : FileForm
  currentUser : Option String
  /-- The last path components of the picked files. -/
  files : List String
  documentFileData : Option FileData
  /-- The text of the label `error`, or `msg`. -/
  error : String
  /-- The alert "Posted" is presented. -/
  alert : Bool
  dismissed : Bool
  /-- The program has stopped at a forced unwrapping. -/
  trapped : Bool

/-- What the user can do. -/
inductive PostTap
  /-- Filling in the form. -/
  | edit (form : FileForm)
  /-- The document picker ends; `document` is what could be read of the last file, if that is
  `accessible`. -/
  | documentPicker (urls : List String) (accessible : Bool) (document : Option FileData)
  | submit
  /-- "Ok" in the alert. -/
  | ok

/-- A reaction of the screen. -/
abbrev PostReaction := Reaction PostViewController FilesRequest Empty

namespace PostViewController

variable (vc : PostViewController)

/-- `documentPicker(_:didPickDocumentsAt:)`. A file that cannot be read leaves the data. -/
def documentPicker (urls : List String) (accessible : Bool) (document : Option FileData) :
    PostViewController :=
  if urls = [] ∨ accessible = false then vc
  else { vc with files := urls, documentFileData := document.or vc.documentFileData }

/-- The upload of `submitButton(_:)` and `submit(_:)`, which unwraps the data by force. -/
def putData : PostReaction :=
  match vc.documentFileData with
  | none => .skip { vc with trapped := true }
  | some data =>
    let filename := vc.files.getLast?.getD ""
    let uid := vc.currentUser.getD ""
    ⟨vc, [.putData ⟨vc.form.collection, uid, filename, data⟩], []⟩

/-- `submitButton(_:)` and `submit(_:)`. -/
def submit : PostReaction :=
  let checked := vc.form.check vc.files vc.error
  let vc := { vc with error := checked.1 }
  if checked.2 then vc.putData else .skip vc

/-- The upload has failed. -/
def uploadFailed : PostReaction := .skip { vc with error := vc.form.uploadError }

/-- `createDocument(with:)` of both screens; the one for notes needs a signed-in user. -/
def createDocument (url : URL) (upload : Upload) (createDate : Timestamp) : PostReaction :=
  match vc.form with
  | .note noteTitle auther description price _ =>
    match vc.currentUser with
    | none => .skip vc
    | some userId =>
      ⟨vc, [.setData (.note noteTitle auther description price url userId createDate) upload],
        []⟩
  | .resource name author publisher desc =>
    ⟨vc, [.setData (.resource name author publisher desc url vc.currentUser createDate) upload],
      []⟩

/-- The screen takes touches. -/
def Tappable : Prop := vc.trapped = false ∧ vc.dismissed = false ∧ vc.alert = false

instance : Decidable vc.Tappable := inferInstanceAs (Decidable (_ ∧ _ ∧ _))

/-- The reactions to the user. -/
def ui : PostTap → Option PostReaction
  | .edit form =>
    if vc.Tappable ∧ form.collection = vc.form.collection then
      some (.skip { vc with form := form })
    else none
  | .documentPicker urls accessible document =>
    if vc.Tappable then some (.skip (vc.documentPicker urls accessible document)) else none
  | .submit => if vc.Tappable then some vc.submit else none
  | .ok =>
    if vc.trapped = false ∧ vc.alert = true then
      some (.skip { vc with alert := false, dismissed := true })
    else none

/-- The callbacks of a program that has not stopped. After an error of the write the screen
that has presented the form dismisses it. -/
def callback : FilesRequest → FilesAnswer → Timestamp → PostReaction
  | .putData upload, .metadata, _ => ⟨vc, [.downloadURL upload], []⟩
  | .putData _, _, _ => vc.uploadFailed
  | .downloadURL upload, .url url, now => vc.createDocument url upload now
  | .downloadURL _, _, _ => .skip vc
  | .setData _ _, .error _, _ => .skip { vc with dismissed := true }
  | .setData _ _, _, _ => .skip { vc with alert := true }

/-- The callbacks. -/
def recv (q : FilesRequest) (a : FilesAnswer) (now : Timestamp) : PostReaction :=
  if vc.trapped then .skip vc else vc.callback q a now

end PostViewController

/-- Any number of forms, of any users, over one server. -/
def filesSystem (downloadURL : String → URL) :
    AsyncSystem FilesServer PostViewController (FileForm × Option String) PostTap FilesRequest
      Outcome FilesAnswer Timestamp Empty where
  boot := fun a => .skip
    { form := a.1, currentUser := a.2, files := [], documentFileData := none, error := "",
      alert := false, dismissed := false, trapped := false }
  ui := PostViewController.ui
  serve := FilesServer.serve downloadURL
  recv := PostViewController.recv

/-- The states of the system of forms. -/
abbrev FilesWorld :=
  AsyncSystem.World FilesServer PostViewController FilesRequest FilesAnswer Empty

/-- What can happen in it. -/
abbrev FilesEvent := AsyncSystem.Event (FileForm × Option String) PostTap Outcome Timestamp

/-! ## The paths -/

/-- What stands before the first slash, and what stands after it. -/
lemma append_slash_inj {l l' r r' : List Char} (hl : '/' ∉ l) (hl' : '/' ∉ l') :
    l ++ '/' :: r = l' ++ '/' :: r' ↔ l = l' ∧ r = r' := by
  induction l generalizing l' with
  | nil =>
    cases l' with
    | nil => simp
    | cons c l' =>
      have hc : '/' ≠ c := fun h => hl' (h ▸ List.mem_cons_self)
      simp [hc]
  | cons c l ih =>
    have hc : '/' ≠ c := fun h => hl (h ▸ List.mem_cons_self)
    cases l' with
    | nil => simp [hc.symm]
    | cons c' l' =>
      have hl := fun h => hl (List.mem_cons_of_mem c h)
      have hl' := fun h => hl' (List.mem_cons_of_mem c' h)
      rw [List.cons_append, List.cons_append, List.cons.injEq, ih hl hl', List.cons.injEq,
        and_assoc]

/-- The parts of the path before the file name have no slash. -/
structure Upload.Plain (upload : Upload) : Prop where
  collection : '/' ∉ upload.collection.toList
  uid : '/' ∉ upload.uid.toList

/-- Two submissions upload to the same path exactly when they post to the same collection, for
the same user and under the same file name. -/
theorem Upload.Plain.path_eq_iff {upload upload' : Upload} (h : upload.Plain) (h' : upload'.Plain) :
    upload.path = upload'.path ↔ upload.collection = upload'.collection ∧
      upload.uid = upload'.uid ∧ upload.filename = upload'.filename := by
  have htoList : ∀ u : Upload, u.path.toList =
      u.collection.toList ++ '/' :: (u.uid.toList ++ '/' :: u.filename.toList) := by
    intro u
    simp [Upload.path]
  rw [← String.toList_inj, htoList, htoList, append_slash_inj h.collection h'.collection,
    append_slash_inj h.uid h'.uid, String.toList_inj, String.toList_inj, String.toList_inj]

end Aoun
