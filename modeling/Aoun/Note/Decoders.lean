import Aoun.Files.Post
import Aoun.Note.Invariant

/-!
# The two decoders of a note

`ViewNotesViewController` and `ProfileDetailViewController` each decode the documents of
`Notes` for their lists, and open the same detail screen with what they decode. Both accept
every document that the form for notes stores. They never agree: the profile leaves the seller
out, and gives the empty text for the id under which reviews are posted.

## Main definitions

* `Aoun.FileDocument.noteData` — the data of a document of `Notes`.
* `Aoun.NoteFile.Agree`, `Aoun.DecodersAgree` — agreement in the fields of the detail screen.
* `Aoun.PostReview.reviews` — where a review is posted.

## Main results

* `Aoun.decoders_differ` — how the two notes decoded from a stored document differ.
* `Aoun.decoders_never_agree` — they agree on no stored document.
* `Aoun.profile_not_credited` — no sale from a profile is credited to the seller.
-/

set_option relaxedAutoImplicit false
set_option autoImplicit false

namespace Aoun

open AsyncSystem StepSystem PostViewController

/-- The data of a document of `Notes`, with the keys that `createDocument(with:)` writes. -/
def FileDocument.noteData : FileDocument → Option NoteData
  | .note noteTitle autherName briefDescription price url uid createDate =>
    some ⟨some noteTitle, some autherName, some briefDescription, some price, some url,
      some uid, some createDate⟩
  | .resource .. => none

/-- Two notes agree in every field that the detail and review screens use. -/
structure NoteFile.Agree (n n' : NoteFile) : Prop where
  id : n.id = n'.id
  noteLable : n.noteLable = n'.noteLable
  autherName : n.autherName = n'.autherName
  desc : n.desc = n'.desc
  price : n.price = n'.price
  urlString : n.urlString = n'.urlString
  createDate : n.createDate = n'.createDate
  userId : n.userId = n'.userId
  docID : n.docID = n'.docID

/-- Both lists accept the document, as notes that agree. -/
def DecodersAgree (data : NoteData) (documentID : String) : Prop :=
  ∃ n n', ViewNotesViewController.note data documentID = some n ∧
    ProfileDetailViewController.note data documentID = some n' ∧ n.Agree n'

/-- Where `PostReview.postReview(_:)` adds its review, `Notes/⟨docID⟩/reviews`. Firestore stops
the program when the id is empty. -/
def PostReview.reviews (note : NoteFile) : Option (List String) :=
  if note.docID = "" then none else some ["Notes", note.docID, "reviews"]

variable {vc : PostViewController} {url : URL} {upload upload' : Upload} {now : Timestamp}
  {document : FileDocument} {data : NoteData}

/-- What the form for notes stores has every key, with the signed-in user as the author. -/
lemma noteData_of_createDocument
    (hq : .setData document upload' ∈ (vc.createDocument url upload now).requests)
    (hdata : document.noteData = some data) :
    ∃ noteTitle autherName briefDescription price uid, vc.currentUser = some uid ∧
      data = ⟨some noteTitle, some autherName, some briefDescription, some price, some url,
        some uid, some now⟩ := by
  unfold createDocument at hq
  split at hq
  case h_1 noteTitle auther description price priceSwitch hform =>
    split at hq
    case h_1 => simp at hq
    case h_2 userId huser =>
      obtain ⟨rfl, rfl⟩ : document = _ ∧ upload' = _ := by simpa using hq
      exact ⟨noteTitle, auther, description, price, userId, huser, (Option.some.inj hdata).symm⟩
  case h_2 =>
    obtain ⟨rfl, rfl⟩ : document = _ ∧ upload' = _ := by simpa using hq
    cases hdata

/-- **How the decoders differ.** Both accept what the form for notes stores, and the note of
the profile is the other one with the document's id in `documentId`, without the seller and
with an empty `docID`. -/
theorem decoders_differ
    (hq : .setData document upload' ∈ (vc.createDocument url upload now).requests)
    (hdata : document.noteData = some data) (documentID : String) :
    ∃ n, ViewNotesViewController.note data documentID = some n ∧
      n.userId = vc.currentUser ∧ n.docID = documentID ∧
      ProfileDetailViewController.note data documentID =
        some { n with documentId := some documentID, userId := none, docID := "" } := by
  obtain ⟨noteTitle, autherName, desc, price, uid, huser, rfl⟩ :=
    noteData_of_createDocument hq hdata
  refine ⟨_, rfl, ?_, rfl, rfl⟩
  exact huser.symm

/-- **The decoders never agree.** They agree on no document that `createDocument(with:)`
stores in `Notes`.

**Proof sketch.** The stored document names the signed-in user as the author, and only one of
the two notes has an author (`decoders_differ`). -/
theorem decoders_never_agree
    (hq : .setData document upload' ∈ (vc.createDocument url upload now).requests)
    (hdata : document.noteData = some data) (documentID : String) :
    ¬ DecodersAgree data documentID := by
  rintro ⟨n, n', hn, hn', hagree⟩
  obtain ⟨noteTitle, autherName, desc, price, uid, huser, rfl⟩ :=
    noteData_of_createDocument hq hdata
  have huid : n.userId = some uid := by rw [← Option.some.inj hn]
  have hnone : n'.userId = none := by rw [← Option.some.inj hn']
  have hsame := hagree.userId
  rw [huid, hnone] at hsame
  cases hsame

/-- Sara's form for a note at 5 SAR, about to be stored. -/
def saraForm : PostViewController where
  form := .note "Logic" "Sara" "Lecture notes" "5" true
  currentUser := some "sara"
  files := ["logic.pdf"]
  documentFileData := some []
  error := ""
  alert := false
  dismissed := false
  trapped := false

/-- The upload of her file. -/
def saraUpload : Upload := ⟨"Notes", "sara", "logic.pdf", []⟩

/-- What her form stores. -/
def saraDocument : FileDocument := .note "Logic" "Sara" "Lecture notes" "5" "u" "sara" 7

/-- The data of her document. -/
def saraData : NoteData :=
  ⟨some "Logic", some "Sara", some "Lecture notes", some "5", some "u", some "sara", some 7⟩

/-- The decoders do not agree on Sara's note. -/
theorem decoders_never_agree_sara :
    .setData saraDocument saraUpload ∈ (saraForm.createDocument "u" saraUpload 7).requests ∧
      saraDocument.noteData = some saraData ∧ ¬ DecodersAgree saraData "n" := by
  have hq : .setData saraDocument saraUpload ∈
      (saraForm.createDocument "u" saraUpload 7).requests := by decide
  exact ⟨hq, rfl, decoders_never_agree hq rfl "n"⟩

/-- Both lists accept Sara's note. In the notes list she is its seller and its reviews have a
place; on her profile the note has no seller, and a review stops the program. -/
theorem decoders_disagree : ∃ data documentID n n',
    .setData saraDocument saraUpload ∈ (saraForm.createDocument "u" saraUpload 7).requests ∧
      saraDocument.noteData = some data ∧
      ViewNotesViewController.note data documentID = some n ∧
      ProfileDetailViewController.note data documentID = some n' ∧
      n.userId = some "sara" ∧ n'.userId = none ∧
      PostReview.reviews n = some ["Notes", "n", "reviews"] ∧ PostReview.reviews n' = none ∧
      ¬ DecodersAgree data documentID := by
  refine ⟨saraData, "n", _, _, by decide, rfl, rfl, rfl, rfl, rfl, by decide, by decide, ?_⟩
  rintro ⟨n, n', hn, hn', hagree⟩
  have hsome : n.userId = some "sara" := by rw [← Option.some.inj hn]
  have hnone : n'.userId = none := by rw [← Option.some.inj hn']
  exact absurd (hsome.symm.trans (hagree.userId.trans hnone)) (by decide)

/-! ## What the difference does to a sale -/

/-- **Sales from a profile.** A detail screen that was opened from a profile never has the
server credit a seller, whatever is bought on it. -/
theorem profile_not_credited {urlOf : String → Option URL} {s : NoteServer}
    {h : List (NoteWorld × NoteEvent)} {w : NoteWorld} {i : ℕ}
    {screen : DetailedNoteViewController} {documentID : String}
    (hr : (noteSystem urlOf).RunFrom s h w) (hi : w.clients i = some screen)
    (hnote : ProfileDetailViewController.note data documentID = some screen.note)
    (seller : UserDoc) (price amount : ℚ) : .credited seller price amount ∉ w.effectsOf i := by
  intro hcredited
  have hseller := (((noteSystem_sound hr).client i screen hi).records _ hcredited).1
  have hnone : screen.note.userId = none := by
    unfold ProfileDetailViewController.note at hnote
    obtain ⟨_, -, hnote⟩ := Option.bind_eq_some_iff.mp hnote
    obtain ⟨_, -, hnote⟩ := Option.bind_eq_some_iff.mp hnote
    obtain ⟨_, -, hnote⟩ := Option.bind_eq_some_iff.mp hnote
    obtain ⟨_, -, hnote⟩ := Option.bind_eq_some_iff.mp hnote
    obtain ⟨_, -, hnote⟩ := Option.bind_eq_some_iff.mp hnote
    obtain ⟨_, -, hnote⟩ := Option.bind_eq_some_iff.mp hnote
    rw [← Option.some.inj hnote]
  rw [hnone] at hseller
  cases hseller

end Aoun
