import Mathlib.Data.List.Nodup
import Aoun.Price

/-!
# The records of the app

Users, notes, workshops and tickets, as the app holds them, and the decoders of the `Notes`
documents. A field of a document that is missing or has another type is `none`, as the
conditional casts `as? String` find it.

## Main definitions

* `Aoun.User`, `Aoun.NoteFile`, `Aoun.resFile`, `Aoun.Workshops`, `Aoun.Ticket` — the records.
* `Aoun.ViewNotesViewController.note`, `Aoun.ProfileDetailViewController.note` — the two ways
  a `Notes` document becomes a `NoteFile`.
* `Aoun.UsersCollection` — the `users` collection, whose document ids are distinct.
-/

set_option relaxedAutoImplicit false
set_option autoImplicit false

namespace Aoun

/-- A point in time, in seconds. -/
abbrev Timestamp := ℕ

/-- A URL, by its text. -/
abbrev URL := String

/-- The environment's choice: whether a request succeeds, fails with a message, or ends with
neither a result nor an error (a checkout the service left). -/
inductive Outcome
  | success
  | failure (localizedDescription : String)
  | neither
  deriving DecidableEq

/-! ## Users -/

/-- `struct User`. -/
structure User where
  FirstName : String
  LastName : String
  uid : String
  docID : Option String
  deriving DecidableEq

/-- A document of the `users` collection. -/
structure UserDoc where
  documentID : String
  uid : String
  FirstName : Option String
  LastName : Option String
  /-- The seller's income in SAR; sign-up writes no such field. -/
  earned : Option ℚ
  deriving DecidableEq

/-- What a seller has earned; a missing field counts as `0`. -/
def UserDoc.income (d : UserDoc) : ℚ := d.earned.getD 0

/-- What is found under a key, where no two elements have the same key. -/
lemma find?_eq_some_iff_of_nodup {α κ : Type} [DecidableEq κ] {key : α → κ} {l : List α}
    (hl : (l.map key).Nodup) {k : κ} {a : α} :
    l.find? (fun x => key x = k) = some a ↔ a ∈ l ∧ key a = k := by
  constructor
  · intro h
    exact ⟨List.mem_of_find?_eq_some h, by simpa using List.find?_some h⟩
  · rintro ⟨ha, rfl⟩
    cases hf : l.find? (fun x => key x = key a) with
    | none => simpa using List.find?_eq_none.mp hf a ha
    | some b =>
      have hkey : key b = key a := by simpa using List.find?_some hf
      rw [List.inj_on_of_nodup_map hl (List.mem_of_find?_eq_some hf) ha hkey]

/-- The `users` collection, in the order of its document ids. -/
structure UsersCollection where
  docs : List UserDoc
  /-- No two documents have the same id. -/
  nodup : (docs.map (·.documentID)).Nodup

namespace UsersCollection

/-- `whereField("uid", isEqualTo: uid)`. -/
def withUid (c : UsersCollection) (uid : String) : List UserDoc :=
  c.docs.filter fun d => d.uid = uid

/-- The document with an id. -/
def document (c : UsersCollection) (id : String) : Option UserDoc :=
  c.docs.find? fun d => d.documentID = id

/-- The document `d` after `updateData(["earned": v])` on the document with id `id`. -/
def withEarned (id : String) (v : ℚ) (d : UserDoc) : UserDoc :=
  if d.documentID = id then { d with earned := some v } else d

@[simp] lemma withEarned_documentID (id : String) (v : ℚ) (d : UserDoc) :
    (withEarned id v d).documentID = d.documentID := by
  unfold withEarned; split_ifs <;> rfl

@[simp] lemma withEarned_uid (id : String) (v : ℚ) (d : UserDoc) :
    (withEarned id v d).uid = d.uid := by
  unfold withEarned; split_ifs <;> rfl

/-- `updateData(["earned": v])` on the document with id `id`. -/
def updateEarned (c : UsersCollection) (id : String) (v : ℚ) : UsersCollection where
  docs := c.docs.map (withEarned id v)
  nodup := by
    have : (withEarned id v · |>.documentID) = (·.documentID) := by
      funext d; exact withEarned_documentID id v d
    rw [List.map_map]
    exact (congrArg (fun f => (c.docs.map f).Nodup) this).mpr c.nodup

/-- The ids of the documents, with the accounts they belong to. -/
def owners (c : UsersCollection) : List (String × String) :=
  c.docs.map fun d => (d.documentID, d.uid)

/-- Updating an income changes neither the documents there are nor whose they are. -/
@[simp] lemma updateEarned_owners (c : UsersCollection) (id : String) (v : ℚ) :
    (c.updateEarned id v).owners = c.owners := by
  unfold owners updateEarned
  rw [List.map_map]
  congr 1
  funext d
  simp

lemma mem_withUid {c : UsersCollection} {uid : String} {d : UserDoc} :
    d ∈ c.withUid uid ↔ d ∈ c.docs ∧ d.uid = uid := by simp [withUid]

lemma mem_owners {c : UsersCollection} {d : UserDoc} (h : d ∈ c.docs) :
    (d.documentID, d.uid) ∈ c.owners := List.mem_map_of_mem h

/-- A document is found under its id. -/
lemma document_eq_some_iff {c : UsersCollection} {id : String} {d : UserDoc} :
    c.document id = some d ↔ d ∈ c.docs ∧ d.documentID = id :=
  find?_eq_some_iff_of_nodup c.nodup

/-- The first document of an account has the same id in two collections with the same ids and
accounts. -/
lemma head_withUid (c : UsersCollection) (uid : String) :
    (c.withUid uid).head?.map (·.documentID) =
      (c.owners.filter fun o => o.2 = uid).head?.map Prod.fst := by
  unfold withUid owners
  rw [List.filter_map, List.head?_map, Option.map_map]
  rfl

/-- Updating an income changes only the income of that document. -/
lemma document_updateEarned (c : UsersCollection) (id id' : String) (v : ℚ) :
    (c.updateEarned id v).document id' = (c.document id').map (withEarned id v) := by
  unfold document updateEarned
  rw [List.find?_map]
  congr 2
  funext d
  simp

/-- The income stored in the document with an id, `0` if there is none. -/
def storedIncome (c : UsersCollection) (id : String) : ℚ :=
  ((c.document id).map UserDoc.income).getD 0

lemma storedIncome_updateEarned_self {c : UsersCollection} {id : String} {d : UserDoc} (v : ℚ)
    (h : c.document id = some d) : (c.updateEarned id v).storedIncome id = v := by
  have hid : d.documentID = id := (document_eq_some_iff.mp h).2
  simp [storedIncome, document_updateEarned, h, withEarned, hid, UserDoc.income]

lemma storedIncome_updateEarned_of_ne {id id' : String} (c : UsersCollection) (v : ℚ)
    (hne : id' ≠ id) : (c.updateEarned id v).storedIncome id' = c.storedIncome id' := by
  unfold storedIncome
  rw [document_updateEarned]
  cases h : c.document id' with
  | none => rfl
  | some d =>
    have hid : d.documentID = id' := (document_eq_some_iff.mp h).2
    simp [withEarned, hid, hne]

/-- An id belongs to one account. -/
lemma owner_unique {c : UsersCollection} {id uid uid' : String} (h : (id, uid) ∈ c.owners)
    (h' : (id, uid') ∈ c.owners) : uid = uid' := by
  obtain ⟨d, hd, heq⟩ := List.mem_map.mp h
  obtain ⟨d', hd', heq'⟩ := List.mem_map.mp h'
  obtain ⟨rfl, rfl⟩ : d.documentID = id ∧ d.uid = uid := by simpa using heq
  obtain ⟨hid, rfl⟩ : d'.documentID = d.documentID ∧ d'.uid = uid' := by simpa using heq'
  rw [List.inj_on_of_nodup_map c.nodup hd' hd hid]

/-- The document with an id belongs to one account. -/
lemma uid_of_document {c : UsersCollection} {id uid : String} {d : UserDoc}
    (h : c.document id = some d) (hid : (id, uid) ∈ c.owners) : d.uid = uid := by
  obtain ⟨hd, rfl⟩ := document_eq_some_iff.mp h
  exact owner_unique (mem_owners hd) hid

end UsersCollection

/-! ## Notes -/

/-- `struct NoteFile`. -/
structure NoteFile where
  id : String
  noteLable : String
  autherName : String
  desc : String
  price : Option String
  urlString : String
  documentId : Option String
  userId : Option String
  docID : String
  createDate : Timestamp
  purchasedDate : Option Timestamp
  deriving DecidableEq

/-- `NoteFile.priceDecimal`. -/
def NoteFile.priceDecimal (n : NoteFile) : Option ℚ := n.price.bind positiveDecimal

/-- `NoteFile.usdPrice`. -/
def NoteFile.usdPrice (n : NoteFile) : Option ℚ :=
  n.priceDecimal.map fun pd => pd / K_SAR_TO_USD_CONVERSION_RATE

/-- The figure of `NoteFile.usdString`. -/
def NoteFile.usdFigure (n : NoteFile) : Option ℚ := n.usdPrice.map PriceUtils.shown

/-- `NoteFile.usdString`. -/
def NoteFile.usdString (n : NoteFile) : String :=
  match n.usdPrice with
  | some d => PriceUtils.formatCents (PriceUtils.cents d)
  | none => ""

lemma NoteFile.priceDecimal_pos {n : NoteFile} {p : ℚ} (h : n.priceDecimal = some p) :
    0 < p := by
  obtain ⟨s, -, hs⟩ := Option.bind_eq_some_iff.mp h
  exact positiveDecimal_pos hs

/-- The data of a document of the `Notes` collection. -/
structure NoteData where
  noteTitle : Option String
  autherName : Option String
  briefDescription : Option String
  price : Option String
  url : Option String
  uid : Option String
  createDate : Option Timestamp

/-- `ViewNotesViewController.note(with:documentID:)`. -/
def ViewNotesViewController.note (data : NoteData) (documentID : String) : Option NoteFile := do
  let noteName ← data.noteTitle
  let autherName ← data.autherName
  let desc ← data.briefDescription
  let price ← data.price
  let urlName ← data.url
  let auth ← data.uid
  let createDate ← data.createDate
  some { id := documentID, noteLable := noteName, autherName := autherName, desc := desc,
         price := some price, urlString := urlName, documentId := none, userId := some auth,
         docID := documentID, createDate := createDate, purchasedDate := none }

/-- The decoder inside `ProfileDetailViewController.loadNotes`. It sets `documentId` but
neither `userId` nor `docID`. -/
def ProfileDetailViewController.note (data : NoteData) (documentID : String) :
    Option NoteFile := do
  let noteName ← data.noteTitle
  let autherName ← data.autherName
  let desc ← data.briefDescription
  let price ← data.price
  let urlName ← data.url
  let createDate ← data.createDate
  some { id := documentID, noteLable := noteName, autherName := autherName, desc := desc,
         price := some price, urlString := urlName, documentId := some documentID,
         userId := none, docID := "", createDate := createDate, purchasedDate := none }

/-! ## Resources -/

/-- `struct resFile`. -/
structure resFile where
  name : String
  author : String
  publisher : String
  desc : String
  urlString : String
  documentId : Option String
  createDate : Timestamp
  deriving DecidableEq

/-- The data of a document of the `Resources` collection. -/
structure ResourceData where
  ResName : Option String
  authorName : Option String
  pubName : Option String
  desc : Option String
  url : Option String
  createDate : Option Timestamp
  deriving DecidableEq

/-- The decoder in `resViewViewController.loadResources()`, which sets no `documentId`. -/
def resViewViewController.resource (data : ResourceData) : Option resFile := do
  let rName ← data.ResName
  let aName ← data.authorName
  let pName ← data.pubName
  let desc ← data.desc
  let urlName ← data.url
  let createDate ← data.createDate
  some { name := rName, author := aName, publisher := pName, desc := desc, urlString := urlName,
         documentId := none, createDate := createDate }

/-- The decoder in `ProfileDetailViewController.loadResources`. -/
def ProfileDetailViewController.resource (data : ResourceData) (documentID : String) :
    Option resFile :=
  (resViewViewController.resource data).map fun newRes =>
    { newRes with documentId := some documentID }

/-! ## Workshops and tickets -/

/-- `struct Workshops`, less the two fields only purchased workshops have. -/
structure Workshops where
  Title : String
  presenter : String
  price : String
  seat : String
  description : String
  dateTime : Timestamp
  documentId : Option String
  uid : Option String
  deriving DecidableEq

/-- `Workshops.numberOfAvailableSeats`. -/
def Workshops.numberOfAvailableSeats (w : Workshops) : ℤ := (integer w.seat).getD 0

/-- `Workshops.priceDecimal`. -/
def Workshops.priceDecimal (w : Workshops) : Option ℚ := positiveDecimal w.price

/-- `struct Ticket`, which is also a document of the `Tickets` collection: the decoder reads
back every field that `dictionary` writes. The price is the amount its text denotes. -/
structure Ticket where
  buyerName : String
  price : ℚ
  time : Timestamp
  user : String
  workshop : String
  workshopTitle : String
  bookingID : String
  seats : ℤ
  deriving DecidableEq

end Aoun
