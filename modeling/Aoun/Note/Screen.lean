import Aoun.Lib.Async
import Aoun.Records

/-!
# The note's detail screen

`detailedNoteViewController`, which sells, downloads and reviews a note, over the Firestore
collections it reads and writes: `users`, with the seller's `earned`, and the
`purchasedNotes` of every user. Each method of the screen is a reaction: the new state of the
screen, the Firestore, Storage and payment requests it issues, and its effects for the
history.

What the screen only shows (the note's texts, the reviews) is left out, and so are
`showDropIn` and `triggerPayPalCheckout`, which nothing calls.

## Main definitions

* `Aoun.NoteServer` — the two collections and how they answer.
* `Aoun.DetailedNoteViewController` — the screen, with its methods.
* `Aoun.noteSystem` — any number of these screens over one server.

## Main results

* `Aoun.NoteServer.serve_owners` — a users document keeps its id and its account, and the
  collection keeps its order.
* `Aoun.DetailedNoteViewController.ui_static`, `recv_static` — the note, the user and the
  price of a screen never change.
-/

set_option relaxedAutoImplicit false
set_option autoImplicit false

namespace Aoun

/-- A document of `users/⟨user⟩/purchasedNotes`. -/
structure PurchasedNote where
  user : String
  note : String
  purchaseDate : Timestamp
  deriving DecidableEq

/-- The collections behind the screen. -/
structure NoteServer where
  users : UsersCollection
  purchasedNotes : List PurchasedNote

/-- What the screen asks of Firestore, of the payment service and of Storage. -/
inductive NoteRequest
  /-- The users query of `loadUserReference`. -/
  | loadUserReference (uid : String)
  /-- The query of `purchased(note:)` on the entries of the document `user`. -/
  | purchased (user : UserDoc) (note : String)
  /-- `startCheckout(amount:)`, in USD, for the file at `url`. -/
  | startCheckout (amount : ℚ) (url : URL)
  /-- The users query of `updatePrice`. -/
  | updatePrice (uid : String) (price : ℚ)
  /-- The `updateData` of `updatePrice`: the income read, and the price to add to it. -/
  | updateData (document : String) (earned price : ℚ)
  /-- The `addDocument` of `updateNoteDownload`. -/
  | addDocument (user : UserDoc) (note : String) (purchaseDate : Timestamp)
  /-- `DownloadManager.download(url:)`. -/
  | download (url : URL)
  deriving DecidableEq

/-- The answers. -/
inductive NoteAnswer
  | users (documents : List UserDoc)
  | entries (documents : List PurchasedNote)
  | tokenized
  | written
  | data
  | error (localizedDescription : String)
  | neither
  deriving DecidableEq

/-- What the history of the screens records. -/
inductive NoteEffect
  /-- `triggerPurchase` was called. -/
  | triggerPurchase
  /-- `startCheckout(amount:)` was called. -/
  | startCheckout (amount : ℚ)
  /-- The success closure of a checkout ran, with the note's price. -/
  | success (price : ℚ)
  /-- `updatePrice` went on to look up the seller. -/
  | updatePrice (seller : String) (price : ℚ)
  /-- The query of `purchased(note:)` on the entries of `user` returned `documents`. -/
  | returned (user : UserDoc) (documents : List PurchasedNote)
  /-- The completion of `purchased(note:)` was called. -/
  | complition (condition : Bool)
  /-- The add-review button was made visible. -/
  | showAddReview
  /-- `download(url:)` was called. -/
  | download (url : URL)
  /-- The server carried out an `updateData` that adds `price`, and changed the income of
  `document` by `amount`. -/
  | credited (document : UserDoc) (price amount : ℚ)
  /-- The server stored an entry under the document `user`. -/
  | entered (user : UserDoc) (entry : PurchasedNote)
  deriving DecidableEq

/-- The request is a checkout, or takes part in closing a sale: crediting the seller, or
storing the buyer's entry. -/
def NoteRequest.OfSale : NoteRequest → Prop
  | .startCheckout _ _ => True
  | .updatePrice _ _ => True
  | .updateData _ _ _ => True
  | .addDocument _ _ _ => True
  | _ => False

/-- The effect is the success of a checkout, or takes part in closing the sale. -/
def NoteEffect.OfSale : NoteEffect → Prop
  | .success _ => True
  | .updatePrice _ _ => True
  | .credited _ _ _ => True
  | .entered _ _ => True
  | _ => False

namespace NoteServer

/-- How the server handles a request. A failing request changes nothing. -/
def serve (s : NoteServer) : NoteRequest → Outcome → Served NoteServer NoteAnswer NoteEffect
  | _, .failure e => ⟨s, .error e, []⟩
  | .loadUserReference uid, .success => ⟨s, .users (s.users.withUid uid), []⟩
  | .updatePrice uid _, .success => ⟨s, .users (s.users.withUid uid), []⟩
  | .purchased user note, .success =>
    ⟨s, .entries (s.purchasedNotes.filter fun p => p.user = user.documentID ∧ p.note = note), []⟩
  | .updateData document earned price, .success =>
    match s.users.document document with
    | some d =>
      ⟨{ s with users := s.users.updateEarned document (earned + price) }, .written,
        [.credited d price (earned + price - d.income)]⟩
    | none => ⟨s, .error "No document to update", []⟩
  | .addDocument user note purchaseDate, .success =>
    let entry : PurchasedNote := ⟨user.documentID, note, purchaseDate⟩
    ⟨{ s with purchasedNotes := s.purchasedNotes ++ [entry] }, .written, [.entered user entry]⟩
  | .startCheckout _ _, .success => ⟨s, .tokenized, []⟩
  | .download _, .success => ⟨s, .data, []⟩
  | _, .neither => ⟨s, .neither, []⟩

/-- No request changes which users documents there are, nor whose they are. -/
@[simp] lemma serve_owners (s : NoteServer) (q : NoteRequest) (e : Outcome) :
    (s.serve q e).server.users.owners = s.users.owners := by
  unfold serve
  split
  case h_5 => split <;> simp
  all_goals rfl

/-- The server has effects of two kinds only: it credits the seller's document, and it stores
the buyer's entry. -/
lemma mem_serve_effects {s : NoteServer} {q : NoteRequest} {e : Outcome} {o : NoteEffect}
    (h : o ∈ (s.serve q e).effects) :
    (∃ document earned price d, q = .updateData document earned price ∧ e = .success ∧
      s.users.document document = some d ∧ o = .credited d price (earned + price - d.income)) ∨
    (∃ user note purchaseDate, q = .addDocument user note purchaseDate ∧ e = .success ∧
      o = .entered user ⟨user.documentID, note, purchaseDate⟩) := by
  cases e with
  | failure e => cases q <;> cases h
  | neither => cases q <;> cases h
  | success =>
    cases q with
    | updateData document earned price =>
      left
      cases hd : s.users.document document with
      | none => simp [serve, hd] at h
      | some d => exact ⟨document, earned, price, d, rfl, rfl, hd, by simpa [serve, hd] using h⟩
    | addDocument user note purchaseDate =>
      right
      exact ⟨user, note, purchaseDate, rfl, rfl, List.mem_singleton.mp h⟩
    | _ => cases h

end NoteServer

/-- What the screen may have presented on top of itself. -/
inductive Presented
  /-- The action sheet of `triggerPurchase`, for the file at `url`. -/
  | purchase (url : URL)
  /-- The activity of `showFileSaveActivity`. -/
  | activity
  /-- The alert of `showDownloadSuccess`. -/
  | downloaded
  /-- The alert for a checkout that failed. -/
  | canceled
  deriving DecidableEq

/-- `detailedNoteViewController`, for the signed-in user `currentUser`. -/
structure DetailedNoteViewController where
  note : NoteFile
  currentUser : Option String
  priceOfNote : ℚ
  purchased : Bool
  /-- The users document found by `loadUserReference`. -/
  user : Option UserDoc
  /-- The text of the label `price`. -/
  price : String
  addReviewHidden : Bool
  downloadTitle : String
  downloadHidden : Bool
  errorMsg : String
  presented : Option Presented
  dismissed : Bool
  deriving DecidableEq

/-- What the user can do on the screen. -/
inductive NoteTap
  | downloadButtonTouched
  /-- "Purchase" in the action sheet. -/
  | purchase
  /-- "Cancel" in the action sheet. -/
  | cancle
  /-- The activity ends, `completed` or not. -/
  | activityEnded (completed : Bool)
  /-- "Ok" in an alert. -/
  | ok
  deriving DecidableEq

/-- A reaction of the screen. -/
abbrev NoteReaction := Reaction DetailedNoteViewController NoteRequest NoteEffect

namespace DetailedNoteViewController

variable (vc : DetailedNoteViewController)

/-- `present(_:animated:)`; it has no effect while something is presented. -/
def present (p : Presented) : DetailedNoteViewController :=
  { vc with presented := vc.presented.or (some p) }

/-- `updateDownloadButton(price:purchased:)`. -/
def updateDownloadButton (price : ℚ) (purchased : Bool) : DetailedNoteViewController :=
  { vc with
    downloadTitle := if 0 < price ∧ purchased = false then "Pay & Download" else "Download" }

/-- `loadUserReference()`. -/
def loadUserReference : NoteReaction :=
  match vc.currentUser with
  | none => .skip vc
  | some userId => ⟨vc, [.loadUserReference userId], []⟩

/-- `viewDidLoad()` of the screen that shows `note`, as the storyboard has it. -/
def viewDidLoad (note : NoteFile) (currentUser : Option String) : NoteReaction :=
  let vc : DetailedNoteViewController :=
    { note := note, currentUser := currentUser, priceOfNote := 0, purchased := false,
      user := none,
      price := if note.price.getD "" ≠ "" then note.price.getD "" ++ " SAR" else "Free",
      addReviewHidden := true, downloadTitle := "Download",
      downloadHidden := currentUser = note.userId, errorMsg := "", presented := none,
      dismissed := false }
  let vc :=
    match note.priceDecimal with
    | some p => { vc with priceOfNote := p }.updateDownloadButton p false
    | none => vc
  vc.loadUserReference

/-- `download(url:)`. -/
def download (url : URL) : NoteReaction := ⟨vc, [.download url], [.download url]⟩

/-- `triggerPurchase(url:)`. -/
def triggerPurchase (url : URL) : NoteReaction :=
  ⟨vc.present (.purchase url), [], [.triggerPurchase]⟩

/-- `downloadButtonTouched(_:)`, where `url` is `note.url`. -/
def downloadButtonTouched : Option URL → NoteReaction
  | none => .skip { vc with errorMsg := "Download failed" }
  | some url =>
    if 0 < vc.priceOfNote ∧ vc.purchased = false then vc.triggerPurchase url
    else vc.download url

/-- The amount that `paymentAction(url:)` has charged, in USD. -/
def paymentAmount : ℚ := vc.priceOfNote

/-- `paymentAction(url:)`. -/
def paymentAction (url : URL) : NoteReaction :=
  ⟨vc, [.startCheckout vc.paymentAmount url], [.startCheckout vc.paymentAmount]⟩

/-- `updatePrice(price:)`, up to its users query. -/
def updatePrice (price : ℚ) : NoteReaction :=
  match vc.note.userId with
  | none => .skip vc
  | some userId => ⟨vc, [.updatePrice userId price], [.updatePrice userId price]⟩

/-- The completion of the users query in `updatePrice(price:)`. -/
def updatePriceFound (price : ℚ) (documents : List UserDoc) : NoteReaction :=
  match documents.head? with
  | none => .skip vc
  | some user => ⟨vc, [.updateData user.documentID user.income price], []⟩

/-- `updateNoteDownload(note:)`. -/
def updateNoteDownload (now : Timestamp) : NoteReaction :=
  match vc.user with
  | none => .skip vc
  | some user => ⟨vc, [.addDocument user vc.note.id now], []⟩

/-- The success closure of `paymentAction(url:)`. -/
def success (url : URL) (now : Timestamp) : NoteReaction :=
  let price := vc.note.priceDecimal.getD 0
  Reaction.next ⟨vc, [], [.success price]⟩ fun vc =>
    (vc.updatePrice price).next fun vc =>
      (vc.updateNoteDownload now).next fun vc =>
        ({ vc with purchased := true }.updateDownloadButton vc.priceOfNote true).download url

/-- The failure closure of `paymentAction(url:)`, and the message `startCheckout` sets. -/
def failure (localizedDescription : String) : NoteReaction :=
  .skip { vc.present .canceled with errorMsg := localizedDescription }

/-- The completion that `updateReviewButton()` passes to `purchased(note:)`. -/
def complition (condition : Bool) : NoteReaction :=
  let vc := { vc with purchased := condition }
  if condition then
    ⟨{ vc with addReviewHidden := false }.updateDownloadButton vc.priceOfNote condition, [],
      [.complition true, .showAddReview]⟩
  else ⟨{ vc with addReviewHidden := true }, [], [.complition false]⟩

/-- `purchased(note:_:)`: it issues its query and calls the completion with `false` at once. -/
def purchasedNote : NoteReaction :=
  match vc.user with
  | none => .skip vc
  | some user => Reaction.next ⟨vc, [.purchased user vc.note.id], []⟩ (complition · false)

/-- The completion of the query in `purchased(note:_:)`. -/
def purchasedReturned (user : UserDoc) (documents : List PurchasedNote) : NoteReaction :=
  Reaction.next ⟨vc, [], [.returned user documents]⟩ fun vc =>
    if 0 < documents.length then vc.complition true else .skip vc

/-- `updateReviewButton()`. -/
def updateReviewButton : NoteReaction :=
  if 0 < vc.priceOfNote then vc.purchasedNote
  else ⟨{ vc with addReviewHidden := false }, [], [.showAddReview]⟩

/-- The completion of the users query in `loadUserReference()`. -/
def userReferenceFound (documents : List UserDoc) : NoteReaction :=
  { vc with user := documents.head? }.updateReviewButton

/-- The screen takes touches: nothing covers it, and the download button is visible. -/
def Tappable : Prop := vc.dismissed = false ∧ vc.presented = none ∧ vc.downloadHidden = false

instance : Decidable vc.Tappable := inferInstanceAs (Decidable (_ ∧ _ ∧ _))

/-- The reactions to the user; `urlOf` is `URL(string:)`. -/
def ui (urlOf : String → Option URL) : NoteTap → Option NoteReaction
  | .downloadButtonTouched =>
    if vc.Tappable then some (vc.downloadButtonTouched (urlOf vc.note.urlString)) else none
  | .purchase =>
    match vc.presented with
    | some (.purchase url) => some ({ vc with presented := none }.paymentAction url)
    | _ => none
  | .cancle =>
    match vc.presented with
    | some (.purchase _) => some (.skip { vc with presented := none })
    | _ => none
  | .activityEnded completed =>
    match vc.presented with
    | some .activity =>
      let vc := { vc with presented := none }
      some (.skip (if completed then vc.present .downloaded else vc))
    | _ => none
  | .ok =>
    match vc.presented with
    | some .downloaded => some { vc with presented := none }.loadUserReference
    | some .canceled => some (.skip { vc with presented := none, dismissed := true })
    | _ => none

/-- The callbacks. -/
def recv : NoteRequest → NoteAnswer → Timestamp → NoteReaction
  | .loadUserReference _, .users documents, _ => vc.userReferenceFound documents
  | .purchased user _, .entries documents, _ => vc.purchasedReturned user documents
  | .purchased _ _, .error _, _ => vc.complition false
  | .startCheckout _ url, .tokenized, now => vc.success url now
  | .startCheckout _ _, .error e, _ => vc.failure e
  | .updatePrice _ price, .users documents, _ => vc.updatePriceFound price documents
  | .download _, .data, _ => .skip (vc.present .activity)
  | .loadUserReference _, .neither, _ => vc.userReferenceFound []
  | _, _, _ => .skip vc

/-! ### What the closures of a successful checkout do -/

section

variable (price : ℚ) (url : URL) (now : Timestamp)

@[simp] lemma updatePrice_client : (vc.updatePrice price).client = vc := by
  unfold updatePrice; split <;> rfl

@[simp] lemma updateNoteDownload_client : (vc.updateNoteDownload now).client = vc := by
  unfold updateNoteDownload; split <;> rfl

@[simp] lemma updateNoteDownload_effects : (vc.updateNoteDownload now).effects = [] := by
  unfold updateNoteDownload; split <;> rfl

/-- A successful checkout leaves the screen with the flag set. -/
lemma success_client : (vc.success url now).client =
    { vc with purchased := true }.updateDownloadButton vc.priceOfNote true := by
  simp [success, download]

/-- A successful checkout asks for the seller's credit, the buyer's entry and the file. -/
lemma success_requests : (vc.success url now).requests =
    (vc.updatePrice (vc.note.priceDecimal.getD 0)).requests ++
      ((vc.updateNoteDownload now).requests ++ [.download url]) := by
  simp [success, download]

lemma success_effects : (vc.success url now).effects =
    .success (vc.note.priceDecimal.getD 0) ::
      ((vc.updatePrice (vc.note.priceDecimal.getD 0)).effects ++ [.download url]) := by
  simp [success, download]

end

/-! ### What the user can do -/

variable {vc} in
/-- **What an act of the user does.** It is a tap on the download button, the start of a
checkout or the reload after a download; any other act only changes what is presented, and
never puts up the sheet that sells the note. -/
lemma ui_cases {urlOf : String → Option URL} {u : NoteTap} {r : NoteReaction}
    (h : vc.ui urlOf u = some r) :
    r = vc.downloadButtonTouched (urlOf vc.note.urlString) ∨
    (∃ url, vc.presented = some (.purchase url) ∧
      r = { vc with presented := none }.paymentAction url) ∨
    r = { vc with presented := none }.loadUserReference ∨
    ∃ presented dismissed, (∀ url, presented ≠ some (.purchase url)) ∧
      r = .skip { vc with presented := presented, dismissed := dismissed } := by
  cases u with
  | downloadButtonTouched =>
    simp only [ui, Option.ite_none_right_eq_some, Option.some.injEq] at h
    exact Or.inl h.2.symm
  | purchase =>
    simp only [ui] at h
    split at h
    case h_1 url hp => exact Or.inr (Or.inl ⟨url, hp, (Option.some.inj h).symm⟩)
    case h_2 => cases h
  | cancle =>
    simp only [ui] at h
    split at h
    case h_1 => exact Or.inr (Or.inr (Or.inr ⟨none, _, by simp, (Option.some.inj h).symm⟩))
    case h_2 => cases h
  | activityEnded completed =>
    simp only [ui] at h
    split at h
    case h_1 =>
      right; right; right
      cases completed with
      | false => exact ⟨none, _, by simp, (Option.some.inj h).symm⟩
      | true => exact ⟨some .downloaded, _, by simp, (Option.some.inj h).symm⟩
    case h_2 => cases h
  | ok =>
    simp only [ui] at h
    split at h
    case h_1 => exact Or.inr (Or.inr (Or.inl (Option.some.inj h).symm))
    case h_2 => exact Or.inr (Or.inr (Or.inr ⟨none, true, by simp, (Option.some.inj h).symm⟩))
    case h_3 => cases h

/-! ### What no method changes -/

/-- The note, the user and the price of a screen, which no method writes. -/
def static : NoteFile × Option String × ℚ := (vc.note, vc.currentUser, vc.priceOfNote)

section

variable (p : Presented) (url : URL) (price : ℚ) (b : Bool) (now : Timestamp) (e : String)
  (user : UserDoc) (users : List UserDoc) (entries : List PurchasedNote)

@[simp] lemma present_static : (vc.present p).static = vc.static := rfl

@[simp] lemma loadUserReference_static : vc.loadUserReference.client.static = vc.static := by
  unfold loadUserReference; split <;> rfl

@[simp] lemma downloadButtonTouched_static (url : Option URL) :
    (vc.downloadButtonTouched url).client.static = vc.static := by
  unfold downloadButtonTouched
  split
  · rfl
  · split_ifs <;> rfl

@[simp] lemma updatePriceFound_static :
    (vc.updatePriceFound price users).client.static = vc.static := by
  unfold updatePriceFound; split <;> rfl

@[simp] lemma success_static : (vc.success url now).client.static = vc.static := by
  rw [success_client]; rfl

@[simp] lemma failure_static : (vc.failure e).client.static = vc.static := rfl

@[simp] lemma complition_static : (vc.complition b).client.static = vc.static := by
  cases b <;> rfl

@[simp] lemma purchasedNote_static : vc.purchasedNote.client.static = vc.static := by
  unfold purchasedNote; split <;> rfl

@[simp] lemma purchasedReturned_static :
    (vc.purchasedReturned user entries).client.static = vc.static := by
  simp only [purchasedReturned, Reaction.next_client]
  split_ifs
  · exact vc.complition_static true
  · rfl

@[simp] lemma updateReviewButton_static :
    vc.updateReviewButton.client.static = vc.static := by
  unfold updateReviewButton
  split_ifs
  · exact vc.purchasedNote_static
  · rfl

@[simp] lemma userReferenceFound_static :
    (vc.userReferenceFound users).client.static = vc.static :=
  updateReviewButton_static { vc with user := users.head? }

end

/-- No reaction to the user changes the note, the user or the price of a screen. -/
lemma ui_static {urlOf : String → Option URL} {u : NoteTap} {r : NoteReaction}
    (h : vc.ui urlOf u = some r) : r.client.static = vc.static := by
  rcases ui_cases h with rfl | ⟨url, -, rfl⟩ | rfl | ⟨presented, dismissed, -, rfl⟩
  · exact vc.downloadButtonTouched_static _
  · rfl
  · exact loadUserReference_static _
  · rfl

/-- No callback changes the note, the user or the price of a screen. -/
lemma recv_static (q : NoteRequest) (a : NoteAnswer) (now : Timestamp) :
    (vc.recv q a now).client.static = vc.static := by
  unfold recv
  split <;> simp

/-! ### The sheet that sells the note -/

lemma present_purchase {p : Presented} {url : URL} (h : (vc.present p).presented =
    some (.purchase url)) : vc.presented = some (.purchase url) ∨ p = .purchase url := by
  unfold present at h
  cases hp : vc.presented with
  | none => right; simpa [hp] using h
  | some p' => left; simpa [hp] using h

@[simp] lemma complition_presented (b : Bool) :
    (vc.complition b).client.presented = vc.presented := by
  cases b <;> rfl

@[simp] lemma updateReviewButton_presented :
    vc.updateReviewButton.client.presented = vc.presented := by
  unfold updateReviewButton purchasedNote
  split_ifs
  · split <;> rfl
  · rfl

/-- No callback puts up the sheet that sells the note. -/
lemma recv_purchase {q : NoteRequest} {a : NoteAnswer} {now : Timestamp} {url : URL}
    (h : (vc.recv q a now).client.presented = some (.purchase url)) :
    vc.presented = some (.purchase url) := by
  unfold recv at h
  split at h
  case h_1 documents =>
    exact (updateReviewButton_presented { vc with user := documents.head? }).symm.trans h
  case h_2 user note documents =>
    simp only [purchasedReturned, Reaction.next_client] at h
    split_ifs at h
    · rwa [complition_presented] at h
    · exact h
  case h_3 => rwa [complition_presented] at h
  case h_4 => rw [success_client] at h; exact h
  case h_5 =>
    rcases present_purchase vc h with h | h
    · exact h
    · cases h
  case h_6 =>
    unfold updatePriceFound at h
    split at h <;> exact h
  case h_7 =>
    rcases present_purchase vc h with h | h
    · exact h
    · cases h
  case h_8 => exact (updateReviewButton_presented { vc with user := none }).symm.trans h
  case h_9 => exact h

/-- A tap on the download button puts up the sheet that sells the note, for a URL, exactly
when the note has a price, the flag is not set and the URL is that of the note. -/
lemma downloadButtonTouched_purchase {url : Option URL} {url' : URL}
    (hp : vc.presented = none) :
    (vc.downloadButtonTouched url).client.presented = some (.purchase url') ↔
      url = some url' ∧ 0 < vc.priceOfNote ∧ vc.purchased = false := by
  unfold downloadButtonTouched
  cases url with
  | none => simp [hp]
  | some url =>
    simp only [Option.some.injEq]
    split_ifs with hc
    · simp [triggerPurchase, present, hp, hc]
    · simp only [download, hp]
      constructor
      · intro h; cases h
      · intro h; exact absurd h.2 hc

/-! ### What closes a sale -/

section

variable {vc}

variable (vc) in
lemma loadUserReference_rest :
    (∀ q ∈ vc.loadUserReference.requests, ¬ q.OfSale) ∧ vc.loadUserReference.effects = [] := by
  unfold loadUserReference
  split <;> simp [NoteRequest.OfSale]

lemma complition_rest (b : Bool) : (vc.complition b).requests = [] ∧
    ∀ o ∈ (vc.complition b).effects, ¬ o.OfSale := by
  cases b <;> simp [complition, NoteEffect.OfSale]

variable (vc) in
lemma updateReviewButton_rest : (∀ q ∈ vc.updateReviewButton.requests, ¬ q.OfSale) ∧
    ∀ o ∈ vc.updateReviewButton.effects, ¬ o.OfSale := by
  unfold updateReviewButton purchasedNote
  split_ifs
  · split
    · simp
    · simp [complition, NoteRequest.OfSale, NoteEffect.OfSale]
  · simp [NoteEffect.OfSale]

/-- No launch takes part in the closing of a sale. -/
lemma viewDidLoad_rest (note : NoteFile) (currentUser : Option String) :
    (∀ q ∈ (viewDidLoad note currentUser).requests, ¬ q.OfSale) ∧
      (viewDidLoad note currentUser).effects = [] := by
  unfold viewDidLoad
  cases note.priceDecimal <;> exact loadUserReference_rest _

/-- No act of the user takes part in the closing of a sale. -/
lemma ui_rest {urlOf : String → Option URL} {u : NoteTap} {r : NoteReaction}
    (h : vc.ui urlOf u = some r) :
    (∀ q ∈ r.requests, q.OfSale → ∃ amount url, q = .startCheckout amount url) ∧
      ∀ o ∈ r.effects, ¬ o.OfSale := by
  rcases ui_cases h with rfl | ⟨url, -, rfl⟩ | rfl | ⟨presented, dismissed, -, rfl⟩
  · unfold downloadButtonTouched
    split
    · simp
    · split_ifs <;> simp [triggerPurchase, download, NoteRequest.OfSale, NoteEffect.OfSale]
  · simp [paymentAction, NoteEffect.OfSale]
  · have hrest := loadUserReference_rest { vc with presented := none }
    refine ⟨fun q hq hs => absurd hs (hrest.1 q hq), ?_⟩
    simp [hrest.2]
  · simp

/-- An act of the user issues at most one request. -/
lemma ui_requests_length_le {urlOf : String → Option URL} {u : NoteTap} {r : NoteReaction}
    (h : vc.ui urlOf u = some r) : r.requests.length ≤ 1 := by
  rcases ui_cases h with rfl | ⟨url, -, rfl⟩ | rfl | ⟨presented, dismissed, -, rfl⟩
  · unfold downloadButtonTouched
    split
    · simp
    · split_ifs <;> simp [triggerPurchase, download]
  · simp [paymentAction]
  · unfold loadUserReference
    split <;> simp
  · simp

/-- **What the callbacks do.** The success of a checkout and the seller found take part in the
closing of a sale; no other callback does. -/
lemma recv_cases (q : NoteRequest) (a : NoteAnswer) (now : Timestamp) :
    (∃ amount url, q = .startCheckout amount url ∧ a = .tokenized ∧
      vc.recv q a now = vc.success url now) ∨
    (∃ uid price documents, q = .updatePrice uid price ∧ a = .users documents ∧
      vc.recv q a now = vc.updatePriceFound price documents) ∨
    ((∀ amount url, q = .startCheckout amount url → a ≠ .tokenized) ∧
      (∀ uid price documents, q = .updatePrice uid price → a ≠ .users documents) ∧
      (∀ q' ∈ (vc.recv q a now).requests, ¬ q'.OfSale) ∧
      ∀ o ∈ (vc.recv q a now).effects, ¬ o.OfSale) := by
  unfold recv
  split
  case h_1 uid documents =>
    right; right
    have hrest := updateReviewButton_rest { vc with user := documents.head? }
    exact ⟨by simp, by simp, hrest.1, hrest.2⟩
  case h_2 user note documents =>
    right; right
    refine ⟨by simp, by simp, ?_, ?_⟩ <;> unfold purchasedReturned
    · split_ifs <;> simp [(complition_rest true).1]
    · split_ifs <;> simp [NoteEffect.OfSale, complition]
  case h_3 =>
    right; right
    exact ⟨by simp, by simp, by simp [(complition_rest false).1], (complition_rest false).2⟩
  case h_4 amount url => left; exact ⟨amount, url, rfl, rfl, rfl⟩
  case h_5 => right; right; simp [failure]
  case h_6 uid price documents => right; left; exact ⟨uid, price, documents, rfl, rfl, rfl⟩
  case h_7 => right; right; simp
  case h_8 =>
    right; right
    have hrest := updateReviewButton_rest { vc with user := none }
    exact ⟨by simp, by simp, hrest.1, hrest.2⟩
  case h_9 h₁ h₂ h₃ h₄ h₅ h₆ h₇ h₈ =>
    right; right
    exact ⟨fun amount url hq ha => h₄ amount url hq ha,
      fun uid price documents hq ha => h₆ uid price documents hq ha, by simp, by simp⟩

end

end DetailedNoteViewController

/-- Any number of detail screens, of any users, over one server. -/
def noteSystem (urlOf : String → Option URL) :
    AsyncSystem NoteServer DetailedNoteViewController (NoteFile × Option String) NoteTap
      NoteRequest Outcome NoteAnswer Timestamp NoteEffect where
  boot := fun a => DetailedNoteViewController.viewDidLoad a.1 a.2
  ui := fun vc u => vc.ui urlOf u
  serve := NoteServer.serve
  recv := DetailedNoteViewController.recv

/-- The states of the system of detail screens. -/
abbrev NoteWorld :=
  AsyncSystem.World NoteServer DetailedNoteViewController NoteRequest NoteAnswer NoteEffect

/-- What can happen in it. -/
abbrev NoteEvent := AsyncSystem.Event (NoteFile × Option String) NoteTap Outcome Timestamp

/-! ## A shop with one note -/

/-- A note on sale for 15 SAR, as the notes list shows it. -/
def noteOnSale : NoteFile where
  id := "n"
  noteLable := "Logic"
  autherName := "Seller"
  desc := ""
  price := some "15"
  urlString := "u"
  documentId := none
  userId := some "seller"
  docID := "n"
  createDate := 0
  purchasedDate := none

/-- Its seller, two buyers and no purchases yet. -/
def noteShop : NoteServer where
  users :=
    { docs := [⟨"a", "alice", none, none, none⟩, ⟨"b", "bob", none, none, none⟩,
        ⟨"d", "seller", none, none, none⟩]
      nodup := by decide }
  purchasedNotes := []

end Aoun
