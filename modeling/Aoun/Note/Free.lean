import Aoun.Digits
import Aoun.Note.Decoders
import Aoun.Note.PriceField

/-!
# Notes that are free

The detail screen of a note shows "Free" if the text of its price is empty, and asks for a
payment if the text denotes a positive number. The two agree on every note that the app posts,
because the price field of the form only ever holds the empty text, or one to four ASCII digits
that denote a number above zero: its filter lets no other edit through.

## Main definitions

* `Aoun.PriceText` — the texts that the price field can hold.

## Main results

* `Aoun.shouldChangePrice_priceText` — what the filter lets through.
* `Aoun.noteSystem_label` — what the price label of a detail screen shows.
* `Aoun.free_means_free` — "Free" is shown exactly where a download is free.
-/

set_option relaxedAutoImplicit false
set_option autoImplicit false

namespace Aoun

open AsyncSystem AsyncSystem.World StepSystem PostNoteViewController

/-! ## The texts of the price field -/

/-- Nothing, or one to four digits for a number between 1 and 9999. -/
def PriceText (s : String) : Prop :=
  s = "" ∨ ((1 ≤ s.length ∧ s.length ≤ 4) ∧ (∀ c ∈ s.toList, digit c = true) ∧
    1 ≤ natOfDigits s.toList ∧ natOfDigits s.toList ≤ 9999)

lemma priceText_empty : PriceText "" := Or.inl rfl

/-- A price that is not empty denotes a positive number. -/
lemma PriceText.positiveDecimal_eq {s : String} (hs : PriceText s) (hne : s ≠ "") :
    positiveDecimal s = some (natOfDigits s.toList : ℚ) ∧ (0 : ℚ) < natOfDigits s.toList := by
  rcases hs with hs | ⟨⟨hpos, -⟩, hdigits, hone, -⟩
  · exact absurd hs hne
  · have hlist : s.toList ≠ [] := by
      rw [Ne, String.toList_eq_nil_iff]
      exact hne
    have hlt : (0 : ℚ) < natOfDigits s.toList := by exact_mod_cast hone
    have hlength : 0 < s.length := hpos
    refine ⟨?_, hlt⟩
    rw [positiveDecimal, if_pos hlength, decimal_of_digits hlist hdigits, Option.filter_some]
    simp only [hlt, decide_true, if_true]

/-- **What the filter lets through.** An edit of a range inside the text that the filter of the
price field lets through leaves nothing, or one to four digits for a number between 1 and 9999.

**Proof sketch.** What is let through is made of at most four digits, and does not read as 0. -/
theorem shouldChangePrice_priceText {text string : String} {location length : ℕ}
    (hrange : location + length ≤ text.length)
    (h : shouldChangePrice text location length string = true) :
    PriceText (replacingCharacters text location length string) := by
  have hinside : ¬ text.length < location + length := by omega
  unfold shouldChangePrice at h
  rw [if_neg hinside] at h
  dsimp only at h
  generalize replacingCharacters text location length string = updatedText at h ⊢
  split_ifs at h with _ hlong hall
  by_cases hempty : updatedText = ""
  · exact Or.inl hempty
  · right
    have hlist : updatedText.toList ≠ [] := by
      rw [Ne, String.toList_eq_nil_iff]
      exact hempty
    have hlength : updatedText.toList.length = updatedText.length := String.length_toList
    have hpos : 0 < updatedText.toList.length := List.length_pos_iff.mpr hlist
    have hdigits : ∀ c ∈ updatedText.toList, digit c = true := List.all_eq_true.mp hall
    have hzero : natOfDigits updatedText.toList ≠ 0 := by
      intro hz
      rw [decimal_of_digits hlist hdigits, hz] at h
      simp at h
    have hlt : natOfDigits updatedText.toList < 10 ^ 4 :=
      (natOfDigits_lt hdigits).trans_le (Nat.pow_le_pow_right (by omega) (by omega))
    exact ⟨by omega, hdigits, by omega, by omega⟩

/-- An edit of the form keeps the text of the price field. -/
lemma edit_priceText {form form' : FileForm} {e : PostNoteEdit} (hp : PriceText form.price)
    (he : edit form e = some form') : PriceText form'.price := by
  cases form with
  | resource => cases e <;> cases he
  | note noteTitle auther description price priceSwitch =>
    cases e with
    | priceSwitch =>
      rw [← Option.some.inj he]
      show PriceText (stateChanged (!priceSwitch) price)
      unfold stateChanged
      split_ifs
      · exact priceText_empty
      · exact hp
    | priceTextbox location length string =>
      obtain ⟨text, hchanged, rfl⟩ := Option.map_eq_some_iff.mp he
      show PriceText text
      simp only [changed, Option.ite_none_right_eq_some, Option.some.injEq] at hchanged
      obtain ⟨hrange, rfl⟩ := hchanged
      split_ifs with hshould
      · exact shouldChangePrice_priceText hrange hshould
      · exact hp
    | descriptionTextbox text => rw [← Option.some.inj he]; exact hp
    | noteTitleTextbox | autherTextbox =>
      obtain ⟨text, -, rfl⟩ := Option.map_eq_some_iff.mp he
      exact hp

/-! ## What the forms store -/

/-- A document has a price that the field can hold, and the URL of an object in Storage. -/
structure Posted (downloadURL : String → URL) (document : FileDocument) : Prop where
  price : PriceText document.price
  url : ∃ path, document.url = downloadURL path

/-- The effect writes or stores such a document. -/
def PostNoteEffect.Posted (downloadURL : String → URL) : PostNoteEffect → Prop
  | .created _ document => Aoun.Posted downloadURL document
  | .stored _ document => Aoun.Posted downloadURL document

section Stored

variable {downloadURL : String → URL} {s : FilesServer}
  {h : List (PostNoteWorld × PostNoteEvent)} {w : PostNoteWorld}

/-- The URLs that Storage answers with are those of its objects. -/
lemma serve_url {q : FilesRequest} {e : Outcome} {url : URL}
    (ha : (s.serve downloadURL q e).answer = .url url) : ∃ path, url = downloadURL path := by
  cases e with
  | failure e => cases q <;> cases ha
  | neither => cases q <;> cases ha
  | success =>
    cases q with
    | downloadURL upload =>
      simp only [FilesServer.serve, FilesServer.urlAnswer] at ha
      split at ha
      · exact ⟨upload.path, (FilesAnswer.url.inj ha).symm⟩
      · cases ha
    | putData upload => cases ha
    | setData document upload => cases ha

/-- What a callback writes has the text of the price field, and the URL that has arrived. -/
lemma recv_document {vc : PostViewController} (hf : vc.form.IsNote) {q q' : FilesRequest}
    {a : FilesAnswer} {now : Timestamp} {document : FileDocument}
    (hq : q' ∈ (vc.recv q a now).requests) (hd : q'.document = some document) :
    document.price = vc.form.price ∧ a = .url document.url := by
  unfold PostViewController.recv at hq
  split_ifs at hq
  · cases hq
  · unfold PostViewController.callback at hq
    split at hq
    case h_3 upload url =>
      obtain ⟨noteTitle, auther, description, hform⟩ := hf.eq_note
      unfold PostViewController.createDocument at hq
      rw [hform] at hq
      dsimp only at hq
      split at hq
      · cases hq
      · obtain rfl := List.mem_singleton.mp hq
        obtain rfl := Option.some.inj hd
        exact ⟨rfl, rfl⟩
    case h_1 =>
      obtain rfl := List.mem_singleton.mp hq
      cases hd
    all_goals cases hq

/-- A submission writes no document. -/
lemma submit_document {vc : PostViewController} {q : FilesRequest}
    (hq : q ∈ vc.submit.requests) : q.document = none := by
  unfold PostViewController.submit PostViewController.putData at hq
  dsimp only at hq
  split_ifs at hq
  · split at hq
    · cases hq
    · rw [List.mem_singleton.mp hq]
      rfl
  · cases hq

/-- The form of a screen for notes has such a price, and so has what it has written. -/
def PricesNote (downloadURL : String → URL) (vc : PostViewController) (t : List PostNoteEffect) :
    Prop :=
  (vc.form.IsNote ∧ PriceText vc.form.price) ∧ ∀ o ∈ t, o.Posted downloadURL

/-- The document that is to be written is such a document. -/
def SubmittedRequest.WritesPosted (downloadURL : String → URL) (q : SubmittedRequest) : Prop :=
  ∀ document, q.request.document = some document → Posted downloadURL document

/-- A URL that is answered is one of an object in Storage. -/
def FilesAnswer.OfStorage (downloadURL : String → URL) (a : FilesAnswer) : Prop :=
  ∀ url, a = .url url → ∃ path, url = downloadURL path

/-- The forms for notes satisfy the conditions of the client rule. -/
lemma postNoteSystem_price_rules : ClientRules (postNoteSystem downloadURL) (fun _ => False)
    (fun _ => True) (fun _ => PricesNote downloadURL)
    (fun _ q => q.WritesPosted downloadURL) (fun _ _ a => a.OfStorage downloadURL) where
  boot := by
    refine fun _ _ _ => ⟨⟨⟨rfl, priceText_empty⟩, fun o ho => ?_⟩, fun q hq => ?_⟩
    · cases ho
    · cases hq
  ui := by
    rintro _ vc t _ r - ⟨⟨hf, hp⟩, ht⟩ hr
    rcases postNote_ui_cases hr with ⟨e, hedit, hreq, heff⟩ | ⟨hform, heff, hreq⟩
    · refine ⟨⟨⟨⟨edit_isNote hedit, edit_priceText hp hedit⟩, ?_⟩, ?_⟩, fun _ hq => hq⟩
      · rw [heff, List.append_nil]
        exact ht
      · rw [hreq]
        exact fun q hq => absurd hq List.not_mem_nil
    · refine ⟨⟨⟨?_, ?_⟩, fun q hq document hd => ?_⟩, fun _ hq => hq⟩
      · rw [hform]
        exact ⟨hf, hp⟩
      · rw [heff, List.append_nil]
        exact ht
      · have hnone := submit_document (hreq q hq).2
        rw [hnone] at hd
        cases hd
  serve := by
    rintro s q e vc - hq
    refine ⟨trivial, fun url ha => serve_url ha, fun t ht => ⟨ht.1, fun o ho => ?_⟩⟩
    rcases List.mem_append.mp ho with ho | ho
    · exact ht.2 o ho
    · simp only [postNoteSystem, FilesServer.serveSubmitted] at ho
      split_ifs at ho
      · obtain ⟨document, hd, rfl⟩ := Option.map_eq_some_iff.mp (Option.mem_toList.mp ho)
        exact hq document hd
      · cases ho
  others := fun _ _ _ _ _ _ => ⟨fun _ _ ht => ht, fun _ _ hOk => hOk⟩
  recv := by
    rintro _ vc t q a now - ⟨⟨hf, hp⟩, ht⟩ - hOk
    have hposted : ∀ q' ∈ (vc.recv q.request a now).requests, ∀ document,
        q'.document = some document → Posted downloadURL document := by
      intro q' hq' document hd
      obtain ⟨hprice, ha⟩ := recv_document hf hq' hd
      exact ⟨hprice ▸ hp, hOk _ ha⟩
    have hform : ((postNoteSystem downloadURL).recv vc q a now).client.form = vc.form :=
      recv_form vc q.request a now
    refine ⟨⟨⟨?_, fun o ho => ?_⟩, fun q' hq' => ?_⟩, fun _ hq' _ => hq'⟩
    · rw [hform]
      exact ⟨hf, hp⟩
    · rcases List.mem_append.mp ho with ho | ho
      · exact ht o ho
      · obtain ⟨q', hq', ho'⟩ := List.mem_filterMap.mp ho
        obtain ⟨document, hd, rfl⟩ := Option.map_eq_some_iff.mp ho'
        exact hposted q' hq' document hd
    · obtain ⟨q'', hq'', rfl⟩ := List.mem_map.mp hq'
      exact hposted q'' hq''

/-- **What the forms store.** In every run the price field holds nothing, or one to four digits
for a number between 1 and 9999, and so does every document that is written or stored. -/
theorem postNoteSystem_posted (hr : (postNoteSystem downloadURL).RunFrom s h w) :
    ClientInv (fun _ => True) (fun _ => PricesNote downloadURL)
      (fun _ q => q.WritesPosted downloadURL) (fun _ _ a => a.OfStorage downloadURL) w :=
  client_invariant exclusiveRules_false postNoteSystem_price_rules trivial hr

end Stored

/-! ## The label of the price -/

namespace DetailedNoteViewController

/-- What `viewDidLoad()` shows as the price of a note. -/
def priceLabel (note : NoteFile) : String :=
  if note.price.getD "" ≠ "" then note.price.getD "" ++ " SAR" else "Free"

lemma priceLabel_eq_free_iff (note : NoteFile) :
    priceLabel note = "Free" ↔ note.price.getD "" = "" := by
  unfold priceLabel
  split_ifs with hne
  · refine iff_of_false (fun h => ?_) hne
    have hlast : (note.price.getD "" ++ " SAR").toList.getLast? = "Free".toList.getLast? := by
      rw [h]
    have hsar : " SAR".toList.getLast? = some 'R' := by decide
    rw [String.toList_append, List.getLast?_append, hsar, Option.some_or] at hlast
    exact absurd hlast (by decide)
  · exact iff_of_true rfl (not_not.mp hne)

section

variable (vc : DetailedNoteViewController)

@[simp] lemma loadUserReference_price : vc.loadUserReference.client.price = vc.price := by
  unfold loadUserReference
  split <;> rfl

@[simp] lemma complition_price (condition : Bool) :
    (vc.complition condition).client.price = vc.price := by
  cases condition <;> rfl

@[simp] lemma updateReviewButton_price : vc.updateReviewButton.client.price = vc.price := by
  unfold updateReviewButton purchasedNote
  split_ifs
  · split <;> rfl
  · rfl

/-- No reaction to the user changes the label of the price. -/
lemma ui_price {urlOf : String → Option URL} {u : NoteTap} {r : NoteReaction}
    (h : vc.ui urlOf u = some r) : r.client.price = vc.price := by
  rcases ui_cases h with rfl | ⟨url, -, rfl⟩ | rfl | ⟨presented, dismissed, -, rfl⟩
  · unfold downloadButtonTouched
    split
    · rfl
    · split_ifs <;> rfl
  · rfl
  · exact loadUserReference_price _
  · rfl

/-- No callback changes the label of the price. -/
lemma recv_price (q : NoteRequest) (a : NoteAnswer) (now : Timestamp) :
    (vc.recv q a now).client.price = vc.price := by
  unfold recv
  split
  case h_1 documents => exact updateReviewButton_price { vc with user := documents.head? }
  case h_2 user note documents =>
    simp only [purchasedReturned, Reaction.next_client]
    split_ifs
    · exact complition_price vc true
    · rfl
  case h_3 => exact complition_price vc false
  case h_4 => rw [success_client]; rfl
  case h_6 =>
    unfold updatePriceFound
    split <;> rfl
  case h_8 => exact updateReviewButton_price { vc with user := none }
  all_goals rfl

end

/-- The detail screens satisfy the conditions of the client rule, for the label. -/
lemma noteSystem_label_rules (urlOf : String → Option URL) : ClientRules (noteSystem urlOf)
    (fun _ => False) (fun _ => True) (fun _ vc _ => vc.price = priceLabel vc.note)
    (fun _ _ => True) (fun _ _ _ => True) where
  boot := by
    rintro _ ⟨note, currentUser⟩ -
    refine ⟨?_, fun _ _ => trivial⟩
    show (viewDidLoad note currentUser).client.price =
      priceLabel (viewDidLoad note currentUser).client.note
    unfold viewDidLoad loadUserReference
    cases note.priceDecimal <;> cases currentUser <;> rfl
  ui := by
    intro _ vc _ _ r _ hl hr
    refine ⟨⟨?_, fun _ _ => trivial⟩, fun _ _ => trivial⟩
    show r.client.price = priceLabel r.client.note
    rw [ui_price vc hr, hl, note_of_static (ui_static vc hr)]
  serve := fun _ _ _ _ _ _ => ⟨trivial, trivial, fun _ hl => hl⟩
  others := fun _ _ _ _ _ _ => ⟨fun _ _ hl => hl, fun _ _ _ => trivial⟩
  recv := by
    intro _ vc _ q a now _ hl _ _
    refine ⟨⟨?_, fun _ _ => trivial⟩, fun _ _ _ => trivial⟩
    show (vc.recv q a now).client.price = priceLabel (vc.recv q a now).client.note
    rw [recv_price, hl, note_of_static (recv_static vc q a now)]

/-- In every run a detail screen shows the price of its note. -/
lemma noteSystem_label {urlOf : String → Option URL} {s : NoteServer}
    {h : List (NoteWorld × NoteEvent)} {w : NoteWorld} (hr : (noteSystem urlOf).RunFrom s h w) :
    ClientInv (fun _ => True) (fun _ vc _ => vc.price = priceLabel vc.note) (fun _ _ => True)
      (fun _ _ _ => True) w :=
  client_invariant exclusiveRules_false (noteSystem_label_rules urlOf) trivial hr

end DetailedNoteViewController

/-! ## Free notes -/

open DetailedNoteViewController

/-- The lists of the app show `document` as `note`: the notes list, with or without a date of
purchase, or a profile. -/
def FileDocument.ListedAs (document : FileDocument) (note : NoteFile) : Prop :=
  ∃ data documentID, document.noteData = some data ∧
    ((∃ n purchasedDate, ViewNotesViewController.note data documentID = some n ∧
      note = { n with purchasedDate := purchasedDate }) ∨
    ProfileDetailViewController.note data documentID = some note)

/-- The lists keep the price and the URL. -/
lemma FileDocument.ListedAs.fields {document : FileDocument} {note : NoteFile}
    (hl : document.ListedAs note) :
    note.price = some document.price ∧ note.urlString = document.url := by
  obtain ⟨data, documentID, hdata, hnote⟩ := hl
  cases document with
  | resource => cases hdata
  | note noteTitle autherName briefDescription price url uid createDate =>
    obtain rfl := Option.some.inj hdata
    rcases hnote with ⟨n, purchasedDate, hn, rfl⟩ | hn
    · rw [← Option.some.inj hn]
      exact ⟨rfl, rfl⟩
    · rw [← Option.some.inj hn]
      exact ⟨rfl, rfl⟩

/-- The reaction downloads, and starts no checkout. -/
def Downloads (r : NoteReaction) : Prop :=
  (∃ url, .download url ∈ r.effects) ∧ .triggerPurchase ∉ r.effects

/-- An unpurchased tap downloads exactly where the price is not positive. -/
lemma downloads_iff {vc : DetailedNoteViewController} {url : Option URL}
    (hurl : url.isSome = true) (hunpurchased : vc.purchased = false) :
    Downloads (vc.downloadButtonTouched url) ↔ ¬ 0 < vc.priceOfNote := by
  obtain ⟨url, rfl⟩ := Option.isSome_iff_exists.mp hurl
  unfold downloadButtonTouched
  dsimp only
  split_ifs with hprice
  · refine iff_of_false (fun hd => hd.2 ?_) (not_not.mpr hprice.1)
    exact List.mem_singleton_self _
  · refine iff_of_true ⟨⟨url, List.mem_singleton_self _⟩, ?_⟩ fun hpos => ?_
    · simp [download]
    · exact hprice ⟨hpos, hunpurchased⟩

/-- **Free means free.** Every price that a form stores is empty, or has one to four digits for
a number between 1 and 9999. And wherever a stored note is shown on a detail screen, the screen
says "Free" if and only if a tap on the download button, with the note not purchased, downloads
it and starts no checkout. What `URL(string:)` is relied on for is that it reads the URLs of
Storage.

**Proof sketch.** The filter keeps the price field within these texts (`postNoteSystem_posted`).
The screen says "Free" if the text is empty (`noteSystem_label`), and such a text denotes no
number, while any other denotes a positive one (`PriceText.positiveDecimal_eq`). -/
theorem free_means_free {downloadURL : String → URL} {urlOf : String → Option URL}
    (hurl : ∀ path, (urlOf (downloadURL path)).isSome = true) {files : FilesServer}
    {h : List (PostNoteWorld × PostNoteEvent)} {w : PostNoteWorld}
    (hr : (postNoteSystem downloadURL).RunFrom files h w) {i : ℕ} {submitted : FileForm}
    {document : FileDocument} (hstored : .stored submitted document ∈ w.effectsOf i) :
    PriceText document.price ∧
      ∀ note, document.ListedAs note → ∀ (server : NoteServer)
        (h' : List (NoteWorld × NoteEvent)) (w' : NoteWorld),
        (noteSystem urlOf).RunFrom server h' w' → ∀ (j : ℕ) screen r,
        w'.clients j = some screen → screen.note = note → screen.purchased = false →
        screen.ui urlOf .downloadButtonTouched = some r →
        (screen.price = "Free" ↔ Downloads r) := by
  have hposted : Posted downloadURL document := by
    have hinv := postNoteSystem_posted hr
    cases hi : w.clients i with
    | none => rw [hinv.fresh i hi] at hstored; cases hstored
    | some vc => exact (hinv.client i vc hi).2 _ hstored
  refine ⟨hposted.price, ?_⟩
  rintro note hlisted server h' w' hr' j screen r hj rfl hunpurchased hreact
  obtain ⟨hprice, hstring⟩ := hlisted.fields
  have hlabel : screen.price = priceLabel screen.note := (noteSystem_label hr').client j screen hj
  have hnumber : screen.priceOfNote = (positiveDecimal document.price).getD 0 := by
    rw [((noteSystem_sound hr').client j screen hj).price, NoteFile.priceDecimal, hprice,
      Option.bind_some]
  have hreads : (urlOf screen.note.urlString).isSome = true := by
    obtain ⟨path, hpath⟩ := hposted.url
    rw [hstring, hpath]
    exact hurl path
  obtain rfl : r = screen.downloadButtonTouched (urlOf screen.note.urlString) := by
    simp only [DetailedNoteViewController.ui, Option.ite_none_right_eq_some,
      Option.some.injEq] at hreact
    exact hreact.2.symm
  rw [hlabel, priceLabel_eq_free_iff, downloads_iff hreads hunpurchased, hnumber, hprice,
    Option.getD_some]
  by_cases hempty : document.price = ""
  · have hnone : positiveDecimal "" = none := by decide
    rw [hempty, hnone]
    exact iff_of_true rfl (by decide)
  · obtain ⟨hsome, hpos⟩ := hposted.price.positiveDecimal_eq hempty
    rw [hsome, Option.getD_some]
    exact iff_of_false hempty (not_not.mpr hpos)

/-- Sara's note at 5 SAR, as the notes list shows it. -/
def saraNote : NoteFile where
  id := "n"
  noteLable := "Logic"
  autherName := "Sara"
  desc := "Lecture notes"
  price := some "5"
  urlString := "Notes/sara/logic.pdf"
  documentId := none
  userId := some "sara"
  docID := "n"
  createDate := 7
  purchasedDate := none

lemma saraNote_listed : (saraWritten "5").ListedAs saraNote :=
  ⟨_, "n", rfl, Or.inl ⟨saraNote, none, rfl, rfl⟩⟩

/-- Sara posts a note at 5 SAR; Bob opens it and taps its download button. -/
theorem free_means_free_sara : ∃ h w, (postNoteSystem id).RunFrom emptyFiles h w ∧
    .stored (saraSubmitted "5" true) (saraWritten "5") ∈ w.effectsOf 0 ∧ PriceText "5" ∧
    ∃ h' w' screen r, (noteSystem some).RunFrom noteShop h' w' ∧ w'.clients 0 = some screen ∧
      screen.note = saraNote ∧ screen.purchased = false ∧
      screen.ui some .downloadButtonTouched = some r ∧ (screen.price = "Free" ↔ Downloads r) := by
  obtain ⟨h, w, hr, hw⟩ := sara_created [.priceSwitch, .priceTextbox 0 0 "5"]
    (saraSubmitted "5" true) (saraWritten "5") (by decide +kernel)
  have hstored : .stored (saraSubmitted "5" true) (saraWritten "5") ∈ w.effectsOf 0 := by
    simp [hw]
  have hurl : ∀ path : String, (some (id path) : Option URL).isSome = true := fun _ => rfl
  obtain ⟨hprice, hfree⟩ := free_means_free hurl hr hstored
  obtain ⟨h', w', hr', -, hj⟩ := run_of_observed
    (show (exec (noteSystem some).step (start noteShop) [.boot 0 (saraNote, some "bob")]).map
      (fun w => w.clients 0) = some (some (viewDidLoad saraNote (some "bob")).client) by
        decide +kernel)
  have htap : (viewDidLoad saraNote (some "bob")).client.Tappable := by decide +kernel
  have hnote : (viewDidLoad saraNote (some "bob")).client.note = saraNote := by decide +kernel
  have hunpurchased : (viewDidLoad saraNote (some "bob")).client.purchased = false := by
    decide +kernel
  refine ⟨h, w, hr, hstored, hprice, h', w', _, _, hr', hj, hnote, hunpurchased, if_pos htap, ?_⟩
  exact hfree saraNote saraNote_listed noteShop h' w' hr' 0 _ _ hj hnote hunpurchased
    (if_pos htap)

end Aoun
