import Aoun.Files.Post

/-!
# The price switch of the form for notes

`PostNoteViewController` has a switch that shows and hides the price field. Switching it on
clears the field, switching it off only hides it, and `createDocument(with:)` stores whatever
the field holds once the file is uploaded. The switch is looked at by `submitButton(_:)` alone,
which wants a price if it is on. So a price typed before the switch was turned off is stored,
and so is what is typed while the file uploads.

The form is the one of `Aoun.filesSystem`, with the edits that its handlers let the user make.
For the history, the requests that follow a submission carry the form as it was submitted. The
price field only ever holds ASCII digits, so that the range of an edit counts its characters.

## Main definitions

* `Aoun.PostNoteViewController.edit` — what the handlers make of an edit.
* `Aoun.postNoteSystem` — any number of forms for notes over one server.
* `Aoun.PaidAsSwitched`, `Aoun.CreatesAsSubmitted` — the property, and its condition.

## Main results

* `Aoun.postNoteSystem_run` — the runs of these forms are runs of `filesSystem`.
* `Aoun.paid_as_switched_iff` — when the switch decides whether a note is paid.
-/

set_option relaxedAutoImplicit false
set_option autoImplicit false

namespace Aoun

open AsyncSystem AsyncSystem.World StepSystem

/-! ## The form -/

/-- The text of the field `priceTextbox`; the form for resources has none. -/
def FileForm.price : FileForm → String
  | .note _ _ _ price _ => price
  | .resource .. => ""

/-- `priceSwitch.isOn`. -/
def FileForm.priceSwitch : FileForm → Bool
  | .note _ _ _ _ priceSwitch => priceSwitch
  | .resource .. => false

/-- The price in a document of `Notes`. -/
def FileDocument.price : FileDocument → String
  | .note _ _ _ price _ _ _ => price
  | .resource .. => ""

/-- An edit of the form for notes. -/
inductive PostNoteEdit
  /-- The switch is flipped. -/
  | priceSwitch
  /-- `length` characters of a text field at `location` are replaced by `string`. -/
  | priceTextbox (location length : ℕ) (string : String)
  | noteTitleTextbox (location length : ℕ) (string : String)
  | autherTextbox (location length : ℕ) (string : String)
  /-- The description is changed to `text`. -/
  | descriptionTextbox (text : String)

namespace PostNoteViewController

/-- `stateChanged(switchState:)`: the text of the price field afterwards. -/
def stateChanged (isOn : Bool) (price : String) : String := if isOn then "" else price

/-- `textField(_:shouldChangeCharactersIn:replacementString:)` for the price field. -/
def shouldChangePrice (text : String) (location length : ℕ) (string : String) : Bool :=
  if text.length = 0 ∧ string = "0" then false
  else if text.length < location + length then true
  else
    let updatedText := replacingCharacters text location length string
    if 4 < updatedText.length then false
    else if updatedText.toList.all digit then decimal updatedText ≠ some 0
    else false

/-- The same for the title. -/
def shouldChangeTitle (text : String) : Bool := text.length ≤ 24

/-- The text of a field after an edit of a range of it, if `shouldChange` lets it through. -/
def changed (shouldChange : Bool) (text : String) (location length : ℕ) (string : String) :
    Option String :=
  if location + length ≤ text.length then
    some (if shouldChange then replacingCharacters text location length string else text)
  else none

/-- The form after an edit; `none` where the range is outside the text. -/
def edit : FileForm → PostNoteEdit → Option FileForm
  | .note noteTitle auther description price priceSwitch, .priceSwitch =>
    some (.note noteTitle auther description (stateChanged (!priceSwitch) price) !priceSwitch)
  | .note noteTitle auther description price priceSwitch, .priceTextbox location length string =>
    (changed (shouldChangePrice price location length string) price location length string).map
      fun price => .note noteTitle auther description price priceSwitch
  | .note noteTitle auther description price priceSwitch,
      .noteTitleTextbox location length string =>
    (changed (shouldChangeTitle noteTitle) noteTitle location length string).map
      fun noteTitle => .note noteTitle auther description price priceSwitch
  | .note noteTitle auther description price priceSwitch, .autherTextbox location length string =>
    (changed true auther location length string).map
      fun auther => .note noteTitle auther description price priceSwitch
  | .note noteTitle auther _ price priceSwitch, .descriptionTextbox text =>
    some (.note noteTitle auther text price priceSwitch)
  | .resource .., _ => none

/-- `viewDidLoad()`, with the switch as the storyboard has it. -/
def viewDidLoad : FileForm := .note "" "" "*Description" (stateChanged false "") false

end PostNoteViewController

open PostNoteViewController

/-- What the user can do. -/
inductive PostNoteTap
  | edit (e : PostNoteEdit)
  /-- The document picker ends. -/
  | documentPicker (urls : List String) (accessible : Bool) (document : Option FileData)
  | submitButton
  /-- "Ok" in the alert. -/
  | ok

/-- The tap as one on any form. -/
def PostNoteTap.postTap (form : FileForm) : PostNoteTap → Option PostTap
  | .edit e => (PostNoteViewController.edit form e).map .edit
  | .documentPicker urls accessible document => some (.documentPicker urls accessible document)
  | .submitButton => some .submit
  | .ok => some .ok

/-- A request of the form, with the form as it was submitted. -/
structure SubmittedRequest where
  request : FilesRequest
  submitted : FileForm
  deriving DecidableEq

/-- What the history of the forms records: `createDocument(with:)` wrote a document, after this
form was submitted; the server stored it. -/
inductive PostNoteEffect
  | created (submitted : FileForm) (document : FileDocument)
  | stored (submitted : FileForm) (document : FileDocument)
  deriving DecidableEq

/-- The document that a request stores. -/
def FilesRequest.document : FilesRequest → Option FileDocument
  | .setData document _ => some document
  | _ => none

/-- A reaction of the form after `submitted` was submitted. -/
def PostViewController.submitted (submitted : FileForm) (r : PostReaction) :
    Reaction PostViewController SubmittedRequest PostNoteEffect :=
  ⟨r.client, r.requests.map fun q => ⟨q, submitted⟩,
    r.requests.filterMap fun q => q.document.map (.created submitted)⟩

/-- How the server handles a request. -/
def FilesServer.serveSubmitted (downloadURL : String → URL) (s : FilesServer)
    (q : SubmittedRequest) (e : Outcome) : Served FilesServer FilesAnswer PostNoteEffect :=
  let served := s.serve downloadURL q.request e
  ⟨served.server, served.answer,
    if e = .success then (q.request.document.map (.stored q.submitted)).toList else []⟩

/-- Any number of forms for notes, of any users, over one server. -/
def postNoteSystem (downloadURL : String → URL) :
    AsyncSystem FilesServer PostViewController (Option String) PostNoteTap SubmittedRequest
      Outcome FilesAnswer Timestamp PostNoteEffect where
  boot := fun currentUser =>
    PostViewController.submitted viewDidLoad
      ((filesSystem downloadURL).boot (viewDidLoad, currentUser))
  ui := fun vc tap =>
    ((tap.postTap vc.form).bind vc.ui).map (PostViewController.submitted vc.form)
  serve := FilesServer.serveSubmitted downloadURL
  recv := fun vc q a now => PostViewController.submitted q.submitted (vc.recv q.request a now)

/-- The states of the system of forms for notes. -/
abbrev PostNoteWorld :=
  AsyncSystem.World FilesServer PostViewController SubmittedRequest FilesAnswer PostNoteEffect

/-- What can happen in it. -/
abbrev PostNoteEvent := AsyncSystem.Event (Option String) PostNoteTap Outcome Timestamp

/-! ## They are forms -/

/-- The state without what is kept for the history. -/
def PostNoteWorld.forms (w : PostNoteWorld) : FilesWorld where
  server := w.server
  clients := w.clients
  flights := w.flights.map fun f => ⟨f.owner, f.root, f.request.request, f.answer⟩
  trace := []
  next := w.next

section Forms

variable {downloadURL : String → URL} {s : FilesServer}
  {h : List (PostNoteWorld × PostNoteEvent)} {w w' : PostNoteWorld} {e : PostNoteEvent}

/-- Nothing is recorded for the history of forms. -/
lemma eq_nil_of_empty (l : List Empty) : l = [] := by
  cases l with
  | nil => rfl
  | cons o _ => exact o.elim

/-- A reaction, without what is kept for the history. -/
lemma forms_react (w : PostNoteWorld) (i root : ℕ) (submitted : FileForm) (r : PostReaction) :
    PostNoteWorld.forms (w.react i root (PostViewController.submitted submitted r)) =
      (PostNoteWorld.forms w).react i root r := by
  simp [PostNoteWorld.forms, World.react, PostViewController.submitted, eq_nil_of_empty r.effects]

/-- A request in flight, without what is kept for the history. -/
lemma forms_flight {k : ℕ} {f : Flight SubmittedRequest FilesAnswer}
    (flight : w.flights[k]? = some f) :
    (PostNoteWorld.forms w).flights[k]? = some ⟨f.owner, f.root, f.request.request, f.answer⟩ := by
  simp [PostNoteWorld.forms, flight]

/-- Every step of these forms is a step of forms. -/
lemma forms_step (hs : (postNoteSystem downloadURL).step w e = some w') :
    ∃ e', (filesSystem downloadURL).step (PostNoteWorld.forms w) e' =
      some (PostNoteWorld.forms w') := by
  cases took_of_step hs with
  | @boot i a free =>
    refine ⟨.boot i (viewDidLoad, a), ?_⟩
    have hfree : (PostNoteWorld.forms w).clients i = none := free
    simp only [AsyncSystem.step, hfree]
    rw [← forms_react]
    rfl
  | @ui i u c r client reacts =>
    obtain ⟨r', htap, rfl⟩ := Option.map_eq_some_iff.mp reacts
    obtain ⟨tap, -, hr'⟩ := Option.bind_eq_some_iff.mp htap
    refine ⟨.ui i tap, ?_⟩
    have hclient : (PostNoteWorld.forms w).clients i = some c := client
    rw [step_ui hclient hr', ← forms_react]
    rfl
  | @serve k e f flight unanswered =>
    refine ⟨.serve k e, ?_⟩
    simp only [AsyncSystem.step, forms_flight flight, Option.bind_eq_bind, Option.bind_some,
      unanswered]
    simp [PostNoteWorld.forms, World.handle, filesSystem, postNoteSystem,
      FilesServer.serveSubmitted, List.eraseIdx_map, eq_nil_of_empty]
  | @deliver k x f a c flight answered client =>
    refine ⟨.deliver k x, ?_⟩
    have hclient : (PostNoteWorld.forms w).clients f.owner = some c := client
    simp only [AsyncSystem.step, forms_flight flight, Option.bind_eq_bind, Option.bind_some,
      answered, hclient]
    show some _ = some (PostNoteWorld.forms ((w.land k).react f.owner f.root
      (PostViewController.submitted f.request.submitted (c.recv f.request.request a x))))
    rw [forms_react]
    simp [PostNoteWorld.forms, World.land, filesSystem, List.eraseIdx_map]

/-- **They are forms.** Every run of forms for notes is a run of forms. -/
theorem postNoteSystem_run (hr : (postNoteSystem downloadURL).RunFrom s h w) :
    ∃ h', (filesSystem downloadURL).RunFrom s h' (PostNoteWorld.forms w) := by
  exact hr.simulated fun _ _ _ => forms_step

end Forms

/-! ## The switch and the price -/

/-- A stored document has the price that the switch and the field said when its form was
submitted. -/
def PricedAs (submitted : FileForm) (document : FileDocument) : Prop :=
  (document.price = "" ↔ submitted.priceSwitch = false) ∧
    (submitted.priceSwitch = true → document.price = submitted.price)

/-- Every document that the forms have written has the price that the switch and the field said
at its submission. -/
def PaidAsSwitched (w : PostNoteWorld) : Prop :=
  ∀ t ∈ w.trace, ∀ submitted document, t.effect = .created submitted document →
    PricedAs submitted document

/-- The price field of the form `vc` holds what it held when `submitted` was submitted if the
switch was on then, and nothing if it was off. -/
def FieldAsSubmitted (submitted : FileForm) (vc : PostViewController) : Prop :=
  vc.form.price = if submitted.priceSwitch then submitted.price else ""

/-- When the URL of an uploaded file is delivered to a form of a signed-in user, the price field
is as submitted. -/
def CreatesAsSubmitted (w : PostNoteWorld) (e : PostNoteEvent) : Prop :=
  ∀ k now f upload url vc, e = .deliver k now → w.flights[k]? = some f →
    f.request.request = .downloadURL upload → f.answer = some (.url url) →
    w.clients f.owner = some vc → vc.trapped = false → vc.currentUser ≠ none →
    FieldAsSubmitted f.request.submitted vc

section Switch

variable {downloadURL : String → URL} {s : FilesServer}
  {h : List (PostNoteWorld × PostNoteEvent)} {w w' : PostNoteWorld} {e : PostNoteEvent}

/-- The form is one for notes. -/
def FileForm.IsNote (form : FileForm) : Prop := form.collection = "Notes"

lemma FileForm.IsNote.eq_note {form : FileForm} (hf : form.IsNote) :
    ∃ noteTitle auther description, form =
      .note noteTitle auther description form.price form.priceSwitch := by
  cases form with
  | note noteTitle auther description price priceSwitch =>
    exact ⟨noteTitle, auther, description, rfl⟩
  | resource =>
    have hne : "Resources" ≠ "Notes" := by decide
    exact absurd hf hne

/-- A form with the switch on is submitted with a price. -/
lemma price_ne_of_check {noteTitle auther description price : String} {files : List String}
    {error : String}
    (hc : (check noteTitle auther description price true files error).2 = true) : price ≠ "" := by
  rintro rfl
  unfold check at hc
  dsimp only at hc
  rw [if_pos (⟨rfl, rfl⟩ : true = true ∧ "" = "")] at hc
  split_ifs at hc

/-- The price is set in a form that was submitted with the switch on. -/
def FileForm.Checked (form : FileForm) : Prop :=
  form.priceSwitch = true → form.price ≠ ""

/-- A form submits only what is checked. -/
lemma submit_checked {vc : PostViewController} (hf : vc.form.IsNote) {q : FilesRequest}
    (hq : q ∈ vc.submit.requests) : vc.form.Checked := by
  obtain ⟨noteTitle, auther, description, heq⟩ := hf.eq_note
  intro hon
  unfold PostViewController.submit at hq
  dsimp only at hq
  split_ifs at hq with hchecked
  · rw [heq, hon] at hchecked
    exact price_ne_of_check hchecked
  · cases hq

/-- An edit leaves the form one for notes. -/
lemma edit_isNote {form form' : FileForm} {e : PostNoteEdit} (he : edit form e = some form') :
    form'.IsNote := by
  cases form with
  | resource => cases e <;> cases he
  | note noteTitle auther description price priceSwitch =>
    cases e with
    | priceSwitch => rw [← Option.some.inj he]; rfl
    | descriptionTextbox text => rw [← Option.some.inj he]; rfl
    | priceTextbox | noteTitleTextbox | autherTextbox =>
      obtain ⟨text, -, rfl⟩ := Option.map_eq_some_iff.mp he
      rfl

/-- The document picker leaves the form alone. -/
lemma documentPicker_form (vc : PostViewController) (urls : List String) (accessible : Bool)
    (document : Option FileData) : (vc.documentPicker urls accessible document).form = vc.form := by
  unfold PostViewController.documentPicker
  split_ifs <;> rfl

/-- A submission leaves the form alone. -/
lemma submit_form (vc : PostViewController) : vc.submit.client.form = vc.form := by
  unfold PostViewController.submit PostViewController.putData
  dsimp only
  split_ifs
  · cases vc.documentFileData <;> rfl
  · rfl

/-- What a touch does: it edits the form, or leaves it and submits it at most. -/
lemma postNote_ui_cases {vc : PostViewController} {tap : PostNoteTap}
    {r : Reaction PostViewController SubmittedRequest PostNoteEffect}
    (hr : (postNoteSystem downloadURL).ui vc tap = some r) :
    (∃ e, edit vc.form e = some r.client.form ∧ r.requests = [] ∧ r.effects = []) ∨
    (r.client.form = vc.form ∧ r.effects = [] ∧ ∀ q ∈ r.requests, q.submitted = vc.form ∧
      q.request ∈ vc.submit.requests) := by
  obtain ⟨r', htap, rfl⟩ := Option.map_eq_some_iff.mp hr
  obtain ⟨postTap, hpost, hui⟩ := Option.bind_eq_some_iff.mp htap
  cases tap with
  | edit e =>
    obtain ⟨form, hform, rfl⟩ := Option.map_eq_some_iff.mp hpost
    simp only [PostViewController.ui, Option.ite_none_right_eq_some, Option.some.injEq] at hui
    obtain ⟨-, rfl⟩ := hui
    exact Or.inl ⟨e, hform, rfl, rfl⟩
  | documentPicker urls accessible document =>
    rw [← Option.some.inj hpost] at hui
    simp only [PostViewController.ui, Option.ite_none_right_eq_some, Option.some.injEq] at hui
    obtain ⟨-, rfl⟩ := hui
    exact Or.inr ⟨documentPicker_form .., rfl, by simp [PostViewController.submitted]⟩
  | submitButton =>
    rw [← Option.some.inj hpost] at hui
    simp only [PostViewController.ui, Option.ite_none_right_eq_some, Option.some.injEq] at hui
    obtain ⟨-, rfl⟩ := hui
    refine Or.inr ⟨submit_form vc, ?_, ?_⟩
    · unfold PostViewController.submitted PostViewController.submit PostViewController.putData
      dsimp only
      split_ifs
      · cases vc.documentFileData <;> rfl
      · rfl
    · intro q hq
      obtain ⟨q', hq', rfl⟩ := List.mem_map.mp hq
      exact ⟨rfl, hq'⟩
  | ok =>
    rw [← Option.some.inj hpost] at hui
    simp only [PostViewController.ui, Option.ite_none_right_eq_some, Option.some.injEq] at hui
    obtain ⟨-, rfl⟩ := hui
    exact Or.inr ⟨rfl, rfl, by simp [PostViewController.submitted]⟩

/-- A callback leaves the form alone. -/
lemma recv_form (vc : PostViewController) (q : FilesRequest) (a : FilesAnswer)
    (now : Timestamp) : (vc.recv q a now).client.form = vc.form := by
  unfold PostViewController.recv
  split_ifs
  · rfl
  · unfold PostViewController.callback
    split <;> first | rfl | skip
    unfold PostViewController.createDocument
    split
    · split <;> rfl
    · rfl

/-- The callback writes a document: the URL of the file has arrived, the program runs, and a
user is signed in. -/
def WritesDocument (vc : PostViewController) (q : FilesRequest) (a : FilesAnswer) : Prop :=
  (∃ upload url, q = .downloadURL upload ∧ a = .url url) ∧ vc.trapped = false ∧
    vc.currentUser ≠ none

/-- `createDocument(with:)` writes a document with the text of the price field, if a user is
signed in. -/
lemma createDocument_cases {vc : PostViewController} (hf : vc.form.IsNote) (url : URL)
    (upload : Upload) (now : Timestamp) :
    (vc.currentUser = none ∧ (vc.createDocument url upload now).requests = []) ∨
    (vc.currentUser ≠ none ∧ ∃ document, document.price = vc.form.price ∧
      (vc.createDocument url upload now).requests = [.setData document upload]) := by
  unfold PostViewController.createDocument
  cases hform : vc.form with
  | resource => rw [hform] at hf; exact absurd hf (show "Resources" ≠ "Notes" by decide)
  | note noteTitle auther description price priceSwitch =>
    cases hu : vc.currentUser with
    | none => exact Or.inl ⟨rfl, rfl⟩
    | some userId => exact Or.inr ⟨by simp, _, rfl, rfl⟩

variable (downloadURL) in
/-- A callback writes one document, with the text of the price field, or none. -/
lemma recv_created {vc : PostViewController} (hf : vc.form.IsNote) (q : SubmittedRequest)
    (a : FilesAnswer) (now : Timestamp) :
    (WritesDocument vc q.request a ∧ ∃ document, document.price = vc.form.price ∧
      ((postNoteSystem downloadURL).recv vc q a now).effects =
        [.created q.submitted document]) ∨
    (¬ WritesDocument vc q.request a ∧
      ((postNoteSystem downloadURL).recv vc q a now).effects = []) := by
  obtain ⟨request, submitted⟩ := q
  cases ht : vc.trapped with
  | true =>
    refine Or.inr ⟨fun hc => ?_, ?_⟩
    · rw [hc.2.1] at ht
      cases ht
    · simp [postNoteSystem, PostViewController.recv, ht, PostViewController.submitted]
  | false =>
    have hrecv : vc.recv request a now = vc.callback request a now := by
      simp [PostViewController.recv, ht]
    simp only [postNoteSystem, hrecv]
    -- only the answer with the URL goes on to write a document
    have hno : (∀ upload url, ¬ (request = .downloadURL upload ∧ a = .url url)) →
        (vc.callback request a now).requests.filterMap FilesRequest.document = [] →
        ¬ WritesDocument vc request a ∧
          (PostViewController.submitted submitted (vc.callback request a now)).effects = [] := by
      intro hne hnone
      refine ⟨fun ⟨⟨upload, url, hq⟩, _⟩ => hne upload url hq, ?_⟩
      unfold PostViewController.submitted
      rw [← List.map_filterMap, hnone]
      rfl
    cases request with
    | downloadURL upload =>
      cases a with
      | url url =>
        rcases createDocument_cases hf url upload now with ⟨hu, hreq⟩ | ⟨hu, document, hp, hreq⟩
        · refine Or.inr ⟨fun hc => hc.2.2 hu, ?_⟩
          simp [PostViewController.submitted, PostViewController.callback, hreq]
        · refine Or.inl ⟨⟨⟨upload, url, rfl, rfl⟩, ht, hu⟩, document, hp, ?_⟩
          simp [PostViewController.submitted, PostViewController.callback, hreq,
            FilesRequest.document]
      | _ => exact Or.inr (hno (by simp) rfl)
    | putData upload => cases a <;> exact Or.inr (hno (by simp) rfl)
    | setData document upload => cases a <;> exact Or.inr (hno (by simp) rfl)

/-- In every run the forms are forms for notes, and what they have submitted is checked. -/
lemma postNoteSystem_checked (hr : (postNoteSystem downloadURL).RunFrom s h w) :
    ClientInv (fun _ => True) (fun _ vc _ => vc.form.IsNote) (fun _ q => q.submitted.Checked)
      (fun _ _ _ => True) w := by
  have hrules : ClientRules (postNoteSystem downloadURL) (fun _ => False) (fun _ => True)
      (fun _ vc _ => vc.form.IsNote) (fun _ q => q.submitted.Checked) (fun _ _ _ => True) := by
    refine ⟨?_, ?_, ?_, ?_, ?_⟩
    · exact fun _ _ _ => ⟨rfl, fun _ hq => by cases hq⟩
    · intro _ vc _ _ r _ hf hr
      rcases postNote_ui_cases hr with ⟨e, hedit, hreq, -⟩ | ⟨hform, -, hreq⟩
      · exact ⟨⟨edit_isNote hedit, by simp [hreq]⟩, fun _ hq => hq⟩
      · refine ⟨⟨?_, fun q hq => ?_⟩, fun _ hq => hq⟩
        · show r.client.form.IsNote
          rw [hform]
          exact hf
        · obtain ⟨hsub, hq'⟩ := hreq q hq
          rw [hsub]
          exact submit_checked hf hq'
    · exact fun _ _ _ _ _ _ => ⟨trivial, trivial, fun _ hf => hf⟩
    · exact fun _ _ _ _ _ _ => ⟨fun _ _ hf => hf, fun _ _ _ => trivial⟩
    · intro _ vc _ q a now _ hf hq _
      refine ⟨⟨?_, fun q' hq' => ?_⟩, fun _ hq' _ => hq'⟩
      · show (vc.recv q.request a now).client.form.IsNote
        rw [recv_form]
        exact hf
      · obtain ⟨q'', -, rfl⟩ := List.mem_map.mp hq'
        exact hq
  exact client_invariant exclusiveRules_false hrules trivial hr

/-- A document with the text of the price field has the price that the switch and the field said
at the submission, exactly if the field is as submitted. -/
lemma pricedAs_iff {submitted : FileForm} (hc : submitted.Checked) {vc : PostViewController}
    {document : FileDocument} (hd : document.price = vc.form.price) :
    PricedAs submitted document ↔ FieldAsSubmitted submitted vc := by
  unfold PricedAs FieldAsSubmitted
  rw [hd]
  cases hon : submitted.priceSwitch with
  | false => simp
  | true =>
    have hne : submitted.price ≠ "" := hc hon
    simp only [if_true, true_implies, reduceCtorEq, iff_false]
    constructor
    · intro hp
      exact hp.2
    · intro hp
      exact ⟨by rw [hp]; exact hne, hp⟩

/-- A step without new documents keeps the property. -/
lemma paidAsSwitched_of_trace {t : List (Entry PostNoteEffect)}
    (ht : w'.trace = w.trace ++ t)
    (hno : ∀ o ∈ t, ∀ submitted document, o.effect ≠ .created submitted document) :
    PaidAsSwitched w' ↔ PaidAsSwitched w := by
  unfold PaidAsSwitched
  rw [ht]
  constructor
  · intro hp o ho
    exact hp o (List.mem_append_left _ ho)
  · intro hp o ho submitted document heff
    rcases List.mem_append.mp ho with ho | ho
    · exact hp o ho submitted document heff
    · exact absurd heff (hno o ho submitted document)

/-- The condition on a delivery speaks of the answer that is delivered. -/
lemma createsAsSubmitted_deliver_iff {k : ℕ} {now : Timestamp}
    {f : Flight SubmittedRequest FilesAnswer} {a : FilesAnswer} {vc : PostViewController}
    (flight : w.flights[k]? = some f) (answered : f.answer = some a)
    (client : w.clients f.owner = some vc) :
    CreatesAsSubmitted w (.deliver k now) ↔
      (WritesDocument vc f.request.request a → FieldAsSubmitted f.request.submitted vc) := by
  constructor
  · rintro hcreates ⟨⟨upload, url, hq, rfl⟩, ht, hu⟩
    exact hcreates k now f upload url vc rfl flight hq answered client ht hu
  · intro hcreates k' now' f' upload url vc' he hf' hq ha hvc ht hu
    obtain ⟨rfl, rfl⟩ := Event.deliver.inj he
    obtain rfl : f = f' := by rw [flight] at hf'; exact Option.some.inj hf'
    obtain rfl : vc = vc' := by rw [client] at hvc; exact Option.some.inj hvc
    rw [answered] at ha
    exact hcreates ⟨⟨upload, url, hq, Option.some.inj ha⟩, ht, hu⟩

/-- A document that is created has to be priced as submitted, for the property to stay. -/
lemma paidAsSwitched_created {i root : ℕ} {r : Reaction PostViewController SubmittedRequest
    PostNoteEffect} {submitted : FileForm} {document : FileDocument} (hp : PaidAsSwitched w)
    (heff : r.effects = [.created submitted document]) :
    PaidAsSwitched (w.react i root r) ↔ PricedAs submitted document := by
  constructor
  · intro hp'
    refine hp' ⟨i, root, .created submitted document⟩ ?_ _ _ rfl
    simp [heff]
  · intro hpriced o ho submitted' document' ho'
    simp only [react_trace, heff, List.map_cons, List.map_nil, List.mem_append,
      List.mem_singleton] at ho
    rcases ho with ho | rfl
    · exact hp o ho submitted' document' ho'
    · obtain ⟨rfl, rfl⟩ := PostNoteEffect.created.inj ho'
      exact hpriced

/-- A step keeps the property exactly if it creates documents as submitted. -/
lemma paidAsSwitched_step_iff (hr : (postNoteSystem downloadURL).RunFrom s h w)
    (hp : PaidAsSwitched w) (hs : (postNoteSystem downloadURL).step w e = some w') :
    PaidAsSwitched w' ↔ CreatesAsSubmitted w e := by
  have hinv := postNoteSystem_checked hr
  cases took_of_step hs with
  | @boot i a free =>
    refine iff_of_true ((paidAsSwitched_of_trace (t := []) rfl (by simp)).mpr hp) ?_
    intro k now f upload url vc he
    cases he
  | @ui i u c r client reacts =>
    have hnone : r.effects = [] := by
      rcases postNote_ui_cases reacts with ⟨_, -, -, heff⟩ | ⟨-, heff, -⟩ <;> exact heff
    refine iff_of_true ((paidAsSwitched_of_trace (t := []) ?_ (by simp)).mpr hp) ?_
    · simp [hnone]
    · intro k now f upload url vc he
      cases he
  | @serve k e f flight unanswered =>
    refine iff_of_true ((paidAsSwitched_of_trace rfl ?_).mpr hp) ?_
    · intro o ho submitted document heff
      obtain ⟨o', ho', rfl⟩ := List.mem_map.mp ho
      simp only [postNoteSystem, FilesServer.serveSubmitted] at ho'
      split_ifs at ho'
      · obtain ⟨d, -, hd⟩ := Option.map_eq_some_iff.mp (Option.mem_toList.mp ho')
        rw [← hd] at heff
        cases heff
      · cases ho'
    · intro k now f upload url vc he
      cases he
  | @deliver k now f a c flight answered client =>
    have hf : c.form.IsNote := hinv.client _ c client
    have hchecked : f.request.submitted.Checked := by
      obtain ⟨_, -, hq, -⟩ := hinv.flight f (mem_of_flight flight)
      exact hq
    rw [createsAsSubmitted_deliver_iff flight answered client]
    rcases recv_created downloadURL hf f.request a now with ⟨hc, document, hd, heff⟩ | ⟨hc, heff⟩
    · have hland : PaidAsSwitched (w.land k) := hp
      rw [paidAsSwitched_created hland heff, pricedAs_iff hchecked hd]
      exact ⟨fun hfield _ => hfield, fun hfield => hfield hc⟩
    · refine iff_of_true ((paidAsSwitched_of_trace (t := []) ?_ (by simp)).mpr hp) ?_
      · simp [heff]
      · exact fun hc' => absurd hc' hc

end Switch

/-! ## Sara's note -/

/-- Storage and the collections before anything is posted. -/
def emptyFiles : FilesServer := ⟨fun _ => none, []⟩

/-- Sara fills in her form, makes these edits of the price, and submits it; the file is uploaded
and the document written. -/
def saraSubmits (edits : List PostNoteEdit) : List PostNoteEvent :=
  [.boot 0 (some "sara"), .ui 0 (.edit (.noteTitleTextbox 0 0 "Logic")),
    .ui 0 (.edit (.autherTextbox 0 0 "Sara")),
    .ui 0 (.edit (.descriptionTextbox "Lecture notes")),
    .ui 0 (.documentPicker ["logic.pdf"] true (some []))] ++
  edits.map (fun e => .ui 0 (.edit e)) ++
  [.ui 0 .submitButton, .serve 0 .success, .deliver 0 7, .serve 0 .success, .deliver 0 7,
    .serve 0 .success]

/-- The form that she submits. -/
def saraSubmitted (price : String) (priceSwitch : Bool) : FileForm :=
  .note "Logic" "Sara" "Lecture notes" price priceSwitch

/-- The document that is written for it. -/
def saraWritten (price : String) : FileDocument :=
  .note "Logic" "Sara" "Lecture notes" price "Notes/sara/logic.pdf" "sara" 7

/-- What is recorded when she submits a form after these edits. -/
lemma sara_created (edits : List PostNoteEdit) (submitted : FileForm) (document : FileDocument)
    (he : (exec (postNoteSystem id).step (start emptyFiles) (saraSubmits edits)).map
      (fun w => w.effectsOf 0) = some [.created submitted document, .stored submitted document]) :
    ∃ h w, (postNoteSystem id).RunFrom emptyFiles h w ∧
      w.effectsOf 0 = [.created submitted document, .stored submitted document] := by
  obtain ⟨h, w, hr, -, hw⟩ := run_of_observed he
  exact ⟨h, w, hr, hw⟩

end Aoun
