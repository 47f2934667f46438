import Mathlib.Data.List.Infix
import Aoun.Text
import Aoun.Workshop.Screen

/-!
# Posting a workshop

`postWorkshopViewController`, the form that posts a workshop. It checks the trimmed title, but
stores the title as it is typed; the detail screen later makes booking ids from the first
characters of its words, which it takes to be separated by single spaces. On a title that is
not, the first purchase stops the program after the payment.

An edit replaces a range of a text, counted in `Char`s. The write of the document is not
awaited by anything here, and what follows it, an alert, is left out.

## Main definitions

* `Aoun.PostWorkshopViewController` — the form, with its methods.
* `Aoun.SingleSpaced` — the words of a title are separated by single spaces.
* `Aoun.WorkshopDetailsVC.BooksPayments` — a successful checkout is booked.

## Main results

* `Aoun.posted_accepted` — what the form stores has passed its filters and its checks.
* `Aoun.nil_mem_splitOn_iff` — when a text has an empty word.
* `Aoun.books_payments_iff` — on which posted workshops payments are booked.
-/

set_option relaxedAutoImplicit false
set_option autoImplicit false

namespace Aoun

open StepSystem

/-! ## The form -/

/-- The text fields of the form. -/
inductive WorkshopField
  | Wtitle | presenter | priceTextbox | seat
  deriving DecidableEq

/-- The color of the text in the view `descV`; the two grays differ a little. -/
inductive DescColor
  | gray | endedGray | red | black
  deriving DecidableEq

/-- `postWorkshopViewController`, for the signed-in user `currentUser`. -/
structure PostWorkshopViewController where
  currentUser : Option String
  Wtitle : String
  presenter : String
  priceTextbox : String
  seat : String
  descV : String
  descVColor : DescColor
  datePicker : Timestamp
  msg : String
  /-- The documents handed to `setData` so far. -/
  posted : List Workshops

/-- What the user can do. -/
inductive PostWorkshopTap
  /-- An edit of a text field: `length` characters at `location` are replaced. -/
  | textField (field : WorkshopField) (location length : ℕ) (string : String)
  /-- An edit of the description. -/
  | textView (location length : ℕ) (text : String)
  | textViewDidBeginEditing
  | textViewDidEndEditing
  | datePicker (date : Timestamp)
  | submit

namespace PostWorkshopViewController

/-- `viewDidLoad()`; the date picker starts at `date`. -/
def viewDidLoad (currentUser : Option String) (date : Timestamp) : PostWorkshopViewController where
  currentUser := currentUser
  Wtitle := ""
  presenter := ""
  priceTextbox := ""
  seat := ""
  descV := "*Description"
  descVColor := .gray
  datePicker := date
  msg := ""
  posted := []

variable (vc : PostWorkshopViewController)

/-- The text of a field. -/
def text : WorkshopField → String
  | .Wtitle => vc.Wtitle
  | .presenter => vc.presenter
  | .priceTextbox => vc.priceTextbox
  | .seat => vc.seat

/-- The form with another text in a field. -/
def setText (string : String) : WorkshopField → PostWorkshopViewController
  | .Wtitle => { vc with Wtitle := string }
  | .presenter => { vc with presenter := string }
  | .priceTextbox => { vc with priceTextbox := string }
  | .seat => { vc with seat := string }

/-- `textField(_:shouldChangeCharactersIn:replacementString:)`, for the text `newString` after
the change. -/
def shouldChange (newString string : String) : WorkshopField → Bool
  | .priceTextbox | .seat => string.toList.all digit ∧ utf16Length newString ≤ 4
  | .Wtitle | .presenter => utf16Length newString ≤ 20

/-- The checks of `submit(_:)`: the text of the label `msg`, which was `msg` before, and
whether the workshop is stored. -/
def check (Wtitle presenter priceTextbox seat descV msg : String) : String × Bool :=
  let msg :=
    if trimmed Wtitle = "" then "Please fill in the Title."
    else if trimmed presenter = "" then "Please fill in Presenter Name."
    else if trimmed priceTextbox = "" then "Please fill in the price."
    else if trimmed seat = "" then "Please fill in Number of Seats."
    else if trimmed descV = "*Description" then "Please fill in the Description."
    else msg
  let msg :=
    if trimmed Wtitle = "" ∧ trimmed presenter = "" ∧ trimmed priceTextbox = "" ∧
        trimmed seat = "" ∧ trimmed descV = "*Description" then
      "Please fill in all missing fields."
    else msg
  if trimmed Wtitle = "" ∨ trimmed presenter = "" ∨ trimmed priceTextbox = "" ∨
      trimmed seat = "" ∨ trimmed descV = "*Description" then (msg, false)
  else if (trimmed Wtitle).length < 4 then ("Title must be more than 3 characters.", false)
  else if (trimmed presenter).length < 4 then
    ("Presenter Name must be more than 3 characters.", false)
  else if (trimmed descV).length < 11 then
    ("Description must be more than 10 characters.", false)
  else ("", true)

/-- A missing field, and the description is still the placeholder. -/
def marksDescription : Bool :=
  (trimmed vc.Wtitle = "" ∨ trimmed vc.presenter = "" ∨ trimmed vc.priceTextbox = "" ∨
    trimmed vc.seat = "" ∨ trimmed vc.descV = "*Description") ∧ vc.descV = "*Description"

/-- The document that `createDocument()` stores, with the texts as they are. -/
def document : Workshops where
  Title := vc.Wtitle
  presenter := vc.presenter
  price := vc.priceTextbox
  seat := vc.seat
  description := vc.descV
  dateTime := vc.datePicker
  documentId := none
  uid := vc.currentUser

/-- `createDocument()`. -/
def createDocument : PostWorkshopViewController :=
  { vc with posted := vc.posted ++ [vc.document] }

/-- `submit(_:)`. -/
def submit : PostWorkshopViewController :=
  let checked := check vc.Wtitle vc.presenter vc.priceTextbox vc.seat vc.descV vc.msg
  let vc := if vc.marksDescription then { vc with descVColor := .red } else vc
  let vc := { vc with msg := checked.1 }
  if checked.2 then vc.createDocument else vc

/-- `textViewDidBeginEditing(_:)`. -/
def textViewDidBeginEditing : PostWorkshopViewController :=
  if vc.descVColor = .gray ∨ vc.descVColor = .red then
    { vc with descV := "", descVColor := .black }
  else vc

/-- `textViewDidEndEditing(_:)`. -/
def textViewDidEndEditing : PostWorkshopViewController :=
  if vc.descV = "" then { vc with descV := "*Description", descVColor := .endedGray } else vc

/-- The reactions to the user; an edit that its filter refuses does nothing. -/
def step : PostWorkshopTap → Option PostWorkshopViewController
  | .textField field location length string =>
    let newString := replacingCharacters (vc.text field) location length string
    if location + length ≤ (vc.text field).length then
      some (if shouldChange newString string field then vc.setText newString field else vc)
    else none
  | .textView location length text =>
    let newText := replacingCharacters vc.descV location length text
    if location + length ≤ vc.descV.length then
      some (if newText.length < 191 then { vc with descV := newText } else vc)
    else none
  | .textViewDidBeginEditing => some vc.textViewDidBeginEditing
  | .textViewDidEndEditing => some vc.textViewDidEndEditing
  | .datePicker date => some { vc with datePicker := date }
  | .submit => some vc.submit

end PostWorkshopViewController

open PostWorkshopViewController

/-! ## What is posted -/

/-- The workshop has passed the filters of the title and of the presenter, and the checks. -/
structure Workshops.Accepted (workshop : Workshops) : Prop where
  Title : utf16Length workshop.Title ≤ 20
  presenter : utf16Length workshop.presenter ≤ 20
  checked : (check workshop.Title workshop.presenter workshop.price workshop.seat
    workshop.description "").2 = true

/-- The label's text before does not change whether a workshop is stored. -/
lemma check_msg (ti pres pr se desc msg msg' : String) :
    (check ti pres pr se desc msg).2 = (check ti pres pr se desc msg').2 := by
  unfold check
  dsimp only
  split_ifs <;> rfl

variable {vc vc' vc₀ : PostWorkshopViewController}
  {h : List (PostWorkshopViewController × PostWorkshopTap)}

/-- The texts in the fields have passed their filters. -/
structure PostWorkshopViewController.Filtered (vc : PostWorkshopViewController) : Prop where
  Wtitle : utf16Length vc.Wtitle ≤ 20
  presenter : utf16Length vc.presenter ≤ 20
  posted : ∀ workshop ∈ vc.posted, workshop.Accepted

/-- A tap that changes neither a text field nor what is posted. -/
lemma PostWorkshopViewController.Filtered.of_eq (hf : vc.Filtered) (ht : vc'.Wtitle = vc.Wtitle)
    (hp : vc'.presenter = vc.presenter) (hposted : vc'.posted = vc.posted) : vc'.Filtered :=
  ⟨ht ▸ hf.Wtitle, hp ▸ hf.presenter, hposted ▸ hf.posted⟩

/-- An edit that its filter lets through. -/
lemma setText_filtered (hf : vc.Filtered) {newString string : String} {field : WorkshopField}
    (hs : shouldChange newString string field = true) : (vc.setText newString field).Filtered := by
  cases field with
  | Wtitle => exact ⟨by simpa [shouldChange, setText] using hs, hf.presenter, hf.posted⟩
  | presenter => exact ⟨hf.Wtitle, by simpa [shouldChange, setText] using hs, hf.posted⟩
  | priceTextbox => exact hf.of_eq rfl rfl rfl
  | seat => exact hf.of_eq rfl rfl rfl

/-- What a submission does: it stores the texts as they are, if they pass the checks. -/
lemma submit_cases (vc : PostWorkshopViewController) :
    (∃ color msg, vc.submit = { vc with descVColor := color, msg := msg }) ∨
    ((check vc.Wtitle vc.presenter vc.priceTextbox vc.seat vc.descV vc.msg).2 = true ∧
      ∃ color msg, vc.submit =
        { vc with descVColor := color, msg := msg, posted := vc.posted ++ [vc.document] }) := by
  unfold submit
  dsimp only
  split_ifs with hcheck
  · exact Or.inr ⟨hcheck, _, _, rfl⟩
  · exact Or.inr ⟨hcheck, _, _, rfl⟩
  · exact Or.inl ⟨_, _, rfl⟩
  · exact Or.inl ⟨_, _, rfl⟩

/-- What the form stores, and what it makes of it. -/
def PostWorkshopViewController.typed (vc : PostWorkshopViewController) :
    Option String × String × String × String × String × List Workshops :=
  (vc.currentUser, vc.Wtitle, vc.presenter, vc.priceTextbox, vc.seat, vc.posted)

/-- What a tap does: an edit that its filter lets through, a submission that stores the texts
since they pass the checks, or nothing to the text fields and to what is posted. -/
lemma PostWorkshopViewController.step_cases {tap : PostWorkshopTap} (hs : vc.step tap = some vc') :
    (∃ field location length string,
      shouldChange (replacingCharacters (vc.text field) location length string) string field =
          true ∧
        vc' = vc.setText (replacingCharacters (vc.text field) location length string) field) ∨
    ((check vc.Wtitle vc.presenter vc.priceTextbox vc.seat vc.descV vc.msg).2 = true ∧
      ∃ color msg, vc' =
        { vc with descVColor := color, msg := msg, posted := vc.posted ++ [vc.document] }) ∨
    vc'.typed = vc.typed := by
  cases tap with
  | textField field location length string =>
    simp only [step, Option.ite_none_right_eq_some, Option.some.injEq] at hs
    obtain ⟨-, rfl⟩ := hs
    split_ifs with hchange
    · exact Or.inl ⟨field, location, length, string, hchange, rfl⟩
    · exact Or.inr (Or.inr rfl)
  | textView location length text =>
    simp only [step, Option.ite_none_right_eq_some, Option.some.injEq] at hs
    obtain ⟨-, rfl⟩ := hs
    right; right
    split_ifs <;> rfl
  | textViewDidBeginEditing =>
    obtain rfl := Option.some.inj hs
    right; right
    unfold PostWorkshopViewController.textViewDidBeginEditing
    split_ifs <;> rfl
  | textViewDidEndEditing =>
    obtain rfl := Option.some.inj hs
    right; right
    unfold PostWorkshopViewController.textViewDidEndEditing
    split_ifs <;> rfl
  | datePicker date =>
    obtain rfl := Option.some.inj hs
    exact Or.inr (Or.inr rfl)
  | submit =>
    obtain rfl := Option.some.inj hs
    rcases submit_cases vc with ⟨color, msg, heq⟩ | ⟨hcheck, color, msg, heq⟩
    · refine Or.inr (Or.inr ?_)
      rw [heq]
      rfl
    · exact Or.inr (Or.inl ⟨hcheck, color, msg, heq⟩)

lemma PostWorkshopViewController.typed_eq (h : vc'.typed = vc.typed) :
    vc'.currentUser = vc.currentUser ∧ vc'.Wtitle = vc.Wtitle ∧ vc'.presenter = vc.presenter ∧
      vc'.priceTextbox = vc.priceTextbox ∧ vc'.seat = vc.seat ∧ vc'.posted = vc.posted := by
  simpa only [typed, Prod.mk.injEq] using h

/-- A tap keeps the texts filtered. -/
lemma step_filtered {tap : PostWorkshopTap} (hf : vc.Filtered) (hs : vc.step tap = some vc') :
    vc'.Filtered := by
  rcases step_cases hs with ⟨field, location, length, string, hchange, rfl⟩ |
    ⟨hcheck, color, msg, rfl⟩ | htyped
  · exact setText_filtered hf hchange
  · refine ⟨hf.Wtitle, hf.presenter, fun workshop hw => ?_⟩
    rcases List.mem_append.mp hw with hw | hw
    · exact hf.posted workshop hw
    · rw [List.mem_singleton.mp hw]
      exact ⟨hf.Wtitle, hf.presenter, (check_msg ..).trans hcheck⟩
  · obtain ⟨-, htitle, hpresenter, -, -, hposted⟩ := typed_eq htyped
    exact hf.of_eq htitle hpresenter hposted

/-- The runs of the form, from when it is opened. -/
abbrev PostWorkshopRun (currentUser : Option String) (date : Timestamp)
    (h : List (PostWorkshopViewController × PostWorkshopTap)) (vc : PostWorkshopViewController) :
    Prop :=
  Run PostWorkshopViewController.step (viewDidLoad currentUser date) h vc

/-- **What is posted.** Every workshop that the form stores has passed its filters and
checks. -/
theorem posted_accepted {currentUser : Option String} {date : Timestamp}
    (hr : PostWorkshopRun currentUser date h vc) {workshop : Workshops}
    (hw : workshop ∈ vc.posted) : workshop.Accepted := by
  have h0 : (viewDidLoad currentUser date).Filtered :=
    ⟨by simp [viewDidLoad, utf16Length], by simp [viewDidLoad, utf16Length], by simp [viewDidLoad]⟩
  have hf : vc.Filtered := hr.invariant h0 fun _ _ _ => step_filtered
  exact hf.posted workshop hw

/-- A text that is not blank is not empty. -/
lemma toList_ne_nil_of_trimmed {text : String} (h : trimmed text ≠ "") : text.toList ≠ [] := by
  intro hnil
  have hempty : text = "" := by rw [← String.toList_inj, hnil]; rfl
  exact h (by rw [hempty]; decide)

/-- In a posted workshop nothing is blank that the form asks for. -/
lemma Workshops.Accepted.trimmed_ne {workshop : Workshops} (ha : workshop.Accepted) :
    trimmed workshop.Title ≠ "" ∧ trimmed workshop.price ≠ "" ∧ trimmed workshop.seat ≠ "" := by
  have hchecked := ha.checked
  unfold check at hchecked
  dsimp only at hchecked
  split_ifs at hchecked with hblank
  all_goals
    simp only [not_or] at hblank
    exact ⟨hblank.1, hblank.2.2.1, hblank.2.2.2.1⟩

/-- A posted workshop has a title. -/
lemma Workshops.Accepted.title_ne_nil {workshop : Workshops} (ha : workshop.Accepted) :
    workshop.Title.toList ≠ [] :=
  toList_ne_nil_of_trimmed ha.trimmed_ne.1

/-! ## The words of a title -/

/-- The words of the title are separated by single spaces, with none before or after them. -/
structure SingleSpaced (title : String) : Prop where
  first : title.toList.head? ≠ some ' '
  last : title.toList.getLast? ≠ some ' '
  inner : ¬ [' ', ' '] <:+: title.toList

/-- What a character adds to the words of a text. -/
lemma splitOn_space_cons (c : Char) (cs : List Char) : (c :: cs).splitOn ' ' =
    if c = ' ' then [] :: cs.splitOn ' ' else (cs.splitOn ' ').modifyHead (List.cons c) := by
  simp only [List.splitOn, List.splitOnP_cons_eq_if_modifyHead, beq_iff_eq]

/-- The first word is empty where the text is, or begins with a space. -/
lemma head?_splitOn_eq_nil_iff (cs : List Char) :
    (cs.splitOn ' ').head? = some [] ↔ cs = [] ∨ cs.head? = some ' ' := by
  cases cs with
  | nil => simp
  | cons c cs =>
    rw [splitOn_space_cons]
    by_cases hc : c = ' '
    · simp [hc]
    · cases hw : cs.splitOn ' ' with
      | nil => simp [hc]
      | cons word words => simp [hc]

/-- A later word is empty where the text ends with a space, or has two spaces in a row. -/
lemma nil_mem_tail_splitOn_iff (cs : List Char) :
    [] ∈ (cs.splitOn ' ').tail ↔ cs.getLast? = some ' ' ∨ [' ', ' '] <:+: cs := by
  induction cs with
  | nil => simp
  | cons c cs ih =>
    rw [splitOn_space_cons, List.infix_cons_iff]
    by_cases hc : c = ' '
    · subst hc
      have hmem : [] ∈ cs.splitOn ' ' ↔
          (cs.splitOn ' ').head? = some [] ∨ [] ∈ (cs.splitOn ' ').tail := by
        cases cs.splitOn ' ' with
        | nil => simp
        | cons word words => simp [eq_comm]
      rw [if_pos rfl, List.tail_cons, hmem, head?_splitOn_eq_nil_iff, ih]
      cases cs with
      | nil => simp
      | cons c' cs' =>
        have hpair : [' ', ' '] <+: ' ' :: c' :: cs' ↔ c' = ' ' := by
          simp [List.cons_prefix_cons, eq_comm]
        simp [hpair]
        tauto
    · have hpair : ¬ [' ', ' '] <+: c :: cs := by
        intro hp
        exact hc (List.cons_prefix_cons.mp hp).1.symm
      have hlast : (c :: cs).getLast? = some ' ' ↔ cs.getLast? = some ' ' := by
        cases cs with
        | nil => simp [hc]
        | cons c' cs' => simp
      rw [if_neg hc, hlast]
      simp only [hpair, false_or, ← ih]
      cases cs.splitOn ' ' <;> simp

/-- **Empty words.** A text has an empty word exactly if it is empty, begins or ends with a
space, or has two spaces in a row. -/
theorem nil_mem_splitOn_iff (title : String) :
    [] ∈ title.toList.splitOn ' ' ↔ title.toList = [] ∨ ¬ SingleSpaced title := by
  have hmem : [] ∈ title.toList.splitOn ' ' ↔ (title.toList.splitOn ' ').head? = some [] ∨
      [] ∈ (title.toList.splitOn ' ').tail := by
    cases title.toList.splitOn ' ' with
    | nil => simp
    | cons word words => simp [eq_comm]
  rw [hmem, head?_splitOn_eq_nil_iff, nil_mem_tail_splitOn_iff]
  constructor
  · rintro ((hnil | hfirst) | hlast | hinner)
    · exact Or.inl hnil
    · exact Or.inr fun hs => hs.first hfirst
    · exact Or.inr fun hs => hs.last hlast
    · exact Or.inr fun hs => hs.inner hinner
  · rintro (hnil | hs)
    · exact Or.inl (Or.inl hnil)
    · by_contra hno
      simp only [not_or] at hno
      exact hs ⟨hno.1.2, hno.2.1, hno.2.2⟩

/-! ## Bookings of posted workshops -/

/-- The screen makes a booking id, and a successful checkout for a user it has loaded goes on
to store a ticket. -/
def WorkshopDetailsVC.BooksPayments (uppercased : String → String) (screen : WorkshopDetailsVC) :
    Prop :=
  (∃ id, screen.bookingID uppercased = some id) ∧
    ∀ user finalAmount tickets now, screen.user = some user →
      ∃ ticket, (screen.updatePurchase uppercased finalAmount tickets now).requests =
        [.setData ticket]

section Books

variable {uppercased : String → String} {screen : WorkshopDetailsVC}

/-- There is a booking id exactly if no word of the title is empty. -/
lemma bookingID_eq_some_iff : (∃ id, screen.bookingID uppercased = some id) ↔
    [] ∉ screen.workshop.Title.toList.splitOn ' ' := by
  rw [← Option.isSome_iff_exists, Option.isSome_iff_ne_none, not_iff_not,
    ← WorkshopDetailsVC.mapM_head?_eq_none_iff]
  exact Option.map_eq_none_iff

/-- With a booking id, a successful checkout is booked. -/
lemma updatePurchase_of_bookingID {id : String} (hid : screen.bookingID uppercased = some id)
    {user : User} (hu : screen.user = some user) (finalAmount : ℚ) (tickets : ℤ)
    (now : Timestamp) : ∃ ticket,
      (screen.updatePurchase uppercased finalAmount tickets now).requests = [.setData ticket] := by
  unfold WorkshopDetailsVC.updatePurchase
  rw [hu, hid]
  exact ⟨_, rfl⟩

/-- **When payments are booked.** Let a workshop be posted with the form. A detail screen that
shows it, whatever tickets it has loaded, makes booking ids and books successful checkouts if
and only if the words of the workshop's title are separated by single spaces, with none before
or after them.

**Proof sketch.** The title is not empty, since it has passed the checks (`posted_accepted`),
and a nonempty title has an empty word exactly if it is not single-spaced
(`nil_mem_splitOn_iff`). -/
theorem books_payments_iff {currentUser : Option String} {date : Timestamp}
    (hr : PostWorkshopRun currentUser date h vc) {workshop : Workshops}
    (hw : workshop ∈ vc.posted) (hs : screen.workshop.Title = workshop.Title) :
    screen.BooksPayments uppercased ↔ SingleSpaced workshop.Title := by
  have hne : workshop.Title.toList ≠ [] := (posted_accepted hr hw).title_ne_nil
  have hiff : (∃ id, screen.bookingID uppercased = some id) ↔ SingleSpaced workshop.Title := by
    rw [bookingID_eq_some_iff, hs, nil_mem_splitOn_iff, not_or, not_not]
    exact and_iff_right hne
  constructor
  · intro hbooks
    exact hiff.mp hbooks.1
  · intro hspaced
    obtain ⟨id, hid⟩ := hiff.mpr hspaced
    exact ⟨⟨id, hid⟩, fun user finalAmount tickets now hu =>
      updatePurchase_of_bookingID hid hu finalAmount tickets now⟩

end Books

/-! ## Sara's workshops -/

/-- Sara fills in the form, with this title, and submits it. -/
def saraPosts (title : String) : List PostWorkshopTap :=
  [.textField .Wtitle 0 0 title, .textField .presenter 0 0 "Sara",
    .textField .priceTextbox 0 0 "15", .textField .seat 0 0 "20", .textViewDidBeginEditing,
    .textView 0 0 "Drawing and paint", .submit]

/-- A screen that shows a workshop with this title to a buyer. -/
def screenFor (title : String) : WorkshopDetailsVC :=
  { (WorkshopDetailsVC.viewDidLoad { workshopOnSale with Title := title } (some buyer)
      (some "alice")).client with user := some buyer }

/-- The workshop "Art Class" is booked. -/
theorem books_payments_sara : ∃ h vc, PostWorkshopRun (some "sara") 0 h vc ∧
    (∃ workshop ∈ vc.posted, workshop.Title = "Art Class") ∧
    ((screenFor "Art Class").BooksPayments id ↔ SingleSpaced "Art Class") := by
  have he : (exec PostWorkshopViewController.step (viewDidLoad (some "sara") 0)
      (saraPosts "Art Class")).map (fun vc => vc.posted.map (·.Title)) = some ["Art Class"] := by
    decide +kernel
  obtain ⟨h, vc, hr, -, hposted⟩ := run_of_observed he
  obtain ⟨workshop, hw, htitle⟩ : ∃ workshop ∈ vc.posted, workshop.Title = "Art Class" := by
    have hmem : "Art Class" ∈ vc.posted.map (·.Title) := by simp [hposted]
    simpa using hmem
  have hshows : (screenFor "Art Class").workshop.Title = workshop.Title := htitle.symm
  have hiff : (screenFor "Art Class").BooksPayments id ↔ SingleSpaced workshop.Title :=
    books_payments_iff hr hw hshows
  rw [htitle] at hiff
  exact ⟨h, vc, hr, ⟨workshop, hw, htitle⟩, hiff⟩

/-- The workshop "Art  Class", with two spaces, is posted; a buyer's checkout for it succeeds,
and the program stops without storing a ticket. -/
theorem payment_not_booked : ∃ h vc workshop, PostWorkshopRun (some "sara") 0 h vc ∧
    workshop ∈ vc.posted ∧ workshop.Title = "Art  Class" ∧
    ¬ (screenFor workshop.Title).BooksPayments id ∧
    (screenFor workshop.Title).bookingID id = none ∧
    ((screenFor workshop.Title).recv id (.startCheckout 4 1) .tokenized 7).requests = [] ∧
    ((screenFor workshop.Title).recv id (.startCheckout 4 1) .tokenized 7).client.trapped =
      true := by
  have he : (exec PostWorkshopViewController.step (viewDidLoad (some "sara") 0)
      (saraPosts "Art  Class")).map (fun vc => vc.posted.map (·.Title)) = some ["Art  Class"] := by
    decide +kernel
  obtain ⟨h, vc, hr, -, hposted⟩ := run_of_observed he
  obtain ⟨workshop, hw, htitle⟩ : ∃ workshop ∈ vc.posted, workshop.Title = "Art  Class" := by
    have hmem : "Art  Class" ∈ vc.posted.map (·.Title) := by simp [hposted]
    simpa using hmem
  have hnone : (screenFor "Art  Class").bookingID id = none := by decide +kernel
  refine ⟨h, vc, workshop, hr, hw, htitle, ?_, ?_, ?_, ?_⟩
  · rintro ⟨⟨bookingID, hid⟩, -⟩
    rw [htitle, hnone] at hid
    cases hid
  · rw [htitle]
    exact hnone
  · rw [htitle]
    decide +kernel
  · rw [htitle]
    decide +kernel

end Aoun
