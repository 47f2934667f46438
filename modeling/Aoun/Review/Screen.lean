import Mathlib.Algebra.Order.Round
import Mathlib.Data.Rat.Floor
import Aoun.Lib.Async
import Aoun.Loaders
import Aoun.TextView

/-!
# Reviews

`detailedNoteViewController` loads the reviews of a note once, when it is opened, and presents
`PostReview`, which stores a review and hands it back to the list after an alert. The rating is
made with the stars of `CosmosView`. The reviews of a note are loaded by `id` and stored under
`docID`.

Whether the button that presents `PostReview` is shown is the matter of `Aoun.Note.Access`; here it
can always be touched. The user of a review is the one that the app has loaded by then. The order
of a query is that of the ids, which are random, so that a new review gets any place in it.

## Main definitions

* `Aoun.CosmosTouch.touchRating` — the rating of a touch on the stars.
* `Aoun.PostReview` — the form, with its check.
* `Aoun.ReviewScreen` — a detail screen with its reviews and the form that it has presented.
* `Aoun.reviewSystem` — any number of screens over one server.
-/

set_option relaxedAutoImplicit false
set_option autoImplicit false

namespace Aoun

/-! ## The stars -/

/-- `StarFillMode`. -/
inductive StarFillMode
  | full
  | half
  | precise
  deriving DecidableEq

/-- `CosmosSettings`, as far as touches use it. -/
structure CosmosSettings where
  totalStars : ℕ
  starSize : ℚ
  starMargin : ℚ
  fillMode : StarFillMode
  minTouchRating : ℚ

/-- The settings of the stars of `PostReview`, in the storyboard or by default. -/
def starsConsmosView : CosmosSettings :=
  { totalStars := 5, starSize := 32, starMargin := 5, fillMode := .full, minTouchRating := 1 }

namespace CosmosRating

/-- `roundFillLevel(_:fillMode:)`. -/
def roundFillLevel (starFillLevel : ℚ) : StarFillMode → ℚ
  | .full => round starFillLevel
  | .half => round (starFillLevel * 2) / 2
  | .precise => starFillLevel

/-- `starFillLevel(ratingRemainder:fillMode:)`. -/
def starFillLevel (ratingRemainder : ℚ) (fillMode : StarFillMode) : ℚ :=
  let result := if 1 < ratingRemainder then 1 else ratingRemainder
  let result := if result < 0 then 0 else result
  roundFillLevel result fillMode

/-- `displayedRatingFromPreciseRating(_:fillMode:totalStars:)`. -/
def displayedRatingFromPreciseRating (preciseRating : ℚ) (fillMode : StarFillMode)
    (totalStars : ℕ) : ℚ :=
  let starFloorNumber : ℚ := ⌊preciseRating⌋
  let singleStarRemainder := preciseRating - starFloorNumber
  let displayedRating := starFloorNumber + starFillLevel singleStarRemainder fillMode
  max 0 (min totalStars displayedRating)

end CosmosRating

namespace CosmosTouch

/-- `preciseRating(position:numberOfStars:starSize:starMargin:)`. -/
def preciseRating (position : ℚ) (numberOfStars : ℕ) (starSize starMargin : ℚ) : ℚ :=
  if position < 0 then 0
  else
    let rating : ℤ := ⌊position / (starSize + starMargin)⌋
    if numberOfStars < rating then numberOfStars
    else
      let positionRemainder := position - rating * (starSize + starMargin)
      if starSize < positionRemainder then rating + 1 else rating + positionRemainder / starSize

/-- `touchRating(_:settings:)`. -/
def touchRating (position : ℚ) (settings : CosmosSettings) : ℚ :=
  let rating := preciseRating position settings.totalStars settings.starSize settings.starMargin
  let rating := if settings.fillMode = .half then rating + 20 / 100 else rating
  let rating := if settings.fillMode = .full then rating + 45 / 100 else rating
  let rating := CosmosRating.displayedRatingFromPreciseRating rating settings.fillMode
    settings.totalStars
  max settings.minTouchRating rating

end CosmosTouch

/-! ## The form -/

/-- `fullName`. -/
def User.fullName (u : User) : Option String := some (trimmed (u.FirstName ++ " " ++ u.LastName))

/-- `dictionary`. -/
def Review.dictionary (r : Review) : ReviewData :=
  ⟨some r.user, some r.review, some r.point, some r.nameOfUser, some r.createDate⟩

/-- `PostReview`. -/
structure PostReview where
  rating : Option ℚ
  reviewNoteTextView : RPTTextView UIColor
  errorLable : Option String
  /-- The review that the alert "Review posted" is about, if it is presented. -/
  alert : Option Review

namespace PostReview

/-- `reviewNoteTextView.placeHolder`. -/
def placeHolder : String := "*Review"

/-- `viewDidLoad()`. -/
def viewDidLoad : PostReview :=
  let view : RPTTextView UIColor :=
    { text := "", textColor := some .labelColor, localTextColor := none, placeHolder := none,
      placeHolderColor := some .lightGray, characotrLimit := 0, isFirstResponder := false }
  let view := { view.configure with characotrLimit := K_DescriptionLimit }
  let view := (view.setPlaceHolderColor (some .colorLiteral)).setPlaceHolder (some placeHolder)
  { rating := none, reviewNoteTextView := view, errorLable := none, alert := none }

variable (pr : PostReview)

/-- The text is missing. -/
def NoReview : Prop :=
  pr.reviewNoteTextView.text.length = 0 ∨
    some pr.reviewNoteTextView.text = pr.reviewNoteTextView.placeHolder

instance : Decidable pr.NoReview := inferInstanceAs (Decidable (_ ∨ _))

/-- `isValid()`. -/
def isValid : PostReview × Bool :=
  let (pr, isValid) : PostReview × Bool :=
    if pr.rating = none then ({ pr with errorLable := some "Please fill in a rating" }, false)
    else (pr, true)
  let (pr, isValid) : PostReview × Bool :=
    if pr.NoReview then
      ({ pr with
        reviewNoteTextView := pr.reviewNoteTextView.setPlaceHolderColor (some .red)
        errorLable := some "Please fill in a review" }, false)
    else (pr, isValid)
  if pr.rating = none ∧ some pr.reviewNoteTextView.text = pr.reviewNoteTextView.placeHolder then
    ({ pr with errorLable := some "Please fill in all required fields" }, false)
  else (pr, isValid)

/-- The review that `postReview(_:)` makes, for the user document `docID`. -/
def made (thisUser : User) (docID : String) (now : Timestamp) : Review :=
  { nameOfUser := thisUser.fullName.getD "", review := pr.reviewNoteTextView.text,
    point := pr.rating.getD 0, user := "users/" ++ docID, createDate := now }

end PostReview

/-! ## The server -/

/-- The reviews of each note, in the order of their ids. -/
structure ReviewServer where
  reviews : String → List ReviewData

/-- What the screens ask of Firestore. -/
inductive ReviewRequest
  /-- The query of `loadReviews()`. -/
  | loadReviews (id : String)
  /-- The `setData` of a new review, by the form with the number `pr`. -/
  | setData (docID : String) (review : Review) (pr : ℕ)
  deriving DecidableEq

/-- The answers. -/
inductive ReviewAnswer
  | reviews (documents : List ReviewData)
  | written
  | error (localizedDescription : String)
  | neither
  deriving DecidableEq

/-- The history records what is stored and read, what has arrived at a screen, and what it has put
into its list after an alert. -/
inductive ReviewEffect
  | stored (review : Review)
  | read (documents : List ReviewData)
  | arrived (reviews : List Review)
  | inserted (review : Review)
  deriving DecidableEq

/-- The environment's choice: a request succeeds, and a new review gets a place in the order of the
ids; or it fails, or ends with neither a result nor an error. -/
inductive ReviewChoice
  | success (place : ℕ)
  | error (localizedDescription : String)
  | neither
  deriving DecidableEq

namespace ReviewServer

variable (s : ReviewServer)

/-- A new document of the reviews of the note `docID`. -/
def setData (docID : String) (data : ReviewData) (place : ℕ) : ReviewServer where
  reviews := Function.update s.reviews docID
    ((s.reviews docID).insertIdx (min place (s.reviews docID).length) data)

@[simp] lemma setData_reviews_self (docID : String) (data : ReviewData) (place : ℕ) :
    (s.setData docID data place).reviews docID =
      (s.reviews docID).insertIdx (min place (s.reviews docID).length) data :=
  Function.update_self _ _ _

@[simp] lemma setData_reviews_of_ne {docID id : String} (h : id ≠ docID) (data : ReviewData)
    (place : ℕ) : (s.setData docID data place).reviews id = s.reviews id :=
  Function.update_of_ne h _ _

/-- How the server handles a request. -/
def serve : ReviewRequest → ReviewChoice → Served ReviewServer ReviewAnswer ReviewEffect
  | .loadReviews id, .success _ => ⟨s, .reviews (s.reviews id), [.read (s.reviews id)]⟩
  | .setData docID review _, .success place =>
    ⟨s.setData docID review.dictionary place, .written, [.stored review]⟩
  | _, .error localizedDescription => ⟨s, .error localizedDescription, []⟩
  | _, .neither => ⟨s, .neither, []⟩

end ReviewServer

/-! ## The screens -/

/-- The note is what one of the two lists that open a detail screen decodes. -/
def NoteFile.Decoded (n : NoteFile) : Prop :=
  ∃ data documentID, ViewNotesViewController.note data documentID = some n ∨
    ProfileDetailViewController.note data documentID = some n

/-- A note that a detail screen can be opened for. -/
abbrev DecodedNote := {n : NoteFile // n.Decoded}

/-- `detailedNoteViewController`, with its reviews. -/
structure ReviewScreen where
  note : DecodedNote
  table : ReviewsTable
  /-- The form that is presented. -/
  post : Option PostReview
  /-- The number of forms presented so far. -/
  posts : ℕ

/-- What the user can do. A review is posted for the user that the app has loaded. -/
inductive ReviewTap
  | addReview
  /-- The stars are touched. -/
  | touch (position : ℚ)
  /-- Something happens to the text. -/
  | review (e : TextViewEvent UIColor)
  | postReview (thisUser : Option User) (now : Timestamp)
  /-- "Ok" in the alert. -/
  | ok
  /-- The form is pulled down. -/
  | dismiss
  deriving DecidableEq

/-- A reaction of a screen. -/
abbrev ReviewReaction := Reaction ReviewScreen ReviewRequest ReviewEffect

namespace ReviewScreen

/-- `viewDidLoad()` of the detail screen. -/
def viewDidLoad (note : DecodedNote) : ReviewReaction :=
  ⟨{ note := note, table := ReviewsTable.loadReviews ⟨[], none, false⟩, post := none, posts := 0 },
    [.loadReviews note.1.id], []⟩

variable (vc : ReviewScreen)

/-- The program stops. -/
def trap : ReviewScreen := { vc with table := { vc.table with trapped := true } }

/-- The documents that `postReview(_:)` refers to: the note `docID`, and the user's. Firestore stops
the program when the id of a document is empty, and so does an optional that is forced. -/
def references (thisUser : Option User) : Option (String × User × String) :=
  if vc.note.1.docID = "" then none
  else
    match thisUser with
    | none => none
    | some user =>
      match user.docID with
      | none => none
      | some docID => if docID = "" then none else some (vc.note.1.docID, user, docID)

/-- `postReview(_:)` of the form `pr`. -/
def postReview (pr : PostReview) (thisUser : Option User) (now : Timestamp) : ReviewReaction :=
  match pr.isValid with
  | (pr, false) => .skip { vc with post := some pr }
  | (pr, true) =>
    let vc := { vc with post := some pr }
    match vc.references thisUser with
    | none => .skip vc.trap
    | some (docID, user, userID) =>
      ⟨vc, [.setData docID (pr.made user userID now) vc.posts], []⟩

/-- `postReview(_:review:posted:)` of the delegate, for a review that is posted. -/
def insertReview (review : Review) : ReviewScreen :=
  let Reviews := review :: vc.table.Reviews
  { vc with
    table := { vc.table with
      Reviews := Reviews, noRevs := if Reviews.length ≠ 0 then some "" else none }
    post := none }

/-- The reactions to the user. -/
def ui (u : ReviewTap) : Option ReviewReaction :=
  if vc.table.trapped then none
  else
    match u, vc.post with
    | .addReview, none =>
      some (.skip { vc with post := some PostReview.viewDidLoad, posts := vc.posts + 1 })
    | .ok, some pr => pr.alert.map fun review => ⟨vc.insertReview review, [], [.inserted review]⟩
    | u, some pr =>
      if pr.alert ≠ none then none
      else
        match u with
        | .touch position =>
          let rating := CosmosTouch.touchRating position starsConsmosView
          some (.skip { vc with post := some { pr with rating := some rating } })
        | .review (.placeHolderColor _) => none
        | .review e =>
          (pr.reviewNoteTextView.step e).map fun view =>
            .skip { vc with post := some { pr with reviewNoteTextView := view } }
        | .postReview thisUser now => some (vc.postReview pr thisUser now)
        | .dismiss => some (.skip { vc with post := none })
        | _ => none
    | _, none => none

/-- The completion of the `setData` of a review. The alert is presented on the form that has posted
it, unless that is gone or presents an alert already. -/
def reviewPosted (review : Review) (number : ℕ) : ReviewScreen :=
  match vc.post with
  | some pr =>
    if vc.posts = number ∧ pr.alert = none then
      { vc with post := some { pr with alert := some review } }
    else vc
  | none => vc

/-- The completions of a program that has not stopped. -/
def callback : ReviewRequest → ReviewAnswer → ReviewScreen
  | .loadReviews _, .reviews documents => { vc with table := vc.table.reviewsFound documents }
  | .loadReviews _, .error localizedDescription =>
    { vc with table := { vc.table with noRevs := some localizedDescription } }
  | .setData _ review number, .written => vc.reviewPosted review number
  | _, _ => vc

/-- The reviews that an answer brings to the screen. -/
def arrived : ReviewRequest → ReviewAnswer → List Review
  | .loadReviews _, .reviews documents => documents.filterMap ReviewData.newRev
  | .setData _ review _, .written => [review]
  | _, _ => []

/-- The completions. -/
def recv (q : ReviewRequest) (a : ReviewAnswer) : ReviewReaction :=
  ⟨if vc.table.trapped then vc else vc.callback q a, [], [.arrived (arrived q a)]⟩

end ReviewScreen

/-- Any number of detail screens over one server. -/
def reviewSystem : AsyncSystem ReviewServer ReviewScreen DecodedNote ReviewTap
    ReviewRequest ReviewChoice ReviewAnswer Unit ReviewEffect where
  boot := ReviewScreen.viewDidLoad
  ui := ReviewScreen.ui
  serve := ReviewServer.serve
  recv := fun vc q a _ => vc.recv q a

/-- The states of the system of reviews. -/
abbrev ReviewWorld :=
  AsyncSystem.World ReviewServer ReviewScreen ReviewRequest ReviewAnswer ReviewEffect

/-- What can happen in it. -/
abbrev ReviewEvent := AsyncSystem.Event DecodedNote ReviewTap ReviewChoice Unit

/-! ## Sara's note -/

/-- The note as the list of notes decodes it. -/
def listedNote : DecodedNote :=
  ⟨⟨"n", "Logic", "Sara", "", some "", "u", none, some "sara", "n", 7, none⟩,
    ⟨some "Logic", some "Sara", some "", some "", some "u", some "sara", some 7⟩, "n", Or.inl rfl⟩

/-- The note as a profile decodes it. -/
def profileNote : DecodedNote :=
  ⟨⟨"n", "Logic", "Sara", "", some "", "u", some "n", none, "", 7, none⟩,
    ⟨some "Logic", some "Sara", some "", some "", some "u", some "sara", some 7⟩, "n", Or.inr rfl⟩

/-- Bob reviews the note: he touches the stars, enters a text and posts it. -/
def bobReviews : List ReviewEvent :=
  [.ui 0 .addReview, .ui 0 (.touch 100), .ui 0 (.review .textViewDidBeginEditing),
    .ui 0 (.review (.change 0 0 "Clear")),
    .ui 0 (.postReview (some ⟨"Bob", "B", "bob", some "b"⟩) 8)]

end Aoun
