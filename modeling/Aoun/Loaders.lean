import Aoun.Community.Dashboard
import Aoun.Lib.Loader
import Aoun.Records

/-!
# Loading a list twice

`AdminDashboard.loadCommunities()`, `loadNotes(user:)` and `loadResources(user:)` of
`ProfileDetailViewController`, and `loadReviews()` of `detailedNoteViewController` clear their list
when they are called and append to it when their query is answered. They are called again after an
edit, a deletion or a decision, whether or not an earlier query has been answered.

The answers may be any documents. What the screens do besides is left out, but for the texts that
the loaders show.

## Main definitions

* `Aoun.ProfileDetailViewController`, `Aoun.ReviewsTable` — the lists of the screens.
* `Aoun.AdminDashboard.communitiesLoader`, `Aoun.ProfileDetailViewController.notesLoader`,
  `Aoun.ProfileDetailViewController.resourcesLoader`, `Aoun.ReviewsTable.reviewsLoader` — the
  loaders, for the documents that they are answered.

## Main results

* `Aoun.lists_loaded_once_iff` — when overlapping calls leave the list of a single one.
-/

set_option relaxedAutoImplicit false
set_option autoImplicit false

namespace Aoun

open StepSystem

/-! ## The requests for communities -/

/-- `loadCommunities()`, answered with `documents`. -/
def AdminDashboard.communitiesLoader (documents : List RequestDoc) :
    Loader AdminDashboard Request where
  call := fun vc => vc.loadCommunities.client
  answer := fun vc => vc.requestsFound documents
  stopped := fun _ => false
  list := (·.requests)

/-! ## The notes and the resources of a user -/

/-- The lists of `ProfileDetailViewController`, and the texts above their tables. -/
structure ProfileDetailViewController where
  notes : List NoteFile
  resources : List resFile
  notesHeader : Option String
  resHeader : Option String
  deriving DecidableEq

namespace ProfileDetailViewController

variable (vc : ProfileDetailViewController)

/-- The completion of the query of `loadNotes(user:noDataMessage:)`. -/
def notesFound (noDataMessage : String) (documents : List (String × NoteData)) :
    ProfileDetailViewController :=
  let vc := { vc with notesHeader := none }
  if documents = [] then { vc with notesHeader := some noDataMessage }
  else
    { vc with notes := vc.notes ++ documents.filterMap fun doc => note doc.2 doc.1 }

/-- The completion of the query of `loadResources(user:noDataMessage:)`. -/
def resourcesFound (noDataMessage : String) (documents : List (String × ResourceData)) :
    ProfileDetailViewController :=
  if documents = [] then { vc with resHeader := some noDataMessage }
  else
    { vc with resources := vc.resources ++ documents.filterMap fun doc => resource doc.2 doc.1 }

/-- `loadNotes(user:noDataMessage:)`, answered with `documents`. -/
def notesLoader (noDataMessage : String) (documents : List (String × NoteData)) :
    Loader ProfileDetailViewController NoteFile where
  call := fun vc => { vc with notes := [] }
  answer := fun vc => vc.notesFound noDataMessage documents
  stopped := fun _ => false
  list := (·.notes)

/-- `loadResources(user:noDataMessage:)`, answered with `documents`. -/
def resourcesLoader (noDataMessage : String) (documents : List (String × ResourceData)) :
    Loader ProfileDetailViewController resFile where
  call := fun vc => { vc with resources := [] }
  answer := fun vc => vc.resourcesFound noDataMessage documents
  stopped := fun _ => false
  list := (·.resources)

end ProfileDetailViewController

/-! ## The reviews of a note -/

/-- `struct Review`; the user is given by the path of the reference. -/
structure Review where
  nameOfUser : String
  review : String
  point : ℚ
  user : String
  createDate : Timestamp
  deriving DecidableEq

/-- The data of a document of the collection `reviews` of a note. -/
structure ReviewData where
  user : Option String
  review : Option String
  point : Option ℚ
  nameOfUser : Option String
  createDate : Option Timestamp
  deriving DecidableEq

/-- The review of a document; `none` where a cast stops the program. -/
def ReviewData.newRev (data : ReviewData) : Option Review := do
  let user ← data.user
  let review ← data.review
  let point ← data.point
  let nameOfUser ← data.nameOfUser
  let createDate ← data.createDate
  some { nameOfUser, review, point, user, createDate }

/-- The reviews of `detailedNoteViewController`. -/
structure ReviewsTable where
  Reviews : List Review
  /-- The text of the label `noRevs`. -/
  noRevs : Option String
  /-- The program has stopped at a forced cast. -/
  trapped : Bool
  deriving DecidableEq

namespace ReviewsTable

variable (vc : ReviewsTable)

/-- `loadReviews()`. -/
def loadReviews : ReviewsTable := { vc with Reviews := [], noRevs := some "Loading.." }

/-- The loop over the documents found. -/
def append : List ReviewData → ReviewsTable → ReviewsTable
  | [], vc => vc
  | document :: documents, vc =>
    match document.newRev with
    | none => { vc with trapped := true }
    | some newRev => append documents { vc with Reviews := vc.Reviews ++ [newRev] }

/-- The completion of the query of `loadReviews()`. -/
def reviewsFound (documents : List ReviewData) : ReviewsTable :=
  let vc := append documents vc
  if vc.trapped then vc
  else
    { vc with
      noRevs := if vc.Reviews.length = 0 then some "No reviews have been written yet" else none }

/-- The reviews of the documents before the first that stops the program. -/
def reviewsOf : List ReviewData → List Review
  | [] => []
  | document :: documents =>
    match document.newRev with
    | none => []
    | some newRev => newRev :: reviewsOf documents

/-- `loadReviews()`, answered with `documents`. -/
def reviewsLoader (documents : List ReviewData) : Loader ReviewsTable Review where
  call := loadReviews
  answer := fun vc => vc.reviewsFound documents
  stopped := (·.trapped)
  list := (·.Reviews)

/-- The loop appends the reviews that it can make. -/
lemma append_reviews (documents : List ReviewData) (vc : ReviewsTable) :
    (append documents vc).Reviews = vc.Reviews ++ reviewsOf documents := by
  induction documents generalizing vc with
  | nil => simp [append, reviewsOf]
  | cons document documents ih =>
    unfold append reviewsOf
    cases document.newRev with
    | none => simp
    | some newRev => simp [ih]

end ReviewsTable

/-! ## The condition -/

/-- What `loadCommunities()` appends. -/
lemma communitiesLoader_extends (documents : List RequestDoc) :
    (AdminDashboard.communitiesLoader documents).Extends
      (documents.filterMap AdminDashboard.request) :=
  ⟨fun _ => rfl, fun _ _ => rfl, fun _ _ => rfl⟩

/-- What `loadNotes(user:)` appends. -/
lemma notesLoader_extends (noDataMessage : String) (documents : List (String × NoteData)) :
    (ProfileDetailViewController.notesLoader noDataMessage documents).Extends
      (documents.filterMap fun doc => ProfileDetailViewController.note doc.2 doc.1) := by
  refine ⟨fun _ => rfl, fun _ _ => rfl, fun vc _ => ?_⟩
  by_cases hdoc : documents = [] <;>
    simp [ProfileDetailViewController.notesLoader, ProfileDetailViewController.notesFound, hdoc]

/-- What `loadResources(user:)` appends. -/
lemma resourcesLoader_extends (noDataMessage : String) (documents : List (String × ResourceData)) :
    (ProfileDetailViewController.resourcesLoader noDataMessage documents).Extends
      (documents.filterMap fun doc => ProfileDetailViewController.resource doc.2 doc.1) := by
  refine ⟨fun _ => rfl, fun _ _ => rfl, fun vc _ => ?_⟩
  by_cases hdoc : documents = [] <;>
    simp [ProfileDetailViewController.resourcesLoader, ProfileDetailViewController.resourcesFound,
      hdoc]

/-- What `loadReviews()` appends. -/
lemma reviewsLoader_extends (documents : List ReviewData) :
    (ReviewsTable.reviewsLoader documents).Extends (ReviewsTable.reviewsOf documents) := by
  refine ⟨fun _ => rfl, fun _ hrun => hrun, fun vc _ => ?_⟩
  show (vc.reviewsFound documents).Reviews = vc.Reviews ++ ReviewsTable.reviewsOf documents
  rw [← ReviewsTable.append_reviews, ReviewsTable.reviewsFound]
  split_ifs <;> rfl

/-- When all queries of a run have been answered, the list holds the same elements as after a
single call, if and only if no query was pending at the last call, or nothing is appended. -/
def LoadsOnceIff {σ α : Type} (L : Loader σ α) (added : List α) : Prop :=
  ∀ vc h s, L.stopped vc = false → Run L.step ⟨vc, 0⟩ h s → Loader.lastPending h ≠ none →
    s.pending = 0 →
    ((L.list s.screen).Perm (L.list (L.once vc)) ↔ Loader.lastPending h = some 0 ∨ added = [])

/-- **When overlapping calls load once.** For each of the four loaders, any calls, and any
documents that answer them.

**Proof sketch.** Each loader clears its list when it is called, and appends to it when it is
answered; so the rule for such loaders applies. -/
theorem lists_loaded_once_iff (requests : List RequestDoc) (noDataMessage : String)
    (notes : List (String × NoteData)) (resources : List (String × ResourceData))
    (reviews : List ReviewData) :
    LoadsOnceIff (AdminDashboard.communitiesLoader requests)
        (requests.filterMap AdminDashboard.request) ∧
      LoadsOnceIff (ProfileDetailViewController.notesLoader noDataMessage notes)
        (notes.filterMap fun doc => ProfileDetailViewController.note doc.2 doc.1) ∧
      LoadsOnceIff (ProfileDetailViewController.resourcesLoader noDataMessage resources)
        (resources.filterMap fun doc => ProfileDetailViewController.resource doc.2 doc.1) ∧
      LoadsOnceIff (ReviewsTable.reviewsLoader reviews) (ReviewsTable.reviewsOf reviews) := by
  refine ⟨fun vc h s => ?_, fun vc h s => ?_, fun vc h s => ?_, fun vc h s => ?_⟩
  · exact Loader.loaded_once_iff (communitiesLoader_extends requests)
  · exact Loader.loaded_once_iff (notesLoader_extends noDataMessage notes)
  · exact Loader.loaded_once_iff (resourcesLoader_extends noDataMessage resources)
  · exact Loader.loaded_once_iff (reviewsLoader_extends reviews)

/-- A review by Sara. -/
def sarasReview : ReviewData := ⟨some "users/s", some "Clear", some 5, some "Sara", some 0⟩

/-- The reviews are loaded by two calls, one after the other. -/
theorem reviews_loaded_again : ∃ h s, Run (ReviewsTable.reviewsLoader [sarasReview]).step
    ⟨⟨[], none, false⟩, 0⟩ h s ∧ s.screen.Reviews.length = 1 ∧
      (s.screen.Reviews.Perm ((ReviewsTable.reviewsLoader [sarasReview]).once
        ⟨[], none, false⟩).Reviews ↔ Loader.lastPending h = some 0 ∨
          ReviewsTable.reviewsOf [sarasReview] = []) := by
  have he : (exec (ReviewsTable.reviewsLoader [sarasReview]).step ⟨⟨[], none, false⟩, 0⟩
      [.call, .answer, .call, .answer]).map (fun s => (s.pending, s.screen.Reviews.length)) =
      some (0, 1) := by decide +kernel
  obtain ⟨h, s, hr, hes, hs⟩ := run_of_observed he
  obtain ⟨hdone, hlength⟩ := Prod.mk.inj hs
  have hcalled : Loader.lastPending h ≠ none := Loader.lastPending_ne_none (by simp [hes])
  obtain ⟨-, -, -, hreviews⟩ := lists_loaded_once_iff [] "" [] [] [sarasReview]
  exact ⟨h, s, hr, hlength, hreviews ⟨[], none, false⟩ h s rfl hr hcalled hdone⟩

/-- Two calls overlap, and the review is listed twice. -/
theorem review_listed_twice : ∃ h s, Run (ReviewsTable.reviewsLoader [sarasReview]).step
    ⟨⟨[], none, false⟩, 0⟩ h s ∧ s.pending = 0 ∧
      ¬ s.screen.Reviews.Perm ((ReviewsTable.reviewsLoader [sarasReview]).once
        ⟨[], none, false⟩).Reviews := by
  have he : (exec (ReviewsTable.reviewsLoader [sarasReview]).step ⟨⟨[], none, false⟩, 0⟩
      [.call, .call, .answer, .answer]).map (fun s => (s.pending, s.screen.Reviews.length)) =
      some (0, 2) := by decide +kernel
  obtain ⟨h, s, hr, -, hs⟩ := run_of_observed he
  obtain ⟨hdone, hlength⟩ := Prod.mk.inj hs
  refine ⟨h, s, hr, hdone, fun hperm => ?_⟩
  have honce : ((ReviewsTable.reviewsLoader [sarasReview]).once ⟨[], none, false⟩).Reviews.length =
      1 := by decide
  have hsame := hperm.length_eq
  rw [hlength, honce] at hsame
  omega

end Aoun
