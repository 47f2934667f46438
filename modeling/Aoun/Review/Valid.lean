import Mathlib.Tactic.Linarith
import Aoun.Review.Screen

/-!
# What is reviewed

The form for reviews asks for a rating and a text. A touch on the stars rates with one to five of
them, wherever it is, and the text view keeps the text within its limit. So every review that is
stored has a rating from one to five and a text, and is one that `loadReviews()` can read.

The program stops where a review is posted and its references are not there: for the notes that a
profile decodes, and for a user that has not been loaded.

## Main definitions

* `Aoun.Review.Valid` — what the form accepts.
* `Aoun.ReviewsValid` — the reviews on the server are such.
* `Aoun.Refers` — the references of a review that is posted are there.

## Main results

* `Aoun.reviews_valid` — the reviews that are stored and shown.
* `Aoun.reviews_go_on_iff` — when the program goes on.
-/

set_option relaxedAutoImplicit false
set_option autoImplicit false

namespace Aoun

open AsyncSystem AsyncSystem.World StepSystem

/-! ## The stars -/

/-- Rounding a part of a star fills it or not. -/
lemma starFillLevel_full (ratingRemainder : ℚ) :
    ∃ k : ℤ, CosmosRating.starFillLevel ratingRemainder .full = k := ⟨_, rfl⟩

/-- With stars that are filled or not, the rating shown is a whole number of them. -/
lemma displayedRating_full (preciseRating : ℚ) (totalStars : ℕ) :
    ∃ k : ℕ, k ≤ totalStars ∧
      CosmosRating.displayedRatingFromPreciseRating preciseRating .full totalStars = k := by
  obtain ⟨l, hl⟩ := starFillLevel_full (preciseRating - ⌊preciseRating⌋)
  obtain ⟨k, hk⟩ : ∃ k : ℕ, (k : ℤ) = max 0 (min (totalStars : ℤ) (⌊preciseRating⌋ + l)) :=
    ⟨_, Int.toNat_of_nonneg (le_max_left _ _)⟩
  refine ⟨k, by omega, ?_⟩
  rw [CosmosRating.displayedRatingFromPreciseRating, hl, ← Int.cast_natCast k, hk]
  push_cast
  rfl

/-- **A touch on the stars.** Wherever it is, it rates with a whole number of stars, between the
smallest rating and the number of stars. -/
lemma touchRating_full (position : ℚ) {settings : CosmosSettings} {m : ℕ}
    (hfull : settings.fillMode = .full) (hmin : settings.minTouchRating = m)
    (hm : m ≤ settings.totalStars) : ∃ k : ℕ, m ≤ k ∧ k ≤ settings.totalStars ∧
      CosmosTouch.touchRating position settings = k := by
  unfold CosmosTouch.touchRating
  rw [hfull, hmin]
  dsimp only
  obtain ⟨k, hk, hrating⟩ := displayedRating_full _ settings.totalStars
  rw [hrating]
  exact ⟨max m k, le_max_left m k, max_le hm hk, by push_cast; rfl⟩

/-! ## The form -/

/-- The form accepts the review: it has one to five stars, and a text within the limit. -/
structure Review.Valid (r : Review) : Prop where
  point : ∃ k : ℕ, 1 ≤ k ∧ k ≤ 5 ∧ r.point = k
  review : 0 < r.review.length ∧ (r.review.length : ℤ) < K_DescriptionLimit
  written : r.review ≠ PostReview.placeHolder

/-- What `loadReviews()` reads of a review that has been stored. -/
@[simp] lemma newRev_dictionary (r : Review) : r.dictionary.newRev = some r := rfl

/-- No event changes the placeholder. -/
lemma placeHolder_step {view view' : RPTTextView UIColor} {e : TextViewEvent UIColor}
    (h : view.step e = some view') : view'.placeHolder = view.placeHolder := by
  cases e with
  | textViewDidBeginEditing =>
    simp only [RPTTextView.step, Option.ite_none_left_eq_some, Option.some.injEq] at h
    obtain ⟨-, rfl⟩ := h
    unfold RPTTextView.textViewDidBeginEditing
    split_ifs <;> rfl
  | change location length text =>
    simp only [RPTTextView.step, Option.ite_none_right_eq_some, Option.some.injEq] at h
    obtain ⟨-, rfl⟩ := h
    split_ifs <;> rfl
  | textViewDidEndEditing =>
    simp only [RPTTextView.step, Option.ite_none_right_eq_some, Option.some.injEq] at h
    obtain ⟨-, rfl⟩ := h
    unfold RPTTextView.textViewDidEndEditing
    split_ifs <;> rfl
  | placeHolderColor color => rw [← Option.some.inj h]; rfl

namespace PostReview

variable (pr : PostReview)

/-- What is filled in is within its limits, and the alert is about a review that is accepted. -/
structure Fits : Prop where
  rating : ∀ r, pr.rating = some r → ∃ k : ℕ, 1 ≤ k ∧ k ≤ 5 ∧ r = k
  view : pr.reviewNoteTextView.Fits K_DescriptionLimit
  placeHolder : pr.reviewNoteTextView.placeHolder = some placeHolder
  alert : ∀ r, pr.alert = some r → r.Valid

variable {pr}

lemma viewDidLoad_fits : viewDidLoad.Fits := by
  refine ⟨by simp [viewDidLoad], ⟨rfl, by decide, fun p hp => ?_⟩, rfl, by simp [viewDidLoad]⟩
  obtain rfl := Option.some.inj hp
  decide

/-- **What the form makes of its fields.** It is valid exactly if a rating and a text are there,
and else keeps them; the error names what is missing, or all fields if neither has been touched. -/
lemma isValid_cases :
    (pr.rating ≠ none ∧ ¬ pr.NoReview ∧ pr.isValid = (pr, true)) ∨
    ((pr.rating = none ∨ pr.NoReview) ∧ pr.isValid.2 = false ∧
      pr.isValid.1.rating = pr.rating ∧ pr.isValid.1.alert = pr.alert ∧
      (pr.isValid.1.reviewNoteTextView = pr.reviewNoteTextView ∨
        pr.isValid.1.reviewNoteTextView =
          pr.reviewNoteTextView.setPlaceHolderColor (some .red)) ∧
      pr.isValid.1.errorLable =
        if pr.rating ≠ none then some "Please fill in a review"
        else if some pr.reviewNoteTextView.text = pr.reviewNoteTextView.placeHolder then
          some "Please fill in all required fields"
        else if pr.NoReview then some "Please fill in a review"
        else some "Please fill in a rating") := by
  have hsame : ∀ rating error alert,
      NoReview ⟨rating, pr.reviewNoteTextView, error, alert⟩ ↔ pr.NoReview := fun _ _ _ => Iff.rfl
  unfold isValid
  by_cases hr : pr.rating = none <;> by_cases hn : pr.NoReview
  · refine Or.inr ⟨Or.inl hr, ?_⟩
    by_cases hp : some pr.reviewNoteTextView.text = pr.reviewNoteTextView.placeHolder <;>
      simp [hr, hn, hp, hsame, RPTTextView.setPlaceHolderColor]
  · have hp : some pr.reviewNoteTextView.text ≠ pr.reviewNoteTextView.placeHolder :=
      fun hp => hn (Or.inr hp)
    exact Or.inr ⟨Or.inl hr, by simp [hr, hn, hp, hsame]⟩
  · exact Or.inr ⟨Or.inr hn, by simp [hr, hn]⟩
  · exact Or.inl ⟨hr, hn, by simp [hr, hn]⟩

/-- The check keeps the form within its limits. -/
lemma isValid_fits (h : pr.Fits) : pr.isValid.1.Fits := by
  rcases pr.isValid_cases with ⟨-, -, hval⟩ | ⟨-, -, hrating, halert, hview, -⟩
  · rw [hval]
    exact h
  · refine ⟨hrating ▸ h.rating, ?_, ?_, halert ▸ h.alert⟩
    · rcases hview with hview | hview
      · exact hview ▸ h.view
      · exact hview ▸ ⟨h.view.characotrLimit, h.view.text, h.view.placeHolder⟩
    · rcases hview with hview | hview <;> rw [hview] <;> exact h.placeHolder

/-- A form that is valid makes a review that is. -/
lemma made_valid (h : pr.Fits) (hval : pr.isValid.2 = true) (thisUser : User) (docID : String)
    (now : Timestamp) : (pr.isValid.1.made thisUser docID now).Valid := by
  rcases pr.isValid_cases with ⟨hr, hn, heq⟩ | ⟨-, hfalse, -⟩
  · rw [heq]
    obtain ⟨r, hr⟩ := Option.ne_none_iff_exists'.mp hr
    refine ⟨?_, ⟨?_, h.view.text⟩, fun hp => hn (Or.inr ?_)⟩
    · simpa [made, hr] using h.rating r hr
    · exact Nat.pos_of_ne_zero fun hzero => hn (Or.inl hzero)
    · rw [h.placeHolder]
      exact congrArg some hp
  · rw [hfalse] at hval
    cases hval

end PostReview

/-! ## The screens -/

/-- The reviews of an answer are such that the form accepts. -/
def AnswerValid (a : ReviewAnswer) : Prop :=
  ∀ documents, a = .reviews documents → ∀ d ∈ documents, ∃ r : Review, d = r.dictionary ∧ r.Valid

namespace ReviewsTable

/-- The loop over reviews that have been stored. -/
lemma append_dictionary {documents : List ReviewData}
    (h : ∀ d ∈ documents, ∃ r : Review, d = r.dictionary ∧ r.Valid) (vc : ReviewsTable) :
    (append documents vc).trapped = vc.trapped ∧
      ((∀ r ∈ vc.Reviews, r.Valid) → ∀ r ∈ (append documents vc).Reviews, r.Valid) := by
  induction documents generalizing vc with
  | nil => exact ⟨rfl, id⟩
  | cons document documents ih =>
    obtain ⟨r, rfl, hr⟩ := h document List.mem_cons_self
    obtain ⟨htrap, hvalid⟩ := ih (fun d hd => h d (List.mem_cons_of_mem _ hd))
      { vc with Reviews := vc.Reviews ++ [r] }
    refine ⟨htrap, fun hall => hvalid fun r' hr' => ?_⟩
    rcases List.mem_append.mp hr' with hr' | hr'
    · exact hall r' hr'
    · exact List.mem_singleton.mp hr' ▸ hr

lemma reviewsFound_dictionary {documents : List ReviewData}
    (h : ∀ d ∈ documents, ∃ r : Review, d = r.dictionary ∧ r.Valid) (vc : ReviewsTable) :
    (vc.reviewsFound documents).trapped = vc.trapped ∧
      ((∀ r ∈ vc.Reviews, r.Valid) → ∀ r ∈ (vc.reviewsFound documents).Reviews, r.Valid) := by
  obtain ⟨htrap, hvalid⟩ := append_dictionary h vc
  unfold reviewsFound
  dsimp only
  split_ifs <;> exact ⟨htrap, hvalid⟩

end ReviewsTable

namespace ReviewScreen

variable {vc : ReviewScreen}

variable (vc) in
/-- The form that is presented is within its limits, and the reviews shown are accepted by it. -/
structure Sound : Prop where
  post : ∀ pr, vc.post = some pr → pr.Fits
  reviews : ∀ r ∈ vc.table.Reviews, r.Valid

variable (vc) in
/-- The reviews are loaded by the id of the note, and stored under its `docID`. -/
def Requested : ReviewRequest → Prop
  | .loadReviews id => id = vc.note.1.id
  | .setData docID review _ => docID = vc.note.1.docID ∧ docID ≠ "" ∧ review.Valid

variable (vc) in
/-- A reaction of a screen keeps the invariant, and the note. -/
structure Reacts (r : ReviewReaction) : Prop where
  sound : Sound r.client
  note : r.client.note = vc.note
  requests : ∀ q ∈ r.requests, Requested vc q

/-- When there are references. -/
lemma references_eq_some_iff {thisUser : Option User} {refs : String × User × String} :
    vc.references thisUser = some refs ↔ refs.1 = vc.note.1.docID ∧ refs.1 ≠ "" ∧
      thisUser = some refs.2.1 ∧ refs.2.1.docID = some refs.2.2 ∧ refs.2.2 ≠ "" := by
  obtain ⟨docID, user, userID⟩ := refs
  unfold references
  by_cases hdoc : vc.note.1.docID = ""
  · rw [if_pos hdoc, hdoc]
    simp +contextual
  · rw [if_neg hdoc]
    constructor
    · intro h
      split at h
      case h_1 => cases h
      case h_2 user' =>
        split at h
        case h_1 => cases h
        case h_2 id hid =>
          simp only [Option.ite_none_left_eq_some, Option.some.injEq, Prod.mk.injEq] at h
          obtain ⟨hne, rfl, rfl, rfl⟩ := h
          exact ⟨rfl, hdoc, rfl, hid, hne⟩
    · rintro ⟨rfl, -, rfl, hid, hne⟩
      dsimp only at hid hne
      simp [hid, hne]

/-- A review that is posted. -/
lemma postReview_cases (pr : PostReview) (thisUser : Option User) (now : Timestamp) :
    (pr.isValid.2 = false ∧
      vc.postReview pr thisUser now = .skip { vc with post := some pr.isValid.1 }) ∨
    (pr.isValid.2 = true ∧ vc.references thisUser = none ∧
      vc.postReview pr thisUser now = .skip { vc with post := some pr.isValid.1 }.trap) ∨
    ∃ docID user userID, pr.isValid.2 = true ∧
      vc.references thisUser = some (docID, user, userID) ∧
      vc.postReview pr thisUser now = ⟨{ vc with post := some pr.isValid.1 },
        [.setData docID (pr.isValid.1.made user userID now) vc.posts], []⟩ := by
  unfold postReview
  cases hval : pr.isValid with
  | mk pr' b =>
    cases b with
    | false => exact Or.inl ⟨rfl, rfl⟩
    | true =>
      have hsame : { vc with post := some pr' }.references thisUser = vc.references thisUser := rfl
      dsimp only
      rw [hsame]
      cases hrefs : vc.references thisUser with
      | none => exact Or.inr (Or.inl ⟨rfl, rfl, rfl⟩)
      | some refs =>
        obtain ⟨docID, user, userID⟩ := refs
        exact Or.inr (Or.inr ⟨docID, user, userID, rfl, rfl, rfl⟩)

/-- The form changes, and the list does not. -/
lemma Sound.form (h : vc.Sound) {post : Option PostReview} {posts : ℕ}
    (hpost : ∀ pr, post = some pr → pr.Fits) :
    vc.Reacts (.skip { vc with post := post, posts := posts }) :=
  ⟨⟨hpost, h.reviews⟩, rfl, by simp⟩

/-- What a touch does. -/
lemma ui_cases {u : ReviewTap} {r : ReviewReaction} (hr : vc.ui u = some r) :
    vc.table.trapped = false ∧
    ((u = .addReview ∧ r = .skip { vc with
        post := some PostReview.viewDidLoad, posts := vc.posts + 1 }) ∨
      (∃ pr review, u = .ok ∧ vc.post = some pr ∧ pr.alert = some review ∧
        r = ⟨vc.insertReview review, [], [.inserted review]⟩) ∨
      (∃ pr position, u = .touch position ∧ vc.post = some pr ∧
        r = .skip { vc with post := some { pr with
          rating := some (CosmosTouch.touchRating position starsConsmosView) } }) ∨
      (∃ pr e view, u = .review e ∧ vc.post = some pr ∧ pr.reviewNoteTextView.step e = some view ∧
        r = .skip { vc with post := some { pr with reviewNoteTextView := view } }) ∨
      (∃ pr thisUser now, u = .postReview thisUser now ∧ vc.post = some pr ∧
        r = vc.postReview pr thisUser now) ∨
      (u = .dismiss ∧ r = .skip { vc with post := none })) := by
  unfold ui at hr
  rw [Option.ite_none_left_eq_some] at hr
  obtain ⟨hrun, hr⟩ := hr
  refine ⟨by simpa using hrun, ?_⟩
  split at hr
  case h_1 hp => exact Or.inl ⟨rfl, (Option.some.inj hr).symm⟩
  case h_2 pr hp =>
    obtain ⟨review, halert, rfl⟩ := Option.map_eq_some_iff.mp hr
    exact Or.inr (Or.inl ⟨pr, review, rfl, hp, halert, rfl⟩)
  case h_3 u pr _ hp =>
    rw [Option.ite_none_left_eq_some] at hr
    obtain ⟨-, hr⟩ := hr
    right
    right
    split at hr
    case h_1 position _ => exact Or.inl ⟨pr, position, rfl, hp, (Option.some.inj hr).symm⟩
    case h_2 => cases hr
    case h_3 e _ _ =>
      obtain ⟨view, hview, rfl⟩ := Option.map_eq_some_iff.mp hr
      exact Or.inr (Or.inl ⟨pr, e, view, rfl, hp, hview, rfl⟩)
    case h_4 thisUser now _ =>
      exact Or.inr (Or.inr (Or.inl ⟨pr, thisUser, now, rfl, hp, (Option.some.inj hr).symm⟩))
    case h_5 => exact Or.inr (Or.inr (Or.inr ⟨rfl, (Option.some.inj hr).symm⟩))
    case h_6 => cases hr
  case h_4 => cases hr

/-- Whatever the user does, the form stays within its limits, and what is stored is accepted. -/
lemma ui_reacts (h : vc.Sound) {u : ReviewTap} {r : ReviewReaction} (hr : vc.ui u = some r) :
    vc.Reacts r := by
  obtain ⟨-, ⟨-, rfl⟩ | ⟨pr, review, -, hp, halert, rfl⟩ | ⟨pr, position, -, hp, rfl⟩ |
    ⟨pr, e, view, -, hp, hview, rfl⟩ | ⟨pr, thisUser, now, -, hp, rfl⟩ | ⟨-, rfl⟩⟩ := ui_cases hr
  · refine h.form fun pr hpr => ?_
    obtain rfl := Option.some.inj hpr
    exact PostReview.viewDidLoad_fits
  · refine ⟨⟨by simp [insertReview], fun r hr => ?_⟩, rfl, by simp⟩
    rcases List.mem_cons.mp hr with rfl | hr
    · exact (h.post pr hp).alert _ halert
    · exact h.reviews r hr
  · refine h.form fun pr' hpr => ?_
    obtain rfl := Option.some.inj hpr
    have hfits := h.post pr hp
    refine ⟨fun r hr => ?_, hfits.view, hfits.placeHolder, hfits.alert⟩
    obtain rfl := Option.some.inj hr
    have hmin : starsConsmosView.minTouchRating = ((1 : ℕ) : ℚ) := Nat.cast_one.symm
    exact touchRating_full position rfl hmin (by decide)
  · refine h.form fun pr' hpr => ?_
    obtain rfl := Option.some.inj hpr
    have hfits := h.post pr hp
    exact ⟨hfits.rating, hfits.view.step hview, (placeHolder_step hview).trans hfits.placeHolder,
      hfits.alert⟩
  · have hfits := PostReview.isValid_fits (h.post pr hp)
    have hpost : ∀ pr', some pr.isValid.1 = some pr' → pr'.Fits := by
      rintro pr' hpr
      exact Option.some.inj hpr ▸ hfits
    rcases vc.postReview_cases pr thisUser now with ⟨-, heq⟩ | ⟨-, -, heq⟩ |
      ⟨docID, user, userID, hval, hrefs, heq⟩
    · exact heq ▸ h.form hpost
    · exact heq ▸ ⟨⟨hpost, h.reviews⟩, rfl, by simp⟩
    · obtain ⟨hdoc, hne, -⟩ := references_eq_some_iff.mp hrefs
      refine heq ▸ ⟨⟨hpost, h.reviews⟩, rfl, fun q hq => ?_⟩
      obtain rfl := List.mem_singleton.mp hq
      exact ⟨hdoc, hne, PostReview.made_valid (h.post pr hp) hval user userID now⟩
  · exact h.form (by simp)

/-- A completion keeps the invariant, and does not stop the program. -/
lemma recv_reacts (h : vc.Sound) {q : ReviewRequest} {a : ReviewAnswer} (hq : vc.Requested q)
    (ha : AnswerValid a) :
    vc.Reacts (vc.recv q a) ∧ (vc.recv q a).client.table.trapped = vc.table.trapped := by
  have hskip : ∀ vc' : ReviewScreen, vc'.Sound → vc'.note = vc.note →
      vc.Reacts ⟨vc', [], [.arrived (arrived q a)]⟩ := fun vc' hs hnote => ⟨hs, hnote, by simp⟩
  unfold recv
  split_ifs
  · exact ⟨hskip vc h rfl, rfl⟩
  · unfold callback
    split
    case h_1 id documents =>
      obtain ⟨htrap, hvalid⟩ := ReviewsTable.reviewsFound_dictionary (ha documents rfl) vc.table
      exact ⟨hskip _ ⟨h.post, hvalid h.reviews⟩ rfl, htrap⟩
    case h_2 => exact ⟨hskip _ ⟨h.post, h.reviews⟩ rfl, rfl⟩
    case h_3 docID review number =>
      unfold reviewPosted
      split
      case h_1 pr hp =>
        split_ifs
        · refine ⟨hskip _ ⟨fun pr' hpr => ?_, h.reviews⟩ rfl, rfl⟩
          obtain rfl := Option.some.inj hpr
          have hfits := h.post pr hp
          refine ⟨hfits.rating, hfits.view, hfits.placeHolder, fun r hr => ?_⟩
          exact Option.some.inj hr ▸ hq.2.2
        · exact ⟨hskip vc h rfl, rfl⟩
      case h_2 => exact ⟨hskip vc h rfl, rfl⟩
    case h_4 => exact ⟨hskip vc h rfl, rfl⟩

/-- When a touch stops the program. -/
lemma ui_trapped {u : ReviewTap} {r : ReviewReaction} (hr : vc.ui u = some r) :
    r.client.table.trapped = false ↔ ∀ thisUser now pr, u = .postReview thisUser now →
      vc.post = some pr → pr.isValid.2 = true → vc.references thisUser ≠ none := by
  obtain ⟨hrun, hcases⟩ := ui_cases hr
  have hgo : ∀ r : ReviewReaction, r.client.table.trapped = vc.table.trapped →
      (∀ thisUser now, u ≠ .postReview thisUser now) →
      (r.client.table.trapped = false ↔ ∀ thisUser now pr, u = .postReview thisUser now →
        vc.post = some pr → pr.isValid.2 = true → vc.references thisUser ≠ none) :=
    fun r htrap hu => iff_of_true (htrap.trans hrun) fun thisUser now _ heq => absurd heq (hu _ _)
  rcases hcases with ⟨rfl, rfl⟩ | ⟨pr, review, rfl, -, -, rfl⟩ | ⟨pr, position, rfl, -, rfl⟩ |
    ⟨pr, e, view, rfl, -, -, rfl⟩ | ⟨pr, thisUser, now, rfl, hp, rfl⟩ | ⟨rfl, rfl⟩
  · exact hgo _ rfl (by simp)
  · exact hgo _ rfl (by simp)
  · exact hgo _ rfl (by simp)
  · exact hgo _ rfl (by simp)
  · rcases vc.postReview_cases pr thisUser now with ⟨hval, heq⟩ | ⟨hval, hrefs, heq⟩ |
      ⟨docID, user, userID, -, hrefs, heq⟩
    · rw [heq]
      refine iff_of_true hrun fun _ _ pr' _ hpr hvalid => ?_
      obtain rfl := Option.some.inj (hp.symm.trans hpr)
      rw [hval] at hvalid
      cases hvalid
    · rw [heq]
      refine iff_of_false (by simp [trap]) fun hall => ?_
      exact hall thisUser now pr rfl hp hval hrefs
    · rw [heq]
      refine iff_of_true hrun fun _ _ _ hu _ _ => ?_
      obtain ⟨rfl, -⟩ := ReviewTap.postReview.inj hu
      rw [hrefs]
      simp
  · exact hgo _ rfl (by simp)

end ReviewScreen

/-! ## The system -/

open ReviewScreen

/-- The reviews on the server are such that the form accepts. -/
def ReviewsValid (s : ReviewServer) : Prop :=
  ∀ id, ∀ d ∈ s.reviews id, ∃ r : Review, d = r.dictionary ∧ r.Valid

/-- The server stores what is asked for, and answers with what it has stored. -/
lemma ReviewsValid.serve {s : ReviewServer} (hs : ReviewsValid s) {q : ReviewRequest}
    (hq : ∀ docID r n, q = .setData docID r n → r.Valid) (x : ReviewChoice) :
    ReviewsValid (s.serve q x).server ∧ AnswerValid (s.serve q x).answer := by
  cases x with
  | success place =>
    cases q with
    | loadReviews id =>
      exact ⟨hs, fun documents heq => ReviewAnswer.reviews.inj heq ▸ hs id⟩
    | setData docID review n =>
      refine ⟨fun id d hd => ?_, fun documents heq => by cases heq⟩
      by_cases hid : id = docID
      · subst hid
        simp only [ReviewServer.serve, ReviewServer.setData_reviews_self] at hd
        rcases List.eq_or_mem_of_mem_insertIdx hd with rfl | hd
        · exact ⟨review, rfl, hq id review n rfl⟩
        · exact hs id d hd
      · simp only [ReviewServer.serve, ReviewServer.setData_reviews_of_ne _ hid] at hd
        exact hs id d hd
  | error _ => cases q <;> exact ⟨hs, fun documents heq => by cases heq⟩
  | neither => cases q <;> exact ⟨hs, fun documents heq => by cases heq⟩

/-- The screens satisfy the conditions of the client rule. -/
lemma reviewSystem_rules : ClientRules reviewSystem (fun _ => False) ReviewsValid
    (fun _ vc _ => vc.Sound) Requested (fun _ _ => AnswerValid) where
  boot := by
    intro s note _
    refine ⟨⟨by simp [reviewSystem, viewDidLoad], ?_⟩, fun q hq => ?_⟩
    · simp [reviewSystem, viewDidLoad, ReviewsTable.loadReviews]
    · obtain rfl := List.mem_singleton.mp hq
      rfl
  ui := by
    intro s vc t u r _ hsound hr
    have hreact := ui_reacts hsound hr
    have hnote : ∀ q, vc.Requested q → r.client.Requested q := fun q hq => by
      cases q <;> simpa only [Requested, hreact.note] using hq
    exact ⟨⟨hreact.sound, fun q hq => hnote q (hreact.requests q hq)⟩, hnote⟩
  serve := by
    intro s q x vc hs hq
    have hreview : ∀ docID r n, q = .setData docID r n → r.Valid := by
      rintro docID r n rfl
      exact hq.2.2
    obtain ⟨hvalid, hanswer⟩ := hs.serve hreview x
    exact ⟨hvalid, hanswer, fun _ h => h⟩
  others := fun _ _ _ _ _ _ => ⟨fun _ _ h => h, fun _ _ h => h⟩
  recv := by
    intro s vc t q a _ _ hsound hq ha
    obtain ⟨hreact, -⟩ := recv_reacts hsound hq ha
    have hnote : ∀ q', vc.Requested q' → (vc.recv q a).client.Requested q' := fun q' hq' => by
      cases q' <;> simpa only [Requested, hreact.note] using hq'
    exact ⟨⟨hreact.sound, fun q' hq' => hnote q' (hreact.requests q' hq')⟩,
      fun q' hq' _ => hnote q' hq'⟩

variable {s : ReviewServer} {h : List (ReviewWorld × ReviewEvent)} {w : ReviewWorld}

/-- What holds of the server and the screens in every state of every run. -/
lemma reviewSystem_sound (hs : ReviewsValid s) (hr : reviewSystem.RunFrom s h w) :
    ClientInv ReviewsValid (fun _ vc _ => vc.Sound) Requested (fun _ _ => AnswerValid) w :=
  client_invariant exclusiveRules_false reviewSystem_rules hs hr

/-- No program has stopped. -/
def GoesOn (w : ReviewWorld) : Prop :=
  ∀ i vc, w.clients i = some vc → vc.table.trapped = false

/-- A review that is posted, and that the form accepts, is of a note with an id for its reviews,
and by a user that has been loaded with a document. -/
def Refers (w : ReviewWorld) (e : ReviewEvent) : Prop :=
  ∀ i thisUser now vc pr, e = .ui i (.postReview thisUser now) → w.clients i = some vc →
    vc.post = some pr → pr.isValid.2 = true →
      vc.note.1.docID ≠ "" ∧ ∃ user docID, thisUser = some user ∧ user.docID = some docID ∧
        docID ≠ ""

/-- There are references exactly if the note and the user have ids. -/
lemma references_ne_none_iff {vc : ReviewScreen} {thisUser : Option User} :
    vc.references thisUser ≠ none ↔ vc.note.1.docID ≠ "" ∧
      ∃ user docID, thisUser = some user ∧ user.docID = some docID ∧ docID ≠ "" := by
  constructor
  · intro hrefs
    obtain ⟨refs, hrefs⟩ := Option.ne_none_iff_exists'.mp hrefs
    obtain ⟨hdoc, hne, hu, hid, hne'⟩ := references_eq_some_iff.mp hrefs
    exact ⟨hdoc ▸ hne, refs.2.1, refs.2.2, hu, hid, hne'⟩
  · rintro ⟨hdoc, user, docID, hu, hid, hne⟩
    have hrefs : vc.references thisUser = some (vc.note.1.docID, user, docID) :=
      references_eq_some_iff.mpr ⟨rfl, hdoc, hu, hid, hne⟩
    rw [hrefs]
    simp

/-- A reaction of a client that goes on exactly under a condition. -/
lemma goesOn_react {i : ℕ} (root : ℕ) {r : ReviewReaction} {P : Prop}
    (hr : r.client.table.trapped = false ↔
      (∀ vc, w.clients i = some vc → vc.table.trapped = false) ∧ P) :
    GoesOn (w.react i root r) ↔ GoesOn w ∧ P := by
  constructor
  · intro hgo
    obtain ⟨hself, hP⟩ := hr.mp (hgo i r.client (by simp))
    refine ⟨fun j vc hj => ?_, hP⟩
    by_cases hij : j = i
    · exact hself vc (hij ▸ hj)
    · exact hgo j vc (by simpa [hij] using hj)
  · rintro ⟨hgo, hP⟩ j vc hj
    by_cases hij : j = i
    · subst hij
      obtain rfl : r.client = vc := by simpa using hj
      exact hr.mpr ⟨fun vc hvc => hgo j vc hvc, hP⟩
    · exact hgo j vc (by simpa [hij] using hj)

/-- A step stops no program exactly if what it posts has its references. -/
lemma goesOn_step {w' : ReviewWorld} {e : ReviewEvent} (hs : ReviewsValid s)
    (hr : reviewSystem.RunFrom s h w) (hstep : reviewSystem.step w e = some w') :
    GoesOn w' ↔ GoesOn w ∧ Refers w e := by
  have hsound := reviewSystem_sound hs hr
  have hother : ∀ e : ReviewEvent, (∀ i thisUser now, e ≠ .ui i (.postReview thisUser now)) →
      Refers w e := fun e he i thisUser now _ _ heq => absurd heq (he i thisUser now)
  cases took_of_step hstep with
  | @boot i note free =>
    have hnone : ∀ vc, w.clients i = some vc → vc.table.trapped = false := fun vc hvc => by
      rw [free] at hvc
      cases hvc
    exact goesOn_react (w := w) w.next (iff_of_true rfl ⟨hnone, hother _ (by simp)⟩)
  | @ui i u vc r client reacts =>
    have hrun := (ui_cases reacts).1
    refine goesOn_react (w := w) w.next ((ui_trapped reacts).trans ?_)
    constructor
    · intro hrefs
      refine ⟨fun vc' hvc => Option.some.inj (client.symm.trans hvc) ▸ hrun, ?_⟩
      intro j thisUser now vc' pr heq hj hp hval
      obtain ⟨rfl, rfl⟩ := Event.ui.inj heq
      obtain rfl := Option.some.inj (client.symm.trans hj)
      exact references_ne_none_iff.mp (hrefs thisUser now pr rfl hp hval)
    · rintro ⟨-, hrefs⟩ thisUser now pr rfl hp hval
      exact references_ne_none_iff.mpr (hrefs i thisUser now vc pr rfl client hp hval)
  | @serve k x f flight unanswered =>
    have hsame : GoesOn (w.handle k f (reviewSystem.serve w.server f.request x)) ↔ GoesOn w := by
      simp only [GoesOn, handle_clients]
    rw [hsame, and_iff_left (hother _ (by simp))]
  | @deliver k x f a vc flight answered client =>
    obtain ⟨vc', hvc', hasked, hanswered⟩ := hsound.flight f (mem_of_flight flight)
    obtain rfl := Option.some.inj (client.symm.trans hvc')
    have htrap := (recv_reacts (hsound.client _ vc client) hasked (hanswered a answered)).2
    refine goesOn_react (w := w.land k) f.root (iff_of_eq ?_)
    rw [show (reviewSystem.recv vc f.request a x).client.table.trapped = vc.table.trapped
      from htrap]
    simp [client, hother (.deliver k x) (by simp)]

/-- **When the program goes on.** If the server has only reviews that the form accepts at first,
then no program stops in a run if and only if every review that is posted, and that the form
accepts, has its references: it is not of a note from a profile, and its user has been loaded.

**Proof sketch.** The reviews that are loaded can all be read (`reviews_valid`), so that only
posting can stop a program. -/
theorem reviews_go_on_iff (hs : ReviewsValid s) (hr : reviewSystem.RunFrom s h w) :
    GoesOn w ↔ EveryStep Refers h := by
  induction hr with
  | nil => exact iff_of_true (fun i vc hi => by cases hi) (by simp)
  | snoc hr hstep ih => rw [goesOn_step hs hr hstep, ih, everyStep_snoc]

/-- Bob reviews Sara's note, which he has opened from her profile, and the program stops. -/
theorem reviews_go_on_iff_profile : ∃ h w, reviewSystem.RunFrom ⟨fun _ => []⟩ h w ∧
    ¬ EveryStep Refers h ∧ (GoesOn w ↔ EveryStep Refers h) := by
  have he : (exec reviewSystem.step (start ⟨fun _ => []⟩)
      (.boot 0 profileNote :: bobReviews)).map (fun w => (w.clients 0).map fun vc =>
        vc.table.trapped) = some (some true) := by decide +kernel
  obtain ⟨h, w, hr, -, hw⟩ := run_of_observed he
  obtain ⟨vc, hi, htrapped⟩ := Option.map_eq_some_iff.mp hw
  have hiff := reviews_go_on_iff (by simp [ReviewsValid]) hr
  refine ⟨h, w, hr, fun hrefs => ?_, hiff⟩
  rw [hiff.mpr hrefs 0 vc hi] at htrapped
  cases htrapped

end Aoun
