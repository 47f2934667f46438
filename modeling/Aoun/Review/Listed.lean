import Mathlib.Data.List.Perm.Basic
import Aoun.Lib.Feed
import Aoun.Review.Valid

/-!
# The reviews that are listed

A detail screen appends the reviews that it loads to its list, and inserts a review of its own
after the alert about it. A review that is stored before the reviews are read is among them, and is
listed twice. Otherwise each review is listed at most as often as it is stored, whatever others
store meanwhile, and in whatever order the answers arrive. What the user has been told is posted
stays in the list.

## Main definitions

* `Aoun.ReviewServer.listed` — the reviews of a note that can be read.
* `Aoun.reviewDue`, `Aoun.reviewPaid`, `Aoun.reviewHeld` — what a screen has read and stored, what
  has arrived, and what is on its way.

## Main results

* `Aoun.reviews_listed_once` — what is listed is stored, once for each time it is listed.
-/

set_option relaxedAutoImplicit false
set_option autoImplicit false

namespace Aoun

open AsyncSystem AsyncSystem.World StepSystem ReviewScreen

/-! ## What is due -/

/-- The reviews of the note `id` that can be read. -/
def ReviewServer.listed (s : ReviewServer) (id : String) : Multiset Review :=
  ((s.reviews id).filterMap ReviewData.newRev : List Review)

/-- A screen is due the reviews that it has read, and those that it has stored. -/
def reviewDue : ReviewEffect → Multiset Review
  | .stored review => {review}
  | .read documents => (documents.filterMap ReviewData.newRev : List Review)
  | _ => 0

/-- What has arrived at a screen. -/
def reviewPaid : ReviewEffect → Multiset Review
  | .arrived reviews => (reviews : Multiset Review)
  | _ => 0

/-- What is on its way to a screen. -/
def reviewHeld (q : ReviewRequest) : Option ReviewAnswer → Multiset Review
  | some a => (arrived q a : Multiset Review)
  | none => 0

/-- The request loads the reviews. -/
def ReviewRequest.Loads (q : ReviewRequest) : Prop := ∃ id, q = .loadReviews id

/-- A note that a detail screen is opened for has its reviews under its id, or nowhere. -/
lemma NoteFile.Decoded.docID {n : NoteFile} (h : n.Decoded) : n.docID = "" ∨ n.docID = n.id := by
  obtain ⟨data, documentID, hn | hn⟩ := h
  · right
    unfold ViewNotesViewController.note at hn
    simp only [Option.bind_eq_bind, Option.bind_eq_some_iff, Option.some.injEq] at hn
    obtain ⟨_, -, _, -, _, -, _, -, _, -, _, -, _, -, rfl⟩ := hn
    rfl
  · left
    unfold ProfileDetailViewController.note at hn
    simp only [Option.bind_eq_bind, Option.bind_eq_some_iff, Option.some.injEq] at hn
    obtain ⟨_, -, _, -, _, -, _, -, _, -, _, -, rfl⟩ := hn
    rfl

/-- A new review is one more among those of its note. -/
lemma listed_setData (s : ReviewServer) (docID : String) (review : Review) (place : ℕ) :
    (s.setData docID review.dictionary place).listed docID = s.listed docID + {review} := by
  have hperm := List.perm_insertIdx review.dictionary (s.reviews docID)
    (Nat.min_le_right place (s.reviews docID).length)
  unfold ReviewServer.listed
  rw [ReviewServer.setData_reviews_self, Multiset.coe_eq_coe.mpr (hperm.filterMap _),
    List.filterMap_cons_some (newRev_dictionary review), ← Multiset.cons_coe,
    ← Multiset.singleton_add, add_comm]

/-- It is nothing to the other notes. -/
lemma listed_setData_of_ne (s : ReviewServer) {docID id : String} (data : ReviewData) (place : ℕ)
    (h : id ≠ docID) : (s.setData docID data place).listed id = s.listed id := by
  unfold ReviewServer.listed
  rw [ReviewServer.setData_reviews_of_ne s h]

/-- What is listed of a note only grows. -/
lemma listed_serve_le (s : ReviewServer) (q : ReviewRequest) (x : ReviewChoice) (id : String) :
    s.listed id ≤ (s.serve q x).server.listed id := by
  cases x with
  | success place =>
    cases q with
    | loadReviews _ => exact le_rfl
    | setData docID review n =>
      by_cases hid : id = docID
      · subst hid
        exact (listed_setData s id review place).symm ▸ le_self_add
      · exact (listed_setData_of_ne s review.dictionary place hid).ge
  | _ => cases q <;> exact le_rfl

/-- The list changes with what the user is told, and nothing is due for a touch. -/
lemma reviewUi_rest {vc : ReviewScreen} {u : ReviewTap} {r : ReviewReaction}
    (hr : vc.ui u = some r) :
    r.client.note = vc.note ∧ total reviewDue r.effects = 0 ∧ total reviewPaid r.effects = 0 := by
  obtain ⟨-, ⟨-, rfl⟩ | ⟨pr, review, -, -, -, rfl⟩ | ⟨pr, position, -, -, rfl⟩ |
    ⟨pr, e, view, -, -, -, rfl⟩ | ⟨pr, thisUser, now, -, -, rfl⟩ | ⟨-, rfl⟩⟩ := ui_cases hr
  · exact ⟨rfl, rfl, rfl⟩
  · exact ⟨rfl, by simp [reviewDue], by simp [reviewPaid]⟩
  · exact ⟨rfl, rfl, rfl⟩
  · exact ⟨rfl, rfl, rfl⟩
  · rcases vc.postReview_cases pr thisUser now with ⟨-, heq⟩ | ⟨-, -, heq⟩ |
      ⟨docID, user, userID, -, -, heq⟩ <;> rw [heq] <;> exact ⟨rfl, rfl, rfl⟩
  · exact ⟨rfl, rfl, rfl⟩

/-- A completion keeps the note. -/
lemma recv_note (vc : ReviewScreen) (q : ReviewRequest) (a : ReviewAnswer) :
    (vc.recv q a).client.note = vc.note := by
  unfold ReviewScreen.recv
  split_ifs
  · rfl
  · unfold callback
    split
    case h_3 docID review number =>
      unfold reviewPosted
      split
      · split_ifs <;> rfl
      · rfl
    all_goals rfl

/-- The requests are for the reviews under the id of the note. -/
def OfNote (vc : ReviewScreen) : ReviewRequest → Prop
  | .loadReviews id => id = vc.note.1.id
  | .setData docID _ _ => docID = vc.note.1.id

/-- The screens read and add to the reviews of their notes. -/
lemma reviewSystem_feed : FeedRules reviewSystem OfNote ReviewServer.listed
    (fun vc => some vc.note.1.id) ReviewRequest.Loads reviewDue reviewPaid reviewHeld where
  balance :=
    { boot := fun note => by simp [Accounts, reviewSystem, viewDidLoad, reviewHeld]
      ui := fun vc u r hr => by
        obtain ⟨-, hdue, hpaid⟩ := reviewUi_rest hr
        rw [Accounts, hdue, hpaid, total_eq_zero (fun q => reviewHeld q none) fun _ _ => rfl]
      serve := fun s q x => by
        cases x <;> cases q <;>
          simp [reviewSystem, ReviewServer.serve, reviewHeld, reviewDue, reviewPaid, arrived]
      recv := fun vc q a _ _ => by
        simp [Accounts, reviewSystem, ReviewScreen.recv, reviewHeld, reviewDue, reviewPaid] }
  boot := fun note => rfl
  ui := fun vc u r hr => by
    obtain ⟨hnote, hdue, -⟩ := reviewUi_rest hr
    exact ⟨by rw [hnote], hdue⟩
  grows := listed_serve_le
  serve := fun s q x vc id hq hid => by
    obtain rfl := Option.some.inj hid
    cases x with
    | success place =>
      cases q with
      | loadReviews id =>
        left
        obtain rfl : id = vc.note.1.id := hq
        exact ⟨⟨_, rfl⟩, by simp [reviewSystem, ReviewServer.serve, reviewDue,
          ReviewServer.listed]⟩
      | setData docID review n =>
        right
        obtain rfl : docID = vc.note.1.id := hq
        simp [reviewSystem, ReviewServer.serve, reviewDue, listed_setData]
    | _ =>
      right
      cases q <;> simp [reviewSystem, ReviewServer.serve]
  recv := fun vc q a _ _ => ⟨by rw [show (reviewSystem.recv vc q a ()).client.note = vc.note
    from recv_note vc q a], by simp [reviewSystem, ReviewScreen.recv, reviewDue]⟩

/-! ## What is listed -/

namespace ReviewScreen

/-- The review that the user is being told about. -/
def told (vc : ReviewScreen) : Multiset Review :=
  match vc.post with
  | some pr => pr.alert.elim 0 fun review => {review}
  | none => 0

/-- What is listed, and what the user is being told about, has arrived; and what the user has been
told about is listed. -/
structure Lists (vc : ReviewScreen) (t : List ReviewEffect) : Prop where
  arrived : (vc.table.Reviews : Multiset Review) + vc.told ≤ total reviewPaid t
  inserted : ∀ review, .inserted review ∈ t → review ∈ vc.table.Reviews

variable {vc vc' : ReviewScreen} {t : List ReviewEffect}

/-- The list stays, and the user is told about nothing new. -/
lemma Lists.stays (h : vc.Lists t) (hreviews : vc'.table.Reviews = vc.table.Reviews)
    (htold : vc'.told ≤ vc.told) : vc'.Lists t := by
  refine ⟨?_, hreviews.symm ▸ h.inserted⟩
  rw [hreviews]
  exact (add_le_add_right htold _).trans h.arrived

/-- What the loop over the documents lists can be read. -/
lemma reviewsOf_sublist (documents : List ReviewData) :
    (ReviewsTable.reviewsOf documents).Sublist (documents.filterMap ReviewData.newRev) := by
  induction documents with
  | nil => exact List.Sublist.slnil
  | cons document documents ih =>
    unfold ReviewsTable.reviewsOf
    cases hd : document.newRev with
    | none => exact List.nil_sublist _
    | some newRev =>
      rw [List.filterMap_cons_some hd]
      exact ih.cons_cons newRev

/-- A touch keeps what is listed. -/
lemma Lists.ui (h : vc.Lists t) {u : ReviewTap} {r : ReviewReaction} (hr : vc.ui u = some r) :
    r.client.Lists (t ++ r.effects) := by
  obtain ⟨-, ⟨-, rfl⟩ | ⟨pr, review, -, hp, halert, rfl⟩ | ⟨pr, position, -, hp, rfl⟩ |
    ⟨pr, e, view, -, hp, -, rfl⟩ | ⟨pr, thisUser, now, -, hp, rfl⟩ | ⟨-, rfl⟩⟩ := ui_cases hr
  · rw [Reaction.skip_effects, List.append_nil]
    exact h.stays rfl (by simp [told, PostReview.viewDidLoad])
  · refine ⟨?_, fun review' hr' => ?_⟩
    · have htold : vc.told = {review} := by simp [told, hp, halert]
      have hbefore := h.arrived
      rw [htold, add_comm, Multiset.singleton_add] at hbefore
      simpa [told, insertReview, reviewPaid] using hbefore
    · rcases List.mem_append.mp hr' with hr' | hr'
      · exact List.mem_cons_of_mem _ (h.inserted review' hr')
      · obtain rfl : review' = review := by simpa using hr'
        exact List.mem_cons_self
  · rw [Reaction.skip_effects, List.append_nil]
    exact h.stays rfl (by simp [told, hp])
  · rw [Reaction.skip_effects, List.append_nil]
    exact h.stays rfl (by simp [told, hp])
  · have hkeeps : pr.isValid.1.alert = pr.alert := by
      rcases pr.isValid_cases with ⟨-, -, heq⟩ | ⟨-, -, -, halert, -⟩
      · rw [heq]
      · exact halert
    rcases vc.postReview_cases pr thisUser now with ⟨-, heq⟩ | ⟨-, -, heq⟩ |
      ⟨docID, user, userID, -, -, heq⟩ <;>
    · rw [heq]
      simp only [Reaction.skip_effects, List.append_nil]
      exact h.stays rfl (by simp [told, trap, hp, hkeeps])
  · rw [Reaction.skip_effects, List.append_nil]
    exact h.stays rfl (by simp [told])

/-- A completion lists what arrives, or tells the user about it. -/
lemma Lists.recv (h : vc.Lists t) (q : ReviewRequest) (a : ReviewAnswer) :
    (vc.recv q a).client.Lists (t ++ (vc.recv q a).effects) := by
  have hpaid : total reviewPaid (t ++ (vc.recv q a).effects) =
      total reviewPaid t + (ReviewScreen.arrived q a : Multiset Review) := by
    simp [ReviewScreen.recv, reviewPaid]
  have hkept : ∀ review, .inserted review ∈ t ++ (vc.recv q a).effects → .inserted review ∈ t := by
    intro review hr
    simpa [ReviewScreen.recv] using hr
  suffices hlists : ((vc.recv q a).client.table.Reviews : Multiset Review) +
      (vc.recv q a).client.told ≤ vc.table.Reviews + vc.told + ReviewScreen.arrived q a ∧
      vc.table.Reviews ⊆ (vc.recv q a).client.table.Reviews by
    refine ⟨?_, fun review hr => hlists.2 (h.inserted review (hkept review hr))⟩
    rw [hpaid]
    exact hlists.1.trans (add_le_add_left h.arrived _)
  have hskip : (vc.table.Reviews : Multiset Review) + vc.told ≤
      vc.table.Reviews + vc.told + ReviewScreen.arrived q a := le_self_add
  unfold ReviewScreen.recv
  split_ifs
  · exact ⟨hskip, List.Subset.refl _⟩
  · unfold callback
    split
    case h_1 id documents =>
      have hreviews : (vc.table.reviewsFound documents).Reviews =
          vc.table.Reviews ++ ReviewsTable.reviewsOf documents := by
        rw [← ReviewsTable.append_reviews, ReviewsTable.reviewsFound]
        split_ifs <;> rfl
      have hle : (ReviewsTable.reviewsOf documents : Multiset Review) ≤
          (documents.filterMap ReviewData.newRev : List Review) :=
        (reviewsOf_sublist documents).subperm
      refine ⟨?_, ?_⟩
      · show ((vc.table.reviewsFound documents).Reviews : Multiset Review) + vc.told ≤ _
        rw [hreviews, ← Multiset.coe_add, add_right_comm]
        exact add_le_add_right hle _
      · show vc.table.Reviews ⊆ (vc.table.reviewsFound documents).Reviews
        rw [hreviews]
        exact List.subset_append_left _ _
    case h_2 => exact ⟨hskip, List.Subset.refl _⟩
    case h_3 docID review number =>
      unfold reviewPosted
      split
      case h_1 pr hp =>
        split_ifs with hnew
        · refine ⟨?_, List.Subset.refl _⟩
          have htold : vc.told = 0 := by simp [told, hp, hnew.2]
          rw [htold, add_zero]
          simp [told, ReviewScreen.arrived]
        · exact ⟨hskip, List.Subset.refl _⟩
      case h_2 => exact ⟨hskip, List.Subset.refl _⟩
    case h_4 => exact ⟨hskip, List.Subset.refl _⟩

end ReviewScreen

/-! ## The system -/

/-- The requests stay those of the note. -/
lemma OfNote.of_note {vc vc' : ReviewScreen} (h : vc'.note = vc.note) {q : ReviewRequest}
    (hq : OfNote vc q) : OfNote vc' q := by
  cases q <;> simpa only [OfNote, h] using hq

/-- What a touch asks for is of the note: it stores nothing for a note without `docID`. -/
lemma ofNote_ui {vc : ReviewScreen} {u : ReviewTap} {r : ReviewReaction} (hr : vc.ui u = some r) :
    ∀ q ∈ r.requests, OfNote vc q := by
  obtain ⟨-, ⟨-, rfl⟩ | ⟨pr, review, -, -, -, rfl⟩ | ⟨pr, position, -, -, rfl⟩ |
    ⟨pr, e, view, -, -, -, rfl⟩ | ⟨pr, thisUser, now, -, -, rfl⟩ | ⟨-, rfl⟩⟩ := ui_cases hr
  · simp
  · simp
  · simp
  · simp
  · rcases vc.postReview_cases pr thisUser now with ⟨-, heq⟩ | ⟨-, -, heq⟩ |
      ⟨docID, user, userID, -, hrefs, heq⟩
    · simp [heq]
    · simp [heq]
    · obtain ⟨hdoc, hne, -⟩ := references_eq_some_iff.mp hrefs
      rw [heq]
      intro q hq
      obtain rfl := List.mem_singleton.mp hq
      exact hdoc.trans (vc.note.2.docID.resolve_left (hdoc ▸ hne))
  · simp

/-- The screens list what has arrived. -/
lemma reviewSystem_lists : ClientRules reviewSystem (fun _ => False) (fun _ => True)
    (fun _ => ReviewScreen.Lists) OfNote (fun _ _ _ => True) where
  boot := fun s note _ => by
    refine ⟨⟨le_rfl, by simp [reviewSystem, viewDidLoad]⟩, fun q hq => ?_⟩
    obtain rfl := List.mem_singleton.mp hq
    rfl
  ui := fun s vc t u r _ hlists hr => by
    have hnote := (reviewUi_rest hr).1
    exact ⟨⟨hlists.ui hr, fun q hq => (ofNote_ui hr q hq).of_note hnote⟩,
      fun q hq => hq.of_note hnote⟩
  serve := by
    intro s q x vc _ _
    refine ⟨trivial, trivial, fun t h => ⟨?_, fun review hr => h.inserted review ?_⟩⟩
    · rw [total_append]
      exact h.arrived.trans le_self_add
    · rcases List.mem_append.mp hr with hr | hr
      · exact hr
      · cases x <;> cases q <;> simp [reviewSystem, ReviewServer.serve] at hr
  others := fun _ _ _ _ _ _ => ⟨fun _ _ h => h, fun _ _ h => h⟩
  recv := fun s vc t q a _ _ hlists _ _ => by
    have hnote := recv_note vc q a
    exact ⟨⟨hlists.recv q a, by simp [reviewSystem, ReviewScreen.recv]⟩,
      fun q' hq' _ => hq'.of_note hnote⟩

variable {s : ReviewServer} {h : List (ReviewWorld × ReviewEvent)} {w : ReviewWorld}

/-- What is listed on the screens in every state of every run. -/
lemma reviewSystem_listing (hr : reviewSystem.RunFrom s h w) :
    ClientInv (fun _ => True) (fun _ => ReviewScreen.Lists) OfNote (fun _ _ _ => True) w :=
  client_invariant exclusiveRules_false reviewSystem_lists trivial hr

/-- **Reviews are listed once.** In a run in which the reviews of a screen are read before it has
stored one of its own, every screen lists each review at most as often as it is stored for its
note, and lists every review that its user has been told is posted. This is so whatever else is
stored, for the note or others, and in whatever order requests are handled and answered.

**Proof sketch.** What a screen has read, and what it has stored since, is part of what is stored,
with multiplicity; so is what has arrived of it (`FeedRules.paid_le`), and the screen lists no more
than that. -/
theorem reviews_listed_once (hr : reviewSystem.RunFrom s h w)
    (hg : EveryStep (ReadsFirst ReviewRequest.Loads reviewDue) h) {i : ℕ} {vc : ReviewScreen}
    (hi : w.clients i = some vc) :
    (vc.table.Reviews : Multiset Review) ≤ w.server.listed vc.note.1.id ∧
      ∀ review, .inserted review ∈ w.effectsOf i → review ∈ vc.table.Reviews := by
  have hlists := (reviewSystem_listing hr).client i vc hi
  have hpaid := reviewSystem_feed.paid_le (fun h w hr f hf c hc => by
    obtain ⟨c', hc', hof, -⟩ := (reviewSystem_listing hr).flight f hf
    exact Option.some.inj (hc.symm.trans hc') ▸ hof) hr hg hi rfl
  refine ⟨?_, hlists.inserted⟩
  calc (vc.table.Reviews : Multiset Review)
      ≤ vc.table.Reviews + vc.told := le_self_add
    _ ≤ total reviewPaid (w.effectsOf i) := hlists.arrived
    _ ≤ total (flightOf i reviewHeld) w.flights + total reviewPaid (w.effectsOf i) := le_add_self
    _ ≤ w.server.listed vc.note.1.id := hpaid

/-- A test that the reviews of a screen are read before it has stored one of its own. -/
def readsFirst (w : ReviewWorld) : ReviewEvent → Bool
  | .serve k _ => match w.flights[k]? with
    | some f => match f.request with
      | .loadReviews _ => (w.effectsOf f.owner).isEmpty
      | .setData _ _ _ => true
    | none => true
  | _ => true

lemma readsFirst_sound {e : ReviewEvent} (hg : readsFirst w e = true) :
    ReadsFirst ReviewRequest.Loads reviewDue w e := by
  rintro k x f rfl hf ⟨id, hq⟩
  simp only [readsFirst, hf, hq, List.isEmpty_iff] at hg
  rw [hg]
  rfl

/-- Bob's review is listed once, where Sara's note has one. -/
theorem reviews_listed_once_bob : ∃ h w vc, reviewSystem.RunFrom ⟨fun _ => []⟩ h w ∧
    w.clients 0 = some vc ∧ vc.table.Reviews.length = 1 ∧ (w.server.reviews "n").length = 1 ∧
    (vc.table.Reviews : Multiset Review) ≤ w.server.listed vc.note.1.id := by
  have he : (exec (guarded readsFirst reviewSystem.step) (start ⟨fun _ => []⟩)
      (.boot 0 listedNote :: .serve 0 (.success 0) :: .deliver 0 () :: bobReviews ++
      [.serve 0 (.success 0), .deliver 0 (), .ui 0 .ok])).map (fun w =>
        ((w.server.reviews "n").length, (w.clients 0).map fun vc => vc.table.Reviews.length)) =
      some (1, some 1) := by decide +kernel
  obtain ⟨h, w, hr, hg, hw⟩ := run_of_guarded he
  obtain ⟨hstored, hvc⟩ := Prod.mk.inj hw
  obtain ⟨vc, hi, hlength⟩ := Option.map_eq_some_iff.mp hvc
  obtain ⟨hlisted, -⟩ := reviews_listed_once hr (fun p hp => readsFirst_sound (hg p hp)) hi
  exact ⟨h, w, vc, hr, hi, hlength, hstored, hlisted⟩

/-- Bob posts his review before the reviews are read, and it is listed twice. -/
example : ∃ h w vc, reviewSystem.RunFrom ⟨fun _ => []⟩ h w ∧
    w.clients 0 = some vc ∧ vc.table.Reviews.length = 2 ∧ (w.server.reviews "n").length = 1 := by
  have he : (exec reviewSystem.step (start ⟨fun _ => []⟩) (.boot 0 listedNote :: bobReviews ++
      [.serve 1 (.success 0), .deliver 1 (), .ui 0 .ok, .serve 0 (.success 0),
        .deliver 0 ()])).map (fun w =>
        ((w.server.reviews "n").length, (w.clients 0).map fun vc => vc.table.Reviews.length)) =
      some (1, some 2) := by decide +kernel
  obtain ⟨h, w, hr, -, hw⟩ := run_of_observed he
  obtain ⟨hstored, hvc⟩ := Prod.mk.inj hw
  obtain ⟨vc, hi, hlength⟩ := Option.map_eq_some_iff.mp hvc
  exact ⟨h, w, vc, hr, hi, hlength, hstored⟩

end Aoun
