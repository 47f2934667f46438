import Aoun.Note.Screen

/-!
# What holds of the note's screens at any time

One invariant ties together the state of a detail screen, the effects recorded for it, its
requests in flight and their answers. The results about access, purchases and the seller's
income are read off it.

## Main definitions

* `Aoun.NoteEffect.IsAccess`, `Aoun.NoteEffect.Entitles` — getting at something paid for, and
  what entitles to it.
* `Aoun.lastFlag` — what was last written to the flag `purchased`, by the effects.
* `Aoun.DetailedNoteViewController.Sound`, `Asked`, `Aoun.Answered` — the invariant.

## Main results

* `Aoun.noteSystem_sound` — every screen is sound in every run.
-/

set_option relaxedAutoImplicit false
set_option autoImplicit false

namespace Aoun

open AsyncSystem StepSystem

/-- The effect gives the user something that is paid for. -/
def NoteEffect.IsAccess : NoteEffect → Prop
  | .download _ => True
  | .showAddReview => True
  | _ => False

/-- The effect entitles the user `currentUser` to `note`: a checkout succeeded, or a query
returned an entry for the note under the user's document. -/
def NoteEffect.Entitles (note : NoteFile) (currentUser : Option String) : NoteEffect → Prop
  | .success _ => True
  | .returned user documents => currentUser = some user.uid ∧
      ∃ p ∈ documents, p.user = user.documentID ∧ p.note = note.id
  | _ => False

/-- What the effect writes to the flag `purchased`, if it comes with such a write. -/
def NoteEffect.flag : NoteEffect → Option Bool
  | .complition condition => some condition
  | .success _ => some true
  | _ => none

/-- What was last written to the flag `purchased`; it starts as `false`. -/
def lastFlag (t : List NoteEffect) : Bool := (t.filterMap NoteEffect.flag).getLast?.getD false

/-- Effects that come with no write to the flag do not change what was last written. -/
lemma lastFlag_append_of_none {t r : List NoteEffect} (h : ∀ o ∈ r, o.flag = none) :
    lastFlag (t ++ r) = lastFlag t := by
  have hr : r.filterMap NoteEffect.flag = [] := List.filterMap_eq_nil_iff.mpr h
  simp [lastFlag, hr]

/-- An answer is one the server gives to the request, when its users documents are owned as
`owners` says. -/
def Answered (owners : List (String × String)) : NoteRequest → NoteAnswer → Prop
  | .loadUserReference uid, .users documents => ∀ d ∈ documents, d.uid = uid
  | .updatePrice uid _, .users documents => ∀ d ∈ documents, (d.documentID, uid) ∈ owners
  | .purchased user note, .entries documents =>
      ∀ p ∈ documents, p.user = user.documentID ∧ p.note = note
  | _, _ => True

namespace DetailedNoteViewController

variable (owners : List (String × String)) (vc : DetailedNoteViewController)

/-- The request is one this screen makes. -/
def Asked : NoteRequest → Prop
  | .loadUserReference uid => vc.currentUser = some uid
  | .purchased user note => vc.currentUser = some user.uid ∧ note = vc.note.id
  | .startCheckout _ _ => 0 < vc.priceOfNote
  | .updatePrice uid price => vc.note.userId = some uid ∧
      price = vc.note.priceDecimal.getD 0 ∧ 0 < price
  | .updateData document _ price => price = vc.note.priceDecimal.getD 0 ∧ 0 < price ∧
      ∃ uid, vc.note.userId = some uid ∧ (document, uid) ∈ owners
  | .addDocument user note _ => vc.currentUser = some user.uid ∧ note = vc.note.id
  | .download _ => True

/-- The effect is one this screen, or a request of it, may have. -/
def Records : NoteEffect → Prop
  | .success price => price = vc.note.priceDecimal.getD 0
  | .credited document price _ => vc.note.userId = some document.uid ∧
      price = vc.note.priceDecimal.getD 0
  | .entered user entry => vc.currentUser = some user.uid ∧ entry.user = user.documentID ∧
      entry.note = vc.note.id
  | _ => True

/-- The screen `vc`, after the effects `t`, is as it should be. -/
structure Sound (t : List NoteEffect) : Prop where
  price : vc.priceOfNote = vc.note.priceDecimal.getD 0
  user : ∀ u, vc.user = some u → vc.currentUser = some u.uid
  /-- The sheet that sells the note is up only for a note that has a price. -/
  sheet : ∀ url, vc.presented = some (.purchase url) → 0 < vc.priceOfNote
  /-- What is paid for comes after what entitles to it. -/
  access : 0 < vc.priceOfNote →
    Preceded NoteEffect.IsAccess (NoteEffect.Entitles vc.note vc.currentUser) t
  flag : vc.purchased = lastFlag t
  entitled : vc.purchased = true → ∃ o ∈ t, o.Entitles vc.note vc.currentUser
  review : 0 < vc.priceOfNote → vc.addReviewHidden = false →
    ∃ o ∈ t, o.Entitles vc.note vc.currentUser
  records : ∀ o ∈ t, vc.Records o

variable {owners vc} {vc' : DetailedNoteViewController} {t r : List NoteEffect}

lemma note_of_static (h : vc'.static = vc.static) : vc'.note = vc.note :=
  congrArg Prod.fst h

lemma currentUser_of_static (h : vc'.static = vc.static) : vc'.currentUser = vc.currentUser :=
  congrArg (fun s => s.2.1) h

lemma priceOfNote_of_static (h : vc'.static = vc.static) : vc'.priceOfNote = vc.priceOfNote :=
  congrArg (fun s => s.2.2) h

/-- The requests of a screen remain its requests. -/
lemma Asked.of_static (h : vc'.static = vc.static) {q : NoteRequest}
    (hq : vc.Asked owners q) : vc'.Asked owners q := by
  have hn := note_of_static h
  have hu := currentUser_of_static h
  have hp := priceOfNote_of_static h
  cases q <;> simp only [Asked, hn, hu, hp] at hq ⊢ <;> exact hq

/-- The effects of a screen remain its effects. -/
lemma Records.of_static (h : vc'.static = vc.static) {o : NoteEffect} (ho : vc.Records o) :
    vc'.Records o := by
  have hn := note_of_static h
  have hu := currentUser_of_static h
  cases o <;> simp only [Records, hn, hu] at ho ⊢ <;> exact ho

/-- A screen stays sound if it changes nothing the invariant speaks of, and its effects
neither write the flag nor give access to someone not entitled. -/
lemma Sound.quiet (h : vc.Sound t) (hs : vc'.static = vc.static)
    (hu : ∀ u, vc'.user = some u → vc.currentUser = some u.uid)
    (hp : ∀ url, vc'.presented = some (.purchase url) → 0 < vc.priceOfNote)
    (hf : vc'.purchased = vc.purchased) (hr : vc'.addReviewHidden = vc.addReviewHidden)
    (flag : ∀ o ∈ r, o.flag = none) (records : ∀ o ∈ r, vc.Records o)
    (access : 0 < vc.priceOfNote → (∀ o ∈ r, ¬ o.IsAccess) ∨
      ∃ o ∈ t, o.Entitles vc.note vc.currentUser) : vc'.Sound (t ++ r) := by
  have hn := note_of_static hs
  have hc := currentUser_of_static hs
  have hpr := priceOfNote_of_static hs
  refine ⟨?_, ?_, ?_, ?_, ?_, ?_, ?_, ?_⟩
  · rw [hpr, hn, h.price]
  · rw [hc]; exact hu
  · rw [hpr]; exact hp
  · rw [hpr, hn, hc]
    intro h0
    exact (h.access h0).append (access h0)
  · rw [hf, lastFlag_append_of_none flag, h.flag]
  · rw [hf, hn, hc]
    intro hpur
    obtain ⟨o, ho, he⟩ := h.entitled hpur
    exact ⟨o, List.mem_append_left _ ho, he⟩
  · rw [hpr, hr, hn, hc]
    intro h0 hrev
    obtain ⟨o, ho, he⟩ := h.review h0 hrev
    exact ⟨o, List.mem_append_left _ ho, he⟩
  · intro o ho
    rcases List.mem_append.mp ho with ho | ho
    · exact (h.records o ho).of_static hs
    · exact (records o ho).of_static hs

/-- A reaction that changes nothing the invariant speaks of, without effects. -/
lemma Sound.still (h : vc.Sound t) (hs : vc'.static = vc.static) (hu : vc'.user = vc.user)
    (hp : ∀ url, vc'.presented = some (.purchase url) → 0 < vc.priceOfNote)
    (hf : vc'.purchased = vc.purchased) (hr : vc'.addReviewHidden = vc.addReviewHidden) :
    vc'.Sound (t ++ []) :=
  h.quiet hs (by rw [hu]; exact h.user) hp hf hr (by simp) (by simp)
    fun _ => Or.inl (by simp)

/-! ## The reactions -/

/-- A reaction of a screen keeps the invariant. -/
abbrev KeepsSound (owners : List (String × String)) (r : NoteReaction) (t : List NoteEffect) :
    Prop :=
  Keeps Sound (Asked owners) r t

lemma loadUserReference_keeps (h : vc.Sound t) : KeepsSound owners vc.loadUserReference t := by
  unfold loadUserReference
  split
  case h_1 => exact ⟨h.still rfl rfl h.sheet rfl rfl, by simp⟩
  case h_2 userId hu =>
    refine ⟨h.still rfl rfl h.sheet rfl rfl, ?_⟩
    intro q hq
    obtain rfl := List.mem_singleton.mp hq
    exact hu

/-- A screen that has just been opened is sound. -/
lemma viewDidLoad_keeps (note : NoteFile) (currentUser : Option String) :
    KeepsSound owners (viewDidLoad note currentUser) [] := by
  unfold viewDidLoad
  cases hp : note.priceDecimal with
  | none =>
    apply loadUserReference_keeps
    exact ⟨by simp [hp], by simp, by simp, fun _ => preceded_nil, rfl, by simp, by simp, by simp⟩
  | some p =>
    apply loadUserReference_keeps
    exact ⟨by simp [updateDownloadButton, hp], by simp [updateDownloadButton],
      by simp [updateDownloadButton], fun _ => preceded_nil, rfl,
      by simp [updateDownloadButton], by simp [updateDownloadButton], by simp⟩

/-- A free download or one by someone whose flag is set; or the sheet that sells the note. -/
lemma downloadButtonTouched_keeps (h : vc.Sound t) (url : Option URL) :
    KeepsSound owners (vc.downloadButtonTouched url) t := by
  unfold downloadButtonTouched
  split
  case h_1 => exact ⟨h.still rfl rfl h.sheet rfl rfl, by simp⟩
  case h_2 url =>
    split_ifs with hc
    · refine ⟨h.quiet rfl h.user ?_ rfl rfl ?_ ?_ ?_, by simp [triggerPurchase]⟩
      · exact fun _ _ => hc.1
      · simp [triggerPurchase, NoteEffect.flag]
      · simp [triggerPurchase, Records]
      · exact fun _ => Or.inl (by simp [triggerPurchase, NoteEffect.IsAccess])
    · refine ⟨h.quiet rfl h.user h.sheet rfl rfl ?_ ?_ ?_, by simp [download, Asked]⟩
      · simp [download, NoteEffect.flag]
      · simp [download, Records]
      · intro h0
        have hpur : vc.purchased = true := by
          by_contra hne
          exact hc ⟨h0, by simpa using hne⟩
        exact Or.inr (h.entitled hpur)

lemma paymentAction_keeps (h : vc.Sound t) (h0 : 0 < vc.priceOfNote) (url : URL) :
    KeepsSound owners ({ vc with presented := none }.paymentAction url) t := by
  refine ⟨h.quiet rfl h.user (by simp [paymentAction]) rfl rfl ?_ ?_ ?_, ?_⟩
  · simp [paymentAction, NoteEffect.flag]
  · simp [paymentAction, Records]
  · exact fun _ => Or.inl (by simp [paymentAction, NoteEffect.IsAccess])
  · simpa [paymentAction, Asked] using h0

/-- The call of `updatePrice` writes no flag and gives no access. -/
lemma updatePrice_effects_rest {o : NoteEffect}
    (ho : o ∈ (vc.updatePrice (vc.note.priceDecimal.getD 0)).effects) :
    o.flag = none ∧ vc.Records o ∧ ¬ o.IsAccess := by
  unfold updatePrice at ho
  split at ho
  case h_1 => cases ho
  case h_2 =>
    rw [List.mem_singleton.mp ho]
    simp [NoteEffect.flag, Records, NoteEffect.IsAccess]

/-- The success is the last write to the flag. -/
lemma lastFlag_success (url : URL) (now : Timestamp) :
    lastFlag (t ++ (vc.success url now).effects) = true := by
  have hlast : lastFlag ((t ++ [.success (vc.note.priceDecimal.getD 0)]) ++
      ((vc.updatePrice (vc.note.priceDecimal.getD 0)).effects ++ [.download url])) = true := by
    rw [lastFlag_append_of_none]
    · simp [lastFlag, NoteEffect.flag]
    · intro o ho
      rcases List.mem_append.mp ho with ho | ho
      · exact (updatePrice_effects_rest ho).1
      · rw [List.mem_singleton.mp ho]; rfl
  rw [success_effects]
  simpa using hlast

/-- The success comes before the download it starts. -/
lemma success_access (h : vc.Sound t) (h0 : 0 < vc.priceOfNote) (url : URL) (now : Timestamp) :
    Preceded NoteEffect.IsAccess (NoteEffect.Entitles vc.note vc.currentUser)
      (t ++ (vc.success url now).effects) := by
  have hbefore : Preceded NoteEffect.IsAccess (NoteEffect.Entitles vc.note vc.currentUser)
      (t ++ .success (vc.note.priceDecimal.getD 0) ::
        (vc.updatePrice (vc.note.priceDecimal.getD 0)).effects) := by
    refine (h.access h0).append (Or.inl fun o ho => ?_)
    rcases List.mem_cons.mp ho with rfl | ho
    · simp [NoteEffect.IsAccess]
    · exact (updatePrice_effects_rest ho).2.2
  have hdownload := hbefore.append (r := [.download url])
    (Or.inr ⟨.success (vc.note.priceDecimal.getD 0), by simp, trivial⟩)
  simpa [success_effects] using hdownload

/-- The requests of a success are for the seller of the note, at its price, and for the users
document that the screen holds. -/
lemma success_asked (h : vc.Sound t) (h0 : 0 < vc.priceOfNote) (url : URL) (now : Timestamp)
    {q : NoteRequest} (hq : q ∈ (vc.success url now).requests) : vc.Asked owners q := by
  rw [success_requests, List.mem_append, List.mem_append, List.mem_singleton] at hq
  rcases hq with hq | hq | rfl
  · unfold updatePrice at hq
    split at hq
    case h_1 => simp at hq
    case h_2 userId hu =>
      obtain rfl := List.mem_singleton.mp hq
      exact ⟨hu, rfl, h.price ▸ h0⟩
  · unfold updateNoteDownload at hq
    split at hq
    case h_1 => simp at hq
    case h_2 user hu =>
      obtain rfl := List.mem_singleton.mp hq
      exact ⟨h.user user hu, rfl⟩
  · trivial

/-- A successful checkout sets the flag, and entitles to the download it starts.

**Proof sketch.** The first effect is the success, which is the last write to the flag and
comes before the download; the requests are for the seller of this note, at its price, and
for the users document the screen holds. -/
lemma success_keeps (h : vc.Sound t) (h0 : 0 < vc.priceOfNote) (url : URL) (now : Timestamp) :
    KeepsSound owners (vc.success url now) t := by
  have hs : (vc.success url now).client.static = vc.static := vc.success_static url now
  have hn := note_of_static hs
  have hc := currentUser_of_static hs
  have hpr := priceOfNote_of_static hs
  have hcl := vc.success_client url now
  have hpur : (vc.success url now).client.purchased = true := by rw [hcl]; rfl
  have hent : ∃ o ∈ t ++ (vc.success url now).effects,
      o.Entitles vc.note vc.currentUser :=
    ⟨.success (vc.note.priceDecimal.getD 0), by simp [success_effects], trivial⟩
  refine ⟨⟨?_, ?_, ?_, ?_, ?_, ?_, ?_, ?_⟩, ?_⟩
  · rw [hpr, hn, h.price]
  · rw [hc, hcl]; exact h.user
  · rw [hpr, hcl]; exact h.sheet
  · rw [hn, hc]; exact fun _ => success_access h h0 url now
  · rw [hpur, lastFlag_success]
  · rw [hn, hc]; exact fun _ => hent
  · rw [hn, hc]; exact fun _ _ => hent
  · intro o ho
    refine Records.of_static hs ?_
    rw [success_effects, List.mem_append, List.mem_cons, List.mem_append,
      List.mem_singleton] at ho
    rcases ho with ho | rfl | ho | rfl
    · exact h.records o ho
    · rfl
    · exact (updatePrice_effects_rest ho).2.1
    · trivial
  · exact fun q hq => (success_asked h h0 url now hq).of_static hs

/-- The completion of `purchased(note:)` writes the flag and the button; it may write `true`
only for someone who is entitled. -/
lemma complition_keeps (h : vc.Sound t) (condition : Bool)
    (hc : condition = true → ∃ o ∈ t, o.Entitles vc.note vc.currentUser) :
    KeepsSound owners (vc.complition condition) t := by
  have hs : (vc.complition condition).client.static = vc.static := vc.complition_static condition
  cases condition with
  | false =>
    refine ⟨⟨h.price, h.user, h.sheet, fun h0 => ?_, ?_, ?_, ?_, ?_⟩, by simp [complition]⟩
    · exact (h.access h0).append (Or.inl (by simp [complition, NoteEffect.IsAccess]))
    · simp [complition, lastFlag, NoteEffect.flag]
    · simp [complition]
    · simp [complition]
    · intro o ho
      refine Records.of_static hs ?_
      rcases List.mem_append.mp ho with ho | ho
      · exact h.records o ho
      · rw [List.mem_singleton.mp ho]; trivial
  | true =>
    obtain ⟨o, ho, he⟩ := hc rfl
    have hent : ∃ o ∈ t ++ (vc.complition true).effects, o.Entitles vc.note vc.currentUser :=
      ⟨o, List.mem_append_left _ ho, he⟩
    refine ⟨⟨h.price, h.user, h.sheet, fun h0 => ?_, ?_, fun _ => hent, fun _ _ => hent, ?_⟩,
      by simp [complition]⟩
    · exact (h.access h0).append (Or.inr (hc rfl))
    · have h₁ : (vc.complition true).effects.filterMap NoteEffect.flag = [true] := rfl
      have h₂ : lastFlag (t ++ (vc.complition true).effects) = true := by
        rw [lastFlag, List.filterMap_append, h₁]
        simp
      exact h₂.symm
    · intro o ho
      refine Records.of_static hs ?_
      rcases List.mem_append.mp ho with ho | ho
      · exact h.records o ho
      · simp only [complition, if_true, List.mem_cons, List.not_mem_nil, or_false] at ho
        rcases ho with rfl | rfl <;> trivial

/-- `purchased(note:)` issues its query, and writes `false` at once. -/
lemma purchasedNote_keeps (h : vc.Sound t) : KeepsSound owners vc.purchasedNote t := by
  unfold purchasedNote
  split
  case h_1 => exact ⟨h.still rfl rfl h.sheet rfl rfl, by simp⟩
  case h_2 user hu =>
    have h₁ : KeepsSound owners ⟨vc, [.purchased user vc.note.id], []⟩ t := by
      refine ⟨h.still rfl rfl h.sheet rfl rfl, fun q hq => ?_⟩
      obtain rfl := List.mem_singleton.mp hq
      exact ⟨h.user user hu, rfl⟩
    refine h₁.next ?_ fun q hq => Asked.of_static (vc.complition_static false) hq
    exact complition_keeps h₁.1 false (by simp)

/-- The answer to the query of `purchased(note:)` entitles the user if it has an entry. -/
lemma purchasedReturned_keeps (h : vc.Sound t) {user : UserDoc}
    {documents : List PurchasedNote} (hu : vc.currentUser = some user.uid)
    (hd : ∀ p ∈ documents, p.user = user.documentID ∧ p.note = vc.note.id) :
    KeepsSound owners (vc.purchasedReturned user documents) t := by
  have h₁ : KeepsSound owners ⟨vc, [], [.returned user documents]⟩ t := by
    refine ⟨h.quiet rfl h.user h.sheet rfl rfl ?_ ?_ ?_, by simp⟩
    · simp [NoteEffect.flag]
    · simp [Records]
    · exact fun _ => Or.inl (by simp [NoteEffect.IsAccess])
  unfold purchasedReturned
  refine h₁.next ?_ ?_
  · by_cases hlen : 0 < documents.length
    · rw [if_pos hlen]
      obtain ⟨p, hp⟩ := List.exists_mem_of_length_pos hlen
      refine complition_keeps h₁.1 true fun _ => ?_
      exact ⟨.returned user documents, by simp, hu, p, hp, hd p hp⟩
    · rw [if_neg hlen]
      exact ⟨h₁.1.still rfl rfl h.sheet rfl rfl, by simp⟩
  · intro q hq
    refine Asked.of_static ?_ hq
    split_ifs
    · exact vc.complition_static true
    · rfl

lemma updateReviewButton_keeps (h : vc.Sound t) :
    KeepsSound owners vc.updateReviewButton t := by
  unfold updateReviewButton
  split_ifs with h0
  · exact purchasedNote_keeps h
  · -- a free note: the invariant says nothing of access
    refine ⟨⟨h.price, h.user, h.sheet, fun h0' => absurd h0' h0, ?_, ?_,
      fun h0' => absurd h0' h0, ?_⟩, by simp⟩
    · simpa [lastFlag, NoteEffect.flag] using h.flag
    · intro hpur
      obtain ⟨o, ho, he⟩ := h.entitled hpur
      exact ⟨o, List.mem_append_left _ ho, he⟩
    · intro o ho
      rcases List.mem_append.mp ho with ho | ho
      · exact Records.of_static (show _ = vc.static from rfl) (h.records o ho)
      · rw [List.mem_singleton.mp ho]; trivial

lemma userReferenceFound_keeps (h : vc.Sound t) {documents : List UserDoc}
    (hd : ∀ d ∈ documents, vc.currentUser = some d.uid) :
    KeepsSound owners (vc.userReferenceFound documents) t := by
  unfold userReferenceFound
  apply updateReviewButton_keeps
  have hsound : Sound { vc with user := documents.head? } (t ++ []) :=
    h.quiet rfl (fun u hu => hd u (List.mem_of_mem_head? hu)) h.sheet rfl rfl (by simp)
      (by simp) fun _ => Or.inl (by simp)
  simpa using hsound

lemma updatePriceFound_keeps (h : vc.Sound t) {price : ℚ} {documents : List UserDoc}
    (hp : price = vc.note.priceDecimal.getD 0) (h0 : 0 < price)
    (hd : ∀ d ∈ documents, ∃ uid, vc.note.userId = some uid ∧ (d.documentID, uid) ∈ owners) :
    KeepsSound owners (vc.updatePriceFound price documents) t := by
  unfold updatePriceFound
  split
  case h_1 => exact ⟨h.still rfl rfl h.sheet rfl rfl, by simp⟩
  case h_2 user hu =>
    refine ⟨h.still rfl rfl h.sheet rfl rfl, fun q hq => ?_⟩
    obtain rfl := List.mem_singleton.mp hq
    exact ⟨hp, h0, hd user (List.mem_of_mem_head? hu)⟩

lemma failure_keeps (h : vc.Sound t) (e : String) : KeepsSound owners (vc.failure e) t := by
  refine ⟨h.still rfl rfl (fun url hu => ?_) rfl rfl, by simp [failure]⟩
  rcases present_purchase vc hu with hu | hu
  · exact h.sheet url hu
  · cases hu

/-- Every reaction to the user keeps the invariant. -/
lemma ui_keeps {urlOf : String → Option URL} {u : NoteTap} {r' : NoteReaction}
    (h : vc.Sound t) (hr : vc.ui urlOf u = some r') : KeepsSound owners r' t := by
  rcases ui_cases hr with rfl | ⟨url, hp, rfl⟩ | rfl | ⟨presented, dismissed, hno, rfl⟩
  · exact downloadButtonTouched_keeps h _
  · exact paymentAction_keeps h (h.sheet url hp) url
  · have hnone : Sound { vc with presented := none } (t ++ []) :=
      h.still rfl rfl (by simp) rfl rfl
    exact loadUserReference_keeps (by simpa using hnone)
  · exact ⟨h.still rfl rfl (fun url hu => absurd hu (hno url)) rfl rfl, by simp⟩

/-- Every callback keeps the invariant, given an answer to a request of this screen. -/
lemma recv_keeps {q : NoteRequest} {a : NoteAnswer} (now : Timestamp) (h : vc.Sound t)
    (hq : vc.Asked owners q) (ha : Answered owners q a) :
    KeepsSound owners (vc.recv q a now) t := by
  unfold recv
  split
  case h_1 uid documents =>
    exact userReferenceFound_keeps h fun d hd => by rw [ha d hd]; exact hq
  case h_2 user note documents =>
    exact purchasedReturned_keeps h hq.1 fun p hp => ⟨(ha p hp).1, (ha p hp).2.trans hq.2⟩
  case h_3 => exact complition_keeps h false (by simp)
  case h_4 amount url => exact success_keeps h hq url now
  case h_5 e => exact failure_keeps h e
  case h_6 uid price documents =>
    exact updatePriceFound_keeps h hq.2.1 hq.2.2 fun d hd => ⟨uid, hq.1, ha d hd⟩
  case h_7 url =>
    refine ⟨h.still rfl rfl (fun url hu => ?_) rfl rfl, by simp⟩
    rcases present_purchase vc hu with hu | hu
    · exact h.sheet url hu
    · cases hu
  case h_8 => exact userReferenceFound_keeps h (by simp)
  case h_9 => exact ⟨h.still rfl rfl h.sheet rfl rfl, by simp⟩

end DetailedNoteViewController

/-! ## The system -/

open DetailedNoteViewController

variable {owners : List (String × String)}

/-- The server answers within `Answered`. -/
lemma serve_answered {s : NoteServer} (hs : s.users.owners = owners) (q : NoteRequest)
    (e : Outcome) : Answered owners q (s.serve q e).answer := by
  cases e with
  | failure e => cases q <;> trivial
  | neither => cases q <;> trivial
  | success =>
    cases q with
    | loadUserReference uid => exact fun d hd => (UsersCollection.mem_withUid.mp hd).2
    | updatePrice uid price =>
      intro d hd
      obtain ⟨hmem, huid⟩ := UsersCollection.mem_withUid.mp hd
      rw [← hs, ← huid]
      exact UsersCollection.mem_owners hmem
    | purchased user note => exact fun p hp => by simpa using (List.mem_filter.mp hp).2
    | _ => trivial

/-- The effects of a request of a screen leave the screen sound. -/
lemma serve_keeps {s : NoteServer} (hs : s.users.owners = owners) {q : NoteRequest}
    {vc : DetailedNoteViewController} (hq : vc.Asked owners q) (e : Outcome)
    {t : List NoteEffect} (h : vc.Sound t) : vc.Sound (t ++ (s.serve q e).effects) := by
  have heff : ∀ o ∈ (s.serve q e).effects, o.flag = none ∧ vc.Records o ∧ ¬ o.IsAccess := by
    intro o ho
    rcases NoteServer.mem_serve_effects ho with
      ⟨document, earned, price, d, rfl, -, hd, rfl⟩ | ⟨user, note, purchaseDate, rfl, -, rfl⟩
    · obtain ⟨hprice, -, uid, hu, hid⟩ := hq
      have huid : d.uid = uid := UsersCollection.uid_of_document hd (hs ▸ hid)
      exact ⟨rfl, ⟨by rw [huid]; exact hu, hprice⟩, by simp [NoteEffect.IsAccess]⟩
    · exact ⟨rfl, ⟨hq.1, rfl, hq.2⟩, by simp [NoteEffect.IsAccess]⟩
  exact h.quiet rfl h.user h.sheet rfl rfl (fun o ho => (heff o ho).1)
    (fun o ho => (heff o ho).2.1) fun _ => Or.inl fun o ho => (heff o ho).2.2

/-- The screens satisfy the conditions of the client rule; none of their requests is
exclusive. -/
lemma noteSystem_rules (urlOf : String → Option URL) (owners : List (String × String)) :
    ClientRules (noteSystem urlOf) (fun _ => False) (fun s => s.users.owners = owners)
      (fun _ => Sound) (Asked owners) (fun _ => Answered owners) where
  boot := fun _ a _ => viewDidLoad_keeps a.1 a.2
  ui := fun _ _ _ _ _ _ h hr => ⟨ui_keeps h hr, fun _ => Asked.of_static (ui_static _ hr)⟩
  serve := fun s q e _ hs hq =>
    ⟨(s.serve_owners q e).trans hs, serve_answered hs q e, fun _ => serve_keeps hs hq e⟩
  others := fun _ _ _ _ _ _ => ⟨fun _ _ h => h, fun _ _ h => h⟩
  recv := fun _ c _ q a now _ h hq ha =>
    ⟨recv_keeps now h hq ha, fun _ hq' _ => Asked.of_static (c.recv_static q a now) hq'⟩

/-- **Every screen is sound** in every state of every run, its requests in flight are
requests it makes, and their answers are ones the server gives. -/
theorem noteSystem_sound {urlOf : String → Option URL} {s : NoteServer}
    {h : List (NoteWorld × NoteEvent)} {w : NoteWorld} (hr : (noteSystem urlOf).RunFrom s h w) :
    ClientInv (fun s' => s'.users.owners = s.users.owners) (fun _ => Sound)
      (Asked s.users.owners) (fun _ => Answered s.users.owners) w :=
  client_invariant exclusiveRules_false (noteSystem_rules urlOf s.users.owners) rfl hr

end Aoun
