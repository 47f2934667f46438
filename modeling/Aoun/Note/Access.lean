import Aoun.Note.Invariant

/-!
# Access to a note, and paying for it twice

A note that has a price is downloaded, and its reviews are opened, only by someone who has
paid. The converse, that someone who has paid is not asked to pay again, depends on the flag
`purchased`: `purchased(note:)` writes `false` to it whenever it is called and whenever its
query fails, so that a tap made before the answer to the query starts another checkout.

## Main definitions

* `Aoun.Entitled` — the user of a screen has paid for its note.
* `Aoun.StartsCheckout` — a tap on the download button leads to a checkout.

## Main results

* `Aoun.no_unpaid_access` — access comes after a payment or an entry found.
* `Aoun.startsCheckout_iff` — what a tap on the download button depends on.
* `Aoun.no_second_checkout_iff` — no tap of someone entitled starts a checkout exactly when
  every such tap finds that `true` was last written to the flag.
-/

set_option relaxedAutoImplicit false
set_option autoImplicit false

namespace Aoun

open AsyncSystem AsyncSystem.World StepSystem DetailedNoteViewController

variable {urlOf : String → Option URL} {s : NoteServer} {h : List (NoteWorld × NoteEvent)}
  {w : NoteWorld}

/-! ## Access -/

/-- **No unpaid access.** On the screen of a note that has a price, in every run, a download
comes only after, and the add-review button is made visible only after, a checkout on this
screen succeeded or a query returned an entry for this note under the user's document. -/
theorem no_unpaid_access (hr : (noteSystem urlOf).RunFrom s h w) {i : ℕ}
    {vc : DetailedNoteViewController} (hi : w.clients i = some vc)
    (h0 : 0 < vc.note.priceDecimal.getD 0) :
    Preceded NoteEffect.IsAccess (NoteEffect.Entitles vc.note vc.currentUser) (w.effectsOf i) ∧
      (vc.addReviewHidden = false →
        ∃ o ∈ w.effectsOf i, o.Entitles vc.note vc.currentUser) := by
  have hs : vc.Sound (w.effectsOf i) := (noteSystem_sound hr).client i vc hi
  have hp : 0 < vc.priceOfNote := hs.price ▸ h0
  exact ⟨hs.access hp, hs.review hp⟩

/-- Alice opens the screen, finds no entry, pays, and the download starts. -/
theorem no_unpaid_access_alice : ∃ h w vc, (noteSystem some).RunFrom noteShop h w ∧
    w.clients 0 = some vc ∧ .download "u" ∈ w.effectsOf 0 ∧
    Preceded NoteEffect.IsAccess (NoteEffect.Entitles vc.note vc.currentUser) (w.effectsOf 0) := by
  have he : (exec (noteSystem some).step (start noteShop)
      [.boot 0 (noteOnSale, some "alice"), .serve 0 .success, .deliver 0 0,
        .serve 0 .success, .deliver 0 0, .ui 0 .downloadButtonTouched, .ui 0 .purchase,
        .serve 0 .success, .deliver 0 7]).map
      (fun w => ((w.clients 0).map (·.note), w.effectsOf 0)) =
      some (some noteOnSale, [.complition false, .returned ⟨"a", "alice", none, none, none⟩ [],
        .triggerPurchase, .startCheckout 15, .success 15, .updatePrice "seller" 15,
        .download "u"]) := by decide +kernel
  obtain ⟨h, w, hr, -, hw⟩ := run_of_observed he
  obtain ⟨hn, ht⟩ := Prod.mk.inj hw
  obtain ⟨vc, hvc, hnote⟩ := Option.map_eq_some_iff.mp hn
  have h0 : 0 < vc.note.priceDecimal.getD 0 := by rw [hnote]; decide +kernel
  exact ⟨h, w, vc, hr, hvc, by rw [ht]; simp, (no_unpaid_access hr hvc h0).1⟩

/-! ## Paying twice -/

/-- The user of the screen `vc`, of client `i`, has paid for its note: there is an entry for it
under the user's document, or a checkout has succeeded on this screen. -/
def Entitled (w : NoteWorld) (i : ℕ) (vc : DetailedNoteViewController) : Prop :=
  (∃ u ∈ w.server.users.docs, vc.currentUser = some u.uid ∧
    ∃ p ∈ w.server.purchasedNotes, p.user = u.documentID ∧ p.note = vc.note.id) ∨
  ∃ price, .success price ∈ w.effectsOf i

/-- A tap of client `i` on the download button starts a checkout: it is possible, and after
whatever happens next without this user acting, a tap on "Purchase" calls `startCheckout`. -/
def StartsCheckout (urlOf : String → Option URL) (w : NoteWorld) (i : ℕ) : Prop :=
  ∃ w₁ h w₂ w₃ amount, (noteSystem urlOf).step w (.ui i .downloadButtonTouched) = some w₁ ∧
    Run (noteSystem urlOf).step w₁ h w₂ ∧ EveryStep (fun _ e => ∀ u, e ≠ .ui i u) h ∧
    (noteSystem urlOf).step w₂ (.ui i .purchase) = some w₃ ∧
    w₃.effectsOf i = w₂.effectsOf i ++ [.startCheckout amount]

/-- The sheet that sells the note is not on the screen of client `i`. -/
def NoSheet (i : ℕ) (w : NoteWorld) : Prop :=
  ∃ vc, w.clients i = some vc ∧ ∀ url, vc.presented ≠ some (.purchase url)

/-- Unless its user acts, the sheet that sells the note does not come up on a screen. -/
lemma noSheet_step {i : ℕ} {w w' : NoteWorld} {e : NoteEvent} (hw : NoSheet i w)
    (he : ∀ u, e ≠ .ui i u) (hs : (noteSystem urlOf).step w e = some w') : NoSheet i w' := by
  obtain ⟨vc, hvc, hno⟩ := hw
  cases took_of_step hs with
  | @boot j a free =>
    have hij : i ≠ j := by rintro rfl; rw [hvc] at free; cases free
    exact ⟨vc, by simpa [hij] using hvc, hno⟩
  | @ui j u c r client reacts =>
    have hij : i ≠ j := by rintro rfl; exact he u rfl
    exact ⟨vc, by simpa [hij] using hvc, hno⟩
  | serve flight unanswered => exact ⟨vc, hvc, hno⟩
  | @deliver k x f a c flight answered client =>
    by_cases hij : i = f.owner
    · subst hij
      obtain rfl : vc = c := by rw [hvc] at client; exact Option.some.inj client
      exact ⟨_, react_clients_self .., fun url h => hno url (recv_purchase vc h)⟩
    · exact ⟨vc, by simpa [hij] using hvc, hno⟩

/-- **What a tap on the download button depends on.** It starts a checkout exactly when the
button takes touches, the note has a URL and a price, and the flag is not set.

**Proof sketch.** The sheet that sells the note comes up by this tap or not at all, since
only its user can bring it up; and "Purchase" can be tapped only on this sheet. -/
theorem startsCheckout_iff {i : ℕ} {vc : DetailedNoteViewController}
    (hi : w.clients i = some vc) : StartsCheckout urlOf w i ↔
      vc.Tappable ∧ (urlOf vc.note.urlString).isSome ∧ 0 < vc.priceOfNote ∧
        vc.purchased = false := by
  constructor
  · rintro ⟨w₁, h, w₂, w₃, amount, htap, hrun, hothers, hpur, -⟩
    cases took_of_step htap with
    | @ui _ _ c r client reacts =>
      obtain rfl : vc = c := by rw [hi] at client; exact Option.some.inj client
      obtain ⟨htappable, hr⟩ : vc.Tappable ∧
          vc.downloadButtonTouched (urlOf vc.note.urlString) = r := by
        simpa [noteSystem, DetailedNoteViewController.ui] using reacts
      refine ⟨htappable, ?_⟩
      by_contra hcond
      -- the tap does not bring up the sheet, so it is not there for the tap on "Purchase"
      have hno : NoSheet i (w.react i w.next r).tick := by
        refine ⟨r.client, by simp, fun url hsheet => hcond ?_⟩
        rw [← hr, downloadButtonTouched_purchase vc htappable.2.1] at hsheet
        exact ⟨by simp [hsheet.1], hsheet.2⟩
      obtain ⟨vc₂, hvc₂, hno₂⟩ := hrun.invariant_of_everyStep hno
        (fun _ _ _ hw he hs => noSheet_step hw he hs) hothers
      cases took_of_step hpur with
      | @ui _ _ c₂ r₂ client₂ reacts₂ =>
        obtain rfl : vc₂ = c₂ := by rw [hvc₂] at client₂; exact Option.some.inj client₂
        simp only [noteSystem, DetailedNoteViewController.ui] at reacts₂
        cases reacts₂
  · rintro ⟨htappable, hurl, h0, hpur⟩
    obtain ⟨url, hurl⟩ := Option.isSome_iff_exists.mp hurl
    have hsheet : (vc.downloadButtonTouched (urlOf vc.note.urlString)).client.presented =
        some (.purchase url) :=
      (downloadButtonTouched_purchase vc htappable.2.1).mpr ⟨hurl, h0, hpur⟩
    have htap : (noteSystem urlOf).ui vc .downloadButtonTouched =
        some (vc.downloadButtonTouched (urlOf vc.note.urlString)) := by
      simp [noteSystem, DetailedNoteViewController.ui, htappable]
    have hbuy : (noteSystem urlOf).ui (vc.downloadButtonTouched (urlOf vc.note.urlString)).client
        .purchase = some ({ (vc.downloadButtonTouched (urlOf vc.note.urlString)).client with
          presented := none }.paymentAction url) := by
      simp [noteSystem, DetailedNoteViewController.ui, hsheet]
    refine ⟨_, [], _, _, (vc.downloadButtonTouched (urlOf vc.note.urlString)).client.priceOfNote,
      step_ui hi htap, .nil, by simp, step_ui (by simp) hbuy, ?_⟩
    simp [paymentAction, paymentAmount]

/-- A tap on the download button by someone who has paid starts no checkout. -/
def NoSecondCheckout (urlOf : String → Option URL) (w : NoteWorld) (e : NoteEvent) : Prop :=
  ∀ i vc, e = .ui i .downloadButtonTouched → w.clients i = some vc → Entitled w i vc →
    ¬ StartsCheckout urlOf w i

/-- A tap on the download button by someone who has paid, for a note with a URL and a price,
finds that `true` was last written to the flag: the last of the screen's successful checkouts,
calls of `purchased(note:)`, failures of its query and entries found by it was a checkout or
an entry. -/
def TapFindsFlag (urlOf : String → Option URL) (w : NoteWorld) (e : NoteEvent) : Prop :=
  ∀ i vc, e = .ui i .downloadButtonTouched → w.clients i = some vc → Entitled w i vc →
    (urlOf vc.note.urlString).isSome → 0 < vc.priceOfNote → lastFlag (w.effectsOf i) = true

/-- **When nobody pays twice.** In a run no tap by someone who has paid starts a checkout if
and only if every such tap finds that `true` was last written to the flag.

**Proof sketch.** The flag is what was last written to it (`noteSystem_sound`), and the tap
depends on the flag as `startsCheckout_iff` says. -/
theorem no_second_checkout_iff (hr : (noteSystem urlOf).RunFrom s h w) :
    EveryStep (NoSecondCheckout urlOf) h ↔ EveryStep (TapFindsFlag urlOf) h := by
  refine forall_congr' fun p => forall_congr' fun hp => ?_
  obtain ⟨h', hr', w', hs⟩ := hr.reached hp
  have hflag : ∀ i vc, p.1.clients i = some vc → vc.purchased = lastFlag (p.1.effectsOf i) :=
    fun i vc hi => ((noteSystem_sound hr').client i vc hi).flag
  constructor
  · intro hno i vc he hi hent hurl h0
    by_contra hlast
    rw [he] at hs
    have htappable : vc.Tappable := by
      cases took_of_step hs with
      | @ui _ _ c r client reacts =>
        obtain rfl : vc = c := by rw [hi] at client; exact Option.some.inj client
        by_contra hnt
        simp [noteSystem, DetailedNoteViewController.ui, hnt] at reacts
    refine hno i vc he hi hent ((startsCheckout_iff hi).mpr ⟨htappable, hurl, h0, ?_⟩)
    rw [hflag i vc hi]
    simpa using hlast
  · intro hfind i vc he hi hent hstarts
    obtain ⟨-, hurl, h0, hpur⟩ := (startsCheckout_iff hi).mp hstarts
    have hlast := hfind i vc he hi hent hurl h0
    rw [← hflag i vc hi, hpur] at hlast
    cases hlast

/-- Alice pays, taps the download button again, and is not asked to pay. -/
theorem no_second_checkout_alice : ∃ h w, (noteSystem some).RunFrom noteShop h w ∧
    .success 15 ∈ w.effectsOf 0 ∧
    (EveryStep (NoSecondCheckout some) h ↔ EveryStep (TapFindsFlag some) h) := by
  have he : (exec (noteSystem some).step (start noteShop)
      [.boot 0 (noteOnSale, some "alice"), .ui 0 .downloadButtonTouched, .ui 0 .purchase,
        .serve 1 .success, .deliver 1 7, .ui 0 .downloadButtonTouched]).map
      (fun w => w.effectsOf 0) =
      some [.triggerPurchase, .startCheckout 15, .success 15, .updatePrice "seller" 15,
        .download "u", .download "u"] := by decide +kernel
  obtain ⟨h, w, hr, -, hw⟩ := run_of_observed he
  exact ⟨h, w, hr, by rw [hw]; simp, no_second_checkout_iff hr⟩

/-- Alice has an entry for the note. She opens its screen and taps the download button before
the users query is answered: she is asked to pay. -/
theorem second_checkout : ∃ s h w, (noteSystem some).RunFrom s h w ∧
    ¬ EveryStep (NoSecondCheckout some) h := by
  let s : NoteServer := { noteShop with purchasedNotes := [⟨"a", "n", 0⟩] }
  have he : (exec (noteSystem some).step (start s) [.boot 0 (noteOnSale, some "alice")]).map
      (fun w => (w.server.purchasedNotes, w.server.users.docs, w.clients 0)) =
      some ([⟨"a", "n", 0⟩], noteShop.users.docs,
        some (viewDidLoad noteOnSale (some "alice")).client) := by decide +kernel
  obtain ⟨h, w, hr, -, hw⟩ := run_of_observed he
  obtain ⟨hp, hd, hi⟩ : w.server.purchasedNotes = [⟨"a", "n", 0⟩] ∧
      w.server.users.docs = noteShop.users.docs ∧
      w.clients 0 = some (viewDidLoad noteOnSale (some "alice")).client := by simpa using hw
  have hstarts : StartsCheckout some w 0 := (startsCheckout_iff hi).mpr (by decide +kernel)
  have hent : Entitled w 0 (viewDidLoad noteOnSale (some "alice")).client := by
    left
    rw [hp, hd]
    exact ⟨⟨"a", "alice", none, none, none⟩, by decide +kernel, by decide +kernel,
      ⟨"a", "n", 0⟩, by decide +kernel, by decide +kernel⟩
  have htap : ∃ w₁, (noteSystem some).step w (.ui 0 .downloadButtonTouched) = some w₁ := by
    obtain ⟨w₁, -, -, -, -, htap, -⟩ := hstarts
    exact ⟨w₁, htap⟩
  obtain ⟨w₁, htap⟩ := htap
  refine ⟨s, _, w₁, hr.snoc htap, fun hno => ?_⟩
  exact ((everyStep_snoc _ _ _ _).mp hno).2 0 _ rfl hi hent hstarts

end Aoun
