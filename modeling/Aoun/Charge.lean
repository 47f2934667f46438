import Aoun.Note.Invariant
import Aoun.Workshop.Screen

/-!
# What is shown and what is charged

The confirmation sheets of both screens show the price in SAR with its conversion to USD,
rounded to cents. The checkout that the note's screen starts is for the price itself, as if it
were in USD; the one that the workshop's screen starts is for the converted amount, before it
is rounded.

## Main definitions

* `Aoun.WorkshopDetailsVC.Priced` — the sheet is for the cost of its seats.

## Main results

* `Aoun.note_charge_eq`, `Aoun.workshop_charge_eq` — what the checkouts are for.
* `Aoun.workshop_charge_shown_iff` — when the workshop's screen charges what it shows.
* `Aoun.charges_not_shown` — the two screens never both charge what they show.
-/

set_option relaxedAutoImplicit false
set_option autoImplicit false

namespace Aoun

open AsyncSystem AsyncSystem.World StepSystem

namespace WorkshopDetailsVC

/-- The purchase view has the price of the workshop, and a sheet shows the cost of its seats. -/
structure Priced (vc : WorkshopDetailsVC) : Prop where
  view : vc.purchaseTicketView.ticketsPrice = vc.ticketPrice
  sheet : ∀ tickets cost, vc.presented = some (.purchase tickets cost) →
    cost = tickets * vc.ticketPrice

variable {vc vc' : WorkshopDetailsVC}

/-- A screen stays priced if it keeps its workshop and price, and has no other sheet. -/
lemma Priced.still (h : vc.Priced) (hw : vc'.workshop = vc.workshop)
    (hv : vc'.purchaseTicketView.ticketsPrice = vc.purchaseTicketView.ticketsPrice)
    (hp : ∀ tickets cost, vc'.presented = some (.purchase tickets cost) →
      vc.presented = some (.purchase tickets cost)) : vc'.Priced := by
  have hprice : vc'.ticketPrice = vc.ticketPrice := by unfold ticketPrice; rw [hw]
  refine ⟨?_, fun tickets cost hsheet => ?_⟩
  · rw [hv, hprice]; exact h.view
  · rw [hprice]; exact h.sheet tickets cost (hp tickets cost hsheet)

lemma viewDidLoad_priced (workshop : Workshops) (thisUser : Option User)
    (currentUser : Option String) : (viewDidLoad workshop thisUser currentUser).client.Priced := by
  cases thisUser with
  | none => exact ⟨rfl, fun _ _ h => by cases h⟩
  | some thisUser => cases currentUser <;> exact ⟨rfl, fun _ _ h => by cases h⟩

/-- A touch keeps the sheet priced; the sheet comes up for the cost that the view shows. -/
lemma ui_priced (h : vc.Priced) {u : WorkshopTap} {r : WorkshopReaction}
    (hr : vc.ui u = some r) : r.client.Priced := by
  rcases ui_cases hr with ⟨_, _, -, rfl⟩ | ⟨-, rfl⟩ | ⟨view, presented, _, hview, hp, rfl⟩
  · exact h.still rfl rfl fun _ _ hsheet => by cases hsheet
  · refine ⟨h.view, fun tickets cost hsheet => ?_⟩
    rcases present_purchase hsheet with hsheet | hsheet
    · exact h.sheet tickets cost hsheet
    · obtain ⟨rfl, rfl⟩ := WorkshopPresented.purchase.inj hsheet
      rw [PurchaseTicketView.cumulativeCost, h.view]
      rfl
  · exact h.still rfl hview.ticketsPrice_eq fun tickets cost hsheet =>
      (hp tickets cost hsheet) ▸ hsheet

/-- A callback keeps the sheet priced; a reload reads the price of the workshop again. -/
lemma recv_priced (h : vc.Priced) (uppercased : String → String) (q : WorkshopRequest)
    (a : WorkshopAnswer) (now : Timestamp) : (vc.recv uppercased q a now).client.Priced := by
  refine h.still (recv_workshop vc q a now) ?_ fun _ _ hsheet => recv_sheet hsheet
  rcases vc.recv_view uppercased q a now with hview | ⟨allowed, hview⟩
  · rw [hview]
  · rw [hview]
    exact h.view.symm

end WorkshopDetailsVC

/-! ## What the checkouts are for -/

open WorkshopDetailsVC

section

variable {urlOf : String → Option URL} {catalog : String → Workshops}
  {uppercased : String → String}

/-- In every state of every run the sheet of a workshop's screen is for the cost of its seats. -/
theorem workshopSystem_priced {s : WorkshopServer} {h : List (WorkshopWorld × WorkshopEvent)}
    {w : WorkshopWorld} (hr : (workshopSystem catalog uppercased).RunFrom s h w) {i : ℕ}
    {vc : WorkshopDetailsVC} (hi : w.clients i = some vc) : vc.Priced := by
  have hrules : ClientRules (workshopSystem catalog uppercased) (fun _ => False) (fun _ => True)
      (fun _ vc _ => vc.Priced) (fun _ _ => True) (fun _ _ _ => True) := by
    refine ⟨?_, ?_, ?_, ?_, ?_⟩
    · exact fun _ _ _ => ⟨viewDidLoad_priced .., fun _ _ => trivial⟩
    · exact fun _ _ _ _ _ _ h hr => ⟨⟨ui_priced h hr, fun _ _ => trivial⟩, fun _ _ => trivial⟩
    · exact fun _ _ _ _ _ _ => ⟨trivial, trivial, fun _ h => h⟩
    · exact fun _ _ _ _ _ _ => ⟨fun _ _ h => h, fun _ _ h => h⟩
    · exact fun _ _ _ q a now _ h _ _ =>
        ⟨⟨recv_priced h uppercased q a now, fun _ _ => trivial⟩, fun _ _ _ => trivial⟩
  exact (client_invariant exclusiveRules_false hrules trivial hr).client i vc hi

/-- The checkout of a note is for its price in SAR, as if it were in USD. -/
theorem note_charge_eq {s : NoteServer} {h : List (NoteWorld × NoteEvent)} {w : NoteWorld}
    (hr : (noteSystem urlOf).RunFrom s h w) {i : ℕ} {vc : DetailedNoteViewController}
    (hi : w.clients i = some vc) {r : NoteReaction} (hpurchase : vc.ui urlOf .purchase = some r)
    {amount : ℚ} (hamount : .startCheckout amount ∈ r.effects) :
    amount = vc.note.priceDecimal.getD 0 := by
  have hprice := ((noteSystem_sound hr).client i vc hi).price
  simp only [DetailedNoteViewController.ui] at hpurchase
  split at hpurchase
  case h_1 =>
    rw [← Option.some.inj hpurchase] at hamount
    obtain rfl := NoteEffect.startCheckout.inj (List.mem_singleton.mp hamount)
    exact hprice
  case h_2 => cases hpurchase

/-- The checkout of a workshop's seats is for their cost, converted but not rounded. -/
theorem workshop_charge_eq {s : WorkshopServer} {h : List (WorkshopWorld × WorkshopEvent)}
    {w : WorkshopWorld} (hr : (workshopSystem catalog uppercased).RunFrom s h w) {i : ℕ}
    {vc : WorkshopDetailsVC} (hi : w.clients i = some vc) {tickets : ℤ} {cost : ℚ}
    (hsheet : vc.presented = some (.purchase tickets cost)) {r : WorkshopReaction}
    (hpurchase : vc.ui .purchase = some r) {amount : ℚ}
    (hamount : .startCheckout amount ∈ r.effects) :
    cost = tickets * vc.workshop.priceDecimal.getD 0 ∧ amount = PriceUtils.usd cost := by
  refine ⟨(workshopSystem_priced hr hi).sheet tickets cost hsheet, ?_⟩
  simp only [WorkshopDetailsVC.ui] at hpurchase
  split at hpurchase
  case h_1 ht hp =>
    rw [← Option.some.inj hpurchase] at hamount
    rw [hsheet] at hp
    obtain ⟨rfl, rfl⟩ := WorkshopPresented.purchase.inj (Option.some.inj hp)
    exact WorkshopEffect.startCheckout.inj (List.mem_singleton.mp hamount)
  case h_2 => cases hpurchase

/-- The workshop's screen charges what it shows exactly when the converted cost is a whole
number of cents. -/
theorem workshop_charge_shown_iff {s : WorkshopServer}
    {h : List (WorkshopWorld × WorkshopEvent)} {w : WorkshopWorld}
    (hr : (workshopSystem catalog uppercased).RunFrom s h w) {i : ℕ} {vc : WorkshopDetailsVC}
    (hi : w.clients i = some vc) {tickets : ℤ} {cost : ℚ}
    (hsheet : vc.presented = some (.purchase tickets cost)) {r : WorkshopReaction}
    (hpurchase : vc.ui .purchase = some r) {amount : ℚ}
    (hamount : .startCheckout amount ∈ r.effects) :
    PriceUtils.usdFigure cost = amount ↔ ∃ k : ℤ, cost = k * (3 / 80) := by
  rw [(workshop_charge_eq hr hi hsheet hpurchase hamount).2, PriceUtils.usdFigure_eq_usd_iff]

/-- The checkouts for `amount` of a note's screen and for `amount'` of a workshop's are for the
same amount, which is the figure that the two sheets show, the second one for `cost`. -/
def ChargedAsShown (note : NoteFile) (cost amount amount' : ℚ) : Prop :=
  amount = amount' ∧ note.usdFigure = some amount ∧ PriceUtils.usdFigure cost = amount'

/-- **The charges are not what is shown.** A note and seats that cost the same in SAR are never
both charged what is shown: the note's screen charges 3.75 times the amount the workshop's
does.

**Proof sketch.** The one checkout is for the price, the other for the price divided by 3.75,
and a price is positive. -/
theorem charges_not_shown {s : NoteServer} {h : List (NoteWorld × NoteEvent)} {w : NoteWorld}
    (hr : (noteSystem urlOf).RunFrom s h w) {i : ℕ} {vc : DetailedNoteViewController}
    (hi : w.clients i = some vc) {sar : ℚ} (hprice : vc.note.priceDecimal = some sar)
    {r : NoteReaction} (hpurchase : vc.ui urlOf .purchase = some r) {amount : ℚ}
    (hamount : .startCheckout amount ∈ r.effects) {s' : WorkshopServer}
    {h' : List (WorkshopWorld × WorkshopEvent)} {w' : WorkshopWorld}
    (hr' : (workshopSystem catalog uppercased).RunFrom s' h' w') {j : ℕ}
    {vc' : WorkshopDetailsVC} (hj : w'.clients j = some vc') {tickets : ℤ} {cost : ℚ}
    (hsheet : vc'.presented = some (.purchase tickets cost))
    (hcost : tickets * vc'.workshop.priceDecimal.getD 0 = sar) {r' : WorkshopReaction}
    (hpurchase' : vc'.ui .purchase = some r') {amount' : ℚ}
    (hamount' : .startCheckout amount' ∈ r'.effects) :
    ¬ ChargedAsShown vc.note cost amount amount' := by
  rintro ⟨heq, -, -⟩
  have hpos : 0 < sar := NoteFile.priceDecimal_pos hprice
  have hnote : amount = sar := by
    rw [note_charge_eq hr hi hpurchase hamount, hprice]
    rfl
  obtain ⟨hc, hw⟩ := workshop_charge_eq hr' hj hsheet hpurchase' hamount'
  have husd : amount' = sar / (15 / 4) := by
    rw [hw, hc, hcost]
    rfl
  rw [hnote, husd] at heq
  linarith

end

/-- What a tap on "Purchase" on Alice's screen charges for a note, and what the sheet shows. -/
lemma note_purchase_alice : ∃ h w vc r, (noteSystem some).RunFrom noteShop h w ∧
    w.clients 0 = some vc ∧ vc.note.priceDecimal = some 15 ∧ vc.note.usdFigure = some 4 ∧
    vc.ui some .purchase = some r ∧ r.effects = [.startCheckout 15] := by
  have he : (exec (noteSystem some).step (start noteShop)
      [.boot 0 (noteOnSale, some "alice"), .ui 0 .downloadButtonTouched]).map
      (fun w => (w.clients 0).bind fun vc => (vc.ui some .purchase).map fun r =>
        (vc.note.priceDecimal, vc.note.usdFigure, r.effects)) =
      some (some (some 15, some 4, [.startCheckout 15])) := by decide +kernel
  obtain ⟨h, w, hr, -, hw⟩ := run_of_observed he
  obtain ⟨vc, hi, hvc⟩ := Option.bind_eq_some_iff.mp hw
  obtain ⟨r, hpurchase, hr'⟩ := Option.map_eq_some_iff.mp hvc
  simp only [Prod.mk.injEq] at hr'
  exact ⟨h, w, vc, r, hr, hi, hr'.1, hr'.2.1, hpurchase, hr'.2.2⟩

/-- What a tap on "Purchase" on Alice's screen charges for a seat that costs the same, and
what the sheet shows. -/
lemma workshop_purchase_alice : ∃ h w vc r,
    (workshopSystem (fun _ => workshopOnSale) id).RunFrom workshopShop h w ∧
    w.clients 0 = some vc ∧ vc.presented = some (.purchase 1 15) ∧
    vc.workshop.priceDecimal = some 15 ∧ PriceUtils.usdFigure 15 = 4 ∧
    vc.ui .purchase = some r ∧ r.effects = [.startCheckout 4] := by
  have he : (exec (workshopSystem (fun _ => workshopOnSale) id).step (start workshopShop)
      (opening ++ [.ui 0 .bookSeat, .ui 0 .buyButtonTouched])).map
      (fun w => (w.clients 0).bind fun vc => (vc.ui .purchase).map fun r =>
        (vc.presented, vc.workshop.priceDecimal, r.effects)) =
      some (some (some (.purchase 1 15), some 15, [.startCheckout 4])) := by decide +kernel
  obtain ⟨h, w, hr, -, hw⟩ := run_of_observed he
  obtain ⟨vc, hi, hvc⟩ := Option.bind_eq_some_iff.mp hw
  obtain ⟨r, hpurchase, hr'⟩ := Option.map_eq_some_iff.mp hvc
  simp only [Prod.mk.injEq] at hr'
  exact ⟨h, w, vc, r, hr, hi, hr'.1, hr'.2.1, by decide +kernel, hpurchase, hr'.2.2⟩

/-- Alice's two checkouts, for a note and for a seat that both cost 15 SAR, are not both for
what is shown. -/
theorem charges_not_shown_alice : ∃ vc : DetailedNoteViewController,
    vc.note.priceDecimal = some 15 ∧ ¬ ChargedAsShown vc.note 15 15 4 := by
  obtain ⟨h, w, vc, r, hr, hi, hprice, -, hpurchase, heff⟩ := note_purchase_alice
  obtain ⟨h', w', vc', r', hr', hj, hsheet, hprice', -, hpurchase', heff'⟩ :=
    workshop_purchase_alice
  refine ⟨vc, hprice, charges_not_shown hr hi hprice hpurchase (by simp [heff]) hr' hj hsheet ?_
    hpurchase' (by simp [heff'])⟩
  rw [hprice']
  simp

/-- For a note and for a seat that both cost 15 SAR, the sheets show 4.00 USD; the one checkout
is for 15 USD, the other for 4. -/
theorem overcharged_note : ∃ h w vc r h' w' vc' r',
    (noteSystem some).RunFrom noteShop h w ∧ w.clients 0 = some vc ∧
    vc.note.priceDecimal = some 15 ∧ vc.ui some .purchase = some r ∧
    r.effects = [.startCheckout 15] ∧
    (workshopSystem (fun _ => workshopOnSale) id).RunFrom workshopShop h' w' ∧
    w'.clients 0 = some vc' ∧ vc'.presented = some (.purchase 1 15) ∧
    vc'.ui .purchase = some r' ∧ r'.effects = [.startCheckout 4] ∧
    ¬ ChargedAsShown vc.note 15 15 4 := by
  obtain ⟨h, w, vc, r, hr, hi, hprice, hfigure, hpurchase, heff⟩ := note_purchase_alice
  obtain ⟨h', w', vc', r', hr', hj, hsheet, -, -, hpurchase', heff'⟩ := workshop_purchase_alice
  refine ⟨h, w, vc, r, h', w', vc', r', hr, hi, hprice, hpurchase, heff, hr', hj, hsheet,
    hpurchase', heff', fun hshown => ?_⟩
  have hnote := hshown.2.1
  rw [hfigure] at hnote
  exact absurd (Option.some.inj hnote) (by decide +kernel)

end Aoun
