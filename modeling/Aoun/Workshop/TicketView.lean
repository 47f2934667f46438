import Mathlib.Data.Int.Log
import Aoun.Workshop.BookingId
import Aoun.Workshop.PurchaseView

/-!
# The price on a ticket

A purchase of seats is charged in USD, and the ticket stores the amount charged. `TicketView`
shows it as SAR: in `Double(ticket.price) ?? 1 * 3.75` the operator `??` binds less tightly than
`*`, so that the conversion belongs to the value for a text that is not a number, and is never
made. The ticket shows the amount in USD, cut to a whole number, as SAR.

## Main definitions

* `Aoun.double` — `Double(_:)`, on the amounts there are here.
* `Aoun.TicketView.lblPrice` — the figure of the label `lblPrice`.

## Main results

* `Aoun.stored_ticket_price` — what a stored ticket says was paid.
* `Aoun.ticket_price_never_shown` — no ticket shows what its seats cost in SAR.
-/

set_option relaxedAutoImplicit false
set_option autoImplicit false

namespace Aoun

open AsyncSystem AsyncSystem.World StepSystem

/-! ## Floating point -/

/-- The nearest integer, ties to even. -/
def nearestInt (t : ℚ) : ℤ :=
  if 1 < 2 * (t - ⌊t⌋) ∨ (2 * (t - ⌊t⌋) = 1 ∧ ⌊t⌋ % 2 = 1) then ⌊t⌋ + 1 else ⌊t⌋

/-- The distance of the numbers with 53 significant bits around a positive amount. -/
def ulp (d : ℚ) : ℚ := 2 ^ (Int.log 2 d - 52)

/-- `Double(_:)` of the text of a positive amount: the nearest number with 53 significant bits.
Amounts of money are far from the largest and the smallest exponents. -/
def double (d : ℚ) : ℚ := nearestInt (d / ulp d) * ulp d

/-- `Int(_:)`, which cuts the fraction. -/
def truncated (d : ℚ) : ℤ := if 0 ≤ d then ⌊d⌋ else ⌈d⌉

/-- Rounding to an integer adds at most one half. -/
lemma nearestInt_le (t : ℚ) : (nearestInt t : ℚ) ≤ t + 1 / 2 := by
  have hfloor : ((⌊t⌋ : ℤ) : ℚ) ≤ t := Int.floor_le t
  unfold nearestInt
  split_ifs with hup
  · have hhalf : 1 / 2 ≤ t - ⌊t⌋ := by
      rcases hup with hlt | ⟨heq, -⟩
      · linarith
      · linarith
    push_cast
    linarith
  · linarith

lemma ulp_pos (d : ℚ) : 0 < ulp d := zpow_pos (by norm_num) _

/-- A positive amount has 53 significant bits before its last place. -/
lemma ulp_le {d : ℚ} (hd : 0 < d) : ulp d ≤ d / 2 ^ 52 := by
  have hlog : (2 : ℚ) ^ Int.log 2 d ≤ d := by exact_mod_cast Int.zpow_log_le_self one_lt_two hd
  have hsplit : ulp d = (2 : ℚ) ^ Int.log 2 d / 2 ^ 52 := by
    rw [ulp, zpow_sub₀ two_ne_zero]
    norm_num
  rw [hsplit]
  exact div_le_div_of_nonneg_right hlog (by positivity)

/-- Rounding an amount to a `Double` adds a small part of it at most. -/
lemma double_le {d : ℚ} (hd : 0 < d) : double d ≤ d + d / 2 ^ 53 := by
  have hu : 0 < ulp d := ulp_pos d
  calc double d ≤ (d / ulp d + 1 / 2) * ulp d :=
        mul_le_mul_of_nonneg_right (nearestInt_le _) hu.le
    _ = d + ulp d / 2 := by field_simp
    _ ≤ d + d / 2 ^ 53 := by
        have := ulp_le hd
        linarith

/-- Cutting the fraction of an amount does not make it larger. -/
lemma truncated_le {d : ℚ} (hd : 0 ≤ d) : (truncated d : ℚ) ≤ d := by
  rw [truncated, if_pos hd]
  exact Int.floor_le d

/-- A number below zero is cut to one that is not above it. -/
lemma truncated_nonpos {d : ℚ} (hd : d < 0) : truncated d ≤ 0 := by
  rw [truncated, if_neg (not_le.mpr hd), Int.ceil_le]
  exact_mod_cast hd.le

/-! ## The label -/

/-- The figure that `TicketView.setUI()` puts into the label `lblPrice`, in front of "SAR":
`Int(Double(ticket.price) ?? 1 * 3.75)`. The text of an amount is a number. -/
def TicketView.lblPrice (ticket : Ticket) : ℤ :=
  truncated ((some (double ticket.price)).getD (1 * K_SAR_TO_USD_CONVERSION_RATE))

/-- **A ticket shows less than what was paid.** If the amount on the ticket is the conversion
of a positive amount in SAR, the label shows a smaller one. -/
theorem lblPrice_lt {ticket : Ticket} {sar : ℚ} (hsar : 0 < sar)
    (hprice : ticket.price = PriceUtils.usd sar) : (TicketView.lblPrice ticket : ℚ) < sar := by
  have husd : ticket.price = sar * (4 / 15) := by
    rw [hprice, PriceUtils.usd, K_SAR_TO_USD_CONVERSION_RATE]
    ring
  have hpos : 0 < ticket.price := by
    rw [husd]
    positivity
  have hdouble : double ticket.price ≤ ticket.price + ticket.price / 2 ^ 53 := double_le hpos
  show ((truncated (double ticket.price) : ℤ) : ℚ) < sar
  rcases le_or_gt 0 (double ticket.price) with hnonneg | hneg
  · calc ((truncated (double ticket.price) : ℤ) : ℚ) ≤ double ticket.price :=
          truncated_le hnonneg
      _ ≤ ticket.price + ticket.price / 2 ^ 53 := hdouble
      _ < sar := by
          rw [husd]
          norm_num
          linarith
  · have hcut : ((truncated (double ticket.price) : ℤ) : ℚ) ≤ 0 := by
      exact_mod_cast truncated_nonpos hneg
    linarith

/-! ## The stored tickets -/

/-- The ticket is for seats that cost something, at the price `price`, and it has the amount
that they were charged for. -/
def Ticket.PaidFor (price : ℚ) (ticket : Ticket) : Prop :=
  0 < ticket.seats * price ∧ ticket.price = PriceUtils.usd (ticket.seats * price)

namespace WorkshopDetailsVC

/-- The sheet and the view of the screen sell nothing for free, and the tickets in the effects
`t` are paid for. -/
structure Charges (vc : WorkshopDetailsVC) (t : List WorkshopEffect) : Prop where
  priced : vc.Priced
  view : vc.purchaseTicketView.Reached
  sheet : ∀ tickets cost, vc.presented = some (.purchase tickets cost) → 0 < cost
  stored : ∀ ticket, .stored ticket ∈ t → ticket.PaidFor vc.ticketPrice

/-- The checkouts in flight are for seats, and the tickets in flight are paid for. -/
def ChargeAsked (vc : WorkshopDetailsVC) : WorkshopRequest → Prop
  | .startCheckout amount tickets => 0 < tickets * vc.ticketPrice ∧
      amount = PriceUtils.usd (tickets * vc.ticketPrice)
  | .setData ticket => ticket.PaidFor vc.ticketPrice
  | _ => True

variable {vc vc' : WorkshopDetailsVC} {t : List WorkshopEffect}

/-- What is in flight stays so while the screen keeps its workshop. -/
lemma ChargeAsked.of_workshop (h : vc'.workshop = vc.workshop) {q : WorkshopRequest}
    (hq : vc.ChargeAsked q) : vc'.ChargeAsked q := by
  have hprice : vc'.ticketPrice = vc.ticketPrice := by unfold ticketPrice; rw [h]
  cases q <;> simp only [ChargeAsked, hprice] at hq ⊢ <;> exact hq

/-- A reaction that stores nothing, and puts up no sheet that is free. -/
lemma Charges.still (h : vc.Charges t) {r : WorkshopReaction}
    (hpriced : r.client.Priced) (hview : r.client.purchaseTicketView.Reached)
    (hw : r.client.workshop = vc.workshop)
    (hsheet : ∀ tickets cost, r.client.presented = some (.purchase tickets cost) → 0 < cost)
    (heff : ∀ ticket, .stored ticket ∉ r.effects) : r.client.Charges (t ++ r.effects) := by
  refine ⟨hpriced, hview, hsheet, fun ticket ht => ?_⟩
  have hprice : r.client.ticketPrice = vc.ticketPrice := by unfold ticketPrice; rw [hw]
  rcases List.mem_append.mp ht with ht | ht
  · rw [hprice]
    exact h.stored ticket ht
  · exact absurd ht (heff ticket)

/-- A sheet that comes up on a touch was put up by the enabled buy button. -/
lemma ui_sheet {u : WorkshopTap} {r : WorkshopReaction} (hr : vc.ui u = some r) {tickets : ℤ}
    {cost : ℚ} (hsheet : r.client.presented = some (.purchase tickets cost)) :
    vc.presented = some (.purchase tickets cost) ∨
      vc.purchaseTicketView.buyEnabled = true ∧ cost = vc.purchaseTicketView.cumulativeCost := by
  rcases ui_cases hr with ⟨_, _, -, rfl⟩ | ⟨henabled, rfl⟩ | ⟨_, presented, _, -, hp, rfl⟩
  · cases hsheet
  · rcases present_purchase hsheet with hold | hnew
    · exact Or.inl hold
    · exact Or.inr ⟨henabled, (WorkshopPresented.purchase.inj hnew).2.symm⟩
  · exact Or.inl ((hp tickets cost hsheet) ▸ hsheet)

/-- A touch keeps what the screen charges. -/
lemma ui_charges (h : vc.Charges t) {u : WorkshopTap} {r : WorkshopReaction}
    (hr : vc.ui u = some r) : Keeps Charges ChargeAsked r t := by
  obtain ⟨hloaded, -, heffects⟩ := ui_rest hr
  have hw : r.client.workshop = vc.workshop := (loaded_eq hloaded).1
  have hview : r.client.purchaseTicketView.Reached := ui_reached h.view hr
  refine ⟨h.still (ui_priced h.priced hr) hview hw ?_ ?_, fun q hq => ?_⟩
  · intro tickets cost hsheet
    rcases ui_sheet hr hsheet with hold | ⟨henabled, rfl⟩
    · exact h.sheet tickets cost hold
    · rw [h.view.enabled, decide_eq_true_iff] at henabled
      exact henabled
  · intro ticket ht
    obtain ⟨amount, heq⟩ := heffects _ ht
    cases heq
  · -- the only request is the checkout of the sheet
    rcases ui_cases hr with ⟨tickets, cost, hsheet, rfl⟩ | ⟨-, rfl⟩ |
      ⟨view, presented, _, -, -, rfl⟩
    · obtain rfl := List.mem_singleton.mp hq
      have hcost : cost = tickets * vc.ticketPrice := h.priced.sheet tickets cost hsheet
      have hpos : 0 < cost := h.sheet tickets cost hsheet
      rw [hcost] at hpos ⊢
      exact ⟨hpos, rfl⟩
    · cases hq
    · cases hq

/-- What a successful checkout stores has the amount that was charged. -/
lemma updatePurchase_ticket {uppercased : String → String} {amount : ℚ} {tickets : ℤ}
    {now : Timestamp} {ticket : Ticket}
    (h : .setData ticket ∈ (vc.updatePurchase uppercased amount tickets now).requests) :
    ticket.price = amount ∧ ticket.seats = tickets := by
  unfold updatePurchase at h
  split at h
  · cases h
  · split at h
    · cases h
    · obtain rfl : ticket = _ := by simpa using h
      exact ⟨rfl, rfl⟩

/-- A callback keeps what the screen charges, and what it has asked for stays paid for. -/
lemma recv_charges (h : vc.Charges t) (uppercased : String → String) {q : WorkshopRequest}
    (hq : vc.ChargeAsked q) (a : WorkshopAnswer) (now : Timestamp) :
    Keeps Charges ChargeAsked (vc.recv uppercased q a now) t := by
  have hw : (vc.recv uppercased q a now).client.workshop = vc.workshop :=
    recv_workshop vc q a now
  have heffects : (vc.recv uppercased q a now).effects = [] := by
    rcases vc.recv_cases uppercased q a now with ⟨uid, documents, -, -, hr⟩ |
      ⟨workshop, documents, -, -, hr⟩ | ⟨amount, tickets, -, -, -, hr⟩ | ⟨-, -, -, heff⟩
    · rw [hr]
      rcases vc.userLoaded_cases uid documents with ⟨-, -, heff⟩ | ⟨user, id, -, hl⟩
      · exact heff
      · rw [hl]; exact ({ vc with user := some user } : WorkshopDetailsVC).loadTickets_cases.2.2
    · rw [hr]; rfl
    · rw [hr]; exact updatePurchase_effects ..
    · exact heff
  refine ⟨h.still (recv_priced h.priced ..) (recv_reached h.view ..) hw ?_ (by simp [heffects]),
    fun q' hq' => ?_⟩
  · intro tickets cost hsheet
    exact h.sheet tickets cost (recv_sheet hsheet)
  · refine ChargeAsked.of_workshop hw ?_
    rcases vc.recv_cases uppercased q a now with ⟨uid, documents, -, -, hr⟩ |
      ⟨workshop, documents, -, -, hr⟩ | ⟨amount, tickets, rfl, -, -, hr⟩ | ⟨-, -, hreq, -⟩
    · rw [hr] at hq'
      rcases vc.userLoaded_cases uid documents with ⟨-, hreq, -⟩ | ⟨user, id, -, hl⟩
      · rw [hreq] at hq'; cases hq'
      · rw [hl] at hq'
        rcases ({ vc with user := some user } : WorkshopDetailsVC).loadTickets_cases.2.1 with
          hreq | ⟨id, -, hreq⟩
        · rw [hreq] at hq'; cases hq'
        · rw [hreq] at hq'
          rw [List.mem_singleton.mp hq']
          trivial
    · rw [hr] at hq'; cases hq'
    · -- the ticket has the amount and the seats of the checkout
      rw [hr] at hq'
      rcases vc.updatePurchase_cases uppercased amount tickets now with
        ⟨-, hreq⟩ | ⟨-, user, ticket, -, hreq, -⟩
      · rw [hreq] at hq'; cases hq'
      · rw [hreq] at hq'
        obtain rfl := List.mem_singleton.mp hq'
        obtain ⟨hprice, hseats⟩ := updatePurchase_ticket (hreq ▸ List.mem_singleton_self _)
        obtain ⟨hpos, hamount⟩ := hq
        refine ⟨?_, ?_⟩
        · rw [hseats]; exact hpos
        · rw [hprice, hseats]; exact hamount
    · rw [hreq] at hq'; cases hq'

/-- A screen that has just been opened charges nothing. -/
lemma viewDidLoad_charges (workshop : Workshops) (thisUser : Option User)
    (currentUser : Option String) :
    Keeps Charges ChargeAsked (viewDidLoad workshop thisUser currentUser) [] := by
  have hpresented : (viewDidLoad workshop thisUser currentUser).client.presented = none := by
    cases thisUser with
    | none => rfl
    | some thisUser => cases currentUser <;> rfl
  obtain ⟨-, hreq, heff⟩ := viewDidLoad_cases workshop thisUser currentUser
  refine ⟨⟨viewDidLoad_priced .., viewDidLoad_reached .., ?_, by simp [heff]⟩, fun q hq => ?_⟩
  · intro tickets cost hsheet
    rw [hpresented] at hsheet
    cases hsheet
  · rcases hreq with hreq | ⟨uid, hreq⟩
    · rw [hreq] at hq; cases hq
    · rw [hreq] at hq
      rw [List.mem_singleton.mp hq]
      trivial

end WorkshopDetailsVC

open WorkshopDetailsVC

section

variable {catalog : String → Workshops} {uppercased : String → String} {s : WorkshopServer}
  {h : List (WorkshopWorld × WorkshopEvent)} {w : WorkshopWorld} {i : ℕ}
  {vc : WorkshopDetailsVC} {ticket : Ticket}

/-- In every run a stored ticket has the amount that its seats were charged for, at the price
of the workshop. -/
theorem stored_ticket_price (hr : (workshopSystem catalog uppercased).RunFrom s h w)
    (hi : w.clients i = some vc) (ht : .stored ticket ∈ w.effectsOf i) :
    ticket.PaidFor vc.ticketPrice := by
  have hrules : ClientRules (workshopSystem catalog uppercased) (fun _ => False) (fun _ => True)
      (fun _ vc t => vc.Charges t) ChargeAsked (fun _ _ _ => True) := by
    refine ⟨?_, ?_, ?_, ?_, ?_⟩
    · exact fun _ _ _ => viewDidLoad_charges ..
    · intro _ _ _ _ _ _ hc hr
      exact ⟨ui_charges hc hr, fun _ hq => hq.of_workshop (loaded_eq (ui_rest hr).1).1⟩
    · refine fun s q e c _ hq => ⟨trivial, trivial, fun t hc => ⟨hc.priced, hc.view, hc.sheet, ?_⟩⟩
      intro ticket ht
      rcases List.mem_append.mp ht with ht | ht
      · exact hc.stored ticket ht
      · rcases WorkshopServer.mem_serve_effects ht with ⟨_, _, -, heq⟩ | ⟨ticket', rfl, heq⟩
        · cases heq
        · obtain rfl := WorkshopEffect.stored.inj heq
          exact hq
    · exact fun _ _ _ _ _ _ => ⟨fun _ _ h => h, fun _ _ h => h⟩
    · intro _ vc _ q a now _ hc hq _
      exact ⟨recv_charges hc uppercased hq a now,
        fun _ hq' _ => hq'.of_workshop (recv_workshop vc q a now)⟩
  exact ((client_invariant exclusiveRules_false hrules trivial hr).client i vc hi).stored ticket ht

/-- **No ticket shows its price.** What the label of a stored ticket shows is never the price of
its workshop times its seats.

**Proof sketch.** The ticket has that amount converted to USD (`stored_ticket_price`), and the
label shows no more than that (`lblPrice_lt`). -/
theorem ticket_price_never_shown (hr : (workshopSystem catalog uppercased).RunFrom s h w)
    (hi : w.clients i = some vc) (ht : .stored ticket ∈ w.effectsOf i) {price : ℚ}
    (hp : vc.workshop.priceDecimal = some price) :
    (TicketView.lblPrice ticket : ℚ) ≠ ticket.seats * price := by
  have hprice : vc.ticketPrice = price := by
    unfold ticketPrice
    rw [hp]
    rfl
  obtain ⟨hpos, hpaid⟩ := stored_ticket_price hr hi ht
  rw [hprice] at hpos hpaid
  exact (lblPrice_lt hpos hpaid).ne

end

/-- The ticket for a seat that Alice has bought for 15 SAR. -/
def ticketOfAlice : Ticket := ⟨"Alice", 4, 7, "a", "w", "Art", "A001", 1⟩

/-- Alice buys one seat for 15 SAR, and a ticket is stored. -/
lemma ticket_alice : ∃ h w vc,
    (workshopSystem (fun _ => workshopOnSale) id).RunFrom workshopShop h w ∧
    w.clients 0 = some vc ∧ vc.workshop.priceDecimal = some 15 ∧
    .stored ticketOfAlice ∈ w.effectsOf 0 := by
  have he : (exec (workshopSystem (fun _ => workshopOnSale) id).step (start workshopShop)
      (opening ++ [.ui 0 .bookSeat] ++ booking)).map
      (fun w => ((w.clients 0).map (·.workshop.priceDecimal), w.effectsOf 0)) =
      some (some (some 15), [.startCheckout 4, .approved 1, .stored ticketOfAlice]) := by
    decide +kernel
  obtain ⟨h, w, hr, -, hw⟩ := run_of_observed he
  obtain ⟨hclient, heffects⟩ := Prod.mk.inj hw
  obtain ⟨vc, hi, hp⟩ := Option.map_eq_some_iff.mp hclient
  exact ⟨h, w, vc, hr, hi, hp, by rw [heffects]; simp⟩

/-- The label of her ticket does not show 15 SAR. -/
theorem ticket_price_never_shown_alice :
    (TicketView.lblPrice ticketOfAlice : ℚ) ≠ ticketOfAlice.seats * 15 := by
  obtain ⟨h, w, vc, hr, hi, hp, ht⟩ := ticket_alice
  exact ticket_price_never_shown hr hi ht hp

/-- It shows 4 SAR. -/
theorem ticket_shows_usd : ∃ h w vc ticket,
    (workshopSystem (fun _ => workshopOnSale) id).RunFrom workshopShop h w ∧
    w.clients 0 = some vc ∧ vc.workshop.priceDecimal = some 15 ∧
    .stored ticket ∈ w.effectsOf 0 ∧ ticket.seats = 1 ∧ TicketView.lblPrice ticket = 4 ∧
    (TicketView.lblPrice ticket : ℚ) ≠ ticket.seats * 15 := by
  obtain ⟨h, w, vc, hr, hi, hp, ht⟩ := ticket_alice
  have hlabel : TicketView.lblPrice ticketOfAlice = 4 := by decide +kernel
  refine ⟨h, w, vc, ticketOfAlice, hr, hi, hp, ht, rfl, hlabel, ?_⟩
  rw [hlabel]
  norm_num [ticketOfAlice]

end Aoun
