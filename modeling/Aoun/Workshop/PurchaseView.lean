import Mathlib.Tactic.Positivity
import Aoun.Charge

/-!
# What the purchase view sells

`PurchaseTicketView` as a system of its own: its delegate has it reload, with any allowance and
any price, the user picks rows and taps the buy button. A reload enables the button if the
allowance is positive, and then sets the number of tickets to one, whose observer enables the
button again if they cost something. So a reload with no allowance and a positive price leaves
the button enabled, for one ticket.

## Main definitions

* `Aoun.PurchaseSession`, `Aoun.PurchaseRun` — the view with what it has issued, and its runs.
* `Aoun.PurchaseSession.SellsAllowed` — it sells only what it is allowed to.
* `Aoun.PurchaseEvent.Sellable` — a reload has an allowance, or nothing to pay.

## Main results

* `Aoun.sells_allowed_iff` — when the view sells only what it is allowed to.
* `Aoun.purchaseTicketView_reached` — the views of the workshop screens are in such states.
-/

set_option relaxedAutoImplicit false
set_option autoImplicit false

namespace Aoun

open AsyncSystem AsyncSystem.World StepSystem

/-! ## The view as a system -/

/-- A call of the delegate's `purchase(_:buyTickets:forCost:)`, with the ticket price of the
last reload. -/
structure IssuedPurchase where
  buyTickets : ℤ
  forCost : ℚ
  reloadedPrice : ℚ
  deriving DecidableEq

/-- The view, the ticket price of its last reload, and the purchases it has issued. -/
structure PurchaseSession where
  view : PurchaseTicketView
  reloadedPrice : ℚ
  purchases : List IssuedPurchase
  deriving DecidableEq

/-- What can happen to the view. -/
inductive PurchaseEvent
  /-- A reload, where the delegate answers with an allowance and a ticket price. -/
  | reloadData (allowedTickets : ℤ) (ticketPrice : ℚ)
  | didSelectRow (row : ℕ)
  | buyButtonTouched
  /-- The delegate shows or hides the view. -/
  | isHidden (isHidden : Bool)

namespace PurchaseSession

variable (s : PurchaseSession)

/-- `reloadData()`. -/
def reloadData (allowedTickets : ℤ) (ticketPrice : ℚ) : PurchaseSession :=
  { s with view := s.view.initializedDetails allowedTickets ticketPrice
           reloadedPrice := ticketPrice }

/-- `buyButtonTouched(_:)`. -/
def buyButtonTouched : PurchaseSession :=
  { s with purchases := s.purchases ++
      [⟨s.view.purchaseTickets, s.view.cumulativeCost, s.reloadedPrice⟩] }

/-- One step; a button that is not enabled cannot be tapped. -/
def step : PurchaseEvent → Option PurchaseSession
  | .reloadData allowedTickets ticketPrice => some (s.reloadData allowedTickets ticketPrice)
  | .didSelectRow row => (s.view.didSelectRow row).map fun view => { s with view := view }
  | .buyButtonTouched => if s.view.buyEnabled = true then some s.buyButtonTouched else none
  | .isHidden isHidden => some { s with view := { s.view with isHidden := isHidden } }

/-- The view of the storyboard, once its delegate is set, which reloads it. -/
def start (allowedTickets : ℤ) (ticketPrice : ℚ) : PurchaseSession :=
  let view : PurchaseTicketView :=
    { allowedTickets := 0, ticketsPrice := 0, purchaseTickets := 0, buyEnabled := true,
      isHidden := true }
  PurchaseSession.reloadData ⟨view, 0, []⟩ allowedTickets ticketPrice

/-- An enabled button sells at least one ticket and no more than are allowed, and what has been
issued was for the cost of its tickets, at the price of the last reload, and not for free. -/
def SellsAllowed : Prop :=
  (s.view.buyEnabled = true →
    1 ≤ s.view.purchaseTickets ∧ s.view.purchaseTickets ≤ s.view.allowedTickets) ∧
  ∀ p ∈ s.purchases, p.forCost = p.buyTickets * p.reloadedPrice ∧ 0 < p.forCost

/-- What holds of the view at any time. -/
structure Consistent : Prop where
  price : s.view.ticketsPrice = s.reloadedPrice
  tickets : 1 ≤ s.view.purchaseTickets
  enabled : s.view.buyEnabled = decide (0 < s.view.cumulativeCost)

end PurchaseSession

open PurchaseSession

/-- The runs of the view, from when its delegate is set. -/
abbrev PurchaseRun (allowedTickets : ℤ) (ticketPrice : ℚ)
    (h : List (PurchaseSession × PurchaseEvent)) (s : PurchaseSession) : Prop :=
  Run PurchaseSession.step (start allowedTickets ticketPrice) h s

/-- A reload with this allowance and price enables the button only if something is allowed. -/
def Sellable (allowedTickets : ℤ) (ticketPrice : ℚ) : Prop :=
  0 < allowedTickets ∨ ticketPrice ≤ 0

/-- An event is sellable, unless it is a reload with no allowance and a positive price. -/
def PurchaseEvent.Sellable : PurchaseEvent → Prop
  | .reloadData allowedTickets ticketPrice => Aoun.Sellable allowedTickets ticketPrice
  | _ => True

variable {allowed : ℤ} {price : ℚ} {h : List (PurchaseSession × PurchaseEvent)}
  {s s' : PurchaseSession} {e : PurchaseEvent}

lemma reloadData_consistent (s : PurchaseSession) (allowed : ℤ) (price : ℚ) :
    (s.reloadData allowed price).Consistent :=
  ⟨rfl, le_rfl, rfl⟩

/-- A reload enables the button exactly if a ticket costs something. -/
lemma reloadData_buyEnabled (s : PurchaseSession) (allowed : ℤ) (price : ℚ) :
    (s.reloadData allowed price).view.buyEnabled = true ↔ 0 < price :=
  s.view.initializedDetails_buyEnabled allowed price

/-- A picked row is one of those the view allows. -/
lemma didSelectRow_cases {row : ℕ} (hs : s.step (.didSelectRow row) = some s') :
    (row : ℤ) < s.view.allowedTickets ∧
      s' = { s with view := s.view.setPurchaseTickets (row + 1) } := by
  obtain ⟨view, hview, rfl⟩ := Option.map_eq_some_iff.mp hs
  simp only [PurchaseTicketView.didSelectRow, Option.ite_none_right_eq_some,
    Option.some.injEq] at hview
  exact ⟨hview.1, by rw [← hview.2]⟩

/-- A button that is tapped is enabled. -/
lemma buyButtonTouched_cases (hs : s.step .buyButtonTouched = some s') :
    s.view.buyEnabled = true ∧ s' = s.buyButtonTouched := by
  simp only [PurchaseSession.step, Option.ite_none_right_eq_some, Option.some.injEq] at hs
  exact ⟨hs.1, hs.2.symm⟩

/-- A step keeps the view consistent. -/
lemma step_consistent (hc : s.Consistent) (hs : s.step e = some s') : s'.Consistent := by
  cases e with
  | reloadData allowed price =>
    obtain rfl := Option.some.inj hs
    exact reloadData_consistent s allowed price
  | didSelectRow row =>
    obtain ⟨-, rfl⟩ := didSelectRow_cases hs
    refine ⟨hc.price, ?_, rfl⟩
    show 1 ≤ (row : ℤ) + 1
    omega
  | buyButtonTouched =>
    obtain ⟨-, rfl⟩ := buyButtonTouched_cases hs
    exact ⟨hc.price, hc.tickets, hc.enabled⟩
  | isHidden isHidden =>
    obtain rfl := Option.some.inj hs
    exact ⟨hc.price, hc.tickets, hc.enabled⟩

/-- In every state of every run the view is consistent. -/
lemma consistent_of_run (hr : PurchaseRun allowed price h s) : s.Consistent :=
  hr.invariant (reloadData_consistent ..) fun _ _ _ => step_consistent

/-- After a reload the view sells only what it is allowed to, if that holds of what it has
issued before, exactly if the reload is sellable. -/
lemma reloadData_sellsAllowed_iff
    (hp : ∀ p ∈ s.purchases, p.forCost = p.buyTickets * p.reloadedPrice ∧ 0 < p.forCost)
    (allowed : ℤ) (price : ℚ) :
    (s.reloadData allowed price).SellsAllowed ↔ Sellable allowed price := by
  have hiff : (s.reloadData allowed price).SellsAllowed ↔ (0 < price → 1 ≤ allowed) := by
    unfold SellsAllowed
    rw [reloadData_buyEnabled]
    constructor
    · intro hsells hpos
      exact (hsells.1 hpos).2
    · intro hallowed
      exact ⟨fun hpos => ⟨le_rfl, hallowed hpos⟩, hp⟩
  rw [hiff, Sellable]
  constructor
  · intro hallowed
    rcases lt_or_ge 0 price with hpos | hle
    · exact Or.inl (hallowed hpos)
    · exact Or.inr hle
  · rintro (hallowed | hle) hpos
    · exact hallowed
    · exact absurd hpos (not_lt.mpr hle)

/-- What a tap on the buy button issues costs what its tickets cost, and not nothing. -/
lemma buyButtonTouched_sellsAllowed (hc : s.Consistent) (hs : s.SellsAllowed)
    (henabled : s.view.buyEnabled = true) : s.buyButtonTouched.SellsAllowed := by
  refine ⟨hs.1, fun p hp => ?_⟩
  rcases List.mem_append.mp hp with hp | hp
  · exact hs.2 p hp
  · rw [List.mem_singleton.mp hp]
    refine ⟨?_, ?_⟩
    · show s.view.purchaseTickets * s.view.ticketsPrice = s.view.purchaseTickets * s.reloadedPrice
      rw [hc.price]
    · rw [hc.enabled, decide_eq_true_iff] at henabled
      exact henabled

/-- A step from a state in which the view sells only what it is allowed to leads to another
such state exactly if it is sellable. -/
lemma step_sellsAllowed_iff (hc : s.Consistent) (hp : s.SellsAllowed)
    (hs : s.step e = some s') : s'.SellsAllowed ↔ e.Sellable := by
  cases e with
  | reloadData allowed price =>
    obtain rfl := Option.some.inj hs
    exact reloadData_sellsAllowed_iff hp.2 allowed price
  | didSelectRow row =>
    obtain ⟨hrow, rfl⟩ := didSelectRow_cases hs
    refine iff_of_true ⟨fun _ => ?_, hp.2⟩ trivial
    show 1 ≤ (row : ℤ) + 1 ∧ (row : ℤ) + 1 ≤ s.view.allowedTickets
    omega
  | buyButtonTouched =>
    obtain ⟨henabled, rfl⟩ := buyButtonTouched_cases hs
    exact iff_of_true (buyButtonTouched_sellsAllowed hc hp henabled) trivial
  | isHidden isHidden =>
    obtain rfl := Option.some.inj hs
    exact iff_of_true hp trivial

/-- **When the view sells only what it is allowed to.** It does so in every state of a run, if
and only if every reload, that of the launch included, has a positive allowance or a price that
is not positive.

**Proof sketch.** The button is enabled exactly if the cost is positive
(`consistent_of_run`), and a reload sets the number of tickets to one without a look at the
allowance (`reloadData_sellsAllowed_iff`); the picker has only allowed rows. -/
theorem sells_allowed_iff (hr : PurchaseRun allowed price h s) :
    Throughout SellsAllowed h s ↔
      Sellable allowed price ∧ EveryStep (fun _ e => e.Sellable) h := by
  have hstart : (start allowed price).SellsAllowed ↔ Sellable allowed price :=
    reloadData_sellsAllowed_iff (by simp) allowed price
  rw [← hstart]
  exact hr.throughout_iff_everyStep fun h' s e s' hr' hp hs =>
    step_sellsAllowed_iff (consistent_of_run hr') hp hs

/-- Three tickets at 15 SAR are allowed; two are picked and bought. -/
theorem sells_allowed_alice : ∃ h s, PurchaseRun 3 15 h s ∧ s.purchases = [⟨2, 30, 15⟩] ∧
    (Throughout SellsAllowed h s ↔ Sellable 3 15 ∧ EveryStep (fun _ e => e.Sellable) h) := by
  have he : (exec PurchaseSession.step (start 3 15) [.didSelectRow 1, .buyButtonTouched]).map
      (fun s => s.purchases) = some [⟨2, 30, 15⟩] := by decide +kernel
  obtain ⟨h, s, hr, -, hs⟩ := run_of_observed he
  exact ⟨h, s, hr, hs, sells_allowed_iff hr⟩

/-! ## The views of the workshop screens -/

/-- The view is in a state that some run leads to. -/
def PurchaseTicketView.Reached (view : PurchaseTicketView) : Prop :=
  ∃ allowed price h s, PurchaseRun allowed price h s ∧ s.view = view

namespace PurchaseTicketView.Reached

variable {view : PurchaseTicketView}

lemma start (allowed : ℤ) (price : ℚ) :
    Reached (PurchaseTicketView.initializedDetails ⟨0, 0, 0, true, true⟩ allowed price) :=
  ⟨allowed, price, [], _, .nil, rfl⟩

lemma initializedDetails (hv : view.Reached) (allowed : ℤ) (price : ℚ) :
    (view.initializedDetails allowed price).Reached := by
  obtain ⟨a, p, h, s, hr, rfl⟩ := hv
  exact ⟨a, p, _, _, hr.snoc (e := .reloadData allowed price) rfl, rfl⟩

lemma didSelectRow (hv : view.Reached) {row : ℕ} {view' : PurchaseTicketView}
    (hrow : view.didSelectRow row = some view') : view'.Reached := by
  obtain ⟨a, p, h, s, hr, rfl⟩ := hv
  exact ⟨a, p, _, { s with view := view' },
    hr.snoc (e := .didSelectRow row) (by simp [PurchaseSession.step, hrow]), rfl⟩

lemma setHidden (hv : view.Reached) (isHidden : Bool) :
    Reached { view with isHidden := isHidden } := by
  obtain ⟨a, p, h, s, hr, rfl⟩ := hv
  exact ⟨a, p, _, _, hr.snoc (e := .isHidden isHidden) rfl, rfl⟩

/-- What holds of such a view. -/
lemma enabled (hv : view.Reached) : view.buyEnabled = decide (0 < view.cumulativeCost) := by
  obtain ⟨a, p, h, s, hr, rfl⟩ := hv
  exact (consistent_of_run hr).enabled

end PurchaseTicketView.Reached

namespace WorkshopDetailsVC

variable {vc : WorkshopDetailsVC}

lemma viewDidLoad_reached (workshop : Workshops) (thisUser : Option User)
    (currentUser : Option String) :
    (viewDidLoad workshop thisUser currentUser).client.purchaseTicketView.Reached := by
  cases thisUser with
  | none => exact .start _ _
  | some thisUser => cases currentUser <;> exact .start _ _

/-- A touch takes the view to another state that some run leads to. -/
lemma ui_reached (hv : vc.purchaseTicketView.Reached) {u : WorkshopTap} {r : WorkshopReaction}
    (hr : vc.ui u = some r) : r.client.purchaseTicketView.Reached := by
  rcases ui_cases hr with ⟨_, _, -, rfl⟩ | ⟨-, rfl⟩ | ⟨view, _, _, hview, -, rfl⟩
  · exact hv
  · exact hv.setHidden true
  · rcases hview with ⟨isHidden, rfl⟩ | ⟨row, hrow⟩
    · exact hv.setHidden isHidden
    · exact hv.didSelectRow hrow

/-- So does a callback. -/
lemma recv_reached (hv : vc.purchaseTicketView.Reached) (uppercased : String → String)
    (q : WorkshopRequest) (a : WorkshopAnswer) (now : Timestamp) :
    (vc.recv uppercased q a now).client.purchaseTicketView.Reached := by
  rcases vc.recv_view uppercased q a now with hview | ⟨allowed, hview⟩
  · rw [hview]
    exact hv
  · rw [hview]
    exact hv.initializedDetails allowed vc.ticketPrice

end WorkshopDetailsVC

section Screens

variable {catalog : String → Workshops} {uppercased : String → String} {server : WorkshopServer}
  {hw : List (WorkshopWorld × WorkshopEvent)} {w : WorkshopWorld}

/-- **The views of the screens.** In every run of the workshop screens, the purchase view of a
screen is in a state that some run of the view leads to. -/
theorem purchaseTicketView_reached
    (hr : (workshopSystem catalog uppercased).RunFrom server hw w) {i : ℕ}
    {vc : WorkshopDetailsVC} (hi : w.clients i = some vc) : vc.purchaseTicketView.Reached := by
  have hrules : ClientRules (workshopSystem catalog uppercased) (fun _ => False) (fun _ => True)
      (fun _ vc _ => vc.purchaseTicketView.Reached) (fun _ _ => True) (fun _ _ _ => True) := by
    refine ⟨?_, ?_, ?_, ?_, ?_⟩
    · exact fun _ _ _ => ⟨WorkshopDetailsVC.viewDidLoad_reached .., fun _ _ => trivial⟩
    · exact fun _ _ _ _ _ _ h hr =>
        ⟨⟨WorkshopDetailsVC.ui_reached h hr, fun _ _ => trivial⟩, fun _ _ => trivial⟩
    · exact fun _ _ _ _ _ _ => ⟨trivial, trivial, fun _ h => h⟩
    · exact fun _ _ _ _ _ _ => ⟨fun _ _ h => h, fun _ _ h => h⟩
    · exact fun _ _ _ q a now _ h _ _ =>
        ⟨⟨WorkshopDetailsVC.recv_reached h uppercased q a now, fun _ _ => trivial⟩,
          fun _ _ _ => trivial⟩
  exact (client_invariant exclusiveRules_false hrules trivial hr).client i vc hi

end Screens

/-- Alice has bought her three seats. She opens the workshop and shows the purchase view before
her tickets are loaded; after they are, nothing more is allowed, and a tap on the button that
is still enabled puts up the sheet for a fourth seat. -/
theorem sells_beyond_allowance : ∃ server h w vc r,
    (workshopSystem (fun _ => workshopOnSale) id).RunFrom server h w ∧
    w.clients 0 = some vc ∧ vc.purchaseTicketView.Reached ∧
    vc.purchaseTicketView.allowedTickets = 0 ∧ vc.purchaseTicketView.purchaseTickets = 1 ∧
    vc.purchaseTicketView.buyEnabled = true ∧ vc.ui .buyButtonTouched = some r ∧
    r.client.presented = some (.purchase 1 15) ∧
    ¬ SellsAllowed ⟨vc.purchaseTicketView, 15, []⟩ := by
  let server : WorkshopServer :=
    { workshopShop with tickets := [⟨"Alice", 12, 0, "a", "w", "Art", "A001", 3⟩] }
  have he : (exec (workshopSystem (fun _ => workshopOnSale) id).step (start server)
      [.boot 0 ("w", some buyer, some "alice"), .serve 0 (.success, 0), .deliver 0 7,
        .ui 0 .bookSeat, .serve 0 (.success, 0), .deliver 0 7]).map
      (fun w => (w.clients 0).bind fun vc => (vc.ui .buyButtonTouched).map fun r =>
        (vc.purchaseTicketView, r.client.presented)) =
      some (some (⟨0, 15, 1, true, false⟩, some (.purchase 1 15))) := by decide +kernel
  obtain ⟨h, w, hr, -, hw⟩ := run_of_observed he
  obtain ⟨vc, hi, hvc⟩ := Option.bind_eq_some_iff.mp hw
  obtain ⟨r, hbuy, hr'⟩ := Option.map_eq_some_iff.mp hvc
  obtain ⟨hview, hsheet⟩ := Prod.mk.inj hr'
  have hsells : ¬ SellsAllowed ⟨⟨0, 15, 1, true, false⟩, 15, []⟩ := by
    rintro ⟨hallowed, -⟩
    exact absurd (hallowed rfl).2 (by decide)
  refine ⟨server, h, w, vc, r, hr, hi, purchaseTicketView_reached hr hi, ?_, ?_, ?_, hbuy,
    hsheet, ?_⟩
  · rw [hview]
  · rw [hview]
  · rw [hview]
  · rw [hview]
    exact hsells

end Aoun
