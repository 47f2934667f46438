import Mathlib.Algebra.Order.BigOperators.Group.List
import Aoun.Charge
import Aoun.Workshop.Capacity

/-!
# The tickets that are sold, and "Sold Out"

More seats can be sold than a workshop has. Each ticket that is sold is in order even then: it is
for one to three seats, for the workshop and the user of the screen that sold it, at the price of
the workshop. But `checkAvailability(tickets:)` asks whether the number of remaining seats is
exactly zero. Once it is negative, the workshop is never sold out again: screens that are opened
from then on go on selling it.

## Main definitions

* `Aoun.WellSold` — a ticket is in order.
* `Aoun.WorkshopDetailsVC.Offers` — what the purchase view and its sheet may sell.
* `Aoun.WorkshopDetailsVC.OnSale` — the screen does not show the workshop as sold out.

## Main results

* `Aoun.tickets_well_sold` — every ticket is in order.
* `Aoun.oversold_stays_open` — an oversold workshop is never shown as sold out again.
-/

set_option relaxedAutoImplicit false
set_option autoImplicit false

namespace Aoun

open AsyncSystem AsyncSystem.World StepSystem

/-- The ticket is for one to three seats of the workshop it names, at the price of the workshop,
which is positive, and for a user that the collection has. -/
structure WellSold (catalog : String → Workshops) (users : UsersCollection) (ticket : Ticket) :
    Prop where
  seats : 1 ≤ ticket.seats ∧ ticket.seats ≤ K_MaxAllowedTicket
  pos : 0 < (catalog ticket.workshop).priceDecimal.getD 0
  price : ticket.price =
    PriceUtils.usd (ticket.seats * (catalog ticket.workshop).priceDecimal.getD 0)
  title : ticket.workshopTitle = (catalog ticket.workshop).Title
  buyer : ∃ d ∈ users.docs, d.documentID = ticket.user ∧ d.FirstName = some ticket.buyerName

/-- Every ticket has a seat. -/
def Seated (tickets : List Ticket) : Prop := ∀ t ∈ tickets, 1 ≤ t.seats

namespace WorkshopDetailsVC

/-! ## What a screen sells -/

variable (users : UsersCollection) (vc : WorkshopDetailsVC)

/-- The purchase view shows one to three seats, and its button is enabled only if they cost
something; so does the sheet. The user is one of the collection, and the tickets have seats. -/
structure Offers : Prop where
  view : 1 ≤ vc.purchaseTicketView.purchaseTickets ∧
    vc.purchaseTicketView.purchaseTickets ≤ K_MaxAllowedTicket
  allowed : vc.purchaseTicketView.allowedTickets ≤ K_MaxAllowedTicket
  buy : vc.purchaseTicketView.buyEnabled = true → 0 < vc.purchaseTicketView.cumulativeCost
  sheet : ∀ tickets cost, vc.presented = some (.purchase tickets cost) →
    (1 ≤ tickets ∧ tickets ≤ K_MaxAllowedTicket) ∧ 0 < cost
  user : ∀ u, vc.user = some u → ∃ d ∈ users.docs,
    u.docID = some d.documentID ∧ d.FirstName = some u.FirstName
  seated : Seated vc.tickets

/-- The checkout is for one to three seats, at their price; the ticket is in order. -/
def Sells (catalog : String → Workshops) : WorkshopRequest → Prop
  | .startCheckout amount tickets => (1 ≤ tickets ∧ tickets ≤ K_MaxAllowedTicket) ∧
      0 < vc.ticketPrice ∧ amount = PriceUtils.usd (tickets * vc.ticketPrice)
  | .setData ticket => WellSold catalog users ticket
  | _ => True

/-- The users are those of the collection, and the tickets have seats. -/
def Listed : WorkshopRequest → WorkshopAnswer → Prop
  | .loadUser _, .users documents => ∀ d ∈ documents, d ∈ users.docs
  | .loadTickets _, .tickets documents => Seated documents
  | _, _ => True

variable {users vc} {vc' : WorkshopDetailsVC} {catalog : String → Workshops}

/-- What a screen asks to sell depends on its workshop only. -/
lemma Sells.of_workshop {q : WorkshopRequest} (hq : vc.Sells users catalog q)
    (hw : vc'.workshop = vc.workshop) : vc'.Sells users catalog q := by
  have hprice : vc'.ticketPrice = vc.ticketPrice := by unfold ticketPrice; rw [hw]
  cases q <;> simp only [Sells, hprice] at hq ⊢ <;> exact hq

/-- A reload shows one seat, and allows three at most, if tickets have seats. -/
lemma reload_offers (view : PurchaseTicketView) {allowed : ℤ} (price : ℚ)
    (hallowed : allowed ≤ K_MaxAllowedTicket) :
    (1 ≤ (view.initializedDetails allowed price).purchaseTickets ∧
      (view.initializedDetails allowed price).purchaseTickets ≤ K_MaxAllowedTicket) ∧
      (view.initializedDetails allowed price).allowedTickets ≤ K_MaxAllowedTicket ∧
      ((view.initializedDetails allowed price).buyEnabled = true →
        0 < (view.initializedDetails allowed price).cumulativeCost) := by
  refine ⟨⟨le_rfl, ?_⟩, hallowed, fun h => of_decide_eq_true h⟩
  show (1 : ℤ) ≤ 3
  omega

/-- A user who has bought seats may buy three less those, and never more than three. -/
lemma allowedTickets_le (h : Seated vc.myTickets) : vc.allowedTickets ≤ K_MaxAllowedTicket := by
  have hsum : 0 ≤ purchasedSeat vc.myTickets := by
    refine List.sum_nonneg fun n hn => ?_
    obtain ⟨t, ht, rfl⟩ := List.mem_map.mp hn
    have := h t ht
    omega
  unfold allowedTickets
  omega

/-- A screen that keeps its view, its user and its tickets, and has no other sheet. -/
lemma Offers.still (h : vc.Offers users) (hv : vc'.purchaseTicketView = vc.purchaseTicketView)
    (hu : vc'.user = vc.user) (ht : vc'.tickets = vc.tickets)
    (hp : ∀ tickets cost, vc'.presented = some (.purchase tickets cost) →
      vc.presented = some (.purchase tickets cost)) : vc'.Offers users := by
  refine ⟨?_, ?_, ?_, fun tickets cost hs => h.sheet tickets cost (hp tickets cost hs), ?_, ?_⟩
  · rw [hv]; exact h.view
  · rw [hv]; exact h.allowed
  · rw [hv]; exact h.buy
  · rw [hu]; exact h.user
  · rw [ht]; exact h.seated

/-- A screen that has just been opened. -/
lemma viewDidLoad_offers (workshop : Workshops) (thisUser : Option User)
    (currentUser : Option String) :
    (viewDidLoad workshop thisUser currentUser).client.Offers users := by
  cases thisUser with
  | none =>
    refine ⟨?_, ?_, fun h => of_decide_eq_true h, ?_, ?_, by simp [Seated, viewDidLoad, trap,
      reloadData]⟩ <;> simp [viewDidLoad, trap, reloadData, PurchaseTicketView.initializedDetails,
        PurchaseTicketView.setPurchaseTickets, allowedTickets, purchasedSeat, K_MaxAllowedTicket]
  | some thisUser =>
    cases currentUser <;> refine ⟨?_, ?_, fun h => of_decide_eq_true h, ?_, ?_, ?_⟩ <;>
      simp [viewDidLoad, loadUser, reloadData, PurchaseTicketView.initializedDetails, Seated,
        PurchaseTicketView.setPurchaseTickets, allowedTickets, purchasedSeat, K_MaxAllowedTicket]

/-- A screen that is opened sells nothing yet. -/
lemma viewDidLoad_sells (workshop : Workshops) (thisUser : Option User)
    (currentUser : Option String) : ∀ q ∈ (viewDidLoad workshop thisUser currentUser).requests,
    (viewDidLoad workshop thisUser currentUser).client.Sells users catalog q := by
  intro q hq
  rcases (viewDidLoad_cases workshop thisUser currentUser).2.1 with hreq | ⟨uid, hreq⟩
  · rw [hreq] at hq; cases hq
  · rw [hreq] at hq
    rw [List.mem_singleton.mp hq]
    trivial

/-- A touch of the view shows one to three seats. -/
lemma touched_offers {view view' : PurchaseTicketView}
    (hview : 1 ≤ view.purchaseTickets ∧ view.purchaseTickets ≤ K_MaxAllowedTicket)
    (hallowed : view.allowedTickets ≤ K_MaxAllowedTicket)
    (hbuy : view.buyEnabled = true → 0 < view.cumulativeCost) (h : view.Touched view') :
    (1 ≤ view'.purchaseTickets ∧ view'.purchaseTickets ≤ K_MaxAllowedTicket) ∧
      view'.allowedTickets ≤ K_MaxAllowedTicket ∧
      (view'.buyEnabled = true → 0 < view'.cumulativeCost) := by
  rcases h with ⟨isHidden, rfl⟩ | ⟨row, hrow⟩
  · exact ⟨hview, hallowed, hbuy⟩
  · simp only [PurchaseTicketView.didSelectRow, Option.ite_none_right_eq_some,
      Option.some.injEq] at hrow
    obtain ⟨hlt, rfl⟩ := hrow
    refine ⟨⟨?_, ?_⟩, hallowed, fun h => of_decide_eq_true h⟩
    · show 1 ≤ (row : ℤ) + 1
      omega
    · show (row : ℤ) + 1 ≤ K_MaxAllowedTicket
      omega

/-- A touch puts up a sheet for what the view shows, if it costs something. -/
lemma ui_offers (h : vc.Offers users) {u : WorkshopTap} {r : WorkshopReaction}
    (hr : vc.ui u = some r) : r.client.Offers users := by
  rcases ui_cases hr with ⟨tickets, cost, -, rfl⟩ | ⟨henabled, rfl⟩ |
    ⟨view, presented, _, hview, hp, rfl⟩
  · exact h.still rfl rfl rfl fun _ _ hs => by cases hs
  · refine ⟨h.view, h.allowed, h.buy, fun tickets cost hs => ?_, h.user, h.seated⟩
    rcases present_purchase hs with hs | hs
    · exact h.sheet tickets cost hs
    · obtain ⟨rfl, rfl⟩ := WorkshopPresented.purchase.inj hs
      exact ⟨h.view, h.buy henabled⟩
  · obtain ⟨hshown, hallowed, hbuy⟩ := touched_offers h.view h.allowed h.buy hview
    exact ⟨hshown, hallowed, hbuy,
      fun tickets cost hs => h.sheet tickets cost ((hp tickets cost hs) ▸ hs), h.user, h.seated⟩

/-- The checkout that a touch starts is for what the sheet shows. -/
lemma ui_sells (h : vc.Offers users) (hpriced : vc.Priced) {u : WorkshopTap}
    {r : WorkshopReaction} (hr : vc.ui u = some r) :
    ∀ q ∈ r.requests, r.client.Sells users catalog q := by
  rcases ui_cases hr with ⟨tickets, cost, hsheet, rfl⟩ | ⟨-, rfl⟩ | ⟨view, presented, _, -, -, rfl⟩
  · intro q hq
    obtain rfl := List.mem_singleton.mp hq
    obtain ⟨htickets, hpos⟩ := h.sheet tickets cost hsheet
    have hcost := hpriced.sheet tickets cost hsheet
    have hone : (0 : ℚ) < tickets := by exact_mod_cast htickets.1
    refine ⟨htickets, ?_, by rw [hcost]; rfl⟩
    rw [hcost] at hpos
    exact (mul_pos_iff_of_pos_left hone).mp hpos
  · simp [buyTickets]
  · simp

/-- The answer to the users query is one of the collection's documents. -/
lemma userLoaded_offers (h : vc.Offers users) {uid : String} {documents : List UserDoc}
    (hd : ∀ d ∈ documents, d ∈ users.docs) : (vc.userLoaded uid documents).client.Offers users := by
  unfold userLoaded
  split
  case h_1 => exact h
  case h_2 doc hhead =>
    split
    case h_1 firstName lastName hfirst _ =>
      have hloaded : ({ vc with user := some ⟨firstName, lastName, uid,
          some doc.documentID⟩ } : WorkshopDetailsVC).Offers users := by
        refine ⟨h.view, h.allowed, h.buy, h.sheet, fun u hu => ?_, h.seated⟩
        obtain rfl := Option.some.inj hu
        exact ⟨doc, hd doc (List.mem_of_mem_head? hhead), rfl, hfirst⟩
      unfold loadTickets
      dsimp only
      split <;> exact hloaded.still rfl rfl rfl fun _ _ hs => hs
    case h_2 => exact h.still rfl rfl rfl fun _ _ hs => hs

/-- The tickets of an answer are taken over, and the view is reloaded. -/
lemma ticketsLoaded_offers (h : vc.Offers users) {documents : List Ticket}
    (hd : Seated documents) (now : Timestamp) :
    (vc.ticketsLoaded documents now).client.Offers users := by
  have hseated : Seated (vc.tickets ++ documents) := fun t ht =>
    (List.mem_append.mp ht).elim (h.seated t) (hd t)
  have hloaded := vc.checkAvailability_loaded (vc.tickets ++ documents) now
  simp only [loaded, Prod.mk.injEq] at hloaded
  obtain ⟨-, -, htickets, hmine, hu⟩ := hloaded
  obtain ⟨view, hview, hkept⟩ : ∃ allowed, (vc.checkAvailability (vc.tickets ++ documents)
      now).purchaseTicketView = vc.purchaseTicketView.initializedDetails allowed vc.ticketPrice ∧
      allowed ≤ K_MaxAllowedTicket ∧
      (vc.checkAvailability (vc.tickets ++ documents) now).presented = vc.presented := by
    refine ⟨(vc.checkAvailability (vc.tickets ++ documents) now).allowedTickets, ?_, ?_, ?_⟩
    · unfold checkAvailability disableBook reloadData
      dsimp only
      split_ifs <;> rfl
    · refine allowedTickets_le ?_
      rw [hmine]
      exact fun t ht => hseated t (List.mem_of_mem_filter ht)
    · unfold checkAvailability disableBook reloadData
      dsimp only
      split_ifs <;> rfl
  obtain ⟨hshown, hallowed, hbuy⟩ := reload_offers vc.purchaseTicketView
    vc.ticketPrice hkept.1
  show (vc.checkAvailability (vc.tickets ++ documents) now).Offers users
  refine ⟨?_, ?_, ?_, fun tickets cost hs => h.sheet tickets cost (hkept.2 ▸ hs), ?_, ?_⟩
  · rw [hview]; exact hshown
  · rw [hview]; exact hallowed
  · rw [hview]; exact hbuy
  · rw [hu]; exact h.user
  · rw [htickets]; exact hseated

/-- The ticket of an approved checkout is in order. -/
lemma updatePurchase_sells (h : vc.Offers users)
    (hw : ∃ id, vc.workshop = { catalog id with documentId := some id })
    {uppercased : String → String} {amount : ℚ} {tickets : ℤ} {now : Timestamp}
    (hq : vc.Sells users catalog (.startCheckout amount tickets)) :
    ∀ q ∈ (vc.updatePurchase uppercased amount tickets now).requests,
      vc.Sells users catalog q := by
  obtain ⟨id, hid⟩ := hw
  obtain ⟨htickets, hpos, hamount⟩ := hq
  unfold updatePurchase
  cases hu : vc.user with
  | none => simp
  | some user =>
    cases vc.bookingID uppercased with
    | none => simp [trap]
    | some bookingID =>
      intro q hq
      obtain rfl := List.mem_singleton.mp hq
      obtain ⟨d, hd, hdoc, hname⟩ := h.user user hu
      have hprice : vc.ticketPrice = (catalog id).priceDecimal.getD 0 := by
        rw [ticketPrice, hid]; rfl
      rw [hprice] at hpos hamount
      refine ⟨htickets, ?_, ?_, ?_, d, hd, ?_, hname⟩
      all_goals simp only [hid, Option.getD_some]
      · exact hpos
      · exact hamount
      · simp [hdoc]

/-- A callback keeps what a screen offers. -/
lemma recv_offers (h : vc.Offers users) {uppercased : String → String} {q : WorkshopRequest}
    {a : WorkshopAnswer} (ha : Listed users q a) (now : Timestamp) :
    (vc.recv uppercased q a now).client.Offers users := by
  unfold recv
  by_cases ht : vc.trapped = true
  · rw [if_pos ht]
    exact h
  · rw [if_neg ht]
    unfold callback
    split
    case h_1 uid documents => exact userLoaded_offers h ha
    case h_2 documents => exact ticketsLoaded_offers h ha now
    case h_3 amount tickets =>
      unfold updatePurchase
      split
      · exact h
      · split <;> exact h.still rfl rfl rfl fun _ _ hs => hs
    case h_4 =>
      exact h.still rfl rfl rfl fun _ _ hs => (present_purchase hs).resolve_right (by simp)
    case h_5 =>
      exact h.still rfl rfl rfl fun _ _ hs => (present_purchase hs).resolve_right (by simp)
    case h_6 => exact h

/-- What a callback sells is in order. -/
lemma recv_sells (h : vc.Offers users)
    (hw : ∃ id, vc.workshop = { catalog id with documentId := some id })
    {uppercased : String → String} {q : WorkshopRequest} {a : WorkshopAnswer}
    (hq : vc.Sells users catalog q) (now : Timestamp) :
    ∀ q' ∈ (vc.recv uppercased q a now).requests, vc.Sells users catalog q' := by
  rcases vc.recv_cases uppercased q a now with ⟨uid, documents, rfl, rfl, hr⟩ |
    ⟨workshop, documents, rfl, rfl, hr⟩ | ⟨amount, tickets, rfl, rfl, -, hr⟩ | ⟨-, -, hreq, -⟩
  · rw [hr]
    rcases vc.userLoaded_cases uid documents with ⟨-, hreq, -⟩ | ⟨user, id, -, hload⟩
    · simp [hreq]
    · rw [hload]
      rcases ({ vc with user := some user } : WorkshopDetailsVC).loadTickets_cases.2.1 with
        hreq | ⟨id, -, hreq⟩ <;> simp [hreq, Sells]
  · rw [hr]
    simp [ticketsLoaded]
  · rw [hr]
    exact updatePurchase_sells h hw hq
  · simp [hreq]

end WorkshopDetailsVC

/-! ## Every ticket is in order -/

open WorkshopDetailsVC

variable {catalog : String → Workshops} {uppercased : String → String} {s : WorkshopServer}
  {h : List (WorkshopWorld × WorkshopEvent)} {w : WorkshopWorld}

/-- The server has the users it had, and apart from the tickets it had those that are in order. -/
structure SoldFrom (catalog : String → Workshops) (s₀ s : WorkshopServer) : Prop where
  users : s.users = s₀.users
  tickets : ∀ t ∈ s.tickets, t ∈ s₀.tickets ∨ WellSold catalog s₀.users t

/-- Tickets that are in order have seats. -/
lemma SoldFrom.seated {s₀ : WorkshopServer} (h : SoldFrom catalog s₀ s)
    (h₀ : Seated s₀.tickets) : Seated s.tickets :=
  fun t ht => (h.tickets t ht).elim (h₀ t) fun hsold => hsold.seats.1

/-- Serving a request that sells what is in order. -/
lemma SoldFrom.serve {s₀ : WorkshopServer} (h : SoldFrom catalog s₀ s) {vc : WorkshopDetailsVC}
    {q : WorkshopRequest} (hq : vc.Sells s₀.users catalog q) (e : Outcome × ℕ) :
    SoldFrom catalog s₀ (s.serve q e).server := by
  obtain ⟨e, position⟩ := e
  cases e with
  | success =>
    cases q with
    | setData ticket =>
      refine ⟨h.users, fun t ht => ?_⟩
      rcases List.mem_cons.mp ((s.store_perm ticket position).mem_iff.mp ht) with rfl | ht
      · exact Or.inr hq
      · exact h.tickets t ht
    | _ => exact h
  | _ => cases q <;> exact h

/-- The server answers by its users and its tickets. -/
lemma SoldFrom.listed {s₀ : WorkshopServer} (h : SoldFrom catalog s₀ s)
    (h₀ : Seated s₀.tickets) (q : WorkshopRequest) (e : Outcome × ℕ) :
    Listed s₀.users q (s.serve q e).answer := by
  obtain ⟨e, position⟩ := e
  cases e with
  | success =>
    cases q with
    | loadUser uid => exact fun d hd => h.users ▸ List.mem_of_mem_filter hd
    | loadTickets workshop => exact fun t ht => h.seated h₀ t (List.mem_of_mem_filter ht)
    | _ => trivial
  | _ => cases q <;> trivial

/-- The screens satisfy the conditions of the client rule. -/
lemma workshopSystem_sells {s₀ : WorkshopServer} (h₀ : Seated s₀.tickets) :
    ClientRules (workshopSystem catalog uppercased) (fun _ => False) (SoldFrom catalog s₀)
      (fun _ vc _ => (∃ id, vc.workshop = { catalog id with documentId := some id }) ∧
        vc.Priced ∧ vc.Offers s₀.users)
      (fun vc => vc.Sells s₀.users catalog) (fun _ => Listed s₀.users) where
  boot := by
    intro s a _
    have hl := (viewDidLoad_cases { catalog a.1 with documentId := some a.1 } a.2.1 a.2.2).1
    simp only [loaded, Prod.mk.injEq] at hl
    exact ⟨⟨⟨a.1, hl.1⟩, viewDidLoad_priced .., viewDidLoad_offers ..⟩, viewDidLoad_sells _ _ _⟩
  ui := by
    rintro s vc t u r _ ⟨hw, hpriced, hoffers⟩ hr
    have hworkshop := (loaded_eq (ui_rest hr).1).1
    exact ⟨⟨⟨hworkshop ▸ hw, ui_priced hpriced hr, ui_offers hoffers hr⟩,
      ui_sells hoffers hpriced hr⟩, fun q hq => hq.of_workshop hworkshop⟩
  serve := fun s q e vc hsold hq => ⟨hsold.serve hq e, hsold.listed h₀ q e, fun _ h => h⟩
  others := fun s q e vc _ _ => ⟨fun _ _ h => h, fun _ _ h => h⟩
  recv := by
    rintro s vc t q a now _ ⟨hw, hpriced, hoffers⟩ hq ha
    have hworkshop : (vc.recv uppercased q a now).client.workshop = vc.workshop :=
      vc.recv_workshop q a now
    refine ⟨⟨⟨hworkshop.symm ▸ hw, recv_priced hpriced .., recv_offers hoffers ha now⟩,
      fun q' hq' => ?_⟩, fun q' hq' _ => hq'.of_workshop hworkshop⟩
    exact (recv_sells hoffers hw hq now q' hq').of_workshop hworkshop

/-- What is stored at any time was there at the start or has been sold. -/
lemma soldFrom_start (hr : (workshopSystem catalog uppercased).RunFrom s h w)
    (hs : Seated s.tickets) : SoldFrom catalog s w.server :=
  (client_invariant exclusiveRules_false (workshopSystem_sells hs)
    ⟨rfl, fun _ ht => Or.inl ht⟩ hr).server

/-- **Every ticket is in order.** In every state of a run a ticket that was not there at the start
is for one to three seats of a workshop that costs something, at its price, and for a user of the
collection.

**Proof sketch.** The purchase view shows one to three seats, and its button is enabled only where
they cost something, so that a sheet, a checkout and a ticket are in order as well: this is kept by
every touch and every callback (`workshopSystem_sells`). A reload allows three seats at most since
the tickets that the user has got have seats. -/
theorem tickets_well_sold (hr : (workshopSystem catalog uppercased).RunFrom s h w)
    (hs : ∀ t ∈ s.tickets, 1 ≤ t.seats) :
    ∀ t ∈ w.server.tickets, t ∈ s.tickets ∨ WellSold catalog s.users t :=
  (soldFrom_start hr hs).tickets

/-- Alice's ticket is in order, although the workshop has less seats. -/
theorem tickets_well_sold_alice : ∃ h w,
    (workshopSystem (fun _ => workshopOnSale) id).RunFrom workshopShop h w ∧
    w.server.tickets.map (·.seats) = [3] ∧
    ∀ t ∈ w.server.tickets, WellSold (fun _ => workshopOnSale) workshopShop.users t := by
  have he : (exec (workshopSystem (fun _ => workshopOnSale) id).step (start workshopShop)
      (opening ++ .ui 0 .bookSeat :: .ui 0 (.didSelectRow 2) :: booking)).map
      (fun w => w.server.tickets.map (·.seats)) = some [3] := by decide +kernel
  obtain ⟨h, w, hr, -, hw⟩ := run_of_observed he
  refine ⟨h, w, hr, hw, fun t ht => ?_⟩
  exact (tickets_well_sold hr (by simp [workshopShop]) t ht).resolve_left
    (by simp [workshopShop])

/-! ## An oversold workshop stays open -/

/-- The screen does not show the workshop as sold out: its button can be tapped, unless the
workshop is over or the user has reached the limit. -/
def WorkshopDetailsVC.OnSale (vc : WorkshopDetailsVC) : Prop :=
  vc.bookTitle ≠ "Sold Out" ∧
    (vc.bookEnabled = false → vc.bookTitle = "out of date" ∨ vc.bookTitle = "Reached Limit")

instance (vc : WorkshopDetailsVC) : Decidable vc.OnSale :=
  inferInstanceAs (Decidable (_ ∧ (_ → _)))

namespace WorkshopDetailsVC

variable {vc : WorkshopDetailsVC}

/-- A workshop is not sold out if there is not exactly no seat left. -/
lemma OnSale.checkAvailability (h : vc.OnSale) {tickets : List Ticket} (now : Timestamp)
    (hleft : vc.remainigSeatCount tickets ≠ 0) : (vc.checkAvailability tickets now).OnSale := by
  have hleft' : ({ vc with tickets := tickets } : WorkshopDetailsVC).remainigSeatCount tickets ≠
      0 := hleft
  unfold WorkshopDetailsVC.checkAvailability disableBook reloadData OnSale
  dsimp only
  rw [if_neg hleft']
  have hlimit : "Reached Limit" ≠ "Sold Out" := by decide
  have hover : "out of date" ≠ "Sold Out" := by decide
  split_ifs
  · exact ⟨hlimit, fun _ => Or.inr rfl⟩
  · exact ⟨hover, fun _ => Or.inl rfl⟩
  · exact ⟨hlimit, fun _ => Or.inr rfl⟩
  · exact h

/-- A workshop is on sale when a screen is opened for it. -/
lemma viewDidLoad_onSale (workshop : Workshops) (thisUser : Option User)
    (currentUser : Option String) : (viewDidLoad workshop thisUser currentUser).client.OnSale := by
  have htitle : "Book " ≠ "Sold Out" := by decide
  cases thisUser with
  | none => exact ⟨htitle, fun h => by cases h⟩
  | some thisUser => cases currentUser <;> exact ⟨htitle, fun h => by cases h⟩

/-- A touch leaves the button as it is. -/
lemma OnSale.ui (h : vc.OnSale) {u : WorkshopTap} {r : WorkshopReaction} (hr : vc.ui u = some r) :
    r.client.OnSale := by
  rcases ui_cases hr with ⟨_, _, -, rfl⟩ | ⟨-, rfl⟩ | ⟨_, _, _, -, -, rfl⟩ <;> exact h

/-- So does a callback, but for the one that brings the tickets. -/
lemma OnSale.recv (h : vc.OnSale) {uppercased : String → String} {q : WorkshopRequest}
    {a : WorkshopAnswer} (now : Timestamp)
    (hleft : ∀ workshop documents, q = .loadTickets workshop → a = .tickets documents →
      vc.remainigSeatCount (vc.tickets ++ documents) ≠ 0) :
    (vc.recv uppercased q a now).client.OnSale := by
  unfold WorkshopDetailsVC.recv
  by_cases ht : vc.trapped = true
  · rw [if_pos ht]
    exact h
  · rw [if_neg ht]
    unfold callback
    split
    case h_1 uid documents =>
      unfold userLoaded loadTickets
      split
      · exact h
      · split
        · dsimp only
          split <;> exact h
        · exact h
    case h_2 documents => exact h.checkAvailability now (hleft _ documents rfl rfl)
    case h_3 amount tickets =>
      unfold updatePurchase
      split
      · exact h
      · split <;> exact h
    all_goals exact h

end WorkshopDetailsVC

/-- More tickets are more seats. -/
lemma seatsSold_le {tickets tickets' : List Ticket} (h : tickets.Subperm tickets')
    (hseated : Seated tickets') : seatsSold tickets ≤ seatsSold tickets' := by
  have hrest : 0 ≤ seatsSold (tickets'.diff tickets) := by
    refine List.sum_nonneg fun n hn => ?_
    obtain ⟨t, ht, rfl⟩ := List.mem_map.mp hn
    have := hseated t (List.diff_subset _ _ ht)
    omega
  rw [seatsSold_diff h]
  omega

/-- What holds after a workshop was oversold, of the screens that were not open then: no screen of
the workshop shows it as sold out, and no answer to one says that the seats are sold exactly. -/
structure StaysOpen (catalog : String → Workshops) (id : String) (w₀ w : WorkshopWorld) :
    Prop where
  oversold : ¬ NotOversold catalog id w
  screen : ∀ i vc, w₀.clients i = none → w.clients i = some vc →
    vc.workshop.documentId = some id → vc.OnSale
  answer : ∀ f ∈ w.flights, w₀.clients f.owner = none → f.request = .loadTickets id →
    ∀ documents, f.answer = some (.tickets documents) →
      (catalog id).numberOfAvailableSeats < seatsSold documents

/-- A reaction of client `i`, which keeps its screen on sale if it was not open then. -/
lemma StaysOpen.react {id : String} {w₀ : WorkshopWorld} (hw : StaysOpen catalog id w₀ w)
    {i root : ℕ} {r : WorkshopReaction}
    (hr : w₀.clients i = none → r.client.workshop.documentId = some id → r.client.OnSale) :
    StaysOpen catalog id w₀ (w.react i root r) := by
  refine ⟨hw.oversold, fun j vc hj hvc hid => ?_, fun f hf hj hq documents ha => ?_⟩
  · by_cases hij : j = i
    · subst hij
      obtain rfl : r.client = vc := by simpa using hvc
      exact hr hj hid
    · exact hw.screen j vc hj (by simpa [hij] using hvc) hid
  · rcases List.mem_append.mp hf with hf | hf
    · exact hw.answer f hf hj hq documents ha
    · obtain ⟨q, -, rfl⟩ := List.mem_map.mp hf
      cases ha

lemma StaysOpen.tick {id : String} {w₀ : WorkshopWorld} (hw : StaysOpen catalog id w₀ w) :
    StaysOpen catalog id w₀ w.tick := ⟨hw.oversold, hw.screen, hw.answer⟩

/-- A step keeps what holds after a workshop was oversold. -/
lemma StaysOpen.step {id : String} {w₀ w' : WorkshopWorld} {e : WorkshopEvent}
    (hw : StaysOpen catalog id w₀ w) (hr : (workshopSystem catalog uppercased).RunFrom s h w)
    (hs : Seated s.tickets) (he : (workshopSystem catalog uppercased).step w e = some w') :
    StaysOpen catalog id w₀ w' := by
  have hsound := workshopSystem_sound hr
  cases took_of_step he with
  | boot free => exact (hw.react fun _ _ => viewDidLoad_onSale ..).tick
  | @ui i u vc r client reacts =>
    refine StaysOpen.tick (hw.react fun hi hid => (hw.screen i vc hi client ?_).ui reacts)
    rwa [← (loaded_eq (ui_rest reacts).1).1]
  | @serve k o f flight unanswered =>
    have hseated : Seated (w.server.serve f.request o).server.tickets :=
      (soldFrom_start (hr.snoc he) hs).seated hs
    refine ⟨?_, hw.screen, fun g hg hi hq documents ha => ?_⟩
    · have hle := seatsSold_le (w.server.serve_ticketsOf f.request o id)
        fun t ht => hseated t (List.mem_of_mem_filter ht)
      have := hw.oversold
      unfold NotOversold at this ⊢
      show ¬ seatsSold ((w.server.serve f.request o).server.ticketsOf id) ≤ _
      omega
    · rcases List.mem_append.mp hg with hg | hg
      · exact hw.answer g (List.mem_of_mem_eraseIdx hg) hi hq documents ha
      · -- the answer is what is stored now
        obtain rfl := List.mem_singleton.mp hg
        have hanswer : (w.server.serve (.loadTickets id) o).answer = .tickets documents :=
          hq ▸ Option.some.inj ha
        obtain ⟨o, position⟩ := o
        cases o with
        | success =>
          obtain rfl := WorkshopAnswer.tickets.inj hanswer
          exact not_le.mp hw.oversold
        | _ => cases hanswer
  | @deliver k now f a vc flight answered client =>
    have hland : StaysOpen catalog id w₀ (w.land k) :=
      ⟨hw.oversold, hw.screen, fun g hg => hw.answer g (List.mem_of_mem_eraseIdx hg)⟩
    refine hland.react fun hi hid => ?_
    have hworkshop : (vc.recv uppercased f.request a now).client.workshop = vc.workshop :=
      vc.recv_workshop f.request a now
    have hid' : vc.workshop.documentId = some id := hworkshop ▸ hid
    refine (hw.screen _ vc hi client hid').recv now fun workshop documents hq ha => ?_
    obtain ⟨vc', hvc', hasked, -⟩ := hsound.flight f (mem_of_flight flight)
    obtain rfl : vc = vc' := Option.some.inj (client.symm.trans hvc')
    rw [hq] at hasked
    obtain rfl : id = workshop := Option.some.inj (hid'.symm.trans hasked.1)
    have hsold := hw.answer f (mem_of_flight flight) hi hq documents (ha ▸ answered)
    obtain ⟨id', hworkshop⟩ := (hsound.client _ vc client).workshop
    have hseats : vc.workshop.numberOfAvailableSeats =
        (catalog id).numberOfAvailableSeats := by
      rw [hworkshop] at hid' ⊢
      obtain rfl : id' = id := Option.some.inj hid'
      rfl
    rw [hasked.2, List.nil_append, remainigSeatCount, hseats]
    unfold seatsSold at hsold
    omega

/-- **An oversold workshop is never sold out again.** Suppose that more seats of a workshop are
sold than it has. From then on this is so at any time, and no screen that is opened for the workshop
later shows it as sold out: its button can be tapped unless the workshop is over or the user has
reached the limit.

**Proof sketch.** The seats that are sold only become more (`seatsSold_le`). A screen loads its
tickets once, and what it loads was stored after the workshop was oversold, so that the seats it
computes to be left are less than none, and are not taken for none. -/
theorem oversold_stays_open (hr : (workshopSystem catalog uppercased).RunFrom s h w)
    (hs : ∀ t ∈ s.tickets, 1 ≤ t.seats) {id : String} (hover : ¬ NotOversold catalog id w)
    {h' : List (WorkshopWorld × WorkshopEvent)} {w' : WorkshopWorld}
    (hr' : Run (workshopSystem catalog uppercased).step w h' w') :
    ¬ NotOversold catalog id w' ∧ ∀ i vc, w.clients i = none → w'.clients i = some vc →
      vc.workshop.documentId = some id → vc.OnSale := by
  suffices hopen : StaysOpen catalog id w w' from ⟨hopen.oversold, hopen.screen⟩
  induction hr' with
  | nil =>
    refine ⟨hover, fun i vc hi hvc => ?_, fun f hf hi => ?_⟩
    · rw [hi] at hvc; cases hvc
    · obtain ⟨vc, hvc, -⟩ := (workshopSystem_sound hr).flight f hf
      rw [hi] at hvc; cases hvc
  | snoc hr' he ih => exact ih.step (hr.append hr') hs he

/-- The documents of two buyers, and no tickets yet. -/
def workshopCrowd : WorkshopServer where
  users :=
    { docs := [⟨"a", "alice", some "Alice", some "Adams", none⟩,
        ⟨"b", "bob", some "Bob", some "B", none⟩]
      nodup := by decide }
  tickets := []

/-- Bob opens the workshop on a screen of his own. -/
def bobOpens : List WorkshopEvent :=
  [.boot 1 ("w", some ⟨"Bob", "B", "bob", some "b"⟩, some "bob"), .serve 0 (.success, 0),
    .deliver 0 7, .serve 0 (.success, 0), .deliver 0 7]

/-- Alice buys three seats of a workshop that has one, and Bob can still book it. -/
theorem oversold_stays_open_bob : ∃ h w h' w' vc,
    (workshopSystem (fun _ => workshopOnSale) id).RunFrom workshopCrowd h w ∧
    Run (workshopSystem (fun _ => workshopOnSale) id).step w h' w' ∧
    w'.clients 1 = some vc ∧ vc.tickets.length = 1 ∧ vc.bookEnabled = true ∧
    ¬ NotOversold (fun _ => workshopOnSale) "w" w' ∧ vc.OnSale := by
  have he : ((exec (workshopSystem (fun _ => workshopOnSale) id).step (start workshopCrowd)
      (opening ++ .ui 0 .bookSeat :: .ui 0 (.didSelectRow 2) :: booking)).bind fun w =>
      (exec (workshopSystem (fun _ => workshopOnSale) id).step w bobOpens).map fun w' =>
        (seatsSold (w.server.ticketsOf "w"), (w.clients 1).isNone,
          (w'.clients 1).map fun vc => (vc.workshop.documentId.getD "", vc.tickets.length,
            vc.bookEnabled))) = some (3, true, some ("w", 1, true)) := by decide +kernel
  obtain ⟨w, hw, he⟩ := Option.bind_eq_some_iff.mp he
  obtain ⟨w', hw', he⟩ := Option.map_eq_some_iff.mp he
  obtain ⟨h, hr, -⟩ := run_of_exec hw
  obtain ⟨h', hr', -⟩ := run_of_exec hw'
  obtain ⟨hsold, hnew, hvc⟩ : seatsSold (w.server.ticketsOf "w") = 3 ∧ w.clients 1 = none ∧
      ∃ vc, w'.clients 1 = some vc ∧ vc.workshop.documentId.getD "" = "w" ∧
        vc.tickets.length = 1 ∧ vc.bookEnabled = true := by
    simpa using he
  obtain ⟨vc, hvc, hid, hlength, henabled⟩ := hvc
  have hid : vc.workshop.documentId = some "w" := by
    cases hdoc : vc.workshop.documentId with
    | none => rw [hdoc] at hid; exact absurd hid (by decide)
    | some id => rw [hdoc] at hid; exact congrArg some hid
  have hover : ¬ NotOversold (fun _ => workshopOnSale) "w" w := by
    rw [NotOversold, hsold]
    decide +kernel
  obtain ⟨hstill, hopen⟩ := oversold_stays_open hr (by simp [workshopCrowd]) hover hr'
  exact ⟨h, w, h', w', vc, hr, hr', hvc, hlength, henabled, hstill, hopen 1 vc hnew hvc hid⟩

end Aoun
