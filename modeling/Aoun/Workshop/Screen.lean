import Mathlib.Data.List.Basic
import Aoun.Lib.Async
import Aoun.Records

/-!
# The workshop's detail screen

`WorkshopDetailsVC`, which sells the seats of a workshop, with its `PurchaseTicketView`, over
the collections `users` and `Tickets`. Workshops are posted once and never changed, so that
what a screen shows of the workshop with a document id is given by a catalog.

A new document of `Tickets` gets a random id, and queries list documents by id: the
environment chooses the place of a new ticket in the collection. What the screen only shows
is left out, and so is `String.uppercased()` of the booking id, which is a parameter.

## Main definitions

* `Aoun.PurchaseTicketView` — the view with the picker and the buy button.
* `Aoun.WorkshopDetailsVC` — the screen, with its methods.
* `Aoun.WorkshopServer`, `Aoun.workshopSystem` — any number of screens over one server.

## Main results

* `Aoun.WorkshopDetailsVC.recv_cases` — what the callbacks do.
* `Aoun.WorkshopDetailsVC.updatePurchase_cases` — an approved checkout is booked, or not.
-/

set_option relaxedAutoImplicit false
set_option autoImplicit false

namespace Aoun

/-- The seats one user may buy for a workshop. -/
def K_MaxAllowedTicket : ℤ := 3

/-! ## The purchase view -/

/-- `PurchaseTicketView`. -/
structure PurchaseTicketView where
  allowedTickets : ℤ
  ticketsPrice : ℚ
  purchaseTickets : ℤ
  buyEnabled : Bool
  isHidden : Bool
  deriving DecidableEq

namespace PurchaseTicketView

variable (view : PurchaseTicketView)

/-- `cumulativeCost`. -/
def cumulativeCost : ℚ := view.purchaseTickets * view.ticketsPrice

/-- Setting `purchaseTickets`, with its observer. -/
def setPurchaseTickets (n : ℤ) : PurchaseTicketView :=
  let view := { view with purchaseTickets := n }
  { view with buyEnabled := 0 < view.cumulativeCost }

/-- `initializedDetails()`, for the delegate's `allowedTickets` and `ticketPrice`. -/
def initializedDetails (allowedTickets : ℤ) (ticketPrice : ℚ) : PurchaseTicketView :=
  { view with allowedTickets := allowedTickets, buyEnabled := 0 < allowedTickets,
              ticketsPrice := ticketPrice }.setPurchaseTickets 1

/-- `pickerView(_:didSelectRow:inComponent:)`; the picker has `allowedTickets` rows. -/
def didSelectRow (row : ℕ) : Option PurchaseTicketView :=
  if (row : ℤ) < view.allowedTickets then some (view.setPurchaseTickets (row + 1)) else none

/-- A reload enables the buy button, for one ticket, exactly if a ticket costs something. -/
lemma initializedDetails_buyEnabled (allowedTickets : ℤ) (ticketPrice : ℚ) :
    (view.initializedDetails allowedTickets ticketPrice).buyEnabled = true ↔ 0 < ticketPrice := by
  show decide (0 < ((1 : ℤ) : ℚ) * ticketPrice) = true ↔ 0 < ticketPrice
  rw [decide_eq_true_iff, Int.cast_one, one_mul]

variable {view} {view' : PurchaseTicketView}

/-- What a touch can do to the view: it is shown or hidden, or a row is picked. -/
def Touched (view view' : PurchaseTicketView) : Prop :=
  (∃ isHidden, view' = { view with isHidden := isHidden }) ∨
    ∃ row, view.didSelectRow row = some view'

/-- A touch keeps the price of the tickets. -/
lemma Touched.ticketsPrice_eq (h : view.Touched view') :
    view'.ticketsPrice = view.ticketsPrice := by
  rcases h with ⟨isHidden, rfl⟩ | ⟨row, hrow⟩
  · rfl
  · simp only [didSelectRow, Option.ite_none_right_eq_some, Option.some.injEq] at hrow
    rw [← hrow.2]
    rfl

end PurchaseTicketView

/-! ## The server -/

/-- The collections behind the screen; the tickets in the order of their document ids. -/
structure WorkshopServer where
  users : UsersCollection
  tickets : List Ticket

/-- What the screen asks of Firestore and of the payment service. -/
inductive WorkshopRequest
  /-- The users query of `loadUser`. -/
  | loadUser (uid : String)
  /-- The query of `loadTickets`. -/
  | loadTickets (workshop : String)
  /-- `startCheckout(amount:)`, in USD, for `tickets` seats. -/
  | startCheckout (amount : ℚ) (tickets : ℤ)
  /-- The `setData` of `updatePurchase`. -/
  | setData (ticket : Ticket)
  deriving DecidableEq

/-- The answers. -/
inductive WorkshopAnswer
  | users (documents : List UserDoc)
  | tickets (documents : List Ticket)
  | tokenized
  | written
  | error (localizedDescription : String)
  | neither
  deriving DecidableEq

/-- What the history of the screens records. -/
inductive WorkshopEffect
  /-- `startCheckout(amount:)` was called. -/
  | startCheckout (amount : ℚ)
  /-- The payment service approved a checkout for that many seats. -/
  | approved (tickets : ℤ)
  /-- The server stored a ticket. -/
  | stored (ticket : Ticket)
  deriving DecidableEq

namespace WorkshopServer

/-- The tickets of the workshop with a document id. -/
def ticketsOf (s : WorkshopServer) (workshop : String) : List Ticket :=
  s.tickets.filter fun t => t.workshop = workshop

/-- The server with a new ticket, which comes at the place `position` if there is one. -/
def store (s : WorkshopServer) (ticket : Ticket) (position : ℕ) : WorkshopServer :=
  { s with tickets := s.tickets.insertIdx (min position s.tickets.length) ticket }

/-- How the server handles a request; a new ticket comes at the place `position`. -/
def serve (s : WorkshopServer) :
    WorkshopRequest → Outcome × ℕ → Served WorkshopServer WorkshopAnswer WorkshopEffect
  | _, (.failure e, _) => ⟨s, .error e, []⟩
  | .loadUser uid, (.success, _) => ⟨s, .users (s.users.withUid uid), []⟩
  | .loadTickets workshop, (.success, _) => ⟨s, .tickets (s.ticketsOf workshop), []⟩
  | .startCheckout _ tickets, (.success, _) => ⟨s, .tokenized, [.approved tickets]⟩
  | .setData ticket, (.success, position) =>
    ⟨s.store ticket position, .written, [.stored ticket]⟩
  | _, (.neither, _) => ⟨s, .neither, []⟩

/-- A new ticket is one more ticket, wherever it comes. -/
lemma store_perm (s : WorkshopServer) (ticket : Ticket) (position : ℕ) :
    (s.store ticket position).tickets.Perm (ticket :: s.tickets) :=
  List.perm_insertIdx _ _ (Nat.min_le_right _ _)

/-- The server has two kinds of effects: it approves a checkout, or stores a ticket. -/
lemma mem_serve_effects {s : WorkshopServer} {q : WorkshopRequest} {e : Outcome × ℕ}
    {o : WorkshopEffect} (h : o ∈ (s.serve q e).effects) :
    (∃ amount tickets, q = .startCheckout amount tickets ∧ o = .approved tickets) ∨
    ∃ ticket, q = .setData ticket ∧ o = .stored ticket := by
  obtain ⟨e, position⟩ := e
  cases e with
  | failure e => cases q <;> cases h
  | neither => cases q <;> cases h
  | success =>
    cases q with
    | startCheckout amount tickets =>
      exact Or.inl ⟨amount, tickets, rfl, List.mem_singleton.mp h⟩
    | setData ticket => exact Or.inr ⟨ticket, rfl, List.mem_singleton.mp h⟩
    | _ => cases h

end WorkshopServer

/-! ## The screen -/

/-- What the screen may have presented on top of itself. -/
inductive WorkshopPresented
  /-- The action sheet of `triggerPurchase`. -/
  | purchase (tickets : ℤ) (finalCost : ℚ)
  /-- The alert for a ticket that was stored. -/
  | booked (ticket : Ticket)
  /-- The alert for a checkout that failed. -/
  | canceled
  /-- The activity of `showFileShareActivity`. -/
  | activity
  deriving DecidableEq

/-- `WorkshopDetailsVC`, for the signed-in user `currentUser`. -/
structure WorkshopDetailsVC where
  workshop : Workshops
  currentUser : Option String
  tickets : List Ticket
  myTickets : List Ticket
  user : Option User
  purchaseTicketView : PurchaseTicketView
  bookTitle : String
  bookEnabled : Bool
  bookHidden : Bool
  purchaseInformation : String
  presented : Option WorkshopPresented
  dismissed : Bool
  /-- The program has stopped at a forced unwrapping, cast or index. -/
  trapped : Bool
  deriving DecidableEq

/-- What the user can do on the screen. -/
inductive WorkshopTap
  | bookSeat
  | didSelectRow (row : ℕ)
  | buyButtonTouched
  | closeButtonTouched
  /-- "Purchase" in the action sheet. -/
  | purchase
  /-- "Cancel" in the action sheet. -/
  | cancle
  /-- "Ok" in an alert; `image` tells whether a stored ticket can be drawn for the mail. -/
  | ok (image : Bool)
  /-- The activity ends, `completed` or not. -/
  | activityEnded (completed : Bool)
  deriving DecidableEq

/-- A reaction of the screen. -/
abbrev WorkshopReaction := Reaction WorkshopDetailsVC WorkshopRequest WorkshopEffect

namespace WorkshopDetailsVC

variable (vc : WorkshopDetailsVC)

/-- The program stops. -/
def trap : WorkshopReaction := .skip { vc with trapped := true }

/-- `present(_:animated:)`; it has no effect while something is presented. -/
def present (p : WorkshopPresented) : WorkshopDetailsVC :=
  { vc with presented := vc.presented.or (some p) }

/-- `remainigSeatCount(tickets:workShop:)`. -/
def remainigSeatCount (tickets : List Ticket) : ℤ :=
  vc.workshop.numberOfAvailableSeats - (tickets.map (·.seats)).sum

/-- `purchasedSeat(myTickets:)`. -/
def purchasedSeat (myTickets : List Ticket) : ℤ := (myTickets.map (·.seats)).sum

/-- `allowedTickets(_:)`. -/
def allowedTickets : ℤ := K_MaxAllowedTicket - purchasedSeat vc.myTickets

/-- `ticketPrice(_:)`. -/
def ticketPrice : ℚ := vc.workshop.priceDecimal.getD 0

/-- `purchaseTicketView.reloadData()`. -/
def reloadData : WorkshopDetailsVC :=
  { vc with purchaseTicketView :=
      vc.purchaseTicketView.initializedDetails vc.allowedTickets vc.ticketPrice }

/-- The book button gets a title and is disabled. -/
def disableBook (title : String) : WorkshopDetailsVC :=
  { vc with bookTitle := title, bookEnabled := false }

/-- `checkAvailability(tickets:)`. -/
def checkAvailability (tickets : List Ticket) (now : Timestamp) : WorkshopDetailsVC :=
  let vc := { vc with tickets := tickets }
  let vc := if vc.remainigSeatCount tickets = 0 then vc.disableBook "Sold Out" else vc
  let vc := if vc.workshop.dateTime < now then vc.disableBook "out of date" else vc
  let vc := { vc with
    myTickets := vc.tickets.filter fun t => some t.user = vc.user.bind (·.docID) }
  let purchasedSeats := purchasedSeat vc.myTickets
  let vc := { vc with purchaseInformation :=
    s!"You have already purchased {purchasedSeats} seats for this workshop." }
  let vc := if purchasedSeats = K_MaxAllowedTicket then vc.disableBook "Reached Limit" else vc
  vc.reloadData

/-- `loadTickets()`. -/
def loadTickets : WorkshopReaction :=
  let vc := { vc with purchaseInformation := "" }
  match vc.workshop.documentId with
  | none => vc.trap
  | some id => ⟨vc, [.loadTickets id], []⟩

/-- The completion of the query of `loadTickets()`. -/
def ticketsLoaded (documents : List Ticket) (now : Timestamp) : WorkshopReaction :=
  .skip (vc.checkAvailability (vc.tickets ++ documents) now)

/-- `loadUser()`. -/
def loadUser : WorkshopReaction :=
  match vc.currentUser with
  | none => .skip vc
  | some userId => ⟨vc, [.loadUser userId], []⟩

/-- The completion of the users query of `loadUser()`. -/
def userLoaded (userId : String) (documents : List UserDoc) : WorkshopReaction :=
  match documents.head? with
  | none => .skip vc
  | some doc =>
    match doc.FirstName, doc.LastName with
    | some firstName, some lastName =>
      { vc with user := some ⟨firstName, lastName, userId, some doc.documentID⟩ }.loadTickets
    | _, _ => vc.trap

/-- `viewDidLoad()` of the screen that shows `workshop`, as the storyboard has it. -/
def viewDidLoad (workshop : Workshops) (thisUser : Option User) (currentUser : Option String) :
    WorkshopReaction :=
  let vc : WorkshopDetailsVC :=
    { workshop := workshop, currentUser := currentUser, tickets := [], myTickets := [],
      user := none,
      purchaseTicketView :=
        { allowedTickets := 0, ticketsPrice := 0, purchaseTickets := 0, buyEnabled := true,
          isHidden := true },
      bookTitle := "Book ", bookEnabled := true, bookHidden := false,
      purchaseInformation := "", presented := none, dismissed := false, trapped := false }
  let vc := vc.reloadData
  match thisUser with
  | none => vc.trap
  | some thisUser => { vc with bookHidden := some thisUser.uid = workshop.uid }.loadUser

/-- `bookSeat(_:)`. -/
def bookSeat : WorkshopDetailsVC :=
  { vc with purchaseTicketView := { vc.purchaseTicketView with isHidden := false } }

/-- `view.isHidden = true` of the purchase view. -/
def hidePurchaseView : WorkshopDetailsVC :=
  { vc with purchaseTicketView := { vc.purchaseTicketView with isHidden := true } }

/-- `purchase(_:buyTickets:forCost:)`, with the sheet of `triggerPurchase`. -/
def buyTickets (tickets : ℤ) (forCost : ℚ) : WorkshopReaction :=
  .skip (vc.present (.purchase tickets forCost)).hidePurchaseView

/-- `paymentAction(amount:tickets:)`. -/
def paymentAction (amount : ℚ) (tickets : ℤ) : WorkshopReaction :=
  ⟨vc, [.startCheckout amount tickets], [.startCheckout amount]⟩

/-- `bookingID(workshop:)`: the first letters of the words of the title, in upper case, and a
number; `none` where a word is empty. -/
def bookingID (uppercased : String → String) : Option String :=
  ((vc.workshop.Title.toList.splitOn ' ').mapM List.head?).map fun namAbvr =>
    uppercased (String.ofList namAbvr) ++ format03d (vc.tickets.length + 1)

/-- `updatePurchase(finalAmount:tickets:)`, which is all that the success closure of
`paymentAction(amount:tickets:)` does. -/
def updatePurchase (uppercased : String → String) (finalAmount : ℚ) (tickets : ℤ)
    (now : Timestamp) : WorkshopReaction :=
  match vc.user with
  | none => .skip vc
  | some user =>
    match vc.bookingID uppercased with
    | none => vc.trap
    | some bookingID =>
      let ticket : Ticket :=
        { buyerName := user.FirstName, price := finalAmount, time := now,
          user := user.docID.getD "", workshop := vc.workshop.documentId.getD "",
          workshopTitle := vc.workshop.Title, bookingID := bookingID, seats := tickets }
      ⟨vc, [.setData ticket], []⟩

/-- The screen takes touches: nothing covers it. -/
def Tappable : Prop := vc.trapped = false ∧ vc.dismissed = false ∧ vc.presented = none

instance : Decidable vc.Tappable := inferInstanceAs (Decidable (_ ∧ _ ∧ _))

/-- The reactions to the user. -/
def ui : WorkshopTap → Option WorkshopReaction
  | .bookSeat =>
    if vc.Tappable ∧ vc.bookHidden = false ∧ vc.bookEnabled = true then
      some (.skip vc.bookSeat)
    else none
  | .didSelectRow row =>
    if vc.Tappable ∧ vc.purchaseTicketView.isHidden = false then
      (vc.purchaseTicketView.didSelectRow row).map fun view =>
        .skip { vc with purchaseTicketView := view }
    else none
  | .buyButtonTouched =>
    if vc.Tappable ∧ vc.purchaseTicketView.isHidden = false ∧
        vc.purchaseTicketView.buyEnabled = true then
      some (vc.buyTickets vc.purchaseTicketView.purchaseTickets
        vc.purchaseTicketView.cumulativeCost)
    else none
  | .closeButtonTouched =>
    if vc.Tappable ∧ vc.purchaseTicketView.isHidden = false then
      some (.skip vc.hidePurchaseView)
    else none
  | .purchase =>
    match vc.trapped, vc.presented with
    | false, some (.purchase tickets finalCost) =>
      some ({ vc with presented := none }.paymentAction (PriceUtils.usd finalCost) tickets)
    | _, _ => none
  | .cancle =>
    match vc.trapped, vc.presented with
    | false, some (.purchase _ _) => some (.skip { vc with presented := none })
    | _, _ => none
  | .ok image =>
    match vc.trapped, vc.presented with
    | false, some (.booked _) =>
      let vc := { vc with presented := none }
      some (.skip (if image then vc.present .activity else vc))
    | false, some .canceled => some (.skip { vc with presented := none, dismissed := true })
    | _, _ => none
  | .activityEnded completed =>
    match vc.trapped, vc.presented with
    | false, some .activity =>
      let vc := { vc with presented := none }
      some (.skip (if completed then { vc with dismissed := true } else vc))
    | _, _ => none

/-- The callbacks of a program that has not stopped. -/
def callback (uppercased : String → String) :
    WorkshopRequest → WorkshopAnswer → Timestamp → WorkshopReaction
  | .loadUser uid, .users documents, _ => vc.userLoaded uid documents
  | .loadTickets _, .tickets documents, now => vc.ticketsLoaded documents now
  | .startCheckout amount tickets, .tokenized, now =>
    vc.updatePurchase uppercased amount tickets now
  | .startCheckout _ _, .error _, _ => .skip (vc.present .canceled)
  | .setData ticket, .written, _ => .skip (vc.present (.booked ticket))
  | _, _, _ => .skip vc

/-- The callbacks. -/
def recv (uppercased : String → String) (q : WorkshopRequest) (a : WorkshopAnswer)
    (now : Timestamp) : WorkshopReaction :=
  if vc.trapped then .skip vc else vc.callback uppercased q a now

/-! ### What the reactions do -/

variable {vc}

/-- What the screen has loaded, and what it was opened with. -/
def loaded (vc : WorkshopDetailsVC) :
    Workshops × Option String × List Ticket × List Ticket × Option User :=
  (vc.workshop, vc.currentUser, vc.tickets, vc.myTickets, vc.user)

lemma loaded_eq {vc' : WorkshopDetailsVC} (hl : vc'.loaded = vc.loaded) :
    vc'.workshop = vc.workshop ∧ vc'.tickets = vc.tickets ∧ vc'.myTickets = vc.myTickets ∧
      vc'.user = vc.user := by
  simp only [loaded, Prod.mk.injEq] at hl
  exact ⟨hl.1, hl.2.2⟩

lemma checkAvailability_loaded (vc : WorkshopDetailsVC) (tickets : List Ticket)
    (now : Timestamp) : (vc.checkAvailability tickets now).loaded =
      (vc.workshop, vc.currentUser, tickets,
        tickets.filter (fun t => some t.user = vc.user.bind (·.docID)), vc.user) := by
  unfold checkAvailability disableBook reloadData
  dsimp only
  split_ifs <;> rfl

/-- A checkout that succeeds now is booked: the user is loaded, and no word of the title is
empty. -/
def Books (vc : WorkshopDetailsVC) : Prop :=
  vc.user ≠ none ∧ [] ∉ vc.workshop.Title.toList.splitOn ' '

/-- There are first letters exactly where no word is empty. -/
lemma mapM_head?_eq_none_iff (words : List (List Char)) :
    words.mapM List.head? = none ↔ [] ∈ words := by
  induction words with
  | nil => simp
  | cons word words ih =>
    rw [List.mapM_cons, List.mem_cons]
    cases word with
    | nil => simp
    | cons c cs =>
      cases hw : words.mapM List.head? with
      | none => simpa using ih.mp hw
      | some cs' =>
        have : [] ∉ words := fun h => by simp [ih.mpr h] at hw
        simpa using this

/-- What becomes of an approved checkout: nothing, or one ticket for the seats paid. -/
lemma updatePurchase_cases (uppercased : String → String) (finalAmount : ℚ) (tickets : ℤ)
    (now : Timestamp) :
    (¬ vc.Books ∧ (vc.updatePurchase uppercased finalAmount tickets now).requests = []) ∨
    (vc.Books ∧ ∃ user ticket, vc.user = some user ∧
      (vc.updatePurchase uppercased finalAmount tickets now).requests = [.setData ticket] ∧
      ticket.user = user.docID.getD "" ∧ ticket.workshop = vc.workshop.documentId.getD "" ∧
      ticket.seats = tickets) := by
  unfold updatePurchase Books
  cases hu : vc.user with
  | none => exact Or.inl ⟨by simp, rfl⟩
  | some user =>
    cases hb : vc.bookingID uppercased with
    | none =>
      have hword := (mapM_head?_eq_none_iff _).mp (Option.map_eq_none_iff.mp hb)
      exact Or.inl ⟨fun h => h.2 hword, rfl⟩
    | some bookingID =>
      refine Or.inr ⟨⟨by simp, fun hword => ?_⟩, user, _, rfl, rfl, rfl, rfl, rfl⟩
      rw [WorkshopDetailsVC.bookingID, (mapM_head?_eq_none_iff _).mpr hword] at hb
      cases hb

lemma updatePurchase_effects (uppercased : String → String) (finalAmount : ℚ) (tickets : ℤ)
    (now : Timestamp) : (vc.updatePurchase uppercased finalAmount tickets now).effects = [] := by
  unfold updatePurchase
  cases vc.user with
  | none => rfl
  | some user =>
    cases vc.bookingID uppercased <;> rfl

lemma updatePurchase_loaded (uppercased : String → String) (finalAmount : ℚ) (tickets : ℤ)
    (now : Timestamp) :
    (vc.updatePurchase uppercased finalAmount tickets now).client.loaded = vc.loaded := by
  unfold updatePurchase
  cases vc.user with
  | none => rfl
  | some user =>
    cases vc.bookingID uppercased <;> rfl

/-- The launch asks for the user, or stops. -/
lemma viewDidLoad_cases (workshop : Workshops) (thisUser : Option User)
    (currentUser : Option String) :
    (viewDidLoad workshop thisUser currentUser).client.loaded =
        (workshop, currentUser, [], [], none) ∧
      ((viewDidLoad workshop thisUser currentUser).requests = [] ∨
        ∃ uid, (viewDidLoad workshop thisUser currentUser).requests = [.loadUser uid]) ∧
      (viewDidLoad workshop thisUser currentUser).effects = [] := by
  cases thisUser with
  | none => exact ⟨rfl, Or.inl rfl, rfl⟩
  | some thisUser =>
    cases currentUser with
    | none => exact ⟨rfl, Or.inl rfl, rfl⟩
    | some uid => exact ⟨rfl, Or.inr ⟨uid, rfl⟩, rfl⟩

/-- The tickets asked for are those of the workshop. -/
lemma loadTickets_cases (vc : WorkshopDetailsVC) :
    vc.loadTickets.client.loaded = vc.loaded ∧
      (vc.loadTickets.requests = [] ∨ ∃ id, vc.workshop.documentId = some id ∧
        vc.loadTickets.requests = [.loadTickets id]) ∧
      vc.loadTickets.effects = [] := by
  cases hid : vc.workshop.documentId with
  | none => simp [loadTickets, hid, trap, loaded]
  | some id => simp [loadTickets, hid, loaded]

/-- Nothing is loaded by the answer to the users query, or the first user is and the tickets
are asked for. -/
lemma userLoaded_cases (vc : WorkshopDetailsVC) (uid : String) (documents : List UserDoc) :
    ((vc.userLoaded uid documents).client.loaded = vc.loaded ∧
      (vc.userLoaded uid documents).requests = [] ∧
      (vc.userLoaded uid documents).effects = []) ∨
    ∃ user id, user.docID = some id ∧
      vc.userLoaded uid documents = { vc with user := some user }.loadTickets := by
  unfold userLoaded
  split
  case h_1 => exact Or.inl ⟨rfl, rfl, rfl⟩
  case h_2 doc _ =>
    split
    case h_1 firstName lastName _ _ => exact Or.inr ⟨_, doc.documentID, rfl, rfl⟩
    case h_2 => exact Or.inl ⟨rfl, rfl, rfl⟩

/-- **What a touch does.** It starts the checkout of the sheet, puts up the sheet for the seats that
the purchase view shows, where its button is enabled, or only changes the view and what is
presented, where it puts up no sheet. -/
lemma ui_cases {u : WorkshopTap} {r : WorkshopReaction} (h : vc.ui u = some r) :
    (∃ tickets finalCost, vc.presented = some (.purchase tickets finalCost) ∧
      r = { vc with presented := none }.paymentAction (PriceUtils.usd finalCost) tickets) ∨
    (vc.purchaseTicketView.buyEnabled = true ∧
      r = vc.buyTickets vc.purchaseTicketView.purchaseTickets
        vc.purchaseTicketView.cumulativeCost) ∨
    ∃ view presented dismissed, vc.purchaseTicketView.Touched view ∧
      (∀ tickets cost, presented = some (.purchase tickets cost) → presented = vc.presented) ∧
      r = .skip { vc with purchaseTicketView := view, presented := presented,
                          dismissed := dismissed } := by
  have hkept : vc.purchaseTicketView.Touched vc.purchaseTicketView := Or.inl ⟨_, rfl⟩
  cases u with
  | bookSeat =>
    simp only [ui, Option.ite_none_right_eq_some, Option.some.injEq] at h
    exact Or.inr (Or.inr ⟨_, vc.presented, vc.dismissed, Or.inl ⟨false, rfl⟩, fun _ _ _ => rfl,
      h.2.symm⟩)
  | didSelectRow row =>
    simp only [ui, Option.ite_none_right_eq_some, Option.map_eq_some_iff] at h
    obtain ⟨-, view, hview, rfl⟩ := h
    exact Or.inr (Or.inr ⟨view, _, _, Or.inr ⟨row, hview⟩, fun _ _ _ => rfl, rfl⟩)
  | buyButtonTouched =>
    simp only [ui, Option.ite_none_right_eq_some, Option.some.injEq] at h
    exact Or.inr (Or.inl ⟨h.1.2.2, h.2.symm⟩)
  | closeButtonTouched =>
    simp only [ui, Option.ite_none_right_eq_some, Option.some.injEq] at h
    exact Or.inr (Or.inr ⟨_, vc.presented, vc.dismissed, Or.inl ⟨true, rfl⟩, fun _ _ _ => rfl,
      h.2.symm⟩)
  | purchase =>
    simp only [ui] at h
    split at h
    case h_1 tickets finalCost _ hp =>
      exact Or.inl ⟨tickets, finalCost, hp, (Option.some.inj h).symm⟩
    case h_2 => cases h
  | cancle =>
    simp only [ui] at h
    split at h
    case h_1 =>
      exact Or.inr (Or.inr ⟨_, none, _, hkept, by simp, (Option.some.inj h).symm⟩)
    case h_2 => cases h
  | ok image =>
    simp only [ui] at h
    split at h
    case h_1 =>
      right; right
      cases image with
      | false => exact ⟨_, none, _, hkept, by simp, (Option.some.inj h).symm⟩
      | true => exact ⟨_, some .activity, _, hkept, by simp, (Option.some.inj h).symm⟩
    case h_2 =>
      exact Or.inr (Or.inr ⟨_, none, true, hkept, by simp, (Option.some.inj h).symm⟩)
    case h_3 => cases h
  | activityEnded completed =>
    simp only [ui] at h
    split at h
    case h_1 =>
      right; right
      cases completed with
      | false => exact ⟨_, none, _, hkept, by simp, (Option.some.inj h).symm⟩
      | true => exact ⟨_, none, true, hkept, by simp, (Option.some.inj h).symm⟩
    case h_2 => cases h

/-- A touch loads nothing, and starts checkouts at most. -/
lemma ui_rest {u : WorkshopTap} {r : WorkshopReaction} (h : vc.ui u = some r) :
    r.client.loaded = vc.loaded ∧
      (∀ q ∈ r.requests, ∃ amount tickets, q = .startCheckout amount tickets) ∧
      ∀ o ∈ r.effects, ∃ amount, o = .startCheckout amount := by
  rcases ui_cases h with ⟨tickets, finalCost, -, rfl⟩ | ⟨-, rfl⟩ |
    ⟨view, presented, _, -, -, rfl⟩
  · exact ⟨rfl, by simp [paymentAction], by simp [paymentAction]⟩
  · exact ⟨rfl, by simp [buyTickets], by simp [buyTickets]⟩
  · exact ⟨rfl, by simp, by simp⟩

/-- A screen presents a sheet that was there or that it presents now. -/
lemma present_purchase {p : WorkshopPresented} {tickets : ℤ} {cost : ℚ}
    (h : (vc.present p).presented = some (.purchase tickets cost)) :
    vc.presented = some (.purchase tickets cost) ∨ p = .purchase tickets cost := by
  unfold present at h
  cases hv : vc.presented with
  | none => simp [hv] at h; exact Or.inr h
  | some p' => simp [hv] at h; exact Or.inl (by rw [h])

/-- The purchase view after a callback is the one before it, or that one reloaded. -/
lemma recv_view (vc : WorkshopDetailsVC) (uppercased : String → String) (q : WorkshopRequest)
    (a : WorkshopAnswer) (now : Timestamp) :
    (vc.recv uppercased q a now).client.purchaseTicketView = vc.purchaseTicketView ∨
      ∃ allowed, (vc.recv uppercased q a now).client.purchaseTicketView =
        vc.purchaseTicketView.initializedDetails allowed vc.ticketPrice := by
  unfold recv
  by_cases ht : vc.trapped = true
  · rw [if_pos ht]
    exact Or.inl rfl
  · rw [if_neg ht]
    unfold callback
    split
    case h_1 uid documents =>
      left
      unfold userLoaded loadTickets
      split
      · rfl
      · split
        · dsimp only
          split <;> rfl
        · rfl
    case h_2 documents =>
      right
      show ∃ allowed, (vc.checkAvailability (vc.tickets ++ documents) now).purchaseTicketView = _
      unfold checkAvailability disableBook reloadData
      dsimp only
      split_ifs <;> exact ⟨_, rfl⟩
    case h_3 amount tickets =>
      left
      unfold updatePurchase
      split
      · rfl
      · split <;> rfl
    all_goals exact Or.inl rfl

/-- A sheet that comes up in a callback was up before. -/
lemma recv_sheet {uppercased : String → String} {q : WorkshopRequest} {a : WorkshopAnswer}
    {now : Timestamp} {tickets : ℤ} {cost : ℚ}
    (hsheet : (vc.recv uppercased q a now).client.presented = some (.purchase tickets cost)) :
    vc.presented = some (.purchase tickets cost) := by
  unfold recv at hsheet
  by_cases ht : vc.trapped = true
  · rwa [if_pos ht] at hsheet
  · rw [if_neg ht] at hsheet
    unfold callback at hsheet
    split at hsheet
    case h_1 uid documents =>
      unfold userLoaded loadTickets at hsheet
      split at hsheet
      · exact hsheet
      · split at hsheet
        · dsimp only at hsheet
          split at hsheet <;> exact hsheet
        · exact hsheet
    case h_2 documents =>
      have hkept : (vc.checkAvailability (vc.tickets ++ documents) now).presented =
          vc.presented := by
        unfold checkAvailability disableBook reloadData
        dsimp only
        split_ifs <;> rfl
      exact hkept ▸ hsheet
    case h_3 amount tickets =>
      unfold updatePurchase at hsheet
      split at hsheet
      · exact hsheet
      · split at hsheet <;> exact hsheet
    case h_4 => exact (present_purchase hsheet).resolve_right (by simp)
    case h_5 => exact (present_purchase hsheet).resolve_right (by simp)
    case h_6 => exact hsheet

/-- What a callback does: it takes over the user or the tickets, books an approved checkout,
or leaves alone what is loaded. -/
theorem recv_cases (vc : WorkshopDetailsVC) (uppercased : String → String)
    (q : WorkshopRequest) (a : WorkshopAnswer) (now : Timestamp) :
    (∃ uid documents, q = .loadUser uid ∧ a = .users documents ∧
      vc.recv uppercased q a now = vc.userLoaded uid documents) ∨
    (∃ workshop documents, q = .loadTickets workshop ∧ a = .tickets documents ∧
      vc.recv uppercased q a now = vc.ticketsLoaded documents now) ∨
    (∃ amount tickets, q = .startCheckout amount tickets ∧ a = .tokenized ∧
      vc.trapped = false ∧
      vc.recv uppercased q a now = vc.updatePurchase uppercased amount tickets now) ∨
    ((∀ amount tickets, q = .startCheckout amount tickets → a = .tokenized →
        vc.trapped = true) ∧
      (vc.recv uppercased q a now).client.loaded = vc.loaded ∧
      (vc.recv uppercased q a now).requests = [] ∧
      (vc.recv uppercased q a now).effects = []) := by
  unfold recv
  by_cases ht : vc.trapped = true
  · rw [if_pos ht]
    exact Or.inr (Or.inr (Or.inr ⟨fun _ _ _ _ => ht, rfl, rfl, rfl⟩))
  · rw [if_neg ht]
    unfold callback
    split
    case h_1 uid documents => exact Or.inl ⟨uid, documents, rfl, rfl, rfl⟩
    case h_2 workshop documents => exact Or.inr (Or.inl ⟨workshop, documents, rfl, rfl, rfl⟩)
    case h_3 amount tickets =>
      exact Or.inr (Or.inr (Or.inl ⟨amount, tickets, rfl, rfl, by simpa using ht, rfl⟩))
    case h_4 => exact Or.inr (Or.inr (Or.inr ⟨by simp, rfl, rfl, rfl⟩))
    case h_5 => exact Or.inr (Or.inr (Or.inr ⟨by simp, rfl, rfl, rfl⟩))
    case h_6 h₁ _ _ =>
      refine Or.inr (Or.inr (Or.inr ⟨?_, rfl, rfl, rfl⟩))
      rintro amount tickets rfl rfl
      simp at *

/-- The callbacks leave the workshop of a screen alone. -/
lemma recv_workshop (vc : WorkshopDetailsVC) {uppercased : String → String}
    (q : WorkshopRequest) (a : WorkshopAnswer) (now : Timestamp) :
    (vc.recv uppercased q a now).client.workshop = vc.workshop := by
  rcases vc.recv_cases uppercased q a now with ⟨uid, documents, -, -, hr⟩ |
    ⟨workshop, documents, -, -, hr⟩ | ⟨amount, tickets, -, -, -, hr⟩ | ⟨-, hl, -⟩
  · rw [hr]
    rcases vc.userLoaded_cases uid documents with ⟨hl, -⟩ | ⟨user, id, -, hl⟩
    · exact (loaded_eq hl).1
    · rw [hl]
      exact (loaded_eq ({ vc with user := some user } : WorkshopDetailsVC).loadTickets_cases.1).1
  · have hl := vc.checkAvailability_loaded (vc.tickets ++ documents) now
    simp only [loaded, Prod.mk.injEq] at hl
    rw [hr]
    exact hl.1
  · rw [hr]
    exact (loaded_eq (updatePurchase_loaded uppercased amount tickets now)).1
  · exact (loaded_eq hl).1

end WorkshopDetailsVC

/-- Any number of workshop screens, of any users, over one server. A screen is opened for the
workshop with a document id, as the catalog has it. -/
def workshopSystem (catalog : String → Workshops) (uppercased : String → String) :
    AsyncSystem WorkshopServer WorkshopDetailsVC (String × Option User × Option String)
      WorkshopTap WorkshopRequest (Outcome × ℕ) WorkshopAnswer Timestamp WorkshopEffect where
  boot := fun a => WorkshopDetailsVC.viewDidLoad { catalog a.1 with documentId := some a.1 }
    a.2.1 a.2.2
  ui := WorkshopDetailsVC.ui
  serve := WorkshopServer.serve
  recv := fun vc => vc.recv uppercased

/-- The states of the system of workshop screens. -/
abbrev WorkshopWorld :=
  AsyncSystem.World WorkshopServer WorkshopDetailsVC WorkshopRequest WorkshopAnswer
    WorkshopEffect

/-- What can happen in it. -/
abbrev WorkshopEvent :=
  AsyncSystem.Event (String × Option User × Option String) WorkshopTap (Outcome × ℕ) Timestamp

/-! ## A workshop on sale -/

/-- A workshop with one seat, for 15 SAR. -/
def workshopOnSale : Workshops where
  Title := "Art"
  presenter := "Sara"
  price := "15"
  seat := "1"
  description := ""
  dateTime := 100
  documentId := none
  uid := some "presenter"

/-- A buyer, as the app holds its own user. -/
def buyer : User := ⟨"Alice", "A", "alice", some "a"⟩

/-- The buyer's document, and no tickets yet. -/
def workshopShop : WorkshopServer where
  users :=
    { docs := [⟨"a", "alice", some "Alice", some "A", none⟩]
      nodup := by decide }
  tickets := []

/-- The buyer opens the workshop, which loads the user and the tickets. -/
def opening : List WorkshopEvent :=
  [.boot 0 ("w", some buyer, some "alice"), .serve 0 (.success, 0), .deliver 0 7,
    .serve 0 (.success, 0), .deliver 0 7]

/-- The buyer books what the picker shows; the checkout succeeds and the ticket is stored. -/
def booking : List WorkshopEvent :=
  [.ui 0 .buyButtonTouched, .ui 0 .purchase, .serve 0 (.success, 0), .deliver 0 7,
    .serve 0 (.success, 0), .deliver 0 7]

end Aoun
