import Aoun.Digits
import Aoun.Workshop.Booked
import Aoun.Workshop.Post

/-!
# Workshops that can be booked

The form keeps the price and the number of seats as texts, lets only digits into them, at most
four, and stores them if they are not blank. The screens for booking read the texts: without a
seat left the book button is disabled, and a price that is not positive counts as no price, for
which the purchase view does not enable its buy button. The form for notes refuses a price that
denotes `0`; this one does not look at what the digits denote.

## Main definitions

* `Aoun.Workshops.Bookable` — a workshop has a seat and a price, and its screen sells a seat.
* `Aoun.DigitText` — the texts that the fields for the price and for the seats can hold.

## Main results

* `Aoun.posted_digits` — what the form stores as the price and as the number of seats.
* `Aoun.offersSeat_iff` — when the screen of a buyer sells a seat of a new workshop.
* `Aoun.bookable_iff` — which posted workshops can be booked.
-/

set_option relaxedAutoImplicit false
set_option autoImplicit false

namespace Aoun

open StepSystem PostWorkshopViewController

/-! ## The stored document and the screen of a buyer -/

/-- The data that `createDocument()` hands to `setData(_:)` for the workshop. -/
def Workshops.data (workshop : Workshops) : WorkshopData where
  title := some workshop.Title
  presenter := some workshop.presenter
  price := some workshop.price
  seat := some workshop.seat
  desc := some workshop.description
  dateTime := some workshop.dateTime
  uid := workshop.uid

/-- The screen of a workshop without tickets: the users query was answered with `documents`, and
the one for tickets, at the time `now`, with nothing. -/
def freshScreen (workshop : Workshops) (thisUser : User) (userId : String)
    (documents : List UserDoc) (now : Timestamp) : WorkshopDetailsVC :=
  let vc := (WorkshopDetailsVC.viewDidLoad workshop (some thisUser) (some userId)).client
  let vc := (vc.userLoaded userId documents).client
  (vc.ticketsLoaded [] now).client

/-- The book button can be tapped, and the buy button of the purchase view is enabled for one
seat. -/
structure WorkshopDetailsVC.OffersSeat (screen : WorkshopDetailsVC) : Prop where
  bookHidden : screen.bookHidden = false
  bookEnabled : screen.bookEnabled = true
  purchaseTickets : screen.purchaseTicketView.purchaseTickets = 1
  allowedTickets : 1 ≤ screen.purchaseTicketView.allowedTickets
  buyEnabled : screen.purchaseTicketView.buyEnabled = true

/-- The workshop has a seat and a price, and before its date the fresh screen of a buyer, whoever
it is, offers a seat. -/
structure Workshops.Bookable (workshop : Workshops) : Prop where
  seats : 1 ≤ workshop.numberOfAvailableSeats
  price : ∃ price, workshop.priceDecimal = some price ∧ 0 < price
  offers : ∀ thisUser userId documents now, some thisUser.uid ≠ workshop.uid →
    now ≤ workshop.dateTime → (freshScreen workshop thisUser userId documents now).OffersSeat

/-! ## What the fields can hold -/

/-- At most four digits. -/
def DigitText (text : String) : Prop :=
  (∀ c ∈ text.toList, digit c = true) ∧ utf16Length text ≤ 4

/-- The characters of a text after an edit come from the text and from what was typed. -/
lemma mem_replacingCharacters {text string : String} {location length : ℕ} {c : Char}
    (hc : c ∈ (replacingCharacters text location length string).toList) :
    c ∈ text.toList ∨ c ∈ string.toList := by
  rw [replacingCharacters, String.toList_ofList, List.append_assoc] at hc
  rcases List.mem_append.mp hc with hc | hc
  · exact Or.inl (List.mem_of_mem_take hc)
  · rcases List.mem_append.mp hc with hc | hc
    · exact Or.inr hc
    · exact Or.inl (List.mem_of_mem_drop hc)

/-- An edit that the filter lets through leaves at most four digits. -/
lemma DigitText.edited {text string : String} {location length : ℕ} (ht : DigitText text)
    (hs : string.toList.all digit = true)
    (hlength : utf16Length (replacingCharacters text location length string) ≤ 4) :
    DigitText (replacingCharacters text location length string) := by
  refine ⟨fun c hc => ?_, hlength⟩
  rcases mem_replacingCharacters hc with hc | hc
  · exact ht.1 c hc
  · exact List.all_eq_true.mp hs c hc

/-- The form of `currentUser` has digits in the fields for the price and the seats, and so has
what it has posted. -/
structure PostWorkshopViewController.Digits (currentUser : Option String)
    (vc : PostWorkshopViewController) : Prop where
  user : vc.currentUser = currentUser
  priceTextbox : DigitText vc.priceTextbox
  seat : DigitText vc.seat
  posted : ∀ workshop ∈ vc.posted,
    DigitText workshop.price ∧ DigitText workshop.seat ∧ workshop.uid = currentUser

section

variable {currentUser : Option String} {date : Timestamp} {vc vc' : PostWorkshopViewController}
  {h : List (PostWorkshopViewController × PostWorkshopTap)} {workshop : Workshops}

/-- A tap leaves digits in the fields. -/
lemma step_digits {tap : PostWorkshopTap} (hd : vc.Digits currentUser)
    (hs : vc.step tap = some vc') : vc'.Digits currentUser := by
  rcases step_cases hs with ⟨field, location, length, string, hchange, rfl⟩ |
    ⟨-, color, msg, rfl⟩ | htyped
  · cases field with
    | Wtitle => exact ⟨hd.user, hd.priceTextbox, hd.seat, hd.posted⟩
    | presenter => exact ⟨hd.user, hd.priceTextbox, hd.seat, hd.posted⟩
    | priceTextbox =>
      obtain ⟨hall, hlength⟩ := of_decide_eq_true hchange
      exact ⟨hd.user, hd.priceTextbox.edited hall hlength, hd.seat, hd.posted⟩
    | seat =>
      obtain ⟨hall, hlength⟩ := of_decide_eq_true hchange
      exact ⟨hd.user, hd.priceTextbox, hd.seat.edited hall hlength, hd.posted⟩
  · refine ⟨hd.user, hd.priceTextbox, hd.seat, fun workshop hw => ?_⟩
    rcases List.mem_append.mp hw with hw | hw
    · exact hd.posted workshop hw
    · rw [List.mem_singleton.mp hw]
      exact ⟨hd.priceTextbox, hd.seat, hd.user⟩
  · obtain ⟨huser, -, -, hprice, hseat, hposted⟩ := typed_eq htyped
    exact ⟨huser ▸ hd.user, hprice ▸ hd.priceTextbox, hseat ▸ hd.seat,
      hposted ▸ hd.posted⟩

/-- **What is stored as the price and the seats.** In every run of the form each of the two is
made of one to four digits, and the workshop is stored for the signed-in user. -/
theorem posted_digits (hr : PostWorkshopRun currentUser date h vc) (hw : workshop ∈ vc.posted) :
    (DigitText workshop.price ∧ workshop.price.toList ≠ []) ∧
      (DigitText workshop.seat ∧ workshop.seat.toList ≠ []) ∧ workshop.uid = currentUser := by
  have hempty : DigitText "" := ⟨by simp, by decide⟩
  have hd : vc.Digits currentUser :=
    hr.invariant ⟨rfl, hempty, hempty, by simp [viewDidLoad]⟩ fun _ _ _ => step_digits
  obtain ⟨hprice, hseat, huid⟩ := hd.posted workshop hw
  obtain ⟨-, hpriceTrimmed, hseatTrimmed⟩ := (posted_accepted hr hw).trimmed_ne
  exact ⟨⟨hprice, toList_ne_nil_of_trimmed hpriceTrimmed⟩,
    ⟨hseat, toList_ne_nil_of_trimmed hseatTrimmed⟩, huid⟩

/-! ## What is read of them -/

/-- The number of seats that the digits denote. -/
lemma numberOfAvailableSeats_of_digits (hd : DigitText workshop.seat)
    (hne : workshop.seat.toList ≠ []) :
    workshop.numberOfAvailableSeats = natOfDigits workshop.seat.toList := by
  have hlength : workshop.seat.toList.length ≤ 4 :=
    (length_le_utf16Length workshop.seat).trans hd.2
  have hlt : natOfDigits workshop.seat.toList < 10 ^ 4 :=
    (natOfDigits_lt hd.1).trans_le (Nat.pow_le_pow_right (by omega) hlength)
  rw [Workshops.numberOfAvailableSeats, integer_of_digits hne hd.1 (by omega), Option.getD_some]

/-- The price that the digits denote, which is none where they denote `0`. -/
lemma priceDecimal_of_digits (hd : DigitText workshop.price) (hne : workshop.price.toList ≠ []) :
    workshop.priceDecimal = if 0 < natOfDigits workshop.price.toList then
      some (natOfDigits workshop.price.toList : ℚ) else none := by
  have hlength : 0 < workshop.price.length := by
    rw [← String.length_toList]
    exact List.length_pos_iff.mpr hne
  rw [Workshops.priceDecimal, positiveDecimal, if_pos hlength, decimal_of_digits hne hd.1,
    Option.filter_some]
  simp

end

/-! ## The screen of a buyer -/

namespace WorkshopDetailsVC

/-- The answer to the users query changes neither the book button nor the workshop. -/
lemma userLoaded_button (vc : WorkshopDetailsVC) (userId : String) (documents : List UserDoc) :
    (vc.userLoaded userId documents).client.bookHidden = vc.bookHidden ∧
      (vc.userLoaded userId documents).client.bookEnabled = vc.bookEnabled ∧
      (vc.userLoaded userId documents).client.workshop = vc.workshop ∧
      (vc.userLoaded userId documents).client.tickets = vc.tickets := by
  unfold userLoaded
  split
  · exact ⟨rfl, rfl, rfl, rfl⟩
  · split
    · unfold loadTickets
      dsimp only
      split <;> exact ⟨rfl, rfl, rfl, rfl⟩
    · exact ⟨rfl, rfl, rfl, rfl⟩

/-- What `checkAvailability(tickets:)` does before the date, without tickets: the book button is
disabled if there are no seats, and the purchase view is reloaded, with three seats allowed. -/
lemma checkAvailability_nil (vc : WorkshopDetailsVC) {now : Timestamp}
    (hnow : now ≤ vc.workshop.dateTime) :
    (vc.checkAvailability [] now).bookHidden = vc.bookHidden ∧
      (vc.checkAvailability [] now).bookEnabled =
        (vc.bookEnabled && decide (vc.workshop.numberOfAvailableSeats ≠ 0)) ∧
      (vc.checkAvailability [] now).purchaseTicketView =
        vc.purchaseTicketView.initializedDetails 3 vc.ticketPrice := by
  have hlate : ¬ vc.workshop.dateTime < now := not_lt.mpr hnow
  by_cases hseats : vc.workshop.numberOfAvailableSeats = 0
  · simp [checkAvailability, remainigSeatCount, hseats, disableBook, hlate, purchasedSeat,
      K_MaxAllowedTicket, reloadData, allowedTickets, ticketPrice]
  · simp [checkAvailability, remainigSeatCount, hseats, hlate, purchasedSeat,
      K_MaxAllowedTicket, reloadData, allowedTickets, ticketPrice]

end WorkshopDetailsVC

/-- The fresh screen of a workshop before its date. -/
lemma freshScreen_eq (workshop : Workshops) (thisUser : User) (userId : String)
    (documents : List UserDoc) {now : Timestamp} (hnow : now ≤ workshop.dateTime) :
    (freshScreen workshop thisUser userId documents now).bookHidden =
        decide (some thisUser.uid = workshop.uid) ∧
      (freshScreen workshop thisUser userId documents now).bookEnabled =
        decide (workshop.numberOfAvailableSeats ≠ 0) ∧
      ∃ view : PurchaseTicketView,
        (freshScreen workshop thisUser userId documents now).purchaseTicketView =
          view.initializedDetails 3 (workshop.priceDecimal.getD 0) := by
  let vc := (WorkshopDetailsVC.viewDidLoad workshop (some thisUser) (some userId)).client
  obtain ⟨hhidden, henabled, hworkshop, htickets⟩ := vc.userLoaded_button userId documents
  have hfresh : freshScreen workshop thisUser userId documents now =
      (vc.userLoaded userId documents).client.checkAvailability [] now := by
    show WorkshopDetailsVC.checkAvailability _ ((vc.userLoaded userId documents).client.tickets ++
      []) now = _
    rw [htickets]
    rfl
  have hdate : now ≤ (vc.userLoaded userId documents).client.workshop.dateTime := by
    rw [hworkshop]
    exact hnow
  obtain ⟨hbookHidden, hbookEnabled, hview⟩ :=
    (vc.userLoaded userId documents).client.checkAvailability_nil hdate
  rw [hfresh, hbookHidden, hbookEnabled, hview, hhidden, henabled,
    WorkshopDetailsVC.ticketPrice, hworkshop]
  exact ⟨rfl, rfl, _, rfl⟩

/-- **When a seat is offered.** Before the date the fresh screen of a buyer offers a seat if and
only if the number of seats is not zero, and there is a price.

**Proof sketch.** Without tickets all seats remain and the user may buy three, so that of the
checks only the one for the remaining seats can disable the book button (`freshScreen_eq`). The
reload of the purchase view enables the buy button for one seat exactly if a seat costs
something. -/
theorem offersSeat_iff {workshop : Workshops} {thisUser : User} {userId : String}
    {documents : List UserDoc} {now : Timestamp} (hbuyer : some thisUser.uid ≠ workshop.uid)
    (hnow : now ≤ workshop.dateTime) :
    (freshScreen workshop thisUser userId documents now).OffersSeat ↔
      workshop.numberOfAvailableSeats ≠ 0 ∧ 0 < workshop.priceDecimal.getD 0 := by
  obtain ⟨hhidden, henabled, view, hview⟩ :=
    freshScreen_eq workshop thisUser userId documents hnow
  have hbuy := view.initializedDetails_buyEnabled 3 (workshop.priceDecimal.getD 0)
  rw [← hview] at hbuy
  constructor
  · intro hoffers
    have hbook := hoffers.bookEnabled
    rw [henabled] at hbook
    exact ⟨of_decide_eq_true hbook, hbuy.mp hoffers.buyEnabled⟩
  · rintro ⟨hseats, hpos⟩
    refine ⟨?_, ?_, ?_, ?_, hbuy.mpr hpos⟩
    · rw [hhidden]
      exact decide_eq_false hbuyer
    · rw [henabled]
      exact decide_eq_true hseats
    · rw [hview]
      rfl
    · rw [hview]
      show (1 : ℤ) ≤ 3
      omega

/-! ## The workshops that are posted -/

/-- A workshop whose price and seats are digits is bookable exactly if neither is zero. -/
lemma bookable_of_digits {workshop : Workshops} (hprice : DigitText workshop.price)
    (hpriceNe : workshop.price.toList ≠ []) (hseat : DigitText workshop.seat)
    (hseatNe : workshop.seat.toList ≠ []) : workshop.Bookable ↔
      (∃ c ∈ workshop.price.toList, c ≠ '0') ∧ ∃ c ∈ workshop.seat.toList, c ≠ '0' := by
  have hseats := numberOfAvailableSeats_of_digits hseat hseatNe
  have hdecimal := priceDecimal_of_digits hprice hpriceNe
  rw [← natOfDigits_pos_iff hprice.1, ← natOfDigits_pos_iff hseat.1]
  constructor
  · rintro ⟨hone, ⟨price, hsome, -⟩, -⟩
    rw [hdecimal] at hsome
    split_ifs at hsome with hpos
    rw [hseats] at hone
    exact ⟨hpos, by omega⟩
  · rintro ⟨hpos, hone⟩
    have hcast : (0 : ℚ) < natOfDigits workshop.price.toList := by exact_mod_cast hpos
    rw [if_pos hpos] at hdecimal
    refine ⟨by omega, ⟨_, hdecimal, hcast⟩, fun thisUser userId documents now hbuyer hnow => ?_⟩
    rw [offersSeat_iff hbuyer hnow, hdecimal, Option.getD_some]
    exact ⟨by omega, hcast⟩

/-- What is decoded from the document of a workshop of a signed-in user. -/
lemma decoded_data {workshop : Workshops} {uid : String} (huid : workshop.uid = some uid)
    (documentID : String) : workshop.data.workshop documentID =
      some { workshop with documentId := some documentID } := by
  simp [Workshops.data, WorkshopData.workshop, huid]

/-- **Which posted workshops can be booked.** In every run of the form a posted workshop is
decoded to one that can be booked if and only if a user is signed in, and a digit other than `0`
is in the price and in the number of seats.

**Proof sketch.** Both texts are digits (`posted_digits`), and the decoder copies them. -/
theorem bookable_iff {currentUser : Option String} {date : Timestamp}
    {vc : PostWorkshopViewController} {h : List (PostWorkshopViewController × PostWorkshopTap)}
    (hr : PostWorkshopRun currentUser date h vc) {workshop : Workshops}
    (hw : workshop ∈ vc.posted) (documentID : String) :
    (∃ decoded, workshop.data.workshop documentID = some decoded ∧ decoded.Bookable) ↔
      currentUser ≠ none ∧ (∃ c ∈ workshop.price.toList, c ≠ '0') ∧
        ∃ c ∈ workshop.seat.toList, c ≠ '0' := by
  obtain ⟨⟨hprice, hpriceNe⟩, ⟨hseat, hseatNe⟩, rfl⟩ := posted_digits hr hw
  cases huid : workshop.uid with
  | none => simp [Workshops.data, WorkshopData.workshop, huid]
  | some uid =>
    let decoded : Workshops := { workshop with documentId := some documentID }
    have hiff : decoded.Bookable ↔
        (∃ c ∈ workshop.price.toList, c ≠ '0') ∧ ∃ c ∈ workshop.seat.toList, c ≠ '0' :=
      bookable_of_digits hprice hpriceNe hseat hseatNe
    simp [decoded_data huid, decoded, hiff]

/-- Sara fills in the form, with this price and number of seats, and submits it. -/
def saraOffers (price seat : String) : List PostWorkshopTap :=
  [.textField .Wtitle 0 0 "Art Class", .textField .presenter 0 0 "Sara",
    .textField .priceTextbox 0 0 price, .textField .seat 0 0 seat, .textViewDidBeginEditing,
    .textView 0 0 "Drawing and paint", .submit]

/-- What Sara has posted is there at the end of a run. -/
lemma sara_offers {price seat : String}
    (he : (exec PostWorkshopViewController.step (viewDidLoad (some "sara") 0)
      (saraOffers price seat)).map (fun vc => vc.posted.map fun w => (w.price, w.seat)) =
        some [(price, seat)]) :
    ∃ h vc, PostWorkshopRun (some "sara") 0 h vc ∧
      ∃ workshop ∈ vc.posted, workshop.price = price ∧ workshop.seat = seat := by
  obtain ⟨h, vc, hr, -, hposted⟩ := run_of_observed he
  have hmem : (price, seat) ∈ vc.posted.map fun w => (w.price, w.seat) := by simp [hposted]
  obtain ⟨workshop, hw, heq⟩ := List.mem_map.mp hmem
  exact ⟨h, vc, hr, workshop, hw, Prod.mk.inj heq⟩

/-- Twenty seats for 15 SAR each. -/
theorem bookable_sara : ∃ h vc workshop, PostWorkshopRun (some "sara") 0 h vc ∧
    workshop ∈ vc.posted ∧ workshop.price = "15" ∧ workshop.seat = "20" ∧
    ((∃ decoded, workshop.data.workshop "w" = some decoded ∧ decoded.Bookable) ↔
      some "sara" ≠ none ∧ (∃ c ∈ workshop.price.toList, c ≠ '0') ∧
        ∃ c ∈ workshop.seat.toList, c ≠ '0') := by
  have he : (exec PostWorkshopViewController.step (viewDidLoad (some "sara") 0)
      (saraOffers "15" "20")).map (fun vc => vc.posted.map fun w => (w.price, w.seat)) =
      some [("15", "20")] := by decide +kernel
  obtain ⟨h, vc, hr, workshop, hw, hprice, hseat⟩ := sara_offers he
  exact ⟨h, vc, workshop, hr, hw, hprice, hseat, bookable_iff hr hw "w"⟩

/-- Twenty seats for 0 SAR are posted, and none of them can be booked. -/
theorem posted_for_nothing : ∃ h vc workshop decoded, PostWorkshopRun (some "sara") 0 h vc ∧
    workshop ∈ vc.posted ∧ workshop.price = "0" ∧ workshop.seat = "20" ∧
    workshop.data.workshop "w" = some decoded ∧ decoded.priceDecimal = none ∧
    ¬ decoded.Bookable := by
  have he : (exec PostWorkshopViewController.step (viewDidLoad (some "sara") 0)
      (saraOffers "0" "20")).map (fun vc => vc.posted.map fun w => (w.price, w.seat)) =
      some [("0", "20")] := by decide +kernel
  obtain ⟨h, vc, hr, workshop, hw, hprice, hseat⟩ := sara_offers he
  have hdecode := decoded_data (posted_digits hr hw).2.2 "w"
  have hzero : positiveDecimal "0" = none := by decide +kernel
  have hnone : Workshops.priceDecimal { workshop with documentId := some "w" } = none := by
    rw [Workshops.priceDecimal, hprice, hzero]
  refine ⟨h, vc, workshop, _, hr, hw, hprice, hseat, hdecode, hnone, ?_⟩
  rintro ⟨-, ⟨price, hsome, -⟩, -⟩
  rw [hnone] at hsome
  cases hsome

end Aoun
