import Mathlib.Algebra.Order.BigOperators.Group.List
import Mathlib.Data.Multiset.OrderedMonoid
import Aoun.Workshop.Invariant

/-!
# A ticket for every payment

A checkout that the payment service approves is followed by the writing of a ticket. The seats
paid for are followed through a run by an account: they are held by an approved checkout or by
a ticket that is being written, they are booked by a ticket that is stored, or they were lost
in a step of the run.

## Main definitions

* `Aoun.approvals`, `Aoun.bookings` — the seats paid for, and the seats of the tickets stored.
* `Aoun.lostTicket` — what a step loses of a purchase that was paid.

## Main results

* `Aoun.seats_balance` — the account balances in every run.
* `Aoun.ticket_for_payment_iff` — the tickets stored are for the seats paid exactly when no
  step loses a ticket.
-/

set_option relaxedAutoImplicit false
set_option autoImplicit false

namespace Aoun

open AsyncSystem AsyncSystem.World StepSystem WorkshopDetailsVC

/-- The seats paid for. -/
def approvals : WorkshopEffect → Option ℤ
  | .approved tickets => some tickets
  | _ => none

/-- The seats of the tickets stored. -/
def bookings : WorkshopEffect → Option ℤ
  | .stored ticket => some ticket.seats
  | _ => none

/-- The request is part of a purchase. -/
def WorkshopRequest.OfSale : WorkshopRequest → Prop
  | .startCheckout _ _ => True
  | .setData _ => True
  | _ => False

instance (vc : WorkshopDetailsVC) : Decidable vc.Books := inferInstanceAs (Decidable (_ ∧ _))

/-- What the step loses of a purchase on the screen of client `i`: the number of the user event
the purchase goes back to, and the seats. The `setData` of a ticket fails, or the answer of
the payment service arrives where the program has stopped, the user is not loaded, or the
booking id cannot be made. -/
def lostTicket (i : ℕ) (w : WorkshopWorld) : WorkshopEvent → Option (ℕ × ℤ)
  | .serve k o => (w.flights[k]?).bind fun f =>
    match f.request with
    | .setData ticket =>
      if f.owner = i ∧ o.1 ≠ .success then some (f.root, ticket.seats) else none
    | _ => none
  | .deliver k _ => (w.flights[k]?).bind fun f =>
    match f.request, f.answer, w.clients f.owner with
    | .startCheckout _ tickets, some .tokenized, some vc =>
      if f.owner = i ∧ (vc.trapped = true ∨ ¬ vc.Books) then some (f.root, tickets) else none
    | _, _, _ => none
  | _ => none

/-! ## The account of the seats -/

/-- The seats held by a request: by an approved checkout, or by a ticket being written. -/
def heldSeats : WorkshopRequest → Option WorkshopAnswer → Multiset ℤ
  | .startCheckout _ tickets, some .tokenized => {tickets}
  | .setData ticket, none => {ticket.seats}
  | _, _ => 0

/-- The seats that an effect selected by `sel` is about. -/
def seatsOf (sel : WorkshopEffect → Option ℤ) (o : WorkshopEffect) : Multiset ℤ :=
  (sel o).elim 0 fun tickets => {tickets}

/-- The seats that the step loses of a purchase that goes back to the user event number `r`. -/
def lostSeats (i r : ℕ) (w : WorkshopWorld) (e : WorkshopEvent) : Multiset ℤ :=
  (lostTicket i w e).elim 0 fun lost => if lost.1 = r then {lost.2} else 0

lemma total_seatsOf (sel : WorkshopEffect → Option ℤ) (t : List WorkshopEffect) :
    total (seatsOf sel) t = (t.filterMap sel : Multiset ℤ) := by
  induction t with
  | nil => rfl
  | cons o t ih =>
    rw [total_cons, ih, seatsOf]
    cases h : sel o <;> simp [h, Multiset.singleton_add]

/-- A step loses nothing exactly when it loses no seats of any purchase. -/
lemma lostTicket_eq_none_iff (i : ℕ) (w : WorkshopWorld) (e : WorkshopEvent) :
    lostTicket i w e = none ↔ ∀ r, lostSeats i r w e = 0 := by
  unfold lostSeats
  cases lostTicket i w e with
  | none => simp
  | some lost =>
    simp only [reduceCtorEq, Option.elim_some, false_iff, not_forall]
    exact ⟨lost.1, by simp⟩

section Balance

/-- What the handling of a request loses, in seats. -/
lemma lostSeats_serve {i r k : ℕ} {o : Outcome × ℕ} {w : WorkshopWorld}
    {f : Flight WorkshopRequest WorkshopAnswer} (hf : w.flights[k]? = some f) :
    lostSeats i r w (.serve k o) = if f.owner = i ∧ f.root = r then
      (match f.request with
        | .setData ticket => if o.1 ≠ .success then {ticket.seats} else 0
        | _ => 0)
      else 0 := by
  simp only [lostSeats, lostTicket, hf, Option.bind_some]
  cases f.request with
  | setData ticket =>
    by_cases hi : f.owner = i <;> by_cases ho : o.1 = .success <;> simp [hi, ho]
  | _ => simp

/-- What the delivery of an answer loses, in seats. -/
lemma lostSeats_deliver {i r k : ℕ} {now : Timestamp} {w : WorkshopWorld}
    {f : Flight WorkshopRequest WorkshopAnswer} {a : WorkshopAnswer} {vc : WorkshopDetailsVC}
    (hf : w.flights[k]? = some f) (ha : f.answer = some a)
    (hc : w.clients f.owner = some vc) :
    lostSeats i r w (.deliver k now) = if f.owner = i ∧ f.root = r then
      (if vc.trapped = true ∨ ¬ vc.Books then heldSeats f.request (some a) else 0) else 0 := by
  simp only [lostSeats, lostTicket, hf, Option.bind_some, ha, hc]
  cases f.request with
  | startCheckout amount tickets =>
    cases a with
    | tokenized =>
      by_cases hi : f.owner = i <;> by_cases hb : vc.trapped = true ∨ ¬ vc.Books <;>
        simp only [hi, hb, and_true, and_false, true_and, if_true, if_false, Option.elim_some,
          Option.elim_none, false_and, ite_self, heldSeats]
    | _ => simp [heldSeats]
  | _ => simp [heldSeats]

variable {catalog : String → Workshops} {uppercased : String → String}

/-- A reaction that pays for nothing, books nothing and holds nothing. -/
lemma settles_rest (i r owner root : ℕ) {v : WorkshopReaction}
    (hq : ∀ q ∈ v.requests, heldSeats q none = 0)
    (ho : ∀ o ∈ v.effects, approvals o = none ∧ bookings o = none) :
    Settles (entryAt i r (seatsOf approvals)) (entryAt i r (seatsOf bookings))
      (flightAt i r heldSeats) owner root v 0 0 := by
  have h₁ : total (seatsOf approvals) v.effects = 0 :=
    total_eq_zero _ fun o h => by rw [seatsOf, (ho o h).1]; rfl
  have h₂ : total (seatsOf bookings) v.effects = 0 :=
    total_eq_zero _ fun o h => by rw [seatsOf, (ho o h).2]; rfl
  have h₃ : total (fun q => heldSeats q none) v.requests = 0 := total_eq_zero _ hq
  simp only [Settles, total_entryAt_mk, total_flightAt_mk, h₁, h₂, h₃, ite_self, add_zero]

/-- The server approves a checkout, stores a ticket or loses it. -/
lemma serve_seats (s : WorkshopServer) (q : WorkshopRequest) (o : Outcome × ℕ) :
    heldSeats q none + total (seatsOf approvals) (s.serve q o).effects =
      heldSeats q (some (s.serve q o).answer) +
        total (seatsOf bookings) (s.serve q o).effects +
        match q with
        | .setData ticket => if o.1 ≠ .success then {ticket.seats} else 0
        | _ => 0 := by
  obtain ⟨o, position⟩ := o
  cases q <;> cases o <;>
    simp [WorkshopServer.serve, heldSeats, seatsOf, approvals, bookings]

/-- The callback of an approved checkout writes the ticket, or loses it; the others hold
nothing. -/
lemma recv_seats (vc : WorkshopDetailsVC) (q : WorkshopRequest) (a : WorkshopAnswer)
    (now : Timestamp) :
    heldSeats q (some a) + total (seatsOf approvals) (vc.recv uppercased q a now).effects =
      total (fun q => heldSeats q none) (vc.recv uppercased q a now).requests +
        total (seatsOf bookings) (vc.recv uppercased q a now).effects +
        if vc.trapped = true ∨ ¬ vc.Books then heldSeats q (some a) else 0 := by
  rcases vc.recv_cases uppercased q a now with ⟨uid, documents, rfl, rfl, hr⟩ |
    ⟨workshop, documents, rfl, rfl, hr⟩ | ⟨amount, tickets, rfl, rfl, ht, hr⟩ |
    ⟨hstopped, -, hreq, heff⟩
  · obtain ⟨hreq, heff⟩ : total (fun q => heldSeats q none) (vc.userLoaded uid documents).requests
        = 0 ∧ (vc.userLoaded uid documents).effects = [] := by
      rcases vc.userLoaded_cases uid documents with ⟨-, hreq, heff⟩ | ⟨user, id, -, hl⟩
      · rw [hreq, heff]; exact ⟨rfl, rfl⟩
      · obtain ⟨-, hreq, heff⟩ :=
          ({ vc with user := some user } : WorkshopDetailsVC).loadTickets_cases
        rw [hl, heff]
        rcases hreq with hreq | ⟨id, -, hreq⟩ <;> simp [hreq, heldSeats]
    rw [hr, hreq, heff]
    simp [heldSeats]
  · rw [hr]
    simp [ticketsLoaded, heldSeats]
  · rw [hr, updatePurchase_effects]
    rcases vc.updatePurchase_cases uppercased amount tickets now with
      ⟨hno, hreq⟩ | ⟨hbooks, user, ticket, -, hreq, -, -, hseats⟩
    · simp [hreq, hno, heldSeats]
    · simp [hreq, hbooks, ht, heldSeats, hseats]
  · rw [hreq, heff]
    by_cases ht : vc.trapped = true
    · simp [ht]
    · have hheld : heldSeats q (some a) = 0 := by
        cases q with
        | startCheckout amount tickets =>
          cases a with
          | tokenized => exact absurd (hstopped amount tickets rfl rfl) ht
          | _ => rfl
        | _ => rfl
      simp [hheld]

variable {s : WorkshopServer} {h : List (WorkshopWorld × WorkshopEvent)} {w : WorkshopWorld}

/-- **The seats balance.** The seats that were paid for, of the purchases that go back to one
user event, are held by its requests in flight, are booked by tickets, or were lost in steps of
the run.

**Proof sketch.** The balance rule. A launch and an act of the user pay for nothing. -/
theorem seats_balance (hr : (workshopSystem catalog uppercased).RunFrom s h w) (i r : ℕ) :
    ((w.effectsAt i r).filterMap approvals : Multiset ℤ) =
      total (flightAt i r heldSeats) w.flights + ((w.effectsAt i r).filterMap bookings) +
        total (fun p => lostSeats i r p.1 p.2) h := by
  have hrules : BalanceRules (workshopSystem catalog uppercased) (fun _ => True)
      (entryAt i r (seatsOf approvals)) (entryAt i r (seatsOf bookings))
      (flightAt i r heldSeats) (lostSeats i r) := by
    refine ⟨?_, ?_, ?_, ?_⟩
    · intro w j a _ _
      obtain ⟨-, hreq, heff⟩ :=
        viewDidLoad_cases { catalog a.1 with documentId := some a.1 } a.2.1 a.2.2
      refine settles_rest i r j w.next (fun q hq => ?_) (fun o ho => ?_)
      · rcases hreq with hreq | ⟨uid, hreq⟩ <;>
          simp only [workshopSystem, hreq, List.mem_singleton, List.not_mem_nil] at hq
        rw [hq]; rfl
      · simp [workshopSystem, heff] at ho
    · intro w j u vc v _ _ hv
      obtain ⟨-, hreq, heff⟩ := ui_rest hv
      refine settles_rest i r j w.next (fun q hq => ?_) (fun o ho => ?_)
      · obtain ⟨amount, tickets, rfl⟩ := hreq q hq
        rfl
      · obtain ⟨amount, rfl⟩ := heff o ho
        exact ⟨rfl, rfl⟩
    · intro w k o f _ hf hnone
      rw [total_entryAt_mk, total_entryAt_mk, lostSeats_serve hf]
      by_cases hmine : f.owner = i ∧ f.root = r
      · simpa only [workshopSystem, flightAt, hmine, hnone, and_self, if_true] using
          serve_seats w.server f.request o
      · simp [flightAt, hmine]
    · intro w k now f a vc _ hf ha hc
      rw [Settles, total_entryAt_mk, total_entryAt_mk, total_flightAt_mk,
        lostSeats_deliver hf ha hc]
      by_cases hmine : f.owner = i ∧ f.root = r
      · simpa only [workshopSystem, flightAt, hmine, ha, and_self, if_true] using
          recv_seats vc f.request a now
      · simp [flightAt, hmine]
  have hb := balance hrules (fun _ _ _ => trivial) hr
  rwa [total_entryAt, total_entryAt, total_seatsOf, total_seatsOf] at hb

/-- **When every payment has its ticket.** Once nothing that belongs to a purchase on the screen
of client `i` is in flight, its tickets stored are for the seats of its approved checkouts, of
each purchase the same, if and only if no step loses a ticket of this screen.

**Proof sketch.** The balance of each purchase: what was paid is booked or lost. -/
theorem ticket_for_payment_iff (hr : (workshopSystem catalog uppercased).RunFrom s h w) {i : ℕ}
    (hdone : ∀ f ∈ w.flights, f.owner = i → ¬ f.request.OfSale) :
    (∀ r, ((w.effectsAt i r).filterMap bookings).Perm ((w.effectsAt i r).filterMap approvals)) ↔
      EveryStep (fun w e => lostTicket i w e = none) h := by
  have hheld : ∀ r, total (flightAt i r heldSeats) w.flights = 0 := by
    refine fun r => total_eq_zero _ fun f hf => ?_
    by_cases hmine : f.owner = i ∧ f.root = r
    · rw [flightAt, if_pos hmine]
      have hno := hdone f hf hmine.1
      cases hq : f.request <;> simp_all [WorkshopRequest.OfSale, heldSeats]
    · rw [flightAt, if_neg hmine]
  have hperm : ∀ r, ((w.effectsAt i r).filterMap bookings).Perm
      ((w.effectsAt i r).filterMap approvals) ↔ ∀ p ∈ h, lostSeats i r p.1 p.2 = 0 := by
    intro r
    have hb := seats_balance hr i r
    rw [hheld, zero_add] at hb
    rw [← Multiset.coe_eq_coe, hb, left_eq_add, total, List.sum_eq_zero_iff,
      List.forall_mem_map]
  calc (∀ r, ((w.effectsAt i r).filterMap bookings).Perm
          ((w.effectsAt i r).filterMap approvals))
      ↔ ∀ r, ∀ p ∈ h, lostSeats i r p.1 p.2 = 0 := forall_congr' hperm
    _ ↔ ∀ p ∈ h, ∀ r, lostSeats i r p.1 p.2 = 0 := ⟨fun hl p hp r => hl r p hp,
        fun hl r p hp => hl p hp r⟩
    _ ↔ EveryStep (fun w e => lostTicket i w e = none) h :=
        forall₂_congr fun p _ => (lostTicket_eq_none_iff i p.1 p.2).symm

end Balance

/-- Alice buys a seat on a screen that has loaded her user, and her ticket is stored. -/
theorem ticket_for_payment_alice : ∃ h w,
    (workshopSystem (fun _ => workshopOnSale) id).RunFrom workshopShop h w ∧
    (w.effectsAt 0 3).filterMap approvals = [1] ∧
    ((∀ r, ((w.effectsAt 0 r).filterMap bookings).Perm
        ((w.effectsAt 0 r).filterMap approvals)) ↔
      EveryStep (fun w e => lostTicket 0 w e = none) h) := by
  have he : (exec (workshopSystem (fun _ => workshopOnSale) id).step (start workshopShop)
      (opening ++ .ui 0 .bookSeat :: booking)).map
      (fun w => (w.flights.map (·.request), (w.effectsAt 0 3).filterMap approvals)) =
      some ([], [1]) := by decide +kernel
  obtain ⟨h, w, hr, -, hw⟩ := run_of_observed he
  obtain ⟨hflights, happroved⟩ := Prod.mk.inj hw
  refine ⟨h, w, hr, happroved, ticket_for_payment_iff hr ?_⟩
  simp [List.map_eq_nil_iff.mp hflights]

/-- Alice buys a seat before the screen has loaded her user: she has paid, and no ticket is
written. -/
theorem payment_without_ticket : ∃ h w,
    (workshopSystem (fun _ => workshopOnSale) id).RunFrom workshopShop h w ∧ w.flights = [] ∧
    ¬ ∀ r, ((w.effectsAt 0 r).filterMap bookings).Perm
      ((w.effectsAt 0 r).filterMap approvals) := by
  have he : (exec (workshopSystem (fun _ => workshopOnSale) id).step (start workshopShop)
      [.boot 0 ("w", some buyer, some "alice"), .ui 0 .bookSeat, .ui 0 .buyButtonTouched,
        .ui 0 .purchase, .serve 1 (.success, 0), .deliver 1 7, .serve 0 (.success, 0),
        .deliver 0 7, .serve 0 (.success, 0), .deliver 0 7]).map
      (fun w => (w.flights.map (·.request), (w.effectsAt 0 3).filterMap bookings,
        (w.effectsAt 0 3).filterMap approvals)) = some ([], [], [1]) := by decide +kernel
  obtain ⟨h, w, hr, -, hw⟩ := run_of_observed he
  obtain ⟨hflights, hbooked, happroved⟩ : _ ∧ _ ∧ _ := by simpa only [Prod.mk.injEq] using hw
  refine ⟨h, w, hr, List.map_eq_nil_iff.mp hflights, fun hall => ?_⟩
  have hperm := hall 3
  rw [hbooked, happroved] at hperm
  exact absurd hperm.length_eq (by decide)

end Aoun
