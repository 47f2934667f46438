import Aoun.Workshop.Invariant

/-!
# The seats of a workshop, and the seats of a user

Two bounds on the stored tickets: the seats of a workshop, and the seats that one user may
have of it. A screen compares with neither of them when it writes a ticket. What it showed
when the user chose was computed from the snapshot it had loaded, if it had loaded one; it
takes the seats that are left for sold out only when there are exactly none, and offers as
many as the user may have even if fewer are left.

Both bounds are kept exactly by the runs in which every ticket stored fits in what its screen
had left, with the tickets stored since its snapshot.

## Main definitions

* `Aoun.seatsSold` — the seats of a list of tickets.
* `Aoun.Stores` — the step stores a ticket of some screen.
* `Aoun.NotOversold`, `Aoun.FitsRemaining` — the bound of a workshop, and its condition.
* `Aoun.WithinCap`, `Aoun.FitsAllowed` — the bound of a user, and its condition.

## Main results

* `Aoun.throughout_seatsSold_iff` — when a run keeps a bound on the stored tickets of a kind.
* `Aoun.no_overselling_iff`, `Aoun.seat_cap_iff` — the two bounds.
-/

set_option relaxedAutoImplicit false
set_option autoImplicit false

namespace Aoun

open AsyncSystem AsyncSystem.World StepSystem WorkshopDetailsVC

/-- The seats of a list of tickets. -/
def seatsSold (tickets : List Ticket) : ℤ := (tickets.map (·.seats)).sum

lemma seatsSold_cons (t : Ticket) (tickets : List Ticket) :
    seatsSold (t :: tickets) = t.seats + seatsSold tickets := List.sum_cons

lemma seatsSold_perm {tickets tickets' : List Ticket} (h : tickets.Perm tickets') :
    seatsSold tickets = seatsSold tickets' := (h.map _).sum_eq

/-- The seats of a snapshot, and of the tickets that are not in it. -/
lemma seatsSold_diff {snapshot tickets : List Ticket} (h : snapshot.Subperm tickets) :
    seatsSold tickets = seatsSold snapshot + seatsSold (tickets.diff snapshot) := by
  have hperm : (snapshot ++ tickets.diff snapshot).Perm tickets :=
    List.subperm_append_diff_self_of_count_le fun t _ => h.count_le t
  rw [← seatsSold_perm hperm]
  simp [seatsSold]

/-- The step stores a ticket that the screen of client `i` has written. -/
def Stores (w : WorkshopWorld) (e : WorkshopEvent) (i : ℕ) (ticket : Ticket) : Prop :=
  ∃ k position f, e = .serve k (.success, position) ∧ w.flights[k]? = some f ∧ f.owner = i ∧
    f.request = .setData ticket

section

variable {catalog : String → Workshops} {uppercased : String → String} {w w' : WorkshopWorld}
  {e : WorkshopEvent}

/-- What a step does to the stored tickets. -/
lemma tickets_step (hs : (workshopSystem catalog uppercased).step w e = some w') :
    (w'.server.tickets = w.server.tickets ∧ ∀ i t, ¬ Stores w e i t) ∨
    ∃ i t, (∀ i' t', Stores w e i' t' ↔ i' = i ∧ t' = t) ∧
      w'.server.tickets.Perm (t :: w.server.tickets) := by
  cases took_of_step hs with
  | boot free => exact Or.inl ⟨rfl, by rintro i t ⟨_, _, _, he, -⟩; cases he⟩
  | ui client reacts => exact Or.inl ⟨rfl, by rintro i t ⟨_, _, _, he, -⟩; cases he⟩
  | deliver flight answered client =>
    exact Or.inl ⟨rfl, by rintro i t ⟨_, _, _, he, -⟩; cases he⟩
  | @serve k o f flight unanswered =>
    have hstores : ∀ i t, Stores w (.serve k o) i t ↔
        o.1 = .success ∧ i = f.owner ∧ f.request = .setData t := by
      intro i t
      constructor
      · rintro ⟨k', position, g, he, hg, hi, hq⟩
        obtain ⟨rfl, rfl⟩ := Event.serve.inj he
        obtain rfl : f = g := by rw [flight] at hg; exact Option.some.inj hg
        exact ⟨rfl, hi.symm, hq⟩
      · rintro ⟨ho, rfl, hq⟩
        exact ⟨k, o.2, f, by rw [← ho], flight, rfl, hq⟩
    obtain ⟨o, position⟩ := o
    cases hq : f.request with
    | setData ticket =>
      cases o with
      | success =>
        refine Or.inr ⟨f.owner, ticket, fun i t => ?_, ?_⟩
        · rw [hstores, hq]
          simp [eq_comm]
        · simpa [workshopSystem, hq, WorkshopServer.serve] using
            w.server.store_perm ticket position
      | _ => exact Or.inl ⟨by simp [workshopSystem, WorkshopServer.serve], by simp [hstores]⟩
    | _ =>
      refine Or.inl ⟨?_, by simp [hstores, hq]⟩
      cases o <;> simp [workshopSystem, WorkshopServer.serve]

/-- When a step keeps a bound on the seats of the stored tickets of a kind. -/
lemma seatsSold_step_iff (hs : (workshopSystem catalog uppercased).step w e = some w')
    (p : Ticket → Prop) [DecidablePred p] {cap : ℤ}
    (hw : seatsSold (w.server.tickets.filter p) ≤ cap) :
    seatsSold (w'.server.tickets.filter p) ≤ cap ↔
      ∀ i t, Stores w e i t → p t → t.seats + seatsSold (w.server.tickets.filter p) ≤ cap := by
  rcases tickets_step hs with ⟨htickets, hno⟩ | ⟨i, t, hstores, hperm⟩
  · rw [htickets]
    exact iff_of_true hw fun i t ht => absurd ht (hno i t)
  · have hsum := seatsSold_perm (hperm.filter p)
    by_cases hp : p t
    · rw [List.filter_cons_of_pos (by simpa using hp), seatsSold_cons] at hsum
      rw [hsum]
      constructor
      · rintro h i' t' ht' -
        obtain ⟨-, rfl⟩ := (hstores i' t').mp ht'
        exact h
      · exact fun h => h i t ((hstores i t).mpr ⟨rfl, rfl⟩) hp
    · rw [List.filter_cons_of_neg (by simpa using hp)] at hsum
      rw [hsum]
      refine iff_of_true hw fun i' t' ht' hp' => ?_
      obtain ⟨-, rfl⟩ := (hstores i' t').mp ht'
      exact absurd hp' hp

end

variable {catalog : String → Workshops} {uppercased : String → String} {s : WorkshopServer}
  {h : List (WorkshopWorld × WorkshopEvent)} {w : WorkshopWorld}

/-- **When a run keeps a bound.** The stored tickets of a kind stay within a bound throughout
a run if and only if they start within it and every ticket stored fits.

**Proof sketch.** A step keeps the bound exactly when the ticket it stores fits
(`seatsSold_step_iff`); in the states that can be reached `G` says just this. -/
theorem throughout_seatsSold_iff (hr : (workshopSystem catalog uppercased).RunFrom s h w)
    (p : Ticket → Prop) [DecidablePred p] {cap : ℤ} {G : WorkshopWorld → WorkshopEvent → Prop}
    (hG : ∀ h w e, (workshopSystem catalog uppercased).RunFrom s h w →
      ((∀ i t, Stores w e i t → p t → t.seats + seatsSold (w.server.tickets.filter p) ≤ cap) ↔
        G w e)) :
    Throughout (fun w => seatsSold (w.server.tickets.filter p) ≤ cap) h w ↔
      seatsSold (s.tickets.filter p) ≤ cap ∧ EveryStep G h :=
  hr.throughout_iff_everyStep fun h w e _ hr hw hs =>
    (seatsSold_step_iff hs p hw).trans (hG h w e hr)

/-- The screen that has written a ticket about to be stored is sound, and the ticket is for
its workshop and user. -/
lemma Stores.screen (hr : (workshopSystem catalog uppercased).RunFrom s h w)
    {e : WorkshopEvent} {i : ℕ} {t : Ticket} (ht : Stores w e i t) :
    ∃ vc, w.clients i = some vc ∧ vc.Sound catalog w.server ∧ vc.Asked (.setData t) := by
  obtain ⟨k, position, f, -, hf, rfl, hq⟩ := ht
  have hsound := workshopSystem_sound hr
  obtain ⟨vc, hvc, hasked, -⟩ := hsound.flight f (mem_of_flight hf)
  exact ⟨vc, hvc, hsound.client _ vc hvc, hq ▸ hasked⟩

/-- What holds of the tickets stored is what holds of them with the screens that have written
them. -/
lemma forall_stores_iff (hr : (workshopSystem catalog uppercased).RunFrom s h w)
    (e : WorkshopEvent) {A : Ticket → Prop} {B : Ticket → WorkshopDetailsVC → Prop}
    (hAB : ∀ t vc, vc.Sound catalog w.server → vc.Asked (.setData t) → (A t ↔ B t vc)) :
    (∀ i t, Stores w e i t → A t) ↔
      ∀ i t vc, Stores w e i t → w.clients i = some vc → B t vc := by
  constructor
  · intro hA i t vc ht hi
    obtain ⟨vc', hi', hsound, hasked⟩ := ht.screen hr
    obtain rfl : vc' = vc := by rw [hi] at hi'; exact (Option.some.inj hi').symm
    exact (hAB t vc' hsound hasked).mp (hA i t ht)
  · intro hB i t ht
    obtain ⟨vc, hi, hsound, hasked⟩ := ht.screen hr
    exact (hAB t vc hsound hasked).mpr (hB i t vc ht hi)

/-! ## The seats of a workshop -/

/-- No more seats of the workshop are sold than it has. -/
def NotOversold (catalog : String → Workshops) (workshop : String) (w : WorkshopWorld) : Prop :=
  seatsSold (w.server.ticketsOf workshop) ≤ (catalog workshop).numberOfAvailableSeats

/-- A ticket of the workshop that is stored, with the tickets of the workshop that are stored
but not in the snapshot of its screen, fits in what was left by that snapshot. -/
def FitsRemaining (workshop : String) (w : WorkshopWorld) (e : WorkshopEvent) : Prop :=
  ∀ i t vc, Stores w e i t → w.clients i = some vc → t.workshop = workshop →
    t.seats + seatsSold ((w.server.ticketsOf workshop).diff vc.tickets) ≤
      vc.remainigSeatCount vc.tickets

/-- A ticket fits in what its screen had left exactly when it fits in what is left. -/
lemma fits_remaining_iff {vc : WorkshopDetailsVC} {t : Ticket} {s : WorkshopServer}
    (hsound : vc.Sound catalog s) (hasked : vc.Asked (.setData t)) :
    t.seats + seatsSold (s.ticketsOf t.workshop) ≤
        (catalog t.workshop).numberOfAvailableSeats ↔
      t.seats + seatsSold ((s.ticketsOf t.workshop).diff vc.tickets) ≤
        vc.remainigSeatCount vc.tickets := by
  obtain ⟨id, hid⟩ := hsound.workshop
  obtain rfl : id = t.workshop := by
    have hw := hasked.1
    rw [hid] at hw
    exact Option.some.inj hw
  have hseats : vc.workshop.numberOfAvailableSeats =
      (catalog t.workshop).numberOfAvailableSeats := by
    rw [hid]; rfl
  have hsum := seatsSold_diff (hsound.snapshot _ hasked.1)
  have hleft : vc.remainigSeatCount vc.tickets =
      (catalog t.workshop).numberOfAvailableSeats - seatsSold vc.tickets := by
    rw [← hseats]; rfl
  omega

/-- The user has no more seats of the workshop than one user may. -/
def WithinCap (workshop user : String) (w : WorkshopWorld) : Prop :=
  seatsSold ((w.server.ticketsOf workshop).filter fun t => t.user = user) ≤ K_MaxAllowedTicket

/-- A ticket of the user for the workshop that is stored, with those of the user's tickets that
are stored but not in the snapshot of its screen, fits in what was allowed by that snapshot. -/
def FitsAllowed (workshop user : String) (w : WorkshopWorld) (e : WorkshopEvent) : Prop :=
  ∀ i t vc, Stores w e i t → w.clients i = some vc → t.workshop = workshop ∧ t.user = user →
    t.seats + seatsSold (((w.server.ticketsOf workshop).filter fun t => t.user = user).diff
      vc.myTickets) ≤ vc.allowedTickets

/-- A ticket fits in what its screen allowed exactly when it fits in what the user may still
have. -/
lemma fits_allowed_iff {vc : WorkshopDetailsVC} {t : Ticket} {s : WorkshopServer}
    (hsound : vc.Sound catalog s) (hasked : vc.Asked (.setData t)) :
    t.seats + seatsSold ((s.ticketsOf t.workshop).filter fun t' => t'.user = t.user) ≤
        K_MaxAllowedTicket ↔
      t.seats + seatsSold (((s.ticketsOf t.workshop).filter fun t' => t'.user = t.user).diff
        vc.myTickets) ≤ vc.allowedTickets := by
  have hmine : vc.myTickets = vc.tickets.filter fun t' => t'.user = t.user := by
    rw [hsound.mine, hasked.2]
    simp
  have hsub : vc.myTickets.Subperm
      ((s.ticketsOf t.workshop).filter fun t' => t'.user = t.user) := by
    rw [hmine]
    exact (hsound.snapshot _ hasked.1).filter _
  have hsum := seatsSold_diff hsub
  have hallowed : vc.allowedTickets = K_MaxAllowedTicket - seatsSold vc.myTickets := rfl
  omega

end Aoun
