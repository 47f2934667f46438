import Mathlib.Data.List.Perm.Subperm
import Aoun.Workshop.Screen

/-!
# What holds of the workshop's screens at any time

A screen loads its user and its tickets once, one after the other, so that the tickets it
holds are a snapshot of the stored ones: each of them is stored, and none is held twice. The
tickets it writes are for its own workshop and user.

## Main definitions

* `Aoun.WorkshopRequest.Loads` — the requests of which a screen has one in flight at most.
* `Aoun.WorkshopDetailsVC.Sound`, `Asked`, `Aoun.WorkshopServer.Answered` — the invariant.

## Main results

* `Aoun.workshopSystem_sound` — every screen is sound in every run.
-/

set_option relaxedAutoImplicit false
set_option autoImplicit false

namespace Aoun

open AsyncSystem StepSystem

/-- The request loads the user or the tickets of a screen. -/
def WorkshopRequest.Loads : WorkshopRequest → Prop
  | .loadUser _ => True
  | .loadTickets _ => True
  | _ => False

/-- The tickets of an answer are stored. -/
def WorkshopServer.Answered (s : WorkshopServer) : WorkshopRequest → WorkshopAnswer → Prop
  | .loadTickets workshop, .tickets documents => documents.Subperm (s.ticketsOf workshop)
  | _, _ => True

namespace WorkshopDetailsVC

variable (catalog : String → Workshops) (s : WorkshopServer) (vc : WorkshopDetailsVC)

/-- The screen `vc` is as it should be when the server is in the state `s`. -/
structure Sound : Prop where
  workshop : ∃ id, vc.workshop = { catalog id with documentId := some id }
  /-- What the screen holds of the tickets of its workshop is a snapshot. -/
  snapshot : ∀ id, vc.workshop.documentId = some id → vc.tickets.Subperm (s.ticketsOf id)
  mine : vc.myTickets = vc.tickets.filter fun t => some t.user = vc.user.bind (·.docID)
  docID : ∀ user, vc.user = some user → ∃ id, user.docID = some id

/-- The request is one this screen makes; it loads only what it does not have. -/
def Asked : WorkshopRequest → Prop
  | .loadUser _ => vc.user = none ∧ vc.tickets = []
  | .loadTickets workshop => vc.workshop.documentId = some workshop ∧ vc.tickets = []
  | .startCheckout _ _ => True
  | .setData ticket => vc.workshop.documentId = some ticket.workshop ∧
      vc.user.bind (·.docID) = some ticket.user

variable {catalog s vc} {vc' : WorkshopDetailsVC}

/-- What is loaded decides whether a screen is sound. -/
lemma Sound.of_loaded (h : vc.Sound catalog s) (hl : vc'.loaded = vc.loaded) :
    vc'.Sound catalog s := by
  obtain ⟨hw, ht, hm, hu⟩ := loaded_eq hl
  refine ⟨?_, ?_, ?_, ?_⟩
  · rw [hw]; exact h.workshop
  · rw [hw, ht]; exact h.snapshot
  · rw [hm, ht, hu]; exact h.mine
  · rw [hu]; exact h.docID

/-- What is loaded decides what a screen asks for. -/
lemma Asked.of_loaded {q : WorkshopRequest} (hq : vc.Asked q) (hl : vc'.loaded = vc.loaded) :
    vc'.Asked q := by
  obtain ⟨hw, ht, -, hu⟩ := loaded_eq hl
  cases q <;> simp only [Asked, hw, ht, hu] at hq ⊢ <;> exact hq

/-! ## The reactions -/

/-- A reaction of a screen keeps the invariant. -/
abbrev KeepsSound (catalog : String → Workshops) (s : WorkshopServer) (r : WorkshopReaction)
    (t : List WorkshopEffect) : Prop :=
  Keeps (fun vc _ => vc.Sound catalog s) Asked r t

/-- A reaction that leaves alone what is loaded, and makes requests of this screen. -/
lemma Sound.keeps (h : vc.Sound catalog s) {r : WorkshopReaction} (t : List WorkshopEffect)
    (hl : r.client.loaded = vc.loaded) (hq : ∀ q ∈ r.requests, vc.Asked q) :
    KeepsSound catalog s r t :=
  ⟨h.of_loaded hl, fun q hmem => (hq q hmem).of_loaded hl⟩

/-- The tickets are asked for by a screen that has none. -/
lemma loadTickets_keeps (h : vc.Sound catalog s) (ht : vc.tickets = [])
    (t : List WorkshopEffect) : KeepsSound catalog s vc.loadTickets t := by
  obtain ⟨hl, hreq, -⟩ := vc.loadTickets_cases
  refine h.keeps t hl fun q hq => ?_
  rcases hreq with hreq | ⟨id, hid, hreq⟩
  · rw [hreq] at hq; cases hq
  · rw [hreq] at hq
    obtain rfl := List.mem_singleton.mp hq
    exact ⟨hid, ht⟩

lemma viewDidLoad_keeps (id : String) (thisUser : Option User) (currentUser : Option String) :
    KeepsSound catalog s
      (viewDidLoad { catalog id with documentId := some id } thisUser currentUser) [] := by
  obtain ⟨hl, hreq, -⟩ :=
    viewDidLoad_cases { catalog id with documentId := some id } thisUser currentUser
  simp only [loaded, Prod.mk.injEq] at hl
  obtain ⟨hw, -, ht, hm, hu⟩ := hl
  refine ⟨⟨⟨id, hw⟩, ?_, ?_, ?_⟩, fun q hq => ?_⟩
  · rw [ht]; exact fun _ _ => List.nil_subperm
  · rw [hm, ht]; rfl
  · rw [hu]; simp
  · rcases hreq with hreq | ⟨uid, hreq⟩
    · rw [hreq] at hq; cases hq
    · rw [hreq] at hq
      obtain rfl := List.mem_singleton.mp hq
      exact ⟨hu, ht⟩

/-- The answer to the users query is taken over by a screen that has no tickets. -/
lemma userLoaded_keeps (h : vc.Sound catalog s) (ht : vc.tickets = []) (uid : String)
    (documents : List UserDoc) (t : List WorkshopEffect) :
    KeepsSound catalog s (vc.userLoaded uid documents) t := by
  rcases vc.userLoaded_cases uid documents with ⟨hl, hreq, -⟩ | ⟨user, id, hid, hr⟩
  · exact h.keeps t hl (by simp [hreq])
  · rw [hr]
    have hm : vc.myTickets = [] := by rw [h.mine, ht]; rfl
    have hsound : Sound catalog s { vc with user := some user } := by
      refine ⟨h.workshop, h.snapshot, by simp [hm, ht], ?_⟩
      intro user' hu
      exact Option.some.inj hu ▸ ⟨id, hid⟩
    exact loadTickets_keeps hsound ht t

/-- The tickets are taken over by a screen that has none. -/
lemma ticketsLoaded_keeps (h : vc.Sound catalog s) {workshop : String}
    (hid : vc.workshop.documentId = some workshop) (ht : vc.tickets = [])
    {documents : List Ticket} (hd : documents.Subperm (s.ticketsOf workshop)) (now : Timestamp)
    (t : List WorkshopEffect) : KeepsSound catalog s (vc.ticketsLoaded documents now) t := by
  have hloaded := vc.checkAvailability_loaded (vc.tickets ++ documents) now
  rw [ht, List.nil_append] at hloaded
  simp only [loaded, Prod.mk.injEq] at hloaded
  obtain ⟨hw, -, htickets, hm, hu⟩ := hloaded
  refine ⟨⟨?_, ?_, ?_, ?_⟩, by simp [ticketsLoaded]⟩
  all_goals simp only [ticketsLoaded, Reaction.skip_client, ht, List.nil_append]
  · rw [hw]; exact h.workshop
  · rw [hw, htickets]
    intro id hid'
    rw [hid] at hid'
    exact Option.some.inj hid' ▸ hd
  · rw [hm, htickets, hu]
  · rw [hu]; exact h.docID

/-- The ticket of an approved checkout is for the workshop and the user of its screen. -/
lemma updatePurchase_keeps (h : vc.Sound catalog s) (uppercased : String → String)
    (amount : ℚ) (tickets : ℤ) (now : Timestamp) (t : List WorkshopEffect) :
    KeepsSound catalog s (vc.updatePurchase uppercased amount tickets now) t := by
  refine h.keeps t (updatePurchase_loaded ..) fun q hq => ?_
  rcases vc.updatePurchase_cases uppercased amount tickets now with
    ⟨-, hreq⟩ | ⟨-, user, ticket, hu, hreq, huser, hworkshop, -⟩
  · rw [hreq] at hq; cases hq
  · rw [hreq] at hq
    obtain rfl := List.mem_singleton.mp hq
    obtain ⟨id, hid⟩ := h.workshop
    obtain ⟨docID, hdoc⟩ := h.docID user hu
    refine ⟨?_, ?_⟩
    · rw [hworkshop, hid]; rfl
    · rw [huser, hu, hdoc]; simpa using hdoc

/-- Every callback keeps the invariant, given an answer to a request of this screen. -/
lemma recv_keeps (h : vc.Sound catalog s) (uppercased : String → String)
    {q : WorkshopRequest} {a : WorkshopAnswer} (now : Timestamp) (hq : vc.Asked q)
    (ha : s.Answered q a) (t : List WorkshopEffect) :
    KeepsSound catalog s (vc.recv uppercased q a now) t := by
  rcases vc.recv_cases uppercased q a now with ⟨uid, documents, rfl, rfl, hr⟩ |
    ⟨workshop, documents, rfl, rfl, hr⟩ | ⟨amount, tickets, rfl, rfl, -, hr⟩ | ⟨-, hl, hreq, -⟩
  · rw [hr]; exact userLoaded_keeps h hq.2 uid documents t
  · rw [hr]; exact ticketsLoaded_keeps h hq.1 hq.2 ha now t
  · rw [hr]; exact updatePurchase_keeps h uppercased amount tickets now t
  · exact h.keeps t hl (by simp [hreq])

/-- What a screen asks for, apart from a second load, it still asks for after a callback. -/
lemma Asked.recv {q q' : WorkshopRequest} (hq : vc.Asked q) (hq' : vc.Asked q')
    (hone : q.Loads → ¬ q'.Loads) (uppercased : String → String) (a : WorkshopAnswer)
    (now : Timestamp) : (vc.recv uppercased q a now).client.Asked q' := by
  rcases vc.recv_cases uppercased q a now with ⟨uid, documents, rfl, rfl, hr⟩ |
    ⟨workshop, documents, rfl, rfl, hr⟩ | ⟨amount, tickets, rfl, rfl, -, hr⟩ | ⟨-, hl, -, -⟩
  · -- the screen had no user yet, so that it is not about to write a ticket
    have hno := hone trivial
    cases q' with
    | loadUser _ => exact absurd trivial hno
    | loadTickets _ => exact absurd trivial hno
    | startCheckout _ _ => trivial
    | setData ticket =>
      have hu := hq'.2
      rw [hq.1] at hu
      cases hu
  · have hno := hone trivial
    have hl := vc.checkAvailability_loaded (vc.tickets ++ documents) now
    simp only [loaded, Prod.mk.injEq] at hl
    rw [hr]
    cases q' with
    | loadUser _ => exact absurd trivial hno
    | loadTickets _ => exact absurd trivial hno
    | startCheckout _ _ => trivial
    | setData ticket =>
      refine ⟨?_, ?_⟩
      · exact hl.1 ▸ hq'.1
      · exact hl.2.2.2.2 ▸ hq'.2
  · exact hq'.of_loaded (by rw [hr]; exact updatePurchase_loaded ..)
  · exact hq'.of_loaded hl

end WorkshopDetailsVC

/-! ## The system -/

open WorkshopDetailsVC

variable {catalog : String → Workshops} {uppercased : String → String}

namespace WorkshopServer

/-- The server only adds tickets. -/
lemma serve_ticketsOf (s : WorkshopServer) (q : WorkshopRequest) (e : Outcome × ℕ)
    (id : String) : (s.ticketsOf id).Subperm ((s.serve q e).server.ticketsOf id) := by
  obtain ⟨e, position⟩ := e
  cases e with
  | failure e => cases q <;> exact List.Subperm.refl _
  | neither => cases q <;> exact List.Subperm.refl _
  | success =>
    cases q with
    | setData ticket =>
      have hsub : s.tickets.Subperm (s.store ticket position).tickets :=
        List.Subperm.trans (List.sublist_cons_self _ _).subperm
          (s.store_perm ticket position).symm.subperm
      exact hsub.filter _
    | _ => exact List.Subperm.refl _

lemma Answered.mono {s s' : WorkshopServer}
    (hs : ∀ id, (s.ticketsOf id).Subperm (s'.ticketsOf id)) {q : WorkshopRequest}
    {a : WorkshopAnswer} (h : s.Answered q a) : s'.Answered q a := by
  cases q with
  | loadTickets workshop =>
    cases a with
    | tickets documents => exact List.Subperm.trans h (hs workshop)
    | _ => trivial
  | _ => trivial

/-- The server answers a query of tickets by the stored ones. -/
lemma serve_answered (s : WorkshopServer) (q : WorkshopRequest) (e : Outcome × ℕ) :
    (s.serve q e).server.Answered q (s.serve q e).answer := by
  obtain ⟨e, position⟩ := e
  cases e with
  | success => cases q <;> first | exact List.Subperm.refl _ | trivial
  | _ => cases q <;> trivial

end WorkshopServer

/-- A snapshot of the tickets remains one when tickets are added. -/
lemma WorkshopDetailsVC.Sound.mono {s s' : WorkshopServer} {vc : WorkshopDetailsVC}
    (hs : ∀ id, (s.ticketsOf id).Subperm (s'.ticketsOf id)) (h : vc.Sound catalog s) :
    vc.Sound catalog s' :=
  ⟨h.workshop, fun id hid => List.Subperm.trans (h.snapshot id hid) (hs id), h.mine, h.docID⟩

/-- A screen loads one thing after the other. -/
lemma workshopSystem_exclusive :
    ExclusiveRules (workshopSystem catalog uppercased) WorkshopRequest.Loads where
  boot := by
    intro a
    obtain ⟨-, hreq, -⟩ :=
      viewDidLoad_cases { catalog a.1 with documentId := some a.1 } a.2.1 a.2.2
    rcases hreq with hreq | ⟨uid, hreq⟩
    · exact hreq ▸ List.Pairwise.nil
    · exact hreq ▸ List.pairwise_singleton _ _
  ui := by
    intro c u r hr q hq
    obtain ⟨amount, tickets, rfl⟩ := (ui_rest hr).2.1 q hq
    exact id
  recv := by
    intro vc q a now
    have hnil : (vc.recv uppercased q a now).requests = [] →
        AtMostOne WorkshopRequest.Loads (vc.recv uppercased q a now).requests ∧
          ∀ q' ∈ (vc.recv uppercased q a now).requests, q'.Loads → q.Loads := by
      intro hreq
      exact hreq ▸ ⟨List.Pairwise.nil, by simp⟩
    have hone : ∀ q₁, (vc.recv uppercased q a now).requests = [q₁] → (q₁.Loads → q.Loads) →
        AtMostOne WorkshopRequest.Loads (vc.recv uppercased q a now).requests ∧
          ∀ q' ∈ (vc.recv uppercased q a now).requests, q'.Loads → q.Loads := by
      intro q₁ hreq hq₁
      exact hreq ▸ ⟨List.pairwise_singleton _ _, by simpa using hq₁⟩
    rcases vc.recv_cases uppercased q a now with ⟨uid, documents, rfl, rfl, hr⟩ |
      ⟨workshop, documents, rfl, rfl, hr⟩ | ⟨amount, tickets, rfl, rfl, -, hr⟩ | ⟨-, -, hreq, -⟩
    · rcases vc.userLoaded_cases uid documents with ⟨-, hreq, -⟩ | ⟨user, id, -, hl⟩
      · exact hnil (hr ▸ hreq)
      · rw [hl] at hr
        rcases ({ vc with user := some user } : WorkshopDetailsVC).loadTickets_cases.2.1 with
          hreq | ⟨id, -, hreq⟩
        · exact hnil (hr ▸ hreq)
        · exact hone _ (hr ▸ hreq) fun _ => trivial
    · exact hnil (by rw [hr]; rfl)
    · rcases vc.updatePurchase_cases uppercased amount tickets now with
        ⟨-, hreq⟩ | ⟨-, user, ticket, -, hreq, -⟩
      · exact hnil (hr ▸ hreq)
      · exact hone (.setData ticket) (hr ▸ hreq) False.elim
    · exact hnil hreq

/-- The screens satisfy the conditions of the client rule. -/
lemma workshopSystem_rules :
    ClientRules (workshopSystem catalog uppercased) WorkshopRequest.Loads (fun _ => True)
      (fun s vc _ => vc.Sound catalog s) Asked WorkshopServer.Answered where
  boot := fun _ a _ => viewDidLoad_keeps a.1 a.2.1 a.2.2
  ui := by
    intro s c t u r _ h hr
    obtain ⟨hl, hreq, -⟩ := ui_rest hr
    refine ⟨h.keeps t hl fun q hq => ?_, fun q hq => hq.of_loaded hl⟩
    obtain ⟨amount, tickets, rfl⟩ := hreq q hq
    trivial
  serve := fun s q e _ _ _ =>
    ⟨trivial, s.serve_answered q e, fun _ h => h.mono (s.serve_ticketsOf q e)⟩
  others := fun s q e _ _ _ =>
    ⟨fun _ _ h => h.mono (s.serve_ticketsOf q e), fun _ _ h => h.mono (s.serve_ticketsOf q e)⟩
  recv := fun _ _ t q a now _ h hq ha =>
    ⟨recv_keeps h uppercased now hq ha t, fun _ hq' hone => hq.recv hq' hone uppercased a now⟩

/-- **Every screen is sound** in every state of every run, its requests in flight are requests
it makes, and the tickets it is answered are stored. -/
theorem workshopSystem_sound {s : WorkshopServer} {h : List (WorkshopWorld × WorkshopEvent)}
    {w : WorkshopWorld} (hr : (workshopSystem catalog uppercased).RunFrom s h w) :
    ClientInv (fun _ => True) (fun s vc _ => vc.Sound catalog s) Asked
      WorkshopServer.Answered w :=
  client_invariant workshopSystem_exclusive workshopSystem_rules trivial hr

end Aoun
