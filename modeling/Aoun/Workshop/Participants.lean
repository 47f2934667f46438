import Aoun.Lib.Beside
import Aoun.Lib.Chain
import Aoun.Workshop.SoldOut

/-!
# The participants of a workshop

The presenter of a workshop can see who takes part in it: `ParticipantVC` lists the tickets of the
workshop, which it loads once, while the screens of buyers go on selling them. Here the lists stand
beside the screens, and their queries find the tickets there are. A list has every ticket that was
sold before it was opened, and none that has not been sold.

A list with no ticket says that none has been sold. It says so also if the query has failed.

## Main definitions

* `Aoun.ParticipantVC` — the list, with its methods.
* `Aoun.participantSystem` — any number of such lists.
* `Aoun.presenterStep` — the screens that sell the tickets, and the lists beside them.

## Main results

* `Aoun.participant_tickets` — the tickets of a list were found by its query.
* `Aoun.participants_between` — what a list has, and what it may lack.
-/

set_option relaxedAutoImplicit false
set_option autoImplicit false

namespace Aoun

open AsyncSystem AsyncSystem.World StepSystem

/-! ## The list -/

/-- `ParticipantVC`. -/
structure ParticipantVC where
  workshop : Workshops
  tickets : List Ticket
  /-- The text of the label that is the header of the table. -/
  tableHeaderView : Option String

/-- What the list asks of Firestore, and the block that it puts on the main queue. -/
inductive ParticipantRequest
  /-- The query of `loadTickets(workShop:)`. -/
  | loadTickets (wsi : String)
  /-- The block that assigns `tickets`. -/
  | assignTickets (wsi : String) (ts : List Ticket)

/-- The answers: a snapshot, or none after an error. -/
abbrev ParticipantAnswer := Option (List Ticket)

/-- What the history records: the tickets of a workshop were assigned. -/
abbrev ParticipantEffect := String × List Ticket

/-- A reaction of the list. -/
abbrev ParticipantReaction := Reaction ParticipantVC ParticipantRequest ParticipantEffect

namespace ParticipantVC

variable (vc : ParticipantVC)

/-- `loadTickets(workShop:)`. -/
def loadTickets : ParticipantReaction :=
  match vc.workshop.documentId with
  | none => .skip vc
  | some wsi => ⟨vc, [.loadTickets wsi], []⟩

/-- The completion of the query; every ticket that has been stored can be read. -/
def ticketsFound (wsi : String) (snapShot : Option (List Ticket)) : ParticipantReaction :=
  match snapShot with
  | none | some [] => .skip { vc with tableHeaderView := some "No Tickets have been purchased yet" }
  | some (t :: ts) => ⟨vc, [.assignTickets wsi (t :: ts)], []⟩

/-- The block on the main queue. -/
def assignTickets (wsi : String) (ts : List Ticket) : ParticipantReaction :=
  ⟨{ vc with tickets := ts }, [], [(wsi, ts)]⟩

/-- `viewDidLoad()` of the list for a workshop. -/
def viewDidLoad (workshop : Workshops) : ParticipantReaction :=
  let vc : ParticipantVC := { workshop := workshop, tickets := [], tableHeaderView := none }
  vc.loadTickets

/-- The callback, and the block. -/
def recv : ParticipantRequest → ParticipantAnswer → ParticipantReaction
  | .loadTickets wsi, snapShot => vc.ticketsFound wsi snapShot
  | .assignTickets wsi ts, _ => vc.assignTickets wsi ts

/-- The rows of the table: the two texts of `PTableViewCell.setData(ticket:)`. -/
def rows : List (String × String) :=
  vc.tickets.map fun ticket =>
    ("Ticket ID: " ++ ticket.bookingID, s!"Number of Seat(s): {ticket.seats}")

variable {vc}

/-- What the completion of the query does: it changes the header at most, and puts what was found
on the main queue. -/
lemma ticketsFound_cases (wsi : String) (snapShot : Option (List Ticket)) :
    (vc.ticketsFound wsi snapShot).client.workshop = vc.workshop ∧
      (vc.ticketsFound wsi snapShot).client.tickets = vc.tickets ∧
      (vc.ticketsFound wsi snapShot).effects = [] ∧
      ∀ q ∈ (vc.ticketsFound wsi snapShot).requests,
        ∃ ts, snapShot = some ts ∧ q = .assignTickets wsi ts := by
  unfold ticketsFound
  split
  · exact ⟨rfl, rfl, rfl, by simp⟩
  · exact ⟨rfl, rfl, rfl, by simp⟩
  · exact ⟨rfl, rfl, rfl, fun q hq => ⟨_, rfl, List.mem_singleton.mp hq⟩⟩

/-- What the list asks for when it is opened. -/
lemma viewDidLoad_cases (workshop : Workshops) :
    (viewDidLoad workshop).client = ⟨workshop, [], none⟩ ∧ (viewDidLoad workshop).effects = [] ∧
      ∀ q ∈ (viewDidLoad workshop).requests,
        ∃ wsi, workshop.documentId = some wsi ∧ q = .loadTickets wsi := by
  unfold viewDidLoad loadTickets
  dsimp only
  split
  · exact ⟨rfl, rfl, by simp⟩
  · next wsi hwsi => exact ⟨rfl, rfl, fun q hq => ⟨wsi, hwsi, List.mem_singleton.mp hq⟩⟩

end ParticipantVC

/-- The answer to a request. The environment chooses what a query finds it in, if it succeeds. -/
def ParticipantRequest.serve : ParticipantRequest → Option WorkshopServer → ParticipantAnswer
  | .loadTickets wsi, s => s.map fun s => s.ticketsOf wsi
  | .assignTickets _ _, _ => none

/-- Any number of lists of participants. -/
def participantSystem : AsyncSystem Unit ParticipantVC Workshops Empty ParticipantRequest
    (Option WorkshopServer) ParticipantAnswer Unit ParticipantEffect where
  boot := ParticipantVC.viewDidLoad
  ui := fun _ _ => none
  serve := fun s q e => ⟨s, q.serve e, []⟩
  recv := fun vc q a _ => vc.recv q a

/-- The states of the system of lists. -/
abbrev ParticipantWorld :=
  AsyncSystem.World Unit ParticipantVC ParticipantRequest ParticipantAnswer ParticipantEffect

/-- What can happen in it. -/
abbrev ParticipantEvent := AsyncSystem.Event Workshops Empty (Option WorkshopServer) Unit

section

variable {h : List (ParticipantWorld × ParticipantEvent)} {w : ParticipantWorld}

/-- The request is about the workshop of the list. -/
def ParticipantVC.Asks (vc : ParticipantVC) : ParticipantRequest → Prop
  | .loadTickets wsi => vc.workshop.documentId = some wsi
  | .assignTickets wsi _ => vc.workshop.documentId = some wsi

/-- The tickets of the list were assigned for its workshop. -/
def ParticipantVC.Assigned (vc : ParticipantVC) (t : List ParticipantEffect) : Prop :=
  vc.tickets = [] ∨ ∃ wsi, vc.workshop.documentId = some wsi ∧ (wsi, vc.tickets) ∈ t

/-- What a list asks depends on its workshop. -/
lemma ParticipantVC.Asks.of_workshop {vc vc' : ParticipantVC} {q : ParticipantRequest}
    (hq : vc.Asks q) (hw : vc'.workshop = vc.workshop) : vc'.Asks q := by
  cases q <;> exact (congrArg Workshops.documentId hw).trans hq

/-- The lists satisfy the conditions of the client rule. -/
lemma participantSystem_rules : ClientRules participantSystem (fun _ => False) (fun _ => True)
    (fun _ vc t => vc.Assigned t) ParticipantVC.Asks (fun _ _ _ => True) where
  boot := by
    intro _ workshop _
    obtain ⟨hclient, -, hasks⟩ := ParticipantVC.viewDidLoad_cases workshop
    refine ⟨Or.inl (congrArg ParticipantVC.tickets hclient), fun q hq => ?_⟩
    obtain ⟨wsi, hwsi, rfl⟩ := hasks q hq
    exact (congrArg (fun vc => vc.workshop.documentId) hclient).trans hwsi
  ui := fun _ _ _ u _ _ _ _ => u.elim
  serve := by
    intro _ _ _ vc _ _
    refine ⟨trivial, trivial, fun t ht => ?_⟩
    show vc.Assigned (t ++ [])
    rwa [List.append_nil]
  others := fun _ _ _ _ _ _ => ⟨fun _ _ h => h, fun _ _ h => h⟩
  recv := by
    intro _ vc t q a _ _ hvc hq _
    cases q with
    | loadTickets wsi =>
      obtain ⟨hworkshop, htickets, heffects, hasks⟩ := vc.ticketsFound_cases wsi a
      refine ⟨⟨?_, fun q hmem => ?_⟩, fun q' hq' _ => hq'.of_workshop hworkshop⟩
      · show (vc.ticketsFound wsi a).client.Assigned (t ++ (vc.ticketsFound wsi a).effects)
        rw [ParticipantVC.Assigned, htickets, hworkshop, heffects, List.append_nil]
        exact hvc
      · obtain ⟨ts, -, rfl⟩ := hasks q hmem
        exact (congrArg Workshops.documentId hworkshop).trans hq
    | assignTickets wsi ts =>
      refine ⟨⟨Or.inr ⟨wsi, hq, ?_⟩, fun q hmem => absurd hmem List.not_mem_nil⟩,
        fun q' hq' _ => hq'.of_workshop rfl⟩
      exact List.mem_append_right _ (List.mem_singleton_self _)

/-- **Where the tickets come from.** In every state of every run, if a list has tickets, they are
those of its workshop in the collection that its query was handled with.

**Proof sketch.** The tickets were assigned by a block (`participantSystem_rules`), which the
completion of the query has put on the main queue. -/
theorem participant_tickets (hr : participantSystem.RunFrom () h w) {j : ℕ} {vc : ParticipantVC}
    (hj : w.clients j = some vc) (hne : vc.tickets ≠ []) :
    ∃ w' k f s wsi, (w', .serve k (some s)) ∈ h ∧ w'.flights[k]? = some f ∧ f.owner = j ∧
      vc.workshop.documentId = some wsi ∧ vc.tickets = s.ticketsOf wsi := by
  have hinv := client_invariant exclusiveRules_false participantSystem_rules trivial hr
  obtain ⟨wsi, hwsi, hassigned⟩ := (hinv.client j vc hj).resolve_left hne
  have hnone : ∀ workshop, (participantSystem.boot workshop).effects = [] :=
    fun workshop => (ParticipantVC.viewDidLoad_cases workshop).2.1
  obtain ⟨c, q, a, x, hanswered, heffect⟩ := answered_of_effect
    (P := fun o => o = (wsi, vc.tickets)) (fun workshop o ho => by rw [hnone] at ho; cases ho)
    (fun _ u => u.elim) (fun _ _ _ o ho => absurd ho List.not_mem_nil) hr hassigned rfl
  -- the effect is that of the block
  have hblock : q = .assignTickets wsi vc.tickets := by
    cases q with
    | loadTickets wsi' =>
      have hno : (c.ticketsFound wsi' a).effects = [] := (c.ticketsFound_cases wsi' a).2.2.1
      change _ ∈ (c.ticketsFound wsi' a).effects at heffect
      rw [hno] at heffect
      cases heffect
    | assignTickets wsi' ts =>
      obtain ⟨rfl, rfl⟩ := Prod.mk.inj (List.mem_singleton.mp heffect)
      rfl
  subst hblock
  cases hanswered.issuedBy hr with
  | @boot _ workshop _ asks =>
    obtain ⟨_, -, heq⟩ := (ParticipantVC.viewDidLoad_cases workshop).2.2 _ asks
    cases heq
  | @ui _ u _ _ _ _ => exact u.elim
  | @recv c q a x answered asks =>
    obtain ⟨w', k, e, f, hmem, hf, hi, rfl, ha⟩ := answered
    cases hq : f.request with
    | assignTickets wsi' ts =>
      rw [hq] at asks
      cases asks
    | loadTickets wsi' =>
      rw [hq] at asks ha
      obtain ⟨ts, rfl, heq⟩ := (c.ticketsFound_cases wsi' a).2.2.2 _ asks
      obtain ⟨rfl, rfl⟩ := ParticipantRequest.assignTickets.inj heq
      obtain ⟨s, rfl, hts⟩ := Option.map_eq_some_iff.mp
        (show e.map (fun s => s.ticketsOf wsi) = some vc.tickets from ha)
      exact ⟨w', k, f, s, wsi, hmem, hf, hi, hwsi, hts.symm⟩

end

/-! ## The lists beside the screens -/

/-- What can happen to the lists; the outcome of a query is whether it succeeds. -/
abbrev PresenterEvent := AsyncSystem.Event Workshops Empty Bool Unit

/-- What it is beside the screens: a query that succeeds finds the tickets there are. -/
def participantView (p : WorkshopWorld × ParticipantWorld) : PresenterEvent → ParticipantEvent
  | .boot i workshop => .boot i workshop
  | .ui i u => .ui i u
  | .serve k succeeds => .serve k (if succeeds then some p.1.server else none)
  | .deliver k x => .deliver k x

/-- Any number of screens that sell tickets, and of lists of participants. -/
abbrev presenterStep (catalog : String → Workshops) (uppercased : String → String) :
    WorkshopWorld × ParticipantWorld → WorkshopEvent ⊕ PresenterEvent →
      Option (WorkshopWorld × ParticipantWorld) :=
  beside (workshopSystem catalog uppercased).step participantSystem.step participantView

section

variable {catalog : String → Workshops} {uppercased : String → String} {s : WorkshopServer}
  {h : List ((WorkshopWorld × ParticipantWorld) × (WorkshopEvent ⊕ PresenterEvent))}
  {p : WorkshopWorld × ParticipantWorld}

/-- Tickets that are sold stay sold. -/
lemma ticketsOf_along (hr : Run (presenterStep catalog uppercased) (start s, start ()) h p)
    (id : String) : ∀ q ∈ h, (q.1.1.server.ticketsOf id).Subperm (p.1.server.ticketsOf id) := by
  refine hr.related_fst
    (R := fun w w' => (w.server.ticketsOf id).Subperm (w'.server.ticketsOf id))
    (fun _ => List.Subperm.refl _) (fun _ _ _ => List.Subperm.trans) fun _ w e w' _ hs => ?_
  cases took_of_step hs with
  | boot free => exact List.Subperm.refl _
  | ui client reacts => exact List.Subperm.refl _
  | serve flight unanswered => exact w.server.serve_ticketsOf _ _ id
  | deliver flight answered client => exact List.Subperm.refl _

/-- **Participants are listed.** In every run of screens that sell tickets and of lists of
participants beside them, a list that is not empty has all tickets of its workshop that were sold
before it was opened, and no ticket that has not been sold, each as often as it is stored. So the
seats that it lists are no fewer than those sold then, and no more than those sold now.

**Proof sketch.** The tickets of a list are those that its query has found (`participant_tickets`),
at a time when it was open; and tickets only become more (`ticketsOf_along`). -/
theorem participants_between (hs : ∀ t ∈ s.tickets, 1 ≤ t.seats)
    (hr : Run (presenterStep catalog uppercased) (start s, start ()) h p) {j : ℕ}
    {vc : ParticipantVC} (hj : p.2.clients j = some vc) (hne : vc.tickets ≠ []) :
    ∃ id, vc.workshop.documentId = some id ∧
      (vc.tickets.Subperm (p.1.server.ticketsOf id) ∧
        seatsSold vc.tickets ≤ seatsSold (p.1.server.ticketsOf id)) ∧
      ∀ q ∈ h, q.1.2.clients j = none → (q.1.1.server.ticketsOf id).Subperm vc.tickets ∧
        seatsSold (q.1.1.server.ticketsOf id) ≤ seatsSold vc.tickets := by
  obtain ⟨w, k, f, s', id, hmem, hf, rfl, hid, htickets⟩ := participant_tickets hr.snd hj hne
  obtain ⟨v, e, hstep, hview⟩ := exists_of_mem_sndStep hmem
  obtain ⟨h₁, h₂, heq⟩ := List.append_of_mem hstep
  have hbefore := hr.before heq
  have hopen : w.clients f.owner ≠ none := launched hbefore.snd f (mem_of_flight hf)
  -- the query has found the tickets that there were
  obtain rfl : v.server = s' := by
    cases e with
    | serve k' succeeds =>
      obtain ⟨-, hfound⟩ := Event.serve.inj hview
      cases succeeds with
      | true => exact Option.some.inj hfound
      | false => cases hfound
    | _ => cases hview
  have hseated : ∀ {h p}, Run (presenterStep catalog uppercased) (start s, start ()) h p →
      Seated (p.1.server.ticketsOf id) := fun hr t ht =>
    (soldFrom_start hr.fst hs).seated hs t (List.mem_of_mem_filter ht)
  have hnow := ticketsOf_along hr id _ hstep
  rw [htickets]
  refine ⟨id, hid, ⟨hnow, seatsSold_le hnow (hseated hr)⟩, fun q hq hclosed => ?_⟩
  have hearlier : q ∈ h₁ := hr.mem_of_lasts (P := fun p => p.2.clients f.owner ≠ none)
    (fun _ _ _ he => lasts_snd (P := fun w => w.clients f.owner ≠ none)
      (fun _ _ _ hs => clients_ne_none_step hs) he) heq hq (fun hnot => hnot hclosed) hopen
  have hthen := ticketsOf_along hbefore id q hearlier
  exact ⟨hthen, seatsSold_le hthen (hseated hbefore)⟩

/-- Alice buys three seats of a workshop with one, and the presenter finds her among the
participants. -/
theorem participants_between_alice : ∃ h p vc,
    Run (presenterStep (fun _ => workshopOnSale) id) (start workshopShop, start ()) h p ∧
    p.2.clients 0 = some vc ∧
    vc.rows = [("Ticket ID: A001", "Number of Seat(s): 3")] ∧
    seatsSold vc.tickets ≤ seatsSold (p.1.server.ticketsOf "w") := by
  have he : (exec (presenterStep (fun _ => workshopOnSale) id) (start workshopShop, start ())
      ((opening ++ .ui 0 .bookSeat :: .ui 0 (.didSelectRow 2) :: booking).map .inl ++
        [.boot 0 { workshopOnSale with documentId := some "w" }, .serve 0 true, .deliver 0 (),
          .serve 0 true, .deliver 0 ()].map .inr)).map
      (fun p => (p.2.clients 0).map fun vc => (vc.workshop.documentId, vc.rows)) =
      some (some (some "w", [("Ticket ID: A001", "Number of Seat(s): 3")])) := by decide +kernel
  obtain ⟨h, p, hr, -, hp⟩ := run_of_observed he
  obtain ⟨vc, hj, hseen⟩ := Option.map_eq_some_iff.mp hp
  obtain ⟨hid, hrows⟩ := Prod.mk.inj hseen
  have hne : vc.tickets ≠ [] := by
    intro hnil
    rw [ParticipantVC.rows, hnil] at hrows
    cases hrows
  obtain ⟨id, hid', ⟨-, hseats⟩, -⟩ := participants_between (by simp [workshopShop]) hr hj hne
  obtain rfl := Option.some.inj (hid.symm.trans hid')
  exact ⟨h, p, vc, hr, hj, hrows, hseats⟩

end

end Aoun
