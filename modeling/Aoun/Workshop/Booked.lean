import Mathlib.Data.Multiset.OrderedMonoid
import Aoun.Lib.Async
import Aoun.Lib.Join
import Aoun.Records

/-!
# The workshops a user has booked

`viewWorkshopViewController` lists all workshops, and those the user has booked. For these it
loads the user's tickets and then, ticket by ticket, their workshops; the list is shown when
as many documents have been answered as there are tickets, unless the callback has returned
before it compares the two.

The store is not modelled: a query may be answered by any documents, and a document may be
missing. What the screen only shows is left out, and a ticket names its workshop by a document
id that is not empty.

## Main definitions

* `Aoun.viewWorkshopViewController` — the screen, with its methods.
* `Aoun.bookedSystem` — any number of such screens.
* `Aoun.ticketAnswers` — the documents answered so far, in order.

## Main results

* `Aoun.booked_workshops_iff` — when the list is right once all documents are answered.
-/

set_option relaxedAutoImplicit false
set_option autoImplicit false

namespace Aoun

open AsyncSystem AsyncSystem.World StepSystem

/-! ## The screen -/

/-- A workshop with the two fields that only a booked one has. -/
structure BookedWorkshop where
  workshop : Workshops
  purchasedDate : Timestamp
  ticket : Ticket
  deriving DecidableEq

/-- The data of a document of the `Workshops` collection. -/
structure WorkshopData where
  title : Option String
  presenter : Option String
  price : Option String
  seat : Option String
  desc : Option String
  dateTime : Option Timestamp
  uid : Option String
  deriving DecidableEq

/-- The decoder in `loadWorkshops()` and `loadBookedWorkshops()`. -/
def WorkshopData.workshop (data : WorkshopData) (documentID : String) : Option Workshops := do
  let wName ← data.title
  let pName ← data.presenter
  let p ← data.price
  let se ← data.seat
  let desc ← data.desc
  let datetime ← data.dateTime
  let auth ← data.uid
  some { Title := wName, presenter := pName, price := p, seat := se, description := desc,
         dateTime := datetime, documentId := some documentID, uid := some auth }

/-- What the screen asks of Firestore, and the blocks it puts on the main queue. -/
inductive BookedRequest
  /-- The query of `loadWorkshops()`. -/
  | loadWorkshops
  /-- The query of `loadTicket(_:)`. -/
  | loadTicket (userId : String)
  /-- The `getDocument` for the workshop of a ticket. -/
  | getDocument (t : Ticket)
  /-- The block that assigns `workshops`. -/
  | assignWorkshops (ws : List Workshops)
  /-- The block that assigns `bookedWorkshops`. -/
  | assignBooked
  deriving DecidableEq

/-- The answers; a document of `Tickets` is given by the ticket it decodes to, if it does. -/
inductive BookedAnswer
  | workshops (documents : List (String × WorkshopData))
  | tickets (documents : List (Option Ticket))
  | document (data : Option WorkshopData)
  | error
  | neither
  deriving DecidableEq

/-- What the history of the screens records. -/
inductive BookedEffect
  /-- The user's tickets were loaded. -/
  | tickets (ts : List Ticket)
  /-- The document for a ticket was answered, with its data if there are any. -/
  | answered (t : Ticket) (data : Option WorkshopData)
  /-- The counter was found to be the number of tickets. -/
  | counted
  /-- `bookedWorkshops` was assigned. -/
  | booked
  deriving DecidableEq

/-- `viewWorkshopViewController`, with the variables of its call of `loadBookedWorkshops()`. -/
structure viewWorkshopViewController where
  workshops : List Workshops
  bookedWorkshops : List BookedWorkshop
  counter : ℕ
  tickets : Option (List Ticket)
  pw : List BookedWorkshop
  /-- The program has stopped at a forced unwrapping. -/
  trapped : Bool
  deriving DecidableEq

/-- A reaction of the screen. -/
abbrev BookedReaction := Reaction viewWorkshopViewController BookedRequest BookedEffect

namespace viewWorkshopViewController

variable (vc : viewWorkshopViewController)

/-- `loadWorkshops()`. -/
def loadWorkshops : BookedReaction := ⟨vc, [.loadWorkshops], []⟩

/-- The completion of the query of `loadWorkshops()`. -/
def workshopsFound (documents : List (String × WorkshopData)) : BookedReaction :=
  ⟨vc, [.assignWorkshops (documents.filterMap fun doc => doc.2.workshop doc.1)], []⟩

/-- `loadBookedWorkshops()`, with `loadTicket(_:)`, for the app's own user. -/
def loadBookedWorkshops (thisUser : Option User) : BookedReaction :=
  match thisUser with
  | none => .skip { vc with trapped := true }
  | some user =>
    match user.docID with
    | none => .skip vc
    | some userId => ⟨vc, [.loadTicket userId], []⟩

/-- The completion of the query of `loadTicket(_:)`, with what `loadBookedWorkshops()` does
with the tickets. -/
def ticketsFound (documents : List (Option Ticket)) : BookedReaction :=
  let ts := documents.filterMap id
  ⟨{ vc with tickets := some ts }, ts.map .getDocument, [.tickets ts]⟩

/-- The workshop that is booked by a ticket, from the data of its document. -/
def bookedWorkshop (t : Ticket) (data : WorkshopData) : Option BookedWorkshop :=
  (data.workshop t.workshop).map fun nw => ⟨nw, t.time, t⟩

/-- The completion of a `getDocument` of `loadBookedWorkshops()`. -/
def gotDocument (t : Ticket) (data : Option WorkshopData) : BookedReaction :=
  let vc := { vc with counter := vc.counter + 1 }
  match data with
  | none => ⟨vc, [], [.answered t none]⟩
  | some data =>
    let vc := { vc with pw := vc.pw ++ (bookedWorkshop t data).toList }
    if vc.tickets.map List.length = some vc.counter then
      ⟨vc, [.assignBooked], [.answered t (some data), .counted]⟩
    else ⟨vc, [], [.answered t (some data)]⟩

/-- `viewDidLoad()`. -/
def viewDidLoad (thisUser : Option User) : BookedReaction :=
  let vc : viewWorkshopViewController :=
    { workshops := [], bookedWorkshops := [], counter := 0, tickets := none, pw := [],
      trapped := false }
  vc.loadWorkshops.next fun vc => vc.loadBookedWorkshops thisUser

/-- `postWorkshop(_:workshop:added:)`. -/
def postWorkshop (added : Bool) : Option BookedReaction :=
  if vc.trapped then none else some (if added then vc.loadWorkshops else .skip vc)

/-- The callbacks of a program that has not stopped, and its blocks. -/
def callback : BookedRequest → BookedAnswer → BookedReaction
  | .loadWorkshops, .workshops documents => vc.workshopsFound documents
  | .loadTicket _, .tickets documents => vc.ticketsFound documents
  | .getDocument t, .document data => vc.gotDocument t data
  | .getDocument t, _ => vc.gotDocument t none
  | .assignWorkshops ws, _ => .skip { vc with workshops := ws }
  | .assignBooked, _ => ⟨{ vc with bookedWorkshops := vc.pw }, [], [.booked]⟩
  | _, _ => .skip vc

/-- The callbacks. -/
def recv (q : BookedRequest) (a : BookedAnswer) : BookedReaction :=
  if vc.trapped then .skip vc else vc.callback q a

end viewWorkshopViewController

open viewWorkshopViewController

/-- Any number of screens that list the workshops. The environment chooses the answers. -/
def bookedSystem : AsyncSystem Unit viewWorkshopViewController (Option User) Bool BookedRequest
    BookedAnswer BookedAnswer Unit BookedEffect where
  boot := viewDidLoad
  ui := postWorkshop
  serve := fun s _ a => ⟨s, a, []⟩
  recv := fun vc q a _ => vc.recv q a

/-- The states of the system. -/
abbrev BookedWorld :=
  AsyncSystem.World Unit viewWorkshopViewController BookedRequest BookedAnswer BookedEffect

/-- What can happen in it. -/
abbrev BookedEvent := AsyncSystem.Event (Option User) Bool BookedAnswer Unit

/-! ## The join -/

/-- The request belongs to the join of the booked workshops. -/
def BookedRequest.OfJoin : BookedRequest → Prop
  | .loadTicket _ => True
  | .getDocument _ => True
  | .assignBooked => True
  | _ => False

/-- The ticket and the data of an answered document. -/
def BookedEffect.answer : BookedEffect → Option (Ticket × Option WorkshopData)
  | .answered t data => some (t, data)
  | _ => none

/-- The tickets loaded. -/
def BookedEffect.loaded : BookedEffect → Option (List Ticket)
  | .tickets ts => some ts
  | _ => none

/-- The documents answered so far, in order, with the tickets they are for. -/
def ticketAnswers (t : List BookedEffect) : List (Ticket × Option WorkshopData) :=
  t.filterMap BookedEffect.answer

/-- The document has data, whether or not a workshop can be made of them. -/
def hasData (a : Ticket × Option WorkshopData) : Bool := a.2.isSome

/-- What an answered document adds to the list. -/
def decoded (a : Ticket × Option WorkshopData) : Option BookedWorkshop :=
  a.2.bind (bookedWorkshop a.1)

section

variable (t : List BookedEffect)

@[simp] lemma ticketAnswers_nil : ticketAnswers [] = [] := rfl
@[simp] lemma ticketAnswers_tickets (ts : List Ticket) :
    ticketAnswers (.tickets ts :: t) = ticketAnswers t := rfl
@[simp] lemma ticketAnswers_answered (ticket : Ticket) (data : Option WorkshopData) :
    ticketAnswers (.answered ticket data :: t) = (ticket, data) :: ticketAnswers t := rfl
@[simp] lemma ticketAnswers_counted : ticketAnswers (.counted :: t) = ticketAnswers t := rfl
@[simp] lemma ticketAnswers_booked : ticketAnswers (.booked :: t) = ticketAnswers t := rfl

end

@[simp] lemma ticketAnswers_append (t t' : List BookedEffect) :
    ticketAnswers (t ++ t') = ticketAnswers t ++ ticketAnswers t' := List.filterMap_append ..

namespace viewWorkshopViewController

/-- The screen is as it should be after the effects `t`. -/
structure Joins (vc : viewWorkshopViewController) (t : List BookedEffect) : Prop where
  counter : vc.counter = (ticketAnswers t).length
  pw : vc.pw = (ticketAnswers t).filterMap decoded
  /-- The tickets are loaded at most once. -/
  tickets : t.filterMap BookedEffect.loaded = vc.tickets.toList
  unloaded : vc.tickets = none → ticketAnswers t = []
  /-- The counter was found to be the number of tickets as often as it should. -/
  counted : t.count .counted =
    Join.firings ((vc.tickets.map List.length).getD 0) hasData (ticketAnswers t)
  /-- What is shown is what was there after some of the answers, at least as many as there are
  tickets. -/
  booked : (t.count .booked = 0 ∧ vc.bookedWorkshops = []) ∨ ∃ l₁ l₂ ts, t = l₁ ++ l₂ ∧
    vc.tickets = some ts ∧ ts.length ≤ (ticketAnswers l₁).length ∧
    t.count .booked ≠ 0 ∧ vc.bookedWorkshops = (ticketAnswers l₁).filterMap decoded

/-- The request is one this screen makes. -/
def Awaits (vc : viewWorkshopViewController) : BookedRequest → Prop
  | .loadTicket _ => vc.trapped = false ∧ vc.tickets = none
  | .getDocument _ => vc.trapped = false ∧ vc.tickets ≠ none
  | .assignBooked => vc.trapped = false ∧ ∃ ts, vc.tickets = some ts ∧ ts.length ≤ vc.counter
  | _ => True

variable {vc vc' : viewWorkshopViewController} {t : List BookedEffect}

/-- A reaction keeps the invariant. -/
abbrev KeepsJoins (r : BookedReaction) (t : List BookedEffect) : Prop := Keeps Joins Awaits r t

/-- The launch asks for the workshops and, where the user is known, for the tickets. -/
lemma viewDidLoad_cases (thisUser : Option User) :
    (∀ q ∈ (viewDidLoad thisUser).requests, q = .loadWorkshops ∨ ∃ uid, q = .loadTicket uid) ∧
      (viewDidLoad thisUser).effects = [] := by
  cases thisUser with
  | none => simp [viewDidLoad, loadWorkshops, loadBookedWorkshops]
  | some user =>
    obtain ⟨_, _, _, docID⟩ := user
    cases docID <;> simp [viewDidLoad, loadWorkshops, loadBookedWorkshops]

/-- A posted workshop loads the workshops again, at most. -/
lemma postWorkshop_cases {added : Bool} {r : BookedReaction}
    (hr : vc.postWorkshop added = some r) :
    r.client = vc ∧ (∀ q ∈ r.requests, q = .loadWorkshops) ∧ r.effects = [] := by
  simp only [postWorkshop, Option.ite_none_left_eq_some, Option.some.injEq] at hr
  obtain ⟨-, rfl⟩ := hr
  cases added <;> simp [loadWorkshops]

/-- What the screen holds of the booked workshops. -/
def join (vc : viewWorkshopViewController) :
    List BookedWorkshop × ℕ × Option (List Ticket) × List BookedWorkshop :=
  (vc.bookedWorkshops, vc.counter, vc.tickets, vc.pw)

lemma join_eq (h : vc'.join = vc.join) : vc'.bookedWorkshops = vc.bookedWorkshops ∧
    vc'.counter = vc.counter ∧ vc'.tickets = vc.tickets ∧ vc'.pw = vc.pw := by
  simpa only [join, Prod.mk.injEq] using h

lemma Joins.of_join (h : vc.Joins t) (hj : vc'.join = vc.join) : vc'.Joins t := by
  obtain ⟨hb, hc, ht, hp⟩ := join_eq hj
  refine ⟨?_, ?_, ?_, ?_, ?_, ?_⟩
  · rw [hc]; exact h.counter
  · rw [hp]; exact h.pw
  · rw [ht]; exact h.tickets
  · rw [ht]; exact h.unloaded
  · rw [ht]; exact h.counted
  · rw [hb, ht]; exact h.booked

/-- A reaction that leaves the booked workshops alone, without effects. -/
lemma Joins.still (h : vc.Joins t) {r : BookedReaction} (hj : r.client.join = vc.join)
    (he : r.effects = []) (hq : ∀ q ∈ r.requests, r.client.Awaits q) : KeepsJoins r t := by
  refine ⟨?_, hq⟩
  rw [he, List.append_nil]
  exact h.of_join hj

/-- Nothing is loaded when the screen is launched. -/
lemma viewDidLoad_keeps (thisUser : Option User) : KeepsJoins (viewDidLoad thisUser) [] := by
  have hnew : ∀ vc : viewWorkshopViewController, vc.join = ([], 0, none, []) →
      vc.Joins [] := by
    intro vc hj
    obtain ⟨hb, hc, ht, hp⟩ : _ ∧ _ ∧ _ ∧ _ := by simpa only [join, Prod.mk.injEq] using hj
    exact ⟨hc, hp, by simp [ht], fun _ => rfl, by simp, Or.inl ⟨rfl, hb⟩⟩
  cases thisUser with
  | none =>
    exact ⟨hnew _ rfl, by simp [viewDidLoad, loadWorkshops, loadBookedWorkshops, Awaits]⟩
  | some user =>
    obtain ⟨_, _, _, docID⟩ := user
    cases docID with
    | none =>
      exact ⟨hnew _ rfl, by simp [viewDidLoad, loadWorkshops, loadBookedWorkshops, Awaits]⟩
    | some id =>
      exact ⟨hnew _ rfl, by simp [viewDidLoad, loadWorkshops, loadBookedWorkshops, Awaits]⟩

/-- The tickets are taken over by a screen that has none. -/
lemma ticketsFound_keeps (h : vc.Joins t) (htrap : vc.trapped = false) (hnone : vc.tickets = none)
    (documents : List (Option Ticket)) : KeepsJoins (vc.ticketsFound documents) t := by
  have hans := h.unloaded hnone
  have hshown : t.count .booked = 0 ∧ vc.bookedWorkshops = [] := by
    rcases h.booked with hb | ⟨l₁, l₂, ts, -, hts, -⟩
    · exact hb
    · rw [hnone] at hts; cases hts
  refine ⟨⟨?_, ?_, ?_, ?_, ?_, ?_⟩, ?_⟩
  · simpa [ticketsFound] using h.counter
  · simpa [ticketsFound] using h.pw
  · have hno := h.tickets
    rw [hnone] at hno
    simp only [ticketsFound, List.filterMap_append, hno]
    rfl
  · intro hts; cases hts
  · have hcount : t.count .counted = 0 := by rw [h.counted, hans]; simp
    simp [ticketsFound, hans, hcount]
  · exact Or.inl ⟨by simpa [ticketsFound] using hshown.1, hshown.2⟩
  · intro q hq
    obtain ⟨ticket, -, rfl⟩ := List.mem_map.mp hq
    exact ⟨htrap, by simp [ticketsFound]⟩

/-- More effects, without new tickets, leave what is shown as it was. -/
lemma Joins.booked_append (h : vc.Joins t) {t' : List BookedEffect}
    (hno : t'.count .booked = 0) :
    ((t ++ t').count .booked = 0 ∧ vc.bookedWorkshops = []) ∨ ∃ l₁ l₂ ts, t ++ t' = l₁ ++ l₂ ∧
      vc.tickets = some ts ∧ ts.length ≤ (ticketAnswers l₁).length ∧
      (t ++ t').count .booked ≠ 0 ∧
      vc.bookedWorkshops = (ticketAnswers l₁).filterMap decoded := by
  rw [List.count_append, hno, Nat.add_zero]
  rcases h.booked with hb | ⟨l₁, l₂, ts, rfl, hts, hle, hcount, hshown⟩
  · exact Or.inl hb
  · exact Or.inr ⟨l₁, l₂ ++ t', ts, by simp, hts, hle, hcount, hshown⟩

/-- What an answered document does. -/
lemma gotDocument_eq (vc : viewWorkshopViewController) (ticket : Ticket)
    (data : Option WorkshopData) :
    vc.gotDocument ticket data =
      ⟨{ vc with counter := vc.counter + 1, pw := vc.pw ++ (decoded (ticket, data)).toList },
        if vc.tickets.map List.length = some (vc.counter + 1) ∧ data.isSome then [.assignBooked]
        else [],
        .answered ticket data ::
          if vc.tickets.map List.length = some (vc.counter + 1) ∧ data.isSome then [.counted]
          else []⟩ := by
  cases data with
  | none => simp [gotDocument, decoded]
  | some data =>
    simp only [gotDocument, decoded, Option.bind_some, Option.isSome_some, and_true]
    split_ifs <;> rfl

/-- A document is counted by a screen that has the tickets. -/
lemma gotDocument_keeps (h : vc.Joins t) (htrap : vc.trapped = false) (hsome : vc.tickets ≠ none)
    (ticket : Ticket) (data : Option WorkshopData) :
    KeepsJoins (vc.gotDocument ticket data) t := by
  obtain ⟨ts, hts⟩ := Option.ne_none_iff_exists'.mp hsome
  rw [gotDocument_eq]
  have hcond : vc.tickets.map List.length = some (vc.counter + 1) ↔
      (ticketAnswers t).length + 1 = ts.length := by
    rw [hts, h.counter, Option.map_some, Option.some.injEq, eq_comm]
  simp only [hcond]
  refine ⟨⟨?_, ?_, ?_, ?_, ?_, ?_⟩, ?_⟩
  · split_ifs <;> simp [h.counter]
  · split_ifs <;> simp [h.pw, List.filterMap_cons] <;> cases decoded (ticket, data) <;> rfl
  · simp only [List.filterMap_append, h.tickets]
    split_ifs <;> simp [BookedEffect.loaded]
  · intro hnone; exact absurd hnone hsome
  · have hfire := h.counted
    rw [hts, Option.map_some, Option.getD_some] at hfire
    simp only [hts, Option.map_some, Option.getD_some]
    have hans : ticketAnswers (t ++ .answered ticket data ::
        if (ticketAnswers t).length + 1 = ts.length ∧ data.isSome = true then [.counted] else []) =
        ticketAnswers t ++ [(ticket, data)] := by
      split_ifs <;> simp
    rw [hans, Join.firings_snoc, ← hfire]
    by_cases hc : (ticketAnswers t).length + 1 = ts.length ∧ data.isSome = true
    · simp [hc, hasData]
    · have hc' : ¬ ((ticketAnswers t).length + 1 = ts.length ∧ hasData (ticket, data) = true) := hc
      simp [hc, hc']
  · refine h.booked_append ?_
    split_ifs <;> simp
  · intro q hq
    split_ifs at hq with hc
    · obtain rfl := List.mem_singleton.mp hq
      exact ⟨htrap, ts, hts, by simp only [h.counter]; omega⟩
    · cases hq

/-- The block shows what has been collected. -/
lemma assignBooked_keeps (h : vc.Joins t) {ts : List Ticket} (hts : vc.tickets = some ts)
    (hle : ts.length ≤ vc.counter) :
    KeepsJoins ⟨{ vc with bookedWorkshops := vc.pw }, [], [.booked]⟩ t := by
  refine ⟨⟨?_, ?_, ?_, ?_, ?_, ?_⟩, by simp⟩
  · simpa using h.counter
  · simpa using h.pw
  · simp only [List.filterMap_append, h.tickets]
    simp [BookedEffect.loaded]
  · intro hnone; rw [hts] at hnone; cases hnone
  · simpa using h.counted
  · exact Or.inr ⟨t, [.booked], ts, rfl, hts, h.counter ▸ hle, by simp, h.pw⟩

/-- What a callback does: it takes over the tickets, counts a document, shows the list, or
leaves all that alone. -/
lemma recv_cases (vc : viewWorkshopViewController) (q : BookedRequest) (a : BookedAnswer) :
    (∃ uid documents, q = .loadTicket uid ∧ a = .tickets documents ∧
      vc.recv q a = vc.ticketsFound documents) ∨
    (∃ ticket data, q = .getDocument ticket ∧ vc.recv q a = vc.gotDocument ticket data) ∨
    (q = .assignBooked ∧
      vc.recv q a = ⟨{ vc with bookedWorkshops := vc.pw }, [], [.booked]⟩) ∨
    ((vc.trapped = false → ∀ ticket, q ≠ .getDocument ticket) ∧
      (vc.trapped = false → q ≠ .assignBooked) ∧ (vc.recv q a).client.join = vc.join ∧
      (vc.recv q a).client.trapped = vc.trapped ∧
      (∀ q' ∈ (vc.recv q a).requests, ¬ q'.OfJoin) ∧ (vc.recv q a).effects = []) := by
  unfold recv
  by_cases htrap : vc.trapped = true
  · rw [if_pos htrap]
    exact Or.inr (Or.inr (Or.inr ⟨by simp [htrap], by simp [htrap], rfl, rfl, by simp, rfl⟩))
  · rw [if_neg htrap]
    unfold callback
    split
    case h_1 documents =>
      exact Or.inr (Or.inr (Or.inr ⟨by simp, by simp, rfl, rfl,
        by simp [workshopsFound, BookedRequest.OfJoin], rfl⟩))
    case h_2 uid documents => exact Or.inl ⟨uid, documents, rfl, rfl, rfl⟩
    case h_3 ticket data => exact Or.inr (Or.inl ⟨ticket, data, rfl, rfl⟩)
    case h_4 ticket _ => exact Or.inr (Or.inl ⟨ticket, none, rfl, rfl⟩)
    case h_5 ws => exact Or.inr (Or.inr (Or.inr ⟨by simp, by simp, rfl, rfl, by simp, rfl⟩))
    case h_6 => exact Or.inr (Or.inr (Or.inl ⟨rfl, rfl⟩))
    case h_7 hdoc _ hbooked _ _ _ =>
      refine Or.inr (Or.inr (Or.inr ⟨fun _ ticket hq => ?_, fun _ hq => ?_, rfl, rfl, by simp,
        rfl⟩))
      · exact hdoc ticket hq
      · exact hbooked hq

/-- Every callback keeps the invariant. -/
lemma recv_keeps (h : vc.Joins t) {q : BookedRequest} (hq : vc.Awaits q) (a : BookedAnswer) :
    KeepsJoins (vc.recv q a) t := by
  rcases vc.recv_cases q a with ⟨uid, documents, rfl, rfl, hr⟩ | ⟨ticket, data, rfl, hr⟩ |
    ⟨rfl, hr⟩ | ⟨-, -, hj, -, hreq, heff⟩
  · rw [hr]; exact ticketsFound_keeps h hq.1 hq.2 documents
  · rw [hr]; exact gotDocument_keeps h hq.1 hq.2 ticket data
  · obtain ⟨-, ts, hts, hle⟩ := hq
    rw [hr]
    exact assignBooked_keeps h hts hle
  · refine h.still hj heff fun q' hq' => ?_
    have hno := hreq q' hq'
    cases q' <;> first | trivial | exact absurd trivial hno

/-- What is awaited, apart from the tickets that arrive, is still awaited after a callback. -/
lemma Awaits.recv {q q' : BookedRequest} (hq : vc.Awaits q) (hq' : vc.Awaits q')
    (hone : (∃ uid, q = .loadTicket uid) → ¬ ∃ uid, q' = .loadTicket uid) (a : BookedAnswer) :
    (vc.recv q a).client.Awaits q' := by
  rcases vc.recv_cases q a with ⟨uid, documents, rfl, rfl, hr⟩ | ⟨ticket, data, rfl, hr⟩ |
    ⟨rfl, hr⟩ | ⟨-, -, hj, htrap, -, -⟩
  · rw [hr]
    cases q' with
    | loadTicket uid' => exact absurd ⟨uid', rfl⟩ (hone ⟨uid, rfl⟩)
    | getDocument ticket => exact ⟨hq'.1, by simp [ticketsFound]⟩
    | assignBooked =>
      obtain ⟨-, ts, hts, -⟩ := hq'
      rw [hq.2] at hts
      cases hts
    | _ => trivial
  · rw [hr, gotDocument_eq]
    cases q' with
    | assignBooked =>
      obtain ⟨hno, ts, hts, hle⟩ := hq'
      exact ⟨hno, ts, hts, Nat.le_succ_of_le hle⟩
    | loadTicket uid => exact hq'
    | getDocument ticket => exact hq'
    | _ => trivial
  · rw [hr]
    cases q' <;> exact hq'
  · obtain ⟨-, hc, ht, -⟩ := join_eq hj
    cases q' <;> simp only [Awaits, hc, ht, htrap] at hq' ⊢ <;> exact hq'

/-- A posted workshop keeps the invariant. -/
lemma postWorkshop_keeps (h : vc.Joins t) {added : Bool} {r : BookedReaction}
    (hr : vc.postWorkshop added = some r) :
    KeepsJoins r t ∧ ∀ q, vc.Awaits q → r.client.Awaits q := by
  obtain ⟨hclient, hreq, heff⟩ := postWorkshop_cases hr
  refine ⟨h.still (by rw [hclient]) heff fun q hq => ?_, fun q hq => by rw [hclient]; exact hq⟩
  rw [hreq q hq]
  trivial

end viewWorkshopViewController

/-- The tickets are loaded once. -/
lemma bookedSystem_exclusive : ExclusiveRules bookedSystem fun q => ∃ uid, q = .loadTicket uid where
  boot := by
    intro thisUser
    cases thisUser with
    | none => exact List.pairwise_singleton _ _
    | some user =>
      obtain ⟨_, _, _, docID⟩ := user
      cases docID with
      | none => exact List.pairwise_singleton _ _
      | some id => simp [AtMostOne, bookedSystem, viewDidLoad, loadWorkshops, loadBookedWorkshops]
  ui := by
    intro vc added r hr q hq
    rw [(postWorkshop_cases hr).2.1 q hq]
    simp
  recv := by
    intro vc q a _
    have hnone : ∀ q' ∈ (vc.recv q a).requests, ¬ ∃ uid, q' = .loadTicket uid := by
      intro q' hq'
      rcases vc.recv_cases q a with ⟨uid, documents, rfl, rfl, hr⟩ | ⟨ticket, data, rfl, hr⟩ |
        ⟨rfl, hr⟩ | ⟨-, -, -, -, hreq, -⟩
      · rw [hr] at hq'
        obtain ⟨ticket, -, rfl⟩ := List.mem_map.mp hq'
        simp
      · rw [hr, gotDocument_eq] at hq'
        dsimp only at hq'
        split_ifs at hq' <;> simp at hq'
        simp [hq']
      · rw [hr] at hq'; cases hq'
      · rintro ⟨uid, rfl⟩
        exact hreq _ hq' trivial
    refine ⟨List.pairwise_of_forall_mem_list fun q₁ h₁ _ _ hload => ?_, fun q' hq' hload => ?_⟩
    · exact absurd hload (hnone q₁ h₁)
    · exact absurd hload (hnone q' hq')

/-- The screens satisfy the conditions of the client rule. -/
lemma bookedSystem_rules : ClientRules bookedSystem (fun q => ∃ uid, q = .loadTicket uid)
    (fun _ => True) (fun _ => Joins) Awaits (fun _ _ _ => True) where
  boot := fun _ thisUser _ => viewDidLoad_keeps thisUser
  ui := fun _ _ _ _ _ _ h hr => postWorkshop_keeps h hr
  serve := fun _ _ _ _ _ _ => ⟨trivial, trivial, fun t h => by simpa [bookedSystem] using h⟩
  others := fun _ _ _ _ _ _ => ⟨fun _ _ h => h, fun _ _ h => h⟩
  recv := fun _ _ _ _ a _ _ h hq _ =>
    ⟨recv_keeps h hq a, fun _ hq' hone => hq.recv hq' hone a⟩

variable {h : List (BookedWorld × BookedEvent)} {w : BookedWorld}

/-- **The screens join** as they should in every state of every run. -/
theorem bookedSystem_joins (hr : bookedSystem.RunFrom () h w) :
    ClientInv (fun _ => True) (fun _ => Joins) Awaits (fun _ _ _ => True) w :=
  client_invariant bookedSystem_exclusive bookedSystem_rules trivial hr

/-- A request in flight is one that its screen makes. -/
lemma awaits_of_flight (h : List (BookedWorld × BookedEvent)) (w : BookedWorld)
    (hr : bookedSystem.RunFrom () h w) : ∀ f ∈ w.flights, ∀ vc, w.clients f.owner = some vc →
      vc.Awaits f.request := by
  intro f hf vc hvc
  obtain ⟨vc', hvc', hq, -⟩ := (bookedSystem_joins hr).flight f hf
  obtain rfl : vc = vc' := by rw [hvc] at hvc'; exact Option.some.inj hvc'
  exact hq

/-! ## All documents are answered -/

/-- The tickets loaded, as far as an effect tells. -/
def loadedTickets : BookedEffect → Multiset Ticket
  | .tickets ts => ts
  | _ => 0

/-- The tickets whose documents are answered, as far as an effect tells. -/
def answeredTickets : BookedEffect → Multiset Ticket
  | .answered t _ => {t}
  | _ => 0

/-- The ticket for which a request awaits a document. -/
def awaitedTicket : BookedRequest → Option BookedAnswer → Multiset Ticket
  | .getDocument t, _ => {t}
  | _, _ => 0

/-- How often an effect counts. -/
def countedOnce (o : BookedEffect) : ℕ := if o = .counted then 1 else 0

/-- How often an effect shows the list. -/
def bookedOnce (o : BookedEffect) : ℕ := if o = .booked then 1 else 0

/-- The block that is about to show the list. -/
def awaitedBlock : BookedRequest → Option BookedAnswer → ℕ
  | .assignBooked, _ => 1
  | _, _ => 0

section Balance

lemma total_loadedTickets (t : List BookedEffect) : total loadedTickets t =
    total (fun ts : List Ticket => (ts : Multiset Ticket)) (t.filterMap BookedEffect.loaded) := by
  rw [total_filterMap]
  congr 1
  funext o
  cases o <;> rfl

lemma total_answeredTickets (t : List BookedEffect) :
    total answeredTickets t = ((ticketAnswers t).map Prod.fst : Multiset Ticket) := by
  rw [ticketAnswers, ← total_singleton, total_filterMap]
  congr 1
  funext o
  cases o <;> rfl

/-- Requests for documents, one for each ticket. -/
lemma total_getDocument (ts : List Ticket) :
    total (fun q => awaitedTicket q none) (ts.map .getDocument) = (ts : Multiset Ticket) := by
  rw [total_map]
  exact (total_singleton id ts).trans (by rw [List.map_id])

/-- A callback asks for the documents of the tickets, or takes one of them over. -/
lemma recv_accounts_tickets {vc : viewWorkshopViewController} {q : BookedRequest}
    (hq : vc.Awaits q) (a : BookedAnswer) :
    Accounts loadedTickets answeredTickets awaitedTicket (vc.recv q a)
      (awaitedTicket q (some a)) := by
  rcases vc.recv_cases q a with ⟨uid, documents, rfl, rfl, hr⟩ | ⟨ticket, data, rfl, hr⟩ |
    ⟨rfl, hr⟩ | ⟨hno, -, -, -, hreq, heff⟩
  · rw [hr, Accounts, ticketsFound, total_getDocument]
    simp [awaitedTicket, loadedTickets, answeredTickets]
  · rw [hr, gotDocument_eq, Accounts]
    split_ifs <;> simp [awaitedTicket, loadedTickets, answeredTickets]
  · simp [hr, Accounts, awaitedTicket, loadedTickets, answeredTickets]
  · have hnone : awaitedTicket q (some a) = 0 := by
      cases q with
      | getDocument ticket => exact absurd rfl (hno hq.1 ticket)
      | _ => rfl
    rw [hnone]
    refine accounts_rest (fun q' hq' => ?_) heff
    have hout := hreq q' hq'
    cases q' <;> first | rfl | exact absurd trivial hout

/-- A screen asks for a document for each of the tickets it has loaded. -/
lemma tickets_balance (hr : bookedSystem.RunFrom () h w) (i : ℕ) :
    total loadedTickets (w.effectsOf i) =
      total (flightOf i awaitedTicket) w.flights + total answeredTickets (w.effectsOf i) := by
  have hrules : ClientBalanceRules bookedSystem Awaits loadedTickets answeredTickets
      awaitedTicket := by
    refine ⟨fun thisUser => ?_, fun vc added r hr => ?_, fun _ q a => ?_, fun vc q a _ hq => ?_⟩
    · obtain ⟨hreq, heff⟩ := viewDidLoad_cases thisUser
      refine accounts_rest (fun q hq => ?_) heff
      rcases hreq q hq with rfl | ⟨uid, rfl⟩ <;> rfl
    · obtain ⟨-, hreq, heff⟩ := postWorkshop_cases hr
      refine accounts_rest (fun q hq => ?_) heff
      rw [hreq q hq]
      rfl
    · cases q <;> simp [bookedSystem, awaitedTicket]
    · exact recv_accounts_tickets hq a
  exact client_balance hrules awaits_of_flight hr i

/-- A callback that counts the last document puts the block on the main queue. -/
lemma recv_accounts_block {vc : viewWorkshopViewController} {q : BookedRequest}
    (hq : vc.Awaits q) (a : BookedAnswer) :
    Accounts countedOnce bookedOnce awaitedBlock (vc.recv q a) (awaitedBlock q (some a)) := by
  rcases vc.recv_cases q a with ⟨uid, documents, rfl, rfl, hr⟩ | ⟨ticket, data, rfl, hr⟩ |
    ⟨rfl, hr⟩ | ⟨-, hno, -, -, hreq, heff⟩
  · have hzero : total (fun q => awaitedBlock q none)
        ((documents.filterMap id).map .getDocument) = 0 := by
      refine total_eq_zero _ fun q hq => ?_
      obtain ⟨ticket, -, rfl⟩ := List.mem_map.mp hq
      rfl
    rw [hr, Accounts, ticketsFound, hzero]
    simp [awaitedBlock, countedOnce, bookedOnce]
  · rw [hr, gotDocument_eq, Accounts]
    split_ifs <;> simp [awaitedBlock, countedOnce, bookedOnce]
  · simp [hr, Accounts, awaitedBlock, countedOnce, bookedOnce]
  · have hnone : awaitedBlock q (some a) = 0 := by
      cases q with
      | assignBooked => exact absurd rfl (hno hq.1)
      | _ => rfl
    rw [hnone]
    refine accounts_rest (fun q' hq' => ?_) heff
    have hout := hreq q' hq'
    cases q' <;> first | rfl | exact absurd trivial hout

/-- The list is shown, or about to be, as often as the counter was found to be the number of
tickets. -/
lemma block_balance (hr : bookedSystem.RunFrom () h w) (i : ℕ) :
    (w.effectsOf i).count .counted =
      total (flightOf i awaitedBlock) w.flights + (w.effectsOf i).count .booked := by
  have hrules : ClientBalanceRules bookedSystem Awaits countedOnce bookedOnce awaitedBlock := by
    refine ⟨fun thisUser => ?_, fun vc added r hr => ?_, fun _ q a => ?_, fun vc q a _ hq => ?_⟩
    · obtain ⟨hreq, heff⟩ := viewDidLoad_cases thisUser
      refine accounts_rest (fun q hq => ?_) heff
      rcases hreq q hq with rfl | ⟨uid, rfl⟩ <;> rfl
    · obtain ⟨-, hreq, heff⟩ := postWorkshop_cases hr
      refine accounts_rest (fun q hq => ?_) heff
      rw [hreq q hq]
      rfl
    · cases q <;> simp [bookedSystem, awaitedBlock]
    · exact recv_accounts_block hq a
  have hb := client_balance hrules awaits_of_flight hr i
  rwa [show countedOnce = fun o => if o = .counted then 1 else 0 from rfl,
    show bookedOnce = fun o => if o = .booked then 1 else 0 from rfl, total_eq_count,
    total_eq_count] at hb

end Balance

/-- Only requests of the join hold a ticket, or its continuation. -/
lemma awaitedTicket_eq_zero {q : BookedRequest} (hq : ¬ q.OfJoin) (a : Option BookedAnswer) :
    awaitedTicket q a = 0 := by
  cases q <;> first | rfl | exact absurd trivial hq

lemma awaitedBlock_eq_zero {q : BookedRequest} (hq : ¬ q.OfJoin) (a : Option BookedAnswer) :
    awaitedBlock q a = 0 := by
  cases q <;> first | rfl | exact absurd trivial hq

/-- Once no request of the join is in flight, the tickets loaded are those whose documents are
answered. -/
lemma answered_perm (hr : bookedSystem.RunFrom () h w) {i : ℕ} {vc : viewWorkshopViewController}
    (hi : w.clients i = some vc) {ts : List Ticket} (hts : vc.tickets = some ts)
    (hdone : ∀ f ∈ w.flights, f.owner = i → ¬ f.request.OfJoin) :
    ((ticketAnswers (w.effectsOf i)).map Prod.fst).Perm ts := by
  have hzero : total (flightOf i awaitedTicket) w.flights = 0 :=
    total_flightOf_eq_zero fun f hf hi => awaitedTicket_eq_zero (hdone f hf hi) f.answer
  have hb := tickets_balance hr i
  rw [hzero, zero_add, total_loadedTickets, total_answeredTickets,
    ((bookedSystem_joins hr).client i vc hi).tickets, hts] at hb
  exact (Multiset.coe_eq_coe.mp (by simpa using hb)).symm

/-- **When the booked workshops are right.** Once all documents for the user's tickets are
answered, the screen has exactly the workshops that decode, each with its ticket, if and only
if the last answer had data or nothing decodes at all.

**Proof sketch.** The documents answered are those of the tickets (`answered_perm`), and the
counter is found to be their number when the last one is answered, unless its data are missing
(`Join.firings_eq_one_iff`). -/
theorem booked_workshops_iff (hr : bookedSystem.RunFrom () h w) {i : ℕ}
    {vc : viewWorkshopViewController} (hi : w.clients i = some vc) {ts : List Ticket}
    (hts : vc.tickets = some ts)
    (hdone : ∀ f ∈ w.flights, f.owner = i → ¬ f.request.OfJoin) :
    (((ticketAnswers (w.effectsOf i)).map Prod.fst).Perm ts ∧
      vc.bookedWorkshops.Perm ((ticketAnswers (w.effectsOf i)).filterMap decoded)) ↔
    (∃ a, (ticketAnswers (w.effectsOf i)).getLast? = some a ∧ hasData a = true) ∨
      ∀ a ∈ ticketAnswers (w.effectsOf i), decoded a = none := by
  have hjoins := (bookedSystem_joins hr).client i vc hi
  have hperm := answered_perm hr hi hts hdone
  have hlen : (ticketAnswers (w.effectsOf i)).length = ts.length := by
    simpa using hperm.length_eq
  -- the list is shown as often as the counter was found to be the number of tickets
  have hcount : (w.effectsOf i).count .booked =
      Join.firings ts.length hasData (ticketAnswers (w.effectsOf i)) := by
    have hzero : total (flightOf i awaitedBlock) w.flights = 0 :=
      total_flightOf_eq_zero fun f hf hi => awaitedBlock_eq_zero (hdone f hf hi) f.answer
    have hb := block_balance hr i
    rw [hzero, zero_add, hjoins.counted, hts] at hb
    exact hb.symm
  have hfires : (w.effectsOf i).count .booked ≠ 0 ↔
      ∃ a, (ticketAnswers (w.effectsOf i)).getLast? = some a ∧ hasData a = true := by
    have hone : Join.firings ts.length hasData (ticketAnswers (w.effectsOf i)) = 1 ↔ _ :=
      Join.firings_eq_one_iff hlen.le
    have hle : Join.firings ts.length hasData (ticketAnswers (w.effectsOf i)) ≤ 1 :=
      Join.firings_le_one
    rw [hcount]
    constructor
    · intro hne
      exact (hone.mp (by omega)).2
    · intro hlast hzero
      have h1 := hone.mpr ⟨hlen, hlast⟩
      omega
  rw [← hfires, and_iff_right hperm]
  rcases hjoins.booked with ⟨hzero, hshown⟩ | ⟨l₁, l₂, ts', heq, hts', hle, hne, hshown⟩
  · -- the list was never shown
    rw [hshown, List.nil_perm, List.filterMap_eq_nil_iff]
    exact ⟨Or.inr, fun hor => hor.resolve_left (not_not_intro hzero)⟩
  · -- the list was shown after the last answer
    obtain rfl : ts' = ts := by rw [hts] at hts'; exact (Option.some.inj hts').symm
    have hnone : ticketAnswers l₂ = [] := by
      rw [heq, ticketAnswers_append, List.length_append] at hlen
      exact List.eq_nil_of_length_eq_zero (by omega)
    refine iff_of_true ?_ (Or.inl hne)
    rw [hshown, heq, ticketAnswers_append, hnone, List.append_nil]

/-! ## Two tickets -/

/-- A ticket for the workshop with a document id. -/
def ticketFor (workshop : String) : Ticket :=
  { buyerName := "Alice", price := 4, time := 5, user := "a", workshop := workshop,
    workshopTitle := "Art", bookingID := "A001", seats := 1 }

/-- The document of a workshop. -/
def workshopDoc : WorkshopData :=
  ⟨some "Art", some "Sara", some "15", some "9", some "", some 100, some "presenter"⟩

/-- Alice opens the screen, and her two tickets are loaded. -/
def twoTickets : List BookedEvent :=
  [.boot 0 (some ⟨"Alice", "A", "alice", some "a"⟩), .serve 0 (.workshops []), .deliver 1 (),
    .serve 1 .neither, .deliver 1 (),
    .serve 0 (.tickets [some (ticketFor "v"), some (ticketFor "w")]), .deliver 0 ()]

/-- Both documents are found, the second one first. -/
theorem booked_workshops_alice : ∃ h w vc, bookedSystem.RunFrom () h w ∧
    w.clients 0 = some vc ∧ vc.bookedWorkshops.map (·.ticket.workshop) = ["w", "v"] ∧
    ((((ticketAnswers (w.effectsOf 0)).map Prod.fst).Perm [ticketFor "v", ticketFor "w"] ∧
      vc.bookedWorkshops.Perm ((ticketAnswers (w.effectsOf 0)).filterMap decoded)) ↔
      (∃ a, (ticketAnswers (w.effectsOf 0)).getLast? = some a ∧ hasData a = true) ∨
        ∀ a ∈ ticketAnswers (w.effectsOf 0), decoded a = none) := by
  have he : (exec bookedSystem.step (start ()) (twoTickets ++
      [.serve 1 (.document workshopDoc), .deliver 1 (), .serve 0 (.document workshopDoc),
        .deliver 0 (), .serve 0 .neither, .deliver 0 ()])).map
      (fun w => (w.flights.map (·.request), (w.clients 0).map fun vc =>
        (vc.tickets, vc.bookedWorkshops.map (·.ticket.workshop)))) =
      some ([], some (some [ticketFor "v", ticketFor "w"], ["w", "v"])) := by decide +kernel
  obtain ⟨h, w, hr, -, hw⟩ := run_of_observed he
  obtain ⟨hflights, hclient⟩ := Prod.mk.inj hw
  obtain ⟨vc, hi, hvc⟩ := Option.map_eq_some_iff.mp hclient
  obtain ⟨hts, hshown⟩ := Prod.mk.inj hvc
  refine ⟨h, w, vc, hr, hi, hshown, booked_workshops_iff hr hi hts ?_⟩
  simp [List.map_eq_nil_iff.mp hflights]

/-- The first document is found, and the second one, which is answered last, is missing: the
list is never shown. -/
theorem booked_workshops_missing : ∃ h w vc, bookedSystem.RunFrom () h w ∧
    w.clients 0 = some vc ∧ vc.tickets = some [ticketFor "v", ticketFor "w"] ∧
    w.flights = [] ∧
    ¬ (((ticketAnswers (w.effectsOf 0)).map Prod.fst).Perm [ticketFor "v", ticketFor "w"] ∧
      vc.bookedWorkshops.Perm ((ticketAnswers (w.effectsOf 0)).filterMap decoded)) := by
  have he : (exec bookedSystem.step (start ()) (twoTickets ++
      [.serve 0 (.document workshopDoc), .deliver 1 (), .serve 0 (.document none),
        .deliver 0 ()])).map
      (fun w => (w.flights.map (·.request), (w.clients 0).map fun vc =>
        (vc.tickets, vc.bookedWorkshops.length, ((ticketAnswers (w.effectsOf 0)).filterMap
          decoded).length))) =
      some ([], some (some [ticketFor "v", ticketFor "w"], 0, 1)) := by decide +kernel
  obtain ⟨h, w, hr, -, hw⟩ := run_of_observed he
  obtain ⟨hflights, hclient⟩ := Prod.mk.inj hw
  obtain ⟨vc, hi, hvc⟩ := Option.map_eq_some_iff.mp hclient
  obtain ⟨hts, hshown, hlen⟩ : _ ∧ _ ∧ _ := by simpa only [Prod.mk.injEq] using hvc
  refine ⟨h, w, vc, hr, hi, hts, List.map_eq_nil_iff.mp hflights, fun hright => ?_⟩
  have hperm := hright.2.length_eq
  rw [hshown, hlen] at hperm
  cases hperm

end Aoun
