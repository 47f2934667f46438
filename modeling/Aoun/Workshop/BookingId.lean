import Aoun.Workshop.Capacity

/-!
# The booking ids of a workshop

The booking id of a ticket is made of the first letters of the workshop's title and one more
than the number of tickets that its screen holds. These are the ones that were stored when
the screen loaded them: neither another purchase of the screen nor one of another screen
changes them. Two tickets of a workshop therefore have the same id exactly when their screens
held equally many.

## Main definitions

* `Aoun.bookingIDFor` — the booking id made on a screen that holds a number of tickets.
* `Aoun.WritesTicket` — the step makes a screen write a ticket.
* `Aoun.DistinctIds`, `Aoun.CountsStored` — the property, and its condition.

## Main results

* `Aoun.issued` — every ticket in flight was written in a step of the run.
* `Aoun.distinct_ids_iff` — when booking ids identify the tickets of a workshop.
-/

set_option relaxedAutoImplicit false
set_option autoImplicit false

namespace Aoun

open AsyncSystem AsyncSystem.World StepSystem WorkshopDetailsVC

/-! ## The ids -/

/-- `bookingID(workshop:)` on a screen that holds `held` tickets of a workshop with this
title. -/
def bookingIDFor (uppercased : String → String) (Title : String) (held : ℕ) : Option String :=
  ((Title.toList.splitOn ' ').mapM List.head?).map fun namAbvr =>
    uppercased (String.ofList namAbvr) ++ format03d (held + 1)

section

variable {uppercased : String → String}

lemma bookingID_eq (vc : WorkshopDetailsVC) :
    vc.bookingID uppercased = bookingIDFor uppercased vc.workshop.Title vc.tickets.length := rfl

/-- An id tells how many tickets its screen held. -/
lemma bookingIDFor_inj {Title id : String} {n n' : ℕ}
    (h : bookingIDFor uppercased Title n = some id)
    (h' : bookingIDFor uppercased Title n' = some id) : n = n' := by
  obtain ⟨namAbvr, hword, rfl⟩ := Option.map_eq_some_iff.mp h
  obtain ⟨namAbvr', hword', hid⟩ := Option.map_eq_some_iff.mp h'
  obtain rfl : namAbvr = namAbvr' := by rw [hword] at hword'; exact Option.some.inj hword'
  have hformat : format03d (n' + 1) = format03d (n + 1) := by simpa using hid
  have hread := congrArg (fun s : String => natOfDigits s.toList) hformat
  simp only [natOfDigits_format03d] at hread
  omega

/-- A ticket that a purchase writes has the id made by its screen. -/
lemma updatePurchase_bookingID {vc : WorkshopDetailsVC} {amount : ℚ} {tickets : ℤ}
    {now : Timestamp} {t : Ticket}
    (h : .setData t ∈ (vc.updatePurchase uppercased amount tickets now).requests) :
    vc.bookingID uppercased = some t.bookingID := by
  unfold updatePurchase at h
  cases hu : vc.user with
  | none => simp [hu] at h
  | some user =>
    cases hb : vc.bookingID uppercased with
    | none => simp [hu, hb, trap] at h
    | some bookingID =>
      simp only [hu, hb, List.mem_singleton, WorkshopRequest.setData.injEq] at h
      rw [h]

/-- Only the callback of an approved checkout writes a ticket, with the id made by its
screen. -/
lemma recv_bookingID {vc : WorkshopDetailsVC} {q : WorkshopRequest} {a : WorkshopAnswer}
    {now : Timestamp} {t : Ticket} (h : .setData t ∈ (vc.recv uppercased q a now).requests) :
    vc.bookingID uppercased = some t.bookingID := by
  rcases vc.recv_cases uppercased q a now with ⟨uid, documents, rfl, rfl, hr⟩ |
    ⟨workshop, documents, rfl, rfl, hr⟩ | ⟨amount, tickets, rfl, rfl, -, hr⟩ | ⟨-, -, hreq, -⟩
  · rw [hr] at h
    rcases vc.userLoaded_cases uid documents with ⟨-, hreq, -⟩ | ⟨user, id, -, hl⟩
    · rw [hreq] at h; cases h
    · rw [hl] at h
      rcases ({ vc with user := some user } : WorkshopDetailsVC).loadTickets_cases.2.1 with
        hreq | ⟨id, -, hreq⟩ <;> simp [hreq] at h
  · rw [hr] at h; simp [ticketsLoaded] at h
  · rw [hr] at h; exact updatePurchase_bookingID h
  · rw [hreq] at h; cases h

end

/-! ## The tickets in flight -/

/-- In this step the screen `vc` of client `i` writes a ticket. -/
def WritesTicket (uppercased : String → String) (w : WorkshopWorld) (e : WorkshopEvent) (i : ℕ)
    (vc : WorkshopDetailsVC) (ticket : Ticket) : Prop :=
  ∃ k now f a, e = .deliver k now ∧ w.flights[k]? = some f ∧ f.owner = i ∧
    f.answer = some a ∧ w.clients i = some vc ∧
    .setData ticket ∈ (vc.recv uppercased f.request a now).requests

variable {catalog : String → Workshops} {uppercased : String → String} {s : WorkshopServer}
  {h : List (WorkshopWorld × WorkshopEvent)} {w : WorkshopWorld}

/-- Every ticket in flight was written in a step of the run.

**Proof sketch.** Induction on the run. Neither a launch nor a touch writes a ticket. -/
theorem issued (hr : (workshopSystem catalog uppercased).RunFrom s h w) :
    ∀ f ∈ w.flights, ∀ t, f.request = .setData t →
      ∃ p ∈ h, ∃ vc, WritesTicket uppercased p.1 p.2 f.owner vc t := by
  induction hr with
  | nil => intro f hf; cases hf
  | @snoc h w e w' hr hs ih =>
    have hold : ∀ f ∈ w.flights, ∀ t, f.request = .setData t →
        ∃ p ∈ h ++ [(w, e)], ∃ vc, WritesTicket uppercased p.1 p.2 f.owner vc t := by
      intro f hf t ht
      obtain ⟨p, hp, hwrites⟩ := ih f hf t ht
      exact ⟨p, List.mem_append_left _ hp, hwrites⟩
    intro g hg t ht
    cases took_of_step hs with
    | @boot i a free =>
      rcases List.mem_append.mp hg with hg | hg
      · exact hold g hg t ht
      · obtain ⟨q, hq, rfl⟩ := List.mem_map.mp hg
        rcases (viewDidLoad_cases { catalog a.1 with documentId := some a.1 } a.2.1
          a.2.2).2.1 with hreq | ⟨uid, hreq⟩ <;>
          simp only [workshopSystem, hreq, List.mem_singleton, List.not_mem_nil] at hq
        rw [hq] at ht
        cases ht
    | @ui i u vc r client reacts =>
      rcases List.mem_append.mp hg with hg | hg
      · exact hold g hg t ht
      · obtain ⟨q, hq, rfl⟩ := List.mem_map.mp hg
        obtain ⟨amount, tickets, rfl⟩ := (ui_rest reacts).2.1 q hq
        cases ht
    | @serve k e f flight unanswered =>
      rcases List.mem_append.mp hg with hg | hg
      · exact hold g (List.mem_of_mem_eraseIdx hg) t ht
      · obtain rfl := List.mem_singleton.mp hg
        exact hold f (mem_of_flight flight) t ht
    | @deliver k now f a vc flight answered client =>
      rcases List.mem_append.mp hg with hg | hg
      · exact hold g (List.mem_of_mem_eraseIdx hg) t ht
      · obtain ⟨q, hq, rfl⟩ := List.mem_map.mp hg
        obtain rfl : q = .setData t := ht
        exact ⟨(w, .deliver k now), by simp, vc, k, now, f, a, rfl, flight, rfl, answered,
          client, hq⟩

/-- The stored tickets of a workshop only get more. -/
lemma ticketsOf_mono (hr : (workshopSystem catalog uppercased).RunFrom s h w) (id : String) :
    ∀ p ∈ h, (p.1.server.ticketsOf id).length ≤ (w.server.ticketsOf id).length := by
  refine hr.related (R := fun w w' => (w.server.ticketsOf id).length ≤
    (w'.server.ticketsOf id).length) (fun _ _ _ => le_trans) fun _ w e w' _ hs => ?_
  rcases tickets_step hs with ⟨htickets, -⟩ | ⟨i, t, -, hperm⟩
  · rw [WorkshopServer.ticketsOf, WorkshopServer.ticketsOf, htickets]
  · have hsub : w.server.tickets.Subperm w'.server.tickets :=
      (List.sublist_cons_self _ _).subperm.trans hperm.symm.subperm
    exact (hsub.filter _).length_le

/-- A screen that writes a ticket held a part of the stored tickets of its workshop, and
numbers the ticket by it. -/
lemma WritesTicket.numbered (hr : (workshopSystem catalog uppercased).RunFrom s h w)
    {p : WorkshopWorld × WorkshopEvent} (hp : p ∈ h) {i : ℕ} {vc : WorkshopDetailsVC}
    {t : Ticket} (hwrites : WritesTicket uppercased p.1 p.2 i vc t) :
    bookingIDFor uppercased (catalog t.workshop).Title vc.tickets.length = some t.bookingID ∧
      vc.tickets.length ≤ (w.server.ticketsOf t.workshop).length := by
  obtain ⟨k, now, f, a, -, hf, rfl, ha, hvc, hq⟩ := hwrites
  obtain ⟨h', hr', -⟩ := hr.reached hp
  have hinv := workshopSystem_sound hr'
  have hsound := hinv.client f.owner vc hvc
  obtain ⟨vc', hvc', hasked, hanswer⟩ := hinv.flight f (mem_of_flight hf)
  obtain rfl : vc = vc' := by rw [hvc] at hvc'; exact Option.some.inj hvc'
  obtain ⟨id, hid⟩ := hsound.workshop
  have hfor : vc.workshop.documentId = some t.workshop := by
    have hk := recv_keeps hsound uppercased now hasked (hanswer a ha) []
    have ht : Asked _ (.setData t) := hk.2 _ hq
    rw [← recv_workshop]
    exact ht.1
  obtain rfl : id = t.workshop := by rw [hid] at hfor; exact Option.some.inj hfor
  refine ⟨?_, (hsound.snapshot _ hfor).length_le.trans (ticketsOf_mono hr _ p hp)⟩
  have hmade := recv_bookingID hq
  rw [bookingID_eq, hid] at hmade
  exact hmade

/-! ## When the ids identify the tickets -/

/-- No two tickets of the workshop have the same booking id. -/
def DistinctIds (workshop : String) (w : WorkshopWorld) : Prop :=
  ((w.server.ticketsOf workshop).map (·.bookingID)).Nodup

/-- A ticket of the workshop that is stored was written by a screen that held as many tickets
as are now stored for the workshop. -/
def CountsStored (uppercased : String → String) (workshop : String)
    (h : List (WorkshopWorld × WorkshopEvent)) (w : WorkshopWorld) (e : WorkshopEvent) : Prop :=
  ∀ i t, Stores w e i t → t.workshop = workshop →
    ∀ p ∈ h, ∀ vc, WritesTicket uppercased p.1 p.2 i vc t →
      vc.tickets.length = (w.server.ticketsOf workshop).length

/-- The tickets of the workshop are numbered one after the other. -/
def WorkshopServer.Numbered (catalog : String → Workshops) (uppercased : String → String)
    (workshop : String) (s : WorkshopServer) : Prop :=
  ((s.ticketsOf workshop).map fun t => some t.bookingID).Perm
    ((List.range (s.ticketsOf workshop).length).map
      (bookingIDFor uppercased (catalog workshop).Title))

/-- Numbered tickets have different ids. -/
lemma WorkshopServer.Numbered.nodup {workshop : String}
    (hs : s.Numbered catalog uppercased workshop) :
    ((s.ticketsOf workshop).map (·.bookingID)).Nodup := by
  have hnodup : ((List.range (s.ticketsOf workshop).length).map
      (bookingIDFor uppercased (catalog workshop).Title)).Nodup := by
    refine List.Nodup.map_on (fun n hn n' _ heq => ?_) List.nodup_range
    have hmem := hs.symm.subset (List.mem_map_of_mem hn)
    obtain ⟨t, -, ht⟩ := List.mem_map.mp hmem
    exact bookingIDFor_inj ht.symm (heq ▸ ht.symm)
  rw [← hs.nodup_iff] at hnodup
  refine List.Nodup.of_map some ?_
  rwa [List.map_map]

/-- One more ticket, numbered by a part of the numbered ones: its id is new exactly when the
part is the whole, and the tickets are then still numbered. -/
lemma WorkshopServer.Numbered.store {s' : WorkshopServer} {t : Ticket} {n : ℕ}
    (hs : s.Numbered catalog uppercased t.workshop)
    (hperm : s'.tickets.Perm (t :: s.tickets)) (hn : n ≤ (s.ticketsOf t.workshop).length)
    (hid : bookingIDFor uppercased (catalog t.workshop).Title n = some t.bookingID) :
    (((s'.ticketsOf t.workshop).map (·.bookingID)).Nodup ↔
      n = (s.ticketsOf t.workshop).length) ∧
    (n = (s.ticketsOf t.workshop).length → s'.Numbered catalog uppercased t.workshop) := by
  set m := (s.ticketsOf t.workshop).length with hm
  have hof : (s'.ticketsOf t.workshop).Perm (t :: s.ticketsOf t.workshop) := by
    have hfilter := hperm.filter fun t' => t'.workshop = t.workshop
    rwa [List.filter_cons_of_pos (by simp)] at hfilter
  have hnum : n = m → s'.Numbered catalog uppercased t.workshop := by
    intro hnm
    have hlen : (s'.ticketsOf t.workshop).length = m + 1 := by rw [hof.length_eq]; rfl
    rw [Numbered, hlen, List.range_succ, List.map_append, List.map_singleton, ← hnm, hid]
    refine (hof.map _).trans ?_
    rw [List.map_cons, hnm]
    exact (List.Perm.cons _ hs).trans (List.perm_append_singleton _ _).symm
  refine ⟨⟨fun hnodup => ?_, fun hnm => (hnum hnm).nodup⟩, hnum⟩
  -- a smaller number is already that of a stored ticket
  rw [(hof.map _).nodup_iff, List.map_cons, List.nodup_cons] at hnodup
  by_contra hne
  have hlt : n ∈ List.range m := List.mem_range.mpr (lt_of_le_of_ne hn hne)
  have hmem := hs.symm.subset (List.mem_map_of_mem hlt)
  rw [hid] at hmem
  obtain ⟨t', ht', heq⟩ := List.mem_map.mp hmem
  exact hnodup.1 (Option.some.inj heq ▸ List.mem_map_of_mem ht')

/-- **When booking ids identify tickets.** Starting with numbered tickets, or with none, the
tickets of a workshop have different booking ids in every state of a run if and only if each
ticket stored was written by a screen that held as many tickets as are then stored.

**Proof sketch.** A ticket is numbered by the tickets of its screen, which are at most as many
as those stored (`WritesTicket.numbered`). As long as the stored tickets are numbered one after the
other, the next one has a new id exactly when it has the next number. -/
theorem distinct_ids_iff (hr : (workshopSystem catalog uppercased).RunFrom s h w)
    {workshop : String} (hs : s.Numbered catalog uppercased workshop) :
    Throughout (DistinctIds workshop) h w ↔
      EveryStepAfter (CountsStored uppercased workshop) h := by
  have hstep : ∀ h w e w', (workshopSystem catalog uppercased).RunFrom s h w →
      w.server.Numbered catalog uppercased workshop →
      (workshopSystem catalog uppercased).step w e = some w' →
      (DistinctIds workshop w' ↔ CountsStored uppercased workshop h w e) ∧
      (CountsStored uppercased workshop h w e →
        w'.server.Numbered catalog uppercased workshop) := by
    intro h w e w' hr hnum hs
    have hkept : (w'.server.ticketsOf workshop).Perm (w.server.ticketsOf workshop) →
        w'.server.Numbered catalog uppercased workshop := by
      intro hperm
      rw [WorkshopServer.Numbered, hperm.length_eq]
      exact (hperm.map _).trans hnum
    rcases tickets_step hs with ⟨htickets, hno⟩ | ⟨i, t, hstores, hperm⟩
    · have hn := hkept (by rw [WorkshopServer.ticketsOf, htickets]; rfl)
      exact ⟨iff_of_true hn.nodup fun i t ht => absurd ht (hno i t), fun _ => hn⟩
    · by_cases hfor : t.workshop = workshop
      · subst hfor
        have ht := (hstores i t).mpr ⟨rfl, rfl⟩
        obtain ⟨k, position, f, -, hf, rfl, hq⟩ := ht
        obtain ⟨p, hp, vc, hwrites⟩ := issued hr f (mem_of_flight hf) t hq
        obtain ⟨hid, hle⟩ := hwrites.numbered hr hp
        obtain ⟨hnew, hnext⟩ := hnum.store hperm hle hid
        -- whichever screen wrote the ticket, it held as many tickets as the number says
        have hcount : CountsStored uppercased t.workshop h w e ↔
            vc.tickets.length = (w.server.ticketsOf t.workshop).length := by
          constructor
          · intro hG
            exact hG f.owner t ((hstores _ _).mpr ⟨rfl, rfl⟩) rfl p hp vc hwrites
          · intro heq i' t' ht' _ p' hp' vc' hwrites'
            obtain ⟨rfl, rfl⟩ := (hstores i' t').mp ht'
            rw [← heq]
            exact bookingIDFor_inj (hwrites'.numbered hr hp').1 hid
        exact ⟨hnew.trans hcount.symm, fun hG => hnext (hcount.mp hG)⟩
      · have hn := hkept (by
          have hfilter := hperm.filter fun t' => t'.workshop = workshop
          rwa [List.filter_cons_of_neg (by simpa using hfor)] at hfilter)
        refine ⟨iff_of_true hn.nodup fun i' t' ht' hw' => ?_, fun _ => hn⟩
        obtain ⟨-, rfl⟩ := (hstores i' t').mp ht'
        exact absurd hw' hfor
  exact hr.throughout_iff_everyStepAfter hs (fun w hw => hw.nodup)
    (fun h w e w' hr hw hs => (hstep h w e w' hr hw hs).1)
    (fun h w e w' hr hw hs => (hstep h w e w' hr hw hs).2)

/-- Alice buys a seat, opens the workshop again and buys another: two tickets, two ids. -/
theorem distinct_ids_reopened : ∃ h w,
    (workshopSystem (fun _ => { workshopOnSale with seat := "9" }) id).RunFrom workshopShop h w ∧
    (w.server.ticketsOf "w").map (·.bookingID) = ["A002", "A001"] ∧
    (Throughout (DistinctIds "w") h w ↔ EveryStepAfter (CountsStored id "w") h) := by
  have he : (exec (workshopSystem (fun _ => { workshopOnSale with seat := "9" }) id).step
      (start workshopShop) (opening ++ .ui 0 .bookSeat :: booking ++
        [.boot 1 ("w", some buyer, some "alice"), .serve 0 (.success, 0), .deliver 0 7,
          .serve 0 (.success, 0), .deliver 0 7, .ui 1 .bookSeat, .ui 1 .buyButtonTouched,
          .ui 1 .purchase, .serve 0 (.success, 0), .deliver 0 7, .serve 0 (.success, 0)])).map
      (fun w => (w.server.ticketsOf "w").map (·.bookingID)) = some ["A002", "A001"] := by
    decide +kernel
  obtain ⟨h, w, hr, -, hw⟩ := run_of_observed he
  exact ⟨h, w, hr, hw, distinct_ids_iff hr List.Perm.nil⟩

/-- Alice buys a seat twice on a screen that she leaves open: its tickets are not loaded again,
and both tickets have the id of the first. -/
theorem same_booking_id : ∃ h w,
    (workshopSystem (fun _ => workshopOnSale) id).RunFrom workshopShop h w ∧
    WorkshopServer.Numbered (fun _ => workshopOnSale) id "w" workshopShop ∧
    ¬ DistinctIds "w" w := by
  have he : (exec (workshopSystem (fun _ => workshopOnSale) id).step (start workshopShop)
      (opening ++ .ui 0 .bookSeat :: booking ++ .ui 0 (.ok false) :: .ui 0 .bookSeat ::
        booking)).map (fun w => (w.server.ticketsOf "w").map (·.bookingID)) =
      some ["A001", "A001"] := by decide +kernel
  obtain ⟨h, w, hr, -, hw⟩ := run_of_observed he
  refine ⟨h, w, hr, List.Perm.nil, ?_⟩
  rw [DistinctIds, hw]
  decide

end Aoun
