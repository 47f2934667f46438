import Mathlib.Algebra.Order.BigOperators.Group.List
import Aoun.Note.Ledger

/-!
# Bounds on what is stored as earned

Sales of a seller can be lost, and a purchase can be recorded without crediting anybody. Even so
the stored income stays within bounds: whatever requests fail, and in whatever order they are
handled and answered, a document of the `users` collection never holds less than at the start, nor
more than that and the prices of the sales of its account.

## Main definitions

* `Aoun.readOf` — the income that a request in flight has read from a users document.
* `Aoun.incomeBounds` — the stored income as a register, for any users document.

## Main results

* `Aoun.incomeBounds_step` — every step waits, or adds to what was read.
* `Aoun.income_within` — the bounds on the stored income.
-/

set_option relaxedAutoImplicit false
set_option autoImplicit false

namespace Aoun

open AsyncSystem AsyncSystem.World StepSystem DetailedNoteViewController

/-- The income that a request in flight has read from the document `id`, for an account of which
that need not be the first document. -/
def readOf (id : String) (f : NoteFlight) : Option ℚ :=
  match f.request, f.answer with
  | .updatePrice _ _, some (.users documents) =>
      (documents.head?.filter fun d => d.documentID = id).map UserDoc.income
  | .updateData document earned _, none => if document = id then some earned else none
  | _, _ => none

/-- The income stored in the document `id` of the account `uid`, as a register. -/
def incomeBounds (uid id : String) (initial : ℚ) (w : NoteWorld) : Register ℚ :=
  { incomeRegister uid id initial w with reads := {v | ∃ f ∈ w.flights, readOf id f = some v} }

section

variable {urlOf : String → Option URL} {owners : List (String × String)} {uid id : String}
  {initial : ℚ} {w w' : NoteWorld}

/-! ## Requests -/

/-- A request that takes no part in closing a sale reads nothing and has nothing to add. -/
lemma rest_request (uid id : String) (f : NoteFlight)
    (h : f.request.OfSale → ∃ amount url, f.request = .startCheckout amount url) :
    readOf id f = none ∧ outstanding uid id f = 0 := by
  obtain ⟨owner, root, request, answer⟩ := f
  cases request <;> simp_all [readOf, outstanding, NoteRequest.OfSale]

/-- What a screen still has to add is not negative. -/
lemma outstanding_nonneg {c : DetailedNoteViewController} {f : NoteFlight}
    (h : c.Asked owners f.request) : 0 ≤ outstanding uid id f := by
  obtain ⟨owner, root, request, answer⟩ := f
  cases request with
  | updatePrice seller price =>
    have hpos : 0 < price := h.2.2
    simp only [outstanding]
    split_ifs
    · exact hpos.le
    · exact le_rfl
  | updateData document earned price =>
    have hpos : 0 < price := h.2.1
    cases answer with
    | some a => exact le_rfl
    | none =>
      simp only [outstanding]
      split_ifs
      · exact hpos.le
      · exact le_rfl
  | _ => exact le_rfl

/-! ## Reactions -/

/-- The total after a reaction. -/
lemma total_react (w : NoteWorld) (i root : ℕ) (r : NoteReaction) :
    (incomeBounds uid id initial (w.react i root r)).total =
      (incomeBounds uid id initial w).total + (total (sold uid) r.effects -
        total (fun q => outstanding uid id ⟨i, root, q, none⟩) r.requests) := by
  simp only [incomeBounds, incomeRegister, react_trace, react_flights, total_append, total_map]
  ring

/-- A reaction that sells at least what its requests are to add, and reads nothing anew. -/
lemma waits_react {i root : ℕ} {r : NoteReaction}
    (hsum : total (fun q => outstanding uid id ⟨i, root, q, none⟩) r.requests ≤
      total (sold uid) r.effects)
    (hread : ∀ q ∈ r.requests, ∀ v, readOf id ⟨i, root, q, none⟩ = some v →
      v ∈ (incomeBounds uid id initial w).reads) :
    Register.Waits (incomeBounds uid id initial w)
      (incomeBounds uid id initial (w.react i root r)) := by
  refine ⟨rfl, ?_, ?_⟩
  · rw [total_react]
    linarith
  · rintro v ⟨f, hf, hv⟩
    rcases List.mem_append.mp hf with hf | hf
    · exact Or.inr ⟨f, hf, hv⟩
    · obtain ⟨q, hq, rfl⟩ := List.mem_map.mp hf
      exact Or.inr (hread q hq v hv)

/-- A reaction that closes no sale. -/
lemma waits_rest (i root : ℕ) {r : NoteReaction}
    (hq : ∀ q ∈ r.requests, q.OfSale → ∃ amount url, q = .startCheckout amount url)
    (ho : ∀ o ∈ r.effects, ¬ o.OfSale) :
    Register.Waits (incomeBounds uid id initial w)
      (incomeBounds uid id initial (w.react i root r)) := by
  refine waits_react (le_of_eq ?_) fun q hq' v hv => ?_
  · rw [total_eq_zero _ fun o h => sold_of_rest (ho o h)]
    exact total_eq_zero _ fun q h => (rest_request uid id ⟨i, root, q, none⟩ (hq q h)).2
  · rw [(rest_request uid id ⟨i, root, q, none⟩ (hq q hq')).1] at hv
    cases hv

/-- The delivery of an answer, where what is sold with it and what the request had to add cover
what the new requests are to add. -/
lemma waits_deliver {k : ℕ} {f : NoteFlight} {r : NoteReaction} (flight : w.flights[k]? = some f)
    (hsum : total (fun q => outstanding uid id ⟨f.owner, f.root, q, none⟩) r.requests ≤
      outstanding uid id f + total (sold uid) r.effects)
    (hread : ∀ q ∈ r.requests, ∀ v, readOf id ⟨f.owner, f.root, q, none⟩ = some v →
      readOf id f = some v) :
    Register.Waits (incomeBounds uid id initial w)
      (incomeBounds uid id initial ((w.land k).react f.owner f.root r)) := by
  refine ⟨rfl, ?_, ?_⟩
  · have hland : (incomeBounds uid id initial (w.land k)).total =
        (incomeBounds uid id initial w).total + outstanding uid id f := by
      simp only [incomeBounds, incomeRegister, land_trace, land_flights,
        total_eraseIdx (outstanding uid id) flight]
      ring
    rw [total_react, hland]
    linarith
  · rintro v ⟨g, hg, hv⟩
    rcases List.mem_append.mp hg with hg | hg
    · exact Or.inr ⟨g, List.mem_of_mem_eraseIdx hg, hv⟩
    · obtain ⟨q, hq, rfl⟩ := List.mem_map.mp hg
      exact Or.inr ⟨f, mem_of_flight flight, hread q hq v hv⟩

/-- None of the requests of a successful checkout is an `updateData`: nothing has been read. -/
lemma success_reads (c : DetailedNoteViewController) (url : URL) (now : Timestamp) {i root : ℕ}
    {q : NoteRequest} (hq : q ∈ (c.success url now).requests) :
    readOf id ⟨i, root, q, none⟩ = none := by
  rw [success_requests, List.mem_append, List.mem_append, List.mem_singleton] at hq
  unfold updatePrice updateNoteDownload at hq
  rcases hq with hq | hq | rfl
  · split at hq
    · cases hq
    · rw [List.mem_singleton.mp hq]; rfl
  · split at hq
    · cases hq
    · rw [List.mem_singleton.mp hq]; rfl
  · rfl

/-- The success of a checkout sells what it asks to add.

**Proof sketch.** It calls `updatePrice` with the price it records; the other requests have
nothing to do with the income. -/
lemma waits_success {k : ℕ} {f : NoteFlight} {amount : ℚ} {url : URL}
    (flight : w.flights[k]? = some f) (hq : f.request = .startCheckout amount url)
    (c : DetailedNoteViewController) (now : Timestamp) :
    Register.Waits (incomeBounds uid id initial w)
      (incomeBounds uid id initial ((w.land k).react f.owner f.root (c.success url now))) := by
  have hsell : total (fun q => outstanding uid id ⟨f.owner, f.root, q, none⟩)
      (c.success url now).requests = total (sold uid) (c.success url now).effects := by
    rw [success_requests, success_effects]
    unfold updatePrice updateNoteDownload
    cases c.note.userId <;> cases c.user <;> simp [outstanding, sold]
  refine waits_deliver flight ?_ fun q hq' v hv => ?_
  · rw [hsell, (rest_request _ _ _ (by simp [hq])).2, zero_add]
  · rw [success_reads c url now hq'] at hv
    cases hv

/-- The seller found passes on what is to be added, or gives it up for this document. -/
lemma waits_found {k : ℕ} {f : NoteFlight} {seller : String} {price : ℚ}
    {documents : List UserDoc} (flight : w.flights[k]? = some f) (hid : (id, uid) ∈ owners)
    (hq : f.request = .updatePrice seller price) (ha : f.answer = some (.users documents))
    (hpos : 0 ≤ price) (hfound : ∀ d ∈ documents, (d.documentID, seller) ∈ owners)
    (hunique : ∀ {i a b}, (i, a) ∈ owners → (i, b) ∈ owners → a = b)
    (c : DetailedNoteViewController) : Register.Waits (incomeBounds uid id initial w)
      (incomeBounds uid id initial
        ((w.land k).react f.owner f.root (c.updatePriceFound price documents))) := by
  have hout : outstanding uid id f = if seller = uid then price else 0 := by
    simp [outstanding, hq]
  have hread : readOf id f =
      (documents.head?.filter fun d => d.documentID = id).map UserDoc.income := by
    simp [readOf, hq, ha]
  unfold updatePriceFound
  cases hhead : documents.head? with
  | none =>
    refine waits_deliver flight ?_ (by simp)
    rw [hout]
    split_ifs <;> simp [hpos]
  | some d =>
    have hd := hfound d (List.mem_of_mem_head? hhead)
    refine waits_deliver flight ?_ fun q hq' v hv => ?_
    · have hnew : outstanding uid id ⟨f.owner, f.root, .updateData d.documentID d.income price,
          none⟩ = if d.documentID = id then price else 0 := rfl
      simp only [total_cons, total_nil, hnew, hout, add_zero]
      by_cases hdoc : d.documentID = id
      · -- the document belongs to one account only
        have huid : seller = uid := hunique (hdoc ▸ hd) hid
        rw [if_pos hdoc, if_pos huid]
      · rw [if_neg hdoc]
        split_ifs
        · exact hpos
        · exact le_rfl
    · obtain rfl := List.mem_singleton.mp hq'
      have hv' : (if d.documentID = id then some d.income else none) = some v := hv
      rw [hread, hhead]
      by_cases hdoc : d.documentID = id
      · simpa [Option.filter, hdoc] using hv'
      · simp [hdoc] at hv'

/-- The delivery of any answer waits. -/
lemma waits_recv (hw : ClientInv (fun s => s.users.owners = owners) (fun _ => Sound)
      (Asked owners) (fun _ => Answered owners) w) (hid : (id, uid) ∈ owners)
    {k : ℕ} {f : NoteFlight} {a : NoteAnswer} {c : DetailedNoteViewController} (now : Timestamp)
    (flight : w.flights[k]? = some f) (answered : f.answer = some a)
    (client : w.clients f.owner = some c) : Register.Waits (incomeBounds uid id initial w)
      (incomeBounds uid id initial
        ((w.land k).react f.owner f.root (c.recv f.request a now))) := by
  obtain ⟨c', hc, hasked, hOk⟩ := hw.flight f (mem_of_flight flight)
  obtain rfl : c = c' := by rw [client] at hc; exact Option.some.inj hc
  rcases c.recv_cases f.request a now with
    ⟨amount, url, hq, rfl, hr⟩ | ⟨seller, price, documents, hq, rfl, hr⟩ | ⟨-, -, hreq, heff⟩
  · exact hr ▸ waits_success flight hq c now
  · have hOk := hOk _ answered
    rw [hq] at hOk hasked
    have hunique : ∀ {i a b}, (i, a) ∈ owners → (i, b) ∈ owners → a = b := by
      intro i a b h h'
      rw [← hw.server] at h h'
      exact UsersCollection.owner_unique h h'
    exact hr ▸ waits_found flight hid hq answered hasked.2.2.le hOk hunique c
  · refine waits_deliver flight ?_ fun q hq v hv => ?_
    · rw [total_eq_zero _ fun o ho => sold_of_rest (heff o ho), add_zero, total_eq_zero]
      · exact outstanding_nonneg hasked
      · exact fun q hq => (rest_request uid id ⟨f.owner, f.root, q, none⟩
          fun hs => absurd hs (hreq q hq)).2
    · have hnone := (rest_request uid id ⟨f.owner, f.root, q, none⟩
        fun hs => absurd hs (hreq q hq)).1
      rw [hnone] at hv
      cases hv

/-! ## The server -/

/-- A request that writes nothing to the document waits, if what it had to add is not more
afterwards and it reads only what is stored. -/
lemma waits_handle {k : ℕ} {f : NoteFlight} {v : Served NoteServer NoteAnswer NoteEffect}
    (flight : w.flights[k]? = some f)
    (hvalue : v.server.users.storedIncome id = w.server.users.storedIncome id)
    (hsold : total (sold uid) v.effects = 0)
    (hout : outstanding uid id { f with answer := some v.answer } ≤ outstanding uid id f)
    (hread : ∀ x, readOf id { f with answer := some v.answer } = some x →
      x = w.server.users.storedIncome id) :
    Register.Waits (incomeBounds uid id initial w)
      (incomeBounds uid id initial (w.handle k f v)) := by
  refine ⟨hvalue, ?_, ?_⟩
  · simp only [incomeBounds, incomeRegister, handle_trace, handle_flights, total_append,
      total_map, total_cons, total_nil, hsold, total_eraseIdx (outstanding uid id) flight]
    linarith
  · rintro x ⟨g, hg, hx⟩
    rcases List.mem_append.mp hg with hg | hg
    · exact Or.inr ⟨g, List.mem_of_mem_eraseIdx hg, hx⟩
    · obtain rfl := List.mem_singleton.mp hg
      exact Or.inl (hread x hx)

/-- A write to the document adds its price to what was read. -/
lemma adds_handle {k : ℕ} {f : NoteFlight} {earned price : ℚ} {d : UserDoc}
    (flight : w.flights[k]? = some f) (unanswered : f.answer = none)
    (hf : f.request = .updateData id earned price) (pos : 0 < price)
    (hd : w.server.users.document id = some d) :
    Register.Adds earned price (incomeBounds uid id initial w)
      (incomeBounds uid id initial (w.handle k f (w.server.serve f.request .success))) := by
  have hwrite : Register.Adds earned price (incomeRegister uid id initial w)
      (incomeRegister uid id initial
        (w.handle k f (w.server.serve f.request .success))) :=
    incomeRegister_write flight unanswered hf pos hd
  refine ⟨⟨f, mem_of_flight flight, ?_⟩, pos, hwrite.value, hwrite.total, ?_⟩
  · simp [readOf, hf, unanswered]
  · rintro x ⟨g, hg, hx⟩
    rcases List.mem_append.mp hg with hg | hg
    · exact ⟨g, List.mem_of_mem_eraseIdx hg, hx⟩
    · obtain rfl := List.mem_singleton.mp hg
      simp [readOf, hf] at hx

/-- The handling of any request: it waits, or it writes what was read with the price added.

**Proof sketch.** Only an `updateData` on the document that succeeds writes; the users query of
`updatePrice` reads what is stored, and an `updateData` that fails gives its price up. -/
lemma bounds_serve (hw : ClientInv (fun s => s.users.owners = owners) (fun _ => Sound)
      (Asked owners) (fun _ => Answered owners) w) {k : ℕ} {f : NoteFlight}
    (flight : w.flights[k]? = some f) (unanswered : f.answer = none) (o : Outcome) :
    Register.Waits (incomeBounds uid id initial w)
        (incomeBounds uid id initial (w.handle k f (w.server.serve f.request o))) ∨
      ∃ earned price, Register.Adds earned price (incomeBounds uid id initial w)
        (incomeBounds uid id initial (w.handle k f (w.server.serve f.request o))) := by
  obtain ⟨c, -, hasked, -⟩ := hw.flight f (mem_of_flight flight)
  have hsold : total (sold uid) (w.server.serve f.request o).effects = 0 :=
    serve_sold w.server f.request o
  cases hq : f.request with
  | updatePrice seller price =>
    left
    rw [← hq]
    refine waits_handle flight (by rw [hq]; cases o <;> rfl) hsold ?_ fun x hx => ?_
    · exact le_of_eq (by simp [outstanding, hq])
    · cases o with
      | success =>
        have hx : ((w.server.users.withUid seller).head?.filter
            fun d => d.documentID = id).map UserDoc.income = some x := by
          rw [hq] at hx; exact hx
        obtain ⟨d, hd, rfl⟩ := Option.map_eq_some_iff.mp hx
        obtain ⟨hhead, hid⟩ := Option.filter_eq_some_iff.mp hd
        have hmem := (UsersCollection.mem_withUid.mp (List.mem_of_mem_head? hhead)).1
        have hdoc : w.server.users.document id = some d :=
          UsersCollection.document_eq_some_iff.mpr ⟨hmem, by simpa using hid⟩
        simp [UsersCollection.storedIncome, hdoc]
      | failure e => rw [hq] at hx; cases hx
      | neither => rw [hq] at hx; cases hx
  | updateData document earned price =>
    by_cases hwrites : o = .success ∧ document = id ∧ ∃ d, w.server.users.document id = some d
    · obtain ⟨rfl, rfl, d, hd⟩ := hwrites
      rw [hq] at hasked
      right
      rw [← hq]
      exact ⟨earned, price, adds_handle flight unanswered hq hasked.2.1 hd⟩
    · left
      rw [← hq]
      refine waits_handle flight ?_ hsold ?_ fun x hx => ?_
      · rw [hq]
        by_cases hid : document = id
        · subst hid
          cases o with
          | success =>
            cases hd : w.server.users.document document with
            | none => simp [NoteServer.serve, hd]
            | some d => exact absurd ⟨rfl, rfl, d, hd⟩ hwrites
          | _ => rfl
        · have hother : ¬ ForSeller uid id (.updateData document earned price) := hid
          exact serve_storedIncome hother o
      · have hnone : outstanding uid id
            { f with answer := some (w.server.serve f.request o).answer } = 0 := by
          simp [outstanding, hq]
        rw [hnone]
        exact outstanding_nonneg hasked
      · simp [readOf, hq] at hx
  | _ =>
    left
    rw [← hq]
    have hrest : ∀ a, readOf id { f with answer := a } = none ∧
        outstanding uid id { f with answer := a } = 0 := by
      intro a
      simp [readOf, outstanding, hq]
    refine waits_handle flight (by rw [hq]; cases o <;> rfl) hsold ?_ fun x hx => ?_
    · exact le_of_eq ((hrest _).2.trans (hrest f.answer).2.symm)
    · rw [(hrest _).1] at hx
      cases hx

/-- **Every step, in the register.** It waits, or it adds to a number that was read. -/
theorem incomeBounds_step (hw : ClientInv (fun s => s.users.owners = owners) (fun _ => Sound)
      (Asked owners) (fun _ => Answered owners) w) (hid : (id, uid) ∈ owners) {e : NoteEvent}
    (hs : (noteSystem urlOf).step w e = some w') :
    Register.Waits (incomeBounds uid id initial w) (incomeBounds uid id initial w') ∨
      ∃ v amount, Register.Adds v amount (incomeBounds uid id initial w)
        (incomeBounds uid id initial w') := by
  cases took_of_step hs with
  | @boot i a free =>
    have hrest := viewDidLoad_rest a.1 a.2
    left
    exact waits_rest (w := w) i w.next (r := viewDidLoad a.1 a.2)
      (fun q hq hs => absurd hs (hrest.1 q hq)) (by simp [hrest.2])
  | @ui i u c r client reacts =>
    have hrest := ui_rest reacts
    left
    exact waits_rest (w := w) i w.next hrest.1 hrest.2
  | serve flight unanswered => exact bounds_serve hw flight unanswered _
  | deliver flight answered client => exact Or.inl (waits_recv hw hid _ flight answered client)

/-! ## The bounds -/

variable {s : NoteServer} {h : List (NoteWorld × NoteEvent)}

/-- **Bounds on the stored income.** In every state of every run, whatever fails and in whatever
order requests are handled and answered, a document of an account holds no less than at the start,
and no more than that and the sum of the prices passed to `updatePrice` for the account.

**Proof sketch.** Each step waits, or adds a positive price to an income that was read
(`incomeBounds_step`), so the register stays within the bounds (`Register.Within.step`); what is
still to be added is not negative. -/
theorem income_within (hr : (noteSystem urlOf).RunFrom s h w)
    (hid : (id, uid) ∈ s.users.owners) :
    s.users.storedIncome id ≤ w.server.users.storedIncome id ∧
      w.server.users.storedIncome id ≤
        s.users.storedIncome id + total (fun t => sold uid t.effect) w.trace := by
  have hsound : ∀ {h w}, (noteSystem urlOf).RunFrom s h w →
      (incomeBounds uid id (s.users.storedIncome id) w).Within (s.users.storedIncome id) := by
    intro h w hr
    induction hr with
    | nil =>
      refine ⟨⟨le_rfl, ?_⟩, fun v hv => ?_⟩
      · simp [incomeBounds, incomeRegister]
      · obtain ⟨f, hf, -⟩ := hv
        cases hf
    | snoc hr hs ih => exact ih.step (incomeBounds_step (noteSystem_sound hr) hid hs)
  have hwithin := (hsound hr).value
  refine ⟨hwithin.1, hwithin.2.trans ?_⟩
  have hout : 0 ≤ total (outstanding uid id) w.flights := by
    refine List.sum_nonneg fun x hx => ?_
    obtain ⟨f, hf, rfl⟩ := List.mem_map.mp hx
    obtain ⟨c, -, hasked, -⟩ := (noteSystem_sound hr).flight f hf
    exact outstanding_nonneg hasked
  show s.users.storedIncome id + (_ - _) ≤ _
  linarith

/-- Alice and Bob buy the note at the same time, and a sale is lost: of the 30 SAR sold, 15 are
stored. -/
theorem income_within_sale_lost : ∃ h w, (noteSystem some).RunFrom noteShop h w ∧
    total (fun t => sold "seller" t.effect) w.trace = 30 ∧
    w.server.users.storedIncome "d" = 15 ∧
    noteShop.users.storedIncome "d" ≤ w.server.users.storedIncome "d" ∧
    w.server.users.storedIncome "d" ≤
      noteShop.users.storedIncome "d" + total (fun t => sold "seller" t.effect) w.trace := by
  have he : (exec (noteSystem some).step (start noteShop)
      [.boot 0 (noteOnSale, some "alice"), .boot 1 (noteOnSale, some "bob"),
        .ui 0 .downloadButtonTouched, .ui 0 .purchase, .ui 1 .downloadButtonTouched,
        .ui 1 .purchase, .serve 2 .success, .deliver 3 7, .serve 2 .success, .deliver 4 7,
        .serve 2 .success, .serve 3 .success, .deliver 4 7, .deliver 4 7,
        .serve 4 .success, .serve 4 .success]).map
      (fun w => (w.server.users.storedIncome "d",
        total (fun t => sold "seller" t.effect) w.trace)) = some (15, 30) := by decide +kernel
  obtain ⟨h, w, hr, -, hw⟩ := run_of_observed he
  obtain ⟨hincome, hsold⟩ := Prod.mk.inj hw
  exact ⟨h, w, hr, hsold, hincome, income_within hr (by decide +kernel)⟩

end

end Aoun
