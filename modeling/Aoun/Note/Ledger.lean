import Mathlib.Algebra.Order.Ring.Rat
import Aoun.Lib.Register
import Aoun.Note.Invariant

/-!
# The seller's income

Every sale adds the price to the income stored in the seller's users document. `updatePrice`
does so from the buyer's phone: it reads the document, and writes back the sum. The stored
income, with the sums that the screens have read and not yet written back, is a `Register`.

## Main definitions

* `Aoun.sold`, `Aoun.outstanding` — what the calls of `updatePrice` for a seller are to add,
  and how much of it is still to be written.
* `Aoun.incomeRegister` — the stored income as a register.
* `Aoun.ReadIsCurrent` — a write happens while the income read is still the one stored.

## Main results

* `Aoun.incomeRegister_step` — the system of screens takes steps of the register.
* `Aoun.seller_income_iff` — when all calls have completed, the stored income has grown by the
  sum of the prices if and only if at every write the income read was still the one stored.
-/

set_option relaxedAutoImplicit false
set_option autoImplicit false

namespace Aoun

open AsyncSystem AsyncSystem.World StepSystem DetailedNoteViewController

/-- A request of a detail screen in flight. -/
abbrev NoteFlight := Flight NoteRequest NoteAnswer

/-- What a call of `updatePrice` for `seller` is to add. -/
def sold (seller : String) : NoteEffect → ℚ
  | .updatePrice uid price => if uid = seller then price else 0
  | _ => 0

/-- What a request in flight still has to add to the document `id` of `seller`. -/
def outstanding (seller id : String) (f : NoteFlight) : ℚ :=
  match f.request, f.answer with
  | .updatePrice uid price, _ => if uid = seller then price else 0
  | .updateData document _ price, none => if document = id then price else 0
  | _, _ => 0

/-- The income that a request in flight has read from the document `id` of `seller`. -/
def incomeRead (seller id : String) (f : NoteFlight) : Option ℚ :=
  match f.request, f.answer with
  | .updatePrice uid _, some (.users documents) =>
      if uid = seller then documents.head?.map UserDoc.income else none
  | .updateData document earned _, none => if document = id then some earned else none
  | _, _ => none

/-- The income stored in the document `id` of `seller`, as a register, when it was `initial`
at the start. -/
def incomeRegister (seller id : String) (initial : ℚ) (w : NoteWorld) : Register ℚ where
  value := w.server.users.storedIncome id
  total := initial + (total (fun t => sold seller t.effect) w.trace -
    total (outstanding seller id) w.flights)
  reads := {v | ∃ f ∈ w.flights, incomeRead seller id f = some v}

/-- The step is a successful `updateData` that writes to the document `id`, where `earned` was
read and `price` is added. -/
def Writes (id : String) (earned price : ℚ) (w : NoteWorld) (e : NoteEvent) : Prop :=
  ∃ k f, e = .serve k .success ∧ w.flights[k]? = some f ∧ f.answer = none ∧
    f.request = .updateData id earned price

/-- A write to the document `id` happens while the income read is still the one stored. -/
def ReadIsCurrent (id : String) (w : NoteWorld) (e : NoteEvent) : Prop :=
  ∀ earned price, Writes id earned price w e → earned = w.server.users.storedIncome id

/-- The request is one of a call of `updatePrice` for `seller`, whose document is `id`. -/
def ForSeller (seller id : String) : NoteRequest → Prop
  | .updatePrice uid _ => uid = seller
  | .updateData document _ _ => document = id
  | _ => False

/-- The requests of the calls of `updatePrice` for `seller` are successful. -/
def CallsSucceed (seller id : String) (w : NoteWorld) (e : NoteEvent) : Prop :=
  ∀ k o f, e = .serve k o → w.flights[k]? = some f → ForSeller seller id f.request →
    o = .success

/-! ## Requests that have nothing to do with the income -/

section

variable {seller id : String} {initial : ℚ} {w : NoteWorld}

lemma sold_of_rest {o : NoteEffect} (h : ¬ o.OfSale) : sold seller o = 0 := by
  cases o <;> simp_all [sold, NoteEffect.OfSale]

lemma outstanding_of_not {f : NoteFlight} (h : ¬ ForSeller seller id f.request) :
    outstanding seller id f = 0 := by
  obtain ⟨owner, root, request, answer⟩ := f
  cases request <;> simp_all [outstanding, ForSeller]
  split <;> simp_all

lemma incomeRead_of_not {f : NoteFlight} (h : ¬ ForSeller seller id f.request) :
    incomeRead seller id f = none := by
  obtain ⟨owner, root, request, answer⟩ := f
  cases request <;> simp_all [incomeRead, ForSeller]
  all_goals split <;> simp_all

/-- A reaction that issues no request for the seller and sells nothing for the seller leaves
the register as it was. -/
lemma incomeRegister_react (i root : ℕ) {r : NoteReaction}
    (hq : ∀ q ∈ r.requests, ¬ ForSeller seller id q)
    (ho : total (sold seller) r.effects = 0) :
    incomeRegister seller id initial (w.react i root r) =
      incomeRegister seller id initial w := by
  have hnew : ∀ f ∈ r.requests.map (fun q => (⟨i, root, q, none⟩ : NoteFlight)),
      ¬ ForSeller seller id f.request := by
    intro f hf
    obtain ⟨q, hq', rfl⟩ := List.mem_map.mp hf
    exact hq q hq'
  have htotal : total (outstanding seller id)
      (r.requests.map fun q => (⟨i, root, q, none⟩ : NoteFlight)) = 0 :=
    total_eq_zero _ fun f hf => outstanding_of_not (hnew f hf)
  unfold incomeRegister
  congr 1
  · simp only [react_trace, react_flights, total_append, htotal, total_map, ho, add_zero]
  · ext v
    constructor
    · rintro ⟨f, hf, hv⟩
      rcases List.mem_append.mp hf with hf | hf
      · exact ⟨f, hf, hv⟩
      · rw [incomeRead_of_not (hnew f hf)] at hv
        cases hv
    · rintro ⟨f, hf, hv⟩
      exact ⟨f, List.mem_append_left _ hf, hv⟩

/-- The delivery of an answer that passes on what is outstanding, and what was read, leaves the
stored income and the total as they were. -/
lemma incomeRegister_deliver {k : ℕ} {f : NoteFlight} {r : NoteReaction}
    (flight : w.flights[k]? = some f)
    (hsum : outstanding seller id f + total (sold seller) r.effects =
      total (fun q => outstanding seller id ⟨f.owner, f.root, q, none⟩) r.requests)
    (hread : ∀ q ∈ r.requests, ∀ v, incomeRead seller id ⟨f.owner, f.root, q, none⟩ = some v →
      incomeRead seller id f = some v) :
    Register.Keeps (incomeRegister seller id initial w)
      (incomeRegister seller id initial ((w.land k).react f.owner f.root r)) := by
  have htotal : (incomeRegister seller id initial ((w.land k).react f.owner f.root r)).total =
      (incomeRegister seller id initial w).total := by
    simp only [incomeRegister, react_trace, react_flights, land_trace, land_flights,
      total_append, total_map, ← hsum, total_eraseIdx (outstanding seller id) flight]
    ring
  have hreads : (incomeRegister seller id initial ((w.land k).react f.owner f.root r)).reads ⊆
      (incomeRegister seller id initial w).reads := by
    rintro v ⟨g, hg, hv⟩
    rcases List.mem_append.mp hg with hg | hg
    · exact ⟨g, List.mem_of_mem_eraseIdx hg, hv⟩
    · obtain ⟨q, hq, rfl⟩ := List.mem_map.mp hg
      exact ⟨f, mem_of_flight flight, hread q hq v hv⟩
  exact ⟨rfl, htotal, hreads.trans (Set.subset_insert _ _)⟩

/-- The handling of a request that leaves what is outstanding as it was, and what is stored,
reads nothing but the stored income. -/
lemma incomeRegister_serve {k : ℕ} {f : NoteFlight} {v : Served NoteServer NoteAnswer NoteEffect}
    (flight : w.flights[k]? = some f)
    (hvalue : v.server.users.storedIncome id = w.server.users.storedIncome id)
    (hsold : total (sold seller) v.effects = 0)
    (hout : outstanding seller id { f with answer := some v.answer } = outstanding seller id f)
    (hread : ∀ x, incomeRead seller id { f with answer := some v.answer } = some x →
      x = w.server.users.storedIncome id) :
    Register.Keeps (incomeRegister seller id initial w)
      (incomeRegister seller id initial (w.handle k f v)) := by
  have htotal : (incomeRegister seller id initial (w.handle k f v)).total =
      (incomeRegister seller id initial w).total := by
    simp only [incomeRegister, handle_trace, handle_flights, total_append, total_map,
      total_cons, total_nil, hsold, hout, total_eraseIdx (outstanding seller id) flight]
    ring
  have hreads : (incomeRegister seller id initial (w.handle k f v)).reads ⊆
      insert (w.server.users.storedIncome id) (incomeRegister seller id initial w).reads := by
    rintro x ⟨g, hg, hx⟩
    rcases List.mem_append.mp hg with hg | hg
    · exact Or.inr ⟨g, List.mem_of_mem_eraseIdx hg, hx⟩
    · obtain rfl := List.mem_singleton.mp hg
      exact Or.inl (hread x hx)
  exact ⟨hvalue, htotal, hreads⟩

/-- A successful `updateData` on the seller's document writes back what was read, with the
price added. -/
lemma incomeRegister_write {k : ℕ} {f : NoteFlight} {earned price : ℚ} {d : UserDoc}
    (flight : w.flights[k]? = some f) (unanswered : f.answer = none)
    (hf : f.request = .updateData id earned price) (pos : 0 < price)
    (hd : w.server.users.document id = some d) :
    Register.Adds earned price (incomeRegister seller id initial w)
      (incomeRegister seller id initial
        (w.handle k f (w.server.serve f.request .success))) := by
  have hserve : w.server.serve f.request .success =
      ⟨{ w.server with users := w.server.users.updateEarned id (earned + price) }, .written,
        [.credited d price (earned + price - d.income)]⟩ := by
    simp [hf, NoteServer.serve, hd]
  have hout : outstanding seller id f = price ∧ incomeRead seller id f = some earned := by
    obtain ⟨owner, root, request, answer⟩ := f
    simp only at hf unanswered
    simp [outstanding, incomeRead, hf, unanswered]
  rw [hserve]
  refine ⟨⟨f, mem_of_flight flight, hout.2⟩, pos,
    UsersCollection.storedIncome_updateEarned_self _ hd, ?_, ?_⟩
  · simp only [incomeRegister, handle_trace, handle_flights, total_append, total_map,
      total_cons, total_nil, total_eraseIdx (outstanding seller id) flight, hout.1]
    simp only [outstanding, hf, sold]
    ring
  · rintro x ⟨g, hg, hx⟩
    rcases List.mem_append.mp hg with hg | hg
    · exact ⟨g, List.mem_of_mem_eraseIdx hg, hx⟩
    · obtain rfl := List.mem_singleton.mp hg
      simp [incomeRead, hf] at hx

end

/-! ## The steps of the system -/

section

variable {urlOf : String → Option URL} {owners : List (String × String)} {seller id : String}
  {initial : ℚ} {w w' : NoteWorld}

/-- The invariant: the screens are sound, the users queries for `seller` have found the
document `id`, and so is the register. -/
structure LedgerInv (owners : List (String × String)) (seller id : String) (initial : ℚ)
    (w : NoteWorld) : Prop where
  screens : ClientInv (fun s => s.users.owners = owners) (fun _ => Sound) (Asked owners)
    (fun _ => Answered owners) w
  found : ∀ f ∈ w.flights, ∀ price a, f.request = .updatePrice seller price →
    f.answer = some a →
    ∃ documents d, a = .users documents ∧ documents.head? = some d ∧ d.documentID = id
  income : (incomeRegister seller id initial w).Sound

/-- The first document of `seller` is the one with the id `id`. -/
def FirstDocument (owners : List (String × String)) (seller id : String) : Prop :=
  (owners.filter fun o => o.2 = seller).head?.map Prod.fst = some id

lemma FirstDocument.mem (h : FirstDocument owners seller id) : (id, seller) ∈ owners := by
  obtain ⟨o, ho, rfl⟩ := Option.map_eq_some_iff.mp h
  have hmem := List.mem_of_mem_head? ho
  obtain ⟨hmem, hs⟩ := List.mem_filter.mp hmem
  have hs : o.2 = seller := by simpa using hs
  rwa [← hs]

/-- A users query for the seller finds the document `id` first. -/
lemma FirstDocument.head (h : FirstDocument owners seller id) {c : UsersCollection}
    (hc : c.owners = owners) :
    ∃ d, (c.withUid seller).head? = some d ∧ d.documentID = id ∧ c.document id = some d := by
  have hhead := c.head_withUid seller
  rw [hc, h] at hhead
  obtain ⟨d, hd, hid⟩ := Option.map_eq_some_iff.mp hhead
  have hmem := (UsersCollection.mem_withUid.mp (List.mem_of_mem_head? hd)).1
  exact ⟨d, hd, hid, UsersCollection.document_eq_some_iff.mpr ⟨hmem, hid⟩⟩

/-- A request that is not one for the seller leaves the seller's income alone. -/
lemma serve_storedIncome {s : NoteServer} {q : NoteRequest} (h : ¬ ForSeller seller id q)
    (o : Outcome) : (s.serve q o).server.users.storedIncome id = s.users.storedIncome id := by
  cases o with
  | failure e => cases q <;> rfl
  | neither => cases q <;> rfl
  | success =>
    cases q with
    | updateData document earned price =>
      have hne : id ≠ document := fun heq => h heq.symm
      cases hd : s.users.document document with
      | none => simp [NoteServer.serve, hd]
      | some d =>
        simp only [NoteServer.serve, hd]
        exact UsersCollection.storedIncome_updateEarned_of_ne _ _ hne
    | _ => rfl

lemma serve_sold (s : NoteServer) (q : NoteRequest) (o : Outcome) :
    total (sold seller) (s.serve q o).effects = 0 := by
  refine total_eq_zero _ fun x hx => ?_
  rcases NoteServer.mem_serve_effects hx with
    ⟨document, earned, price, d, -, -, -, rfl⟩ | ⟨user, note, purchaseDate, -, -, rfl⟩ <;> rfl

/-- The handling of a request, in the register.

**Proof sketch.** The requests that are not for the seller leave it alone; the users query of
a call reads the stored income, and its `updateData` writes. -/
lemma incomeRegister_serve_step (hfirst : FirstDocument owners seller id)
    (hw : LedgerInv owners seller id initial w) {k : ℕ} {o : Outcome} {f : NoteFlight}
    (flight : w.flights[k]? = some f) (unanswered : f.answer = none)
    (hok : CallsSucceed seller id w (.serve k o)) :
    ((∀ earned price, ¬ Writes id earned price w (.serve k o)) ∧
      Register.Keeps (incomeRegister seller id initial w)
        (incomeRegister seller id initial (w.handle k f (w.server.serve f.request o)))) ∨
    ∃ earned price, Writes id earned price w (.serve k o) ∧
      Register.Adds earned price (incomeRegister seller id initial w)
        (incomeRegister seller id initial (w.handle k f (w.server.serve f.request o))) := by
  obtain ⟨c, -, hasked, -⟩ := hw.screens.flight f (mem_of_flight flight)
  obtain ⟨d, hhead, -, hd⟩ := hfirst.head hw.screens.server
  have hnot : (∀ earned price, f.request ≠ .updateData id earned price) →
      ∀ earned price, ¬ Writes id earned price w (.serve k o) := by
    rintro hne earned price ⟨k', g, he, hg, -, hreq⟩
    obtain ⟨rfl, -⟩ : k = k' ∧ o = .success := by simpa using he
    rw [flight] at hg
    exact hne earned price (Option.some.inj hg ▸ hreq)
  by_cases hfor : ForSeller seller id f.request
  · obtain rfl : o = .success := hok k o f rfl flight hfor
    cases hq : f.request with
    | updatePrice uid price =>
      obtain rfl : uid = seller := by rw [hq] at hfor; exact hfor
      left
      refine ⟨hnot (by simp [hq]), incomeRegister_serve flight rfl rfl ?_ ?_⟩
      · simp [outstanding, hq]
      · intro x hx
        simp only [incomeRead, hq, NoteServer.serve, if_true, hhead, Option.map_some,
          Option.some.injEq] at hx
        simp [UsersCollection.storedIncome, hd, hx]
    | updateData document earned price =>
      obtain rfl : document = id := by rw [hq] at hfor; exact hfor
      have hpos : 0 < price := by rw [hq] at hasked; exact hasked.2.1
      right
      refine ⟨earned, price, ⟨k, f, rfl, flight, unanswered, hq⟩, ?_⟩
      rw [← hq]
      exact incomeRegister_write flight unanswered hq hpos hd
    | _ => rw [hq] at hfor; exact hfor.elim
  · left
    refine ⟨hnot fun earned price hq => hfor (by rw [hq]; rfl), ?_⟩
    refine incomeRegister_serve flight (serve_storedIncome hfor o) (serve_sold _ _ _) ?_ ?_
    · rw [outstanding_of_not hfor, outstanding_of_not (by exact hfor)]
    · intro x hx
      rw [incomeRead_of_not (by exact hfor)] at hx
      cases hx

/-- The success of a checkout calls `updatePrice` for the price it records. -/
lemma incomeRegister_success {k : ℕ} {f : NoteFlight} {amount : ℚ} {url : URL}
    (flight : w.flights[k]? = some f) (hq : f.request = .startCheckout amount url)
    (c : DetailedNoteViewController) (now : Timestamp) :
    Register.Keeps (incomeRegister seller id initial w)
      (incomeRegister seller id initial
        ((w.land k).react f.owner f.root (c.success url now))) := by
  have hout : outstanding seller id f = 0 := outstanding_of_not (by simp [hq, ForSeller])
  refine incomeRegister_deliver flight ?_ ?_
  · rw [hout, success_effects, success_requests]
    unfold updatePrice updateNoteDownload
    split <;> split <;> simp [sold, outstanding]
  · intro q hq' v hv
    rw [success_requests] at hq'
    unfold updatePrice updateNoteDownload at hq'
    split at hq' <;> split at hq' <;> simp at hq'
    all_goals rcases hq' with rfl | rfl | rfl <;> simp [incomeRead] at hv

/-- An answered users query of `updatePrice` is for the seller exactly when it has found the
seller's document. -/
lemma LedgerInv.found_iff (hfirst : FirstDocument owners seller id)
    (hw : LedgerInv owners seller id initial w) {f : NoteFlight} (hf : f ∈ w.flights)
    {uid : String} {price : ℚ} {documents : List UserDoc} (hq : f.request = .updatePrice uid price)
    (ha : f.answer = some (.users documents)) :
    uid = seller ↔ ∃ d, documents.head? = some d ∧ d.documentID = id := by
  constructor
  · rintro rfl
    obtain ⟨documents', d, hd, hhead, hid⟩ := hw.found f hf price _ hq ha
    obtain rfl := NoteAnswer.users.inj hd
    exact ⟨d, hhead, hid⟩
  · rintro ⟨d, hhead, rfl⟩
    obtain ⟨c, -, -, hanswered⟩ := hw.screens.flight f hf
    have hdocs : ∀ d ∈ documents, (d.documentID, uid) ∈ owners := by
      have hanswered := hanswered _ ha
      rw [hq] at hanswered
      exact hanswered
    have h₁ := hdocs d (List.mem_of_mem_head? hhead)
    have h₂ := hfirst.mem
    rw [← hw.screens.server] at h₁ h₂
    exact UsersCollection.owner_unique h₁ h₂

/-- The answer to the users query of `updatePrice` hands the income read on to `updateData`. -/
lemma incomeRegister_seller_found (hfirst : FirstDocument owners seller id)
    (hw : LedgerInv owners seller id initial w) {k : ℕ} {f : NoteFlight} {uid : String}
    {price : ℚ} {documents : List UserDoc} (flight : w.flights[k]? = some f)
    (hq : f.request = .updatePrice uid price) (ha : f.answer = some (.users documents))
    (c : DetailedNoteViewController) :
    Register.Keeps (incomeRegister seller id initial w)
      (incomeRegister seller id initial
        ((w.land k).react f.owner f.root (c.updatePriceFound price documents))) := by
  have hfound := hw.found_iff hfirst (mem_of_flight flight) hq ha
  have hread : incomeRead seller id f =
      if uid = seller then documents.head?.map UserDoc.income else none := by
    simp [incomeRead, hq, ha]
  have hout : outstanding seller id f = if uid = seller then price else 0 := by
    simp [outstanding, hq]
  unfold updatePriceFound
  cases hhead : documents.head? with
  | none =>
    have hne : uid ≠ seller := by simp [hfound, hhead]
    refine incomeRegister_deliver flight ?_ (by simp)
    simp [hout, hne]
  | some d =>
    have hid : uid = seller ↔ d.documentID = id := by simp [hfound, hhead]
    have hnew : outstanding seller id ⟨f.owner, f.root, .updateData d.documentID d.income price,
        none⟩ = if d.documentID = id then price else 0 := rfl
    have hreadnew : incomeRead seller id ⟨f.owner, f.root,
        .updateData d.documentID d.income price, none⟩ =
        if d.documentID = id then some d.income else none := rfl
    refine incomeRegister_deliver flight ?_ fun q hq' v hv => ?_
    · simp only [total_cons, total_nil, hout, hnew, hid, add_zero]
    · obtain rfl := List.mem_singleton.mp hq'
      rw [hreadnew] at hv
      rw [hread, hhead, Option.map_some, ← hv]
      simp only [hid]

/-- The delivery of an answer, in the register: nothing is written.

**Proof sketch.** The success of a checkout and the seller found leave the register sound; no
other callback has to do with the seller's income. -/
lemma incomeRegister_deliver_step (hfirst : FirstDocument owners seller id)
    (hw : LedgerInv owners seller id initial w) {k : ℕ} {f : NoteFlight} {a : NoteAnswer}
    (c : DetailedNoteViewController) (now : Timestamp) (flight : w.flights[k]? = some f)
    (answered : f.answer = some a) :
    Register.Keeps (incomeRegister seller id initial w)
      (incomeRegister seller id initial
        ((w.land k).react f.owner f.root (c.recv f.request a now))) := by
  rcases c.recv_cases f.request a now with
    ⟨amount, url, hq, rfl, hr⟩ | ⟨uid, price, documents, hq, rfl, hr⟩ | ⟨-, hne, hreq, heff⟩
  · exact hr ▸ incomeRegister_success flight hq c now
  · exact hr ▸ incomeRegister_seller_found hfirst hw flight hq answered c
  · have hout : outstanding seller id f = 0 := by
      cases hq : f.request with
      | updatePrice uid price =>
        have huid : uid ≠ seller := by
          rintro rfl
          obtain ⟨documents, d, ha, -⟩ := hw.found f (mem_of_flight flight) price a hq answered
          exact hne uid price documents hq ha
        simp [outstanding, hq, huid]
      | updateData document earned price => simp [outstanding, hq, answered]
      | _ => exact outstanding_of_not (by simp [hq, ForSeller])
    have hnot : ∀ q ∈ (c.recv f.request a now).requests, ¬ ForSeller seller id q := by
      intro q hq hfor
      refine hreq q hq ?_
      cases q <;> simp_all [ForSeller, NoteRequest.OfSale]
    refine incomeRegister_deliver flight ?_ ?_
    · rw [hout, total_eq_zero _ fun o ho => sold_of_rest (heff o ho),
        total_eq_zero _ fun q hq => outstanding_of_not (hnot q hq), add_zero]
    · intro q hq v hv
      rw [incomeRead_of_not (hnot q hq)] at hv
      cases hv

/-- **The screens as a register.** A step that is not a successful `updateData` on the seller's
document writes nothing; one that is adds its price to the income it read. -/
theorem incomeRegister_step (hfirst : FirstDocument owners seller id)
    (hw : LedgerInv owners seller id initial w) {e : NoteEvent}
    (hok : CallsSucceed seller id w e) (hs : (noteSystem urlOf).step w e = some w') :
    ((∀ earned price, ¬ Writes id earned price w e) ∧
      Register.Keeps (incomeRegister seller id initial w)
        (incomeRegister seller id initial w')) ∨
    ∃ earned price, Writes id earned price w e ∧
      Register.Adds earned price (incomeRegister seller id initial w)
        (incomeRegister seller id initial w') := by
  have hkeep : ∀ r : Register ℚ, r = incomeRegister seller id initial w →
      Register.Keeps (incomeRegister seller id initial w) r := by
    rintro r rfl
    exact ⟨rfl, rfl, Set.subset_insert _ _⟩
  cases took_of_step hs with
  | @boot i a free =>
    left
    have hrest := viewDidLoad_rest a.1 a.2
    refine ⟨(by rintro _ _ ⟨_, _, he, -⟩; cases he), hkeep _ ?_⟩
    refine incomeRegister_react (w := w) i w.next (fun q hq hfor => hrest.1 q hq ?_) ?_
    · cases q <;> simp_all [ForSeller, NoteRequest.OfSale]
    · exact congrArg (total (sold seller)) hrest.2
  | @ui i u c r client reacts =>
    left
    have hrest := ui_rest reacts
    refine ⟨(by rintro _ _ ⟨_, _, he, -⟩; cases he), hkeep _ ?_⟩
    refine incomeRegister_react (w := w) i w.next (fun q hq hfor => ?_) ?_
    · have hsale : q.OfSale := by cases q <;> simp_all [ForSeller, NoteRequest.OfSale]
      obtain ⟨amount, url, rfl⟩ := hrest.1 q hq hsale
      exact hfor
    · exact total_eq_zero _ fun o ho => sold_of_rest (hrest.2 o ho)
  | serve flight unanswered =>
    exact incomeRegister_serve_step hfirst hw flight unanswered hok
  | deliver flight answered client =>
    left
    exact ⟨(by rintro _ _ ⟨_, _, he, -⟩; cases he),
      incomeRegister_deliver_step hfirst hw _ _ flight answered⟩

/-- The invariant is kept by the steps in which the calls for the seller succeed. -/
lemma LedgerInv.step (hfirst : FirstDocument owners seller id)
    (hw : LedgerInv owners seller id initial w) {e : NoteEvent}
    (hok : CallsSucceed seller id w e) (hs : (noteSystem urlOf).step w e = some w') :
    LedgerInv owners seller id initial w' := by
  have hscreens := hw.screens.step (noteSystem_rules urlOf owners) (exclusive_false _) hs
  refine ⟨hscreens, ?_, ?_⟩
  · have hnew : ∀ (v : NoteWorld) (i root : ℕ) (r : NoteReaction),
        (∀ f ∈ v.flights, f ∈ w.flights) → ∀ f ∈ (v.react i root r).flights,
        f ∈ w.flights ∨ f.answer = none := by
      intro v i root r hv f hf
      rcases List.mem_append.mp hf with hf | hf
      · left; exact hv f hf
      · right
        obtain ⟨q, -, rfl⟩ := List.mem_map.mp hf
        rfl
    intro f hf price a hq ha
    have hold : f ∈ w.flights ∨ f.answer = none → ∃ documents d, a = .users documents ∧
        documents.head? = some d ∧ d.documentID = id := by
      rintro (hmem | hnone)
      · exact hw.found f hmem price a hq ha
      · rw [hnone] at ha; cases ha
    cases took_of_step hs with
    | boot free => exact hold (hnew w _ _ _ (fun _ h => h) f hf)
    | ui client reacts => exact hold (hnew w _ _ _ (fun _ h => h) f hf)
    | @serve k o g flight unanswered =>
      rcases List.mem_append.mp hf with hf | hf
      · exact hold (Or.inl (List.mem_of_mem_eraseIdx hf))
      · -- the request that has just been handled
        obtain rfl := List.mem_singleton.mp hf
        have hreq : g.request = .updatePrice seller price := hq
        obtain rfl : o = .success := hok k o g rfl flight (by rw [hreq]; rfl)
        obtain ⟨d, hhead, hid, -⟩ := hfirst.head hw.screens.server
        have ha : some (w.server.serve g.request .success).answer = some a := ha
        rw [hreq] at ha
        exact ⟨_, d, (Option.some.inj ha).symm, hhead, hid⟩
    | deliver flight answered client =>
      exact hold (hnew (w.land _) _ _ _ (fun _ h => List.mem_of_mem_eraseIdx h) f hf)
  · refine hw.income.step ?_
    rcases incomeRegister_step hfirst hw hok hs with ⟨-, h⟩ | ⟨earned, price, -, h⟩
    · exact Or.inl h
    · exact Or.inr ⟨earned, price, h⟩

/-- At the start the register holds the income stored, and nothing has been read. -/
lemma LedgerInv.start {s : NoteServer} {seller : String} {d : UserDoc}
    (hd : s.users.document d.documentID = some d) :
    LedgerInv s.users.owners seller d.documentID d.income (start s) := by
  have hnil : (noteSystem some).RunFrom s [] (World.start s) := .nil
  refine ⟨noteSystem_sound hnil, by simp, ?_, ?_⟩
  · simp [incomeRegister, UsersCollection.storedIncome, hd]
  · rintro v ⟨f, hf, -⟩
    cases hf

end

/-! ## The ledger -/

variable {urlOf : String → Option URL} {s : NoteServer} {h : List (NoteWorld × NoteEvent)}
  {w : NoteWorld}

/-- **When the seller's ledger loses no sale.** In a run in which the calls of `updatePrice`
for a seller succeed, and none of them is left, the stored income has grown by the sum of the
prices passed to them if and only if every write happened while the income read was still the
one stored.

**Proof sketch.** The stored income, as a register, starts with the total it should have, and
a step ends with that total exactly when it starts with it and meets the condition
(`incomeRegister_step`, `Register.Sound.adds_iff`). At the end nothing is outstanding. -/
theorem seller_income_iff (hr : (noteSystem urlOf).RunFrom s h w) {seller : String}
    {d : UserDoc} (hd : (s.users.withUid seller).head? = some d)
    (hok : EveryStep (CallsSucceed seller d.documentID) h)
    (hdone : ∀ f ∈ w.flights, ¬ ForSeller seller d.documentID f.request) :
    w.server.users.storedIncome d.documentID =
        d.income + total (fun t => sold seller t.effect) w.trace ↔
      EveryStep (ReadIsCurrent d.documentID) h := by
  have hmem := (UsersCollection.mem_withUid.mp (List.mem_of_mem_head? hd)).1
  have hdoc : s.users.document d.documentID = some d :=
    UsersCollection.document_eq_some_iff.mpr ⟨hmem, rfl⟩
  have hfirst : FirstDocument s.users.owners seller d.documentID := by
    rw [FirstDocument, ← s.users.head_withUid, hd]
    rfl
  have hout : total (outstanding seller d.documentID) w.flights = 0 :=
    total_eq_zero _ fun f hf => outstanding_of_not (hdone f hf)
  have hiff := hr.iff_everyStep
    (I := LedgerInv s.users.owners seller d.documentID d.income)
    (P := fun w => (incomeRegister seller d.documentID d.income w).value =
      (incomeRegister seller d.documentID d.income w).total)
    (G := ReadIsCurrent d.documentID) (LedgerInv.start hdoc)
    (fun _ _ _ hw hok hs => hw.step hfirst hok hs) ?_ hok
  · have hstart : (incomeRegister seller d.documentID d.income (start s)).value =
        (incomeRegister seller d.documentID d.income (start s)).total := by
      simp [incomeRegister, UsersCollection.storedIncome, hdoc]
    rw [← hiff.trans (and_iff_right hstart)]
    simp [incomeRegister, hout]
  · intro w e w' hw hok hs
    rcases incomeRegister_step hfirst hw hok hs with ⟨hno, hk⟩ | ⟨earned, price, hwr, ha⟩
    · rw [hk.value, hk.total]
      exact (and_iff_left fun earned price hwr => absurd hwr (hno earned price)).symm
    · rw [hw.income.adds_iff ha]
      refine and_congr_right fun _ => ⟨?_, fun hcur => hcur earned price hwr⟩
      rintro hval earned' price' ⟨k', g, rfl, hg, -, hreq'⟩
      obtain ⟨k, f, he, hf, -, hreq⟩ := hwr
      obtain rfl : k' = k := by simpa using he
      obtain rfl : f = g := by rw [hf] at hg; exact Option.some.inj hg
      rw [hreq] at hreq'
      obtain ⟨-, rfl, -⟩ := NoteRequest.updateData.inj hreq'
      exact hval

/-- Alice buys the note, and the seller has earned its price. -/
theorem seller_income_alice : ∃ h w, (noteSystem some).RunFrom noteShop h w ∧
    total (fun t => sold "seller" t.effect) w.trace = 15 ∧
    (w.server.users.storedIncome "d" = 0 + total (fun t => sold "seller" t.effect) w.trace ↔
      EveryStep (ReadIsCurrent "d") h) := by
  have he : (exec (noteSystem some).step (start noteShop)
      [.boot 0 (noteOnSale, some "alice"), .ui 0 .downloadButtonTouched, .ui 0 .purchase,
        .serve 1 .success, .deliver 1 7, .serve 1 .success, .deliver 2 7,
        .serve 2 .success, .deliver 2 7]).map
      (fun w => (w.flights.map (·.request), total (fun t => sold "seller" t.effect) w.trace)) =
      some ([.loadUserReference "alice", .download "u"], 15) := by decide +kernel
  obtain ⟨h, w, hr, hes, hw⟩ := run_of_observed he
  obtain ⟨hflights, hsold⟩ := Prod.mk.inj hw
  refine ⟨h, w, hr, hsold, ?_⟩
  have hd : (noteShop.users.withUid "seller").head? = some ⟨"d", "seller", none, none, none⟩ := by
    decide +kernel
  refine seller_income_iff hr hd ?_ ?_
  · have hall := everyStep_of_events (G := fun e => ∀ k o, e = .serve k o → o = .success) hes
      (by simp)
    exact fun p hp k o f he _ _ => hall p hp k o he
  · intro f hf
    have hmem : f.request ∈ w.flights.map (·.request) := List.mem_map_of_mem hf
    rw [hflights] at hmem
    rcases List.mem_cons.mp hmem with hq | hq
    · rw [hq]; exact id
    · rw [List.mem_singleton.mp hq]; exact id

/-- Alice and Bob buy the note at the same time. Both of their phones read the seller's income
before either of them writes it, and one of the two sales is lost. -/
theorem sale_lost : ∃ h w, (noteSystem some).RunFrom noteShop h w ∧
    EveryStep (CallsSucceed "seller" "d") h ∧
    (∀ f ∈ w.flights, ¬ ForSeller "seller" "d" f.request) ∧
    w.server.users.storedIncome "d" ≠
      noteShop.users.storedIncome "d" + total (fun t => sold "seller" t.effect) w.trace := by
  have he : (exec (noteSystem some).step (start noteShop)
      [.boot 0 (noteOnSale, some "alice"), .boot 1 (noteOnSale, some "bob"),
        .ui 0 .downloadButtonTouched, .ui 0 .purchase, .ui 1 .downloadButtonTouched,
        .ui 1 .purchase, .serve 2 .success, .deliver 3 7, .serve 2 .success, .deliver 4 7,
        -- both users queries of `updatePrice`, then both writes
        .serve 2 .success, .serve 3 .success, .deliver 4 7, .deliver 4 7,
        .serve 4 .success, .serve 4 .success, .deliver 4 7, .deliver 4 7]).map
      (fun w => (w.flights.map (·.request), w.server.users.storedIncome "d",
        total (fun t => sold "seller" t.effect) w.trace)) =
      some ([.loadUserReference "alice", .loadUserReference "bob", .download "u",
        .download "u"], 15, 30) := by decide +kernel
  obtain ⟨h, w, hr, hes, hw⟩ := run_of_observed he
  obtain ⟨hflights, hincome, hsold⟩ : w.flights.map (·.request) =
      [.loadUserReference "alice", .loadUserReference "bob", .download "u", .download "u"] ∧
      w.server.users.storedIncome "d" = 15 ∧
      total (fun t => sold "seller" t.effect) w.trace = 30 := by simpa using hw
  refine ⟨h, w, hr, ?_, ?_, ?_⟩
  · have hall := everyStep_of_events (G := fun e => ∀ k o, e = .serve k o → o = .success) hes
      (by simp)
    exact fun p hp k o f he _ _ => hall p hp k o he
  · intro f hf
    have hmem : f.request ∈ w.flights.map (·.request) := List.mem_map_of_mem hf
    rw [hflights] at hmem
    have hnot : ∀ q ∈ [NoteRequest.loadUserReference "alice", .loadUserReference "bob",
        .download "u", .download "u"], ¬ ForSeller "seller" "d" q := by
      simp [ForSeller]
    exact hnot _ hmem
  · rw [hincome, hsold]
    decide +kernel

end Aoun
