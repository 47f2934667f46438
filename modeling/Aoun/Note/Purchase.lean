import Aoun.Note.Invariant

/-!
# A purchase is all or nothing

A checkout that succeeded is followed by two writes: the seller is credited, and an entry is
stored under the buyer. Each of the two may come to nothing on its own, because the screen has
no seller or no user to write for, or because a call fails. Both are followed through a run by
an account: for every success either the write is still to come, or it has happened, or it
was given up in a step of the run.

## Main definitions

* `Aoun.AllOrNothing` — a checkout had both effects, or neither.
* `Aoun.BreaksCredit`, `Aoun.BreaksEntry`, `Aoun.StaleCredit` — the steps that give up a
  write, or credit another amount.
* `Aoun.AccountRules` — an account of the sales.

## Main results

* `Aoun.account_balance` — every account balances in every run.
* `Aoun.all_or_nothing_iff` — a successful checkout had both effects or neither exactly when
  both writes were given up or none, and the credit was not stale.
-/

set_option relaxedAutoImplicit false
set_option autoImplicit false

namespace Aoun

open AsyncSystem AsyncSystem.World StepSystem DetailedNoteViewController

/-- The payment service has approved the checkout of the flight. -/
def Approved (f : Flight NoteRequest NoteAnswer) : Prop :=
  (∃ amount url, f.request = .startCheckout amount url) ∧ f.answer = some .tokenized

/-- The step handles a flight of the purchase that client `i` began with the user event
number `r` in a way that `served` describes, or delivers its answer in a way that `delivered`
describes. -/
def BreaksAt (i r : ℕ) (served : NoteWorld → Flight NoteRequest NoteAnswer → Outcome → Prop)
    (delivered : NoteWorld → Flight NoteRequest NoteAnswer → Prop) (w : NoteWorld) :
    NoteEvent → Prop
  | .serve k o => ∃ f, w.flights[k]? = some f ∧ (f.owner = i ∧ f.root = r) ∧ served w f o
  | .deliver k _ => ∃ f, w.flights[k]? = some f ∧ (f.owner = i ∧ f.root = r) ∧ delivered w f
  | _ => False

/-! ## Accounts -/

/-- An account of the sales: what its effects make due and pay, what its requests hold, and
which steps give up what was held. -/
structure AccountRules (due paid : NoteEffect → ℕ) (held : NoteRequest → Option NoteAnswer → ℕ)
    (served : NoteWorld → Flight NoteRequest NoteAnswer → Outcome → Prop)
    (delivered : NoteWorld → Flight NoteRequest NoteAnswer → Prop) : Prop where
  /-- A request that closes no sale holds nothing. -/
  request : ∀ q a, (q.OfSale → ∃ amount url, q = .startCheckout amount url) → held q a = 0
  /-- An effect that closes no sale makes nothing due, and pays nothing. -/
  effect : ∀ o : NoteEffect, ¬ o.OfSale → due o = 0 ∧ paid o = 0
  /-- The server passes on what a request holds, pays it or gives it up. -/
  serve : ∀ (w : NoteWorld) (f : Flight NoteRequest NoteAnswer) (o : Outcome)
    [Decidable (served w f o)],
    held f.request none + total due (w.server.serve f.request o).effects =
      held f.request (some (w.server.serve f.request o).answer) +
        total paid (w.server.serve f.request o).effects + if served w f o then 1 else 0
  /-- The success of a checkout passes on what it makes due, or gives it up. -/
  success : ∀ (w : NoteWorld) (f : Flight NoteRequest NoteAnswer)
    (c : DetailedNoteViewController) (url : URL) (now : Timestamp)
    [Decidable (delivered w f)], w.clients f.owner = some c → Approved f →
    total due (c.success url now).effects =
      total (fun q => held q none) (c.success url now).requests +
        total paid (c.success url now).effects + if delivered w f then 1 else 0
  /-- The seller found passes on what the users query holds. -/
  found : ∀ (c : DetailedNoteViewController) (uid : String) (price : ℚ)
    (documents : List UserDoc), held (.updatePrice uid price) (some (.users documents)) =
      total (fun q => held q none) (c.updatePriceFound price documents).requests
  /-- No other answer holds anything. -/
  rest : ∀ q a, (∀ uid price documents, q = .updatePrice uid price → a ≠ .users documents) →
    held q (some a) = 0
  /-- Only the success of a checkout gives something up when it is delivered. -/
  delivered : ∀ w f, delivered w f → Approved f

section Balance

/-- What a step does to the `k`-th flight is what it does to this flight. -/
lemma breaksAt_serve {i r k : ℕ} {o : Outcome} {w : NoteWorld}
    {f : Flight NoteRequest NoteAnswer}
    {served : NoteWorld → Flight NoteRequest NoteAnswer → Outcome → Prop}
    {delivered : NoteWorld → Flight NoteRequest NoteAnswer → Prop}
    (hf : w.flights[k]? = some f) : BreaksAt i r served delivered w (.serve k o) ↔
      (f.owner = i ∧ f.root = r) ∧ served w f o := by
  simp [BreaksAt, hf]

lemma breaksAt_deliver {i r k : ℕ} {now : Timestamp} {w : NoteWorld}
    {f : Flight NoteRequest NoteAnswer}
    {served : NoteWorld → Flight NoteRequest NoteAnswer → Outcome → Prop}
    {delivered : NoteWorld → Flight NoteRequest NoteAnswer → Prop}
    (hf : w.flights[k]? = some f) : BreaksAt i r served delivered w (.deliver k now) ↔
      (f.owner = i ∧ f.root = r) ∧ delivered w f := by
  simp [BreaksAt, hf]

variable {urlOf : String → Option URL} {due paid : NoteEffect → ℕ}
  {held : NoteRequest → Option NoteAnswer → ℕ}
  {served : NoteWorld → Flight NoteRequest NoteAnswer → Outcome → Prop}
  {delivered : NoteWorld → Flight NoteRequest NoteAnswer → Prop}

/-- A reaction that closes no sale settles an account. -/
lemma AccountRules.settles_rest (hA : AccountRules due paid held served delivered)
    (i r owner root : ℕ) {v : NoteReaction}
    (hq : ∀ q ∈ v.requests, q.OfSale → ∃ amount url, q = .startCheckout amount url)
    (ho : ∀ o ∈ v.effects, ¬ o.OfSale) :
    Settles (entryAt i r due) (entryAt i r paid) (flightAt i r held) owner root v 0 0 := by
  have h₁ : total due v.effects = 0 := total_eq_zero _ fun o h => (hA.effect o (ho o h)).1
  have h₂ : total paid v.effects = 0 := total_eq_zero _ fun o h => (hA.effect o (ho o h)).2
  have h₃ : total (fun q => held q none) v.requests = 0 :=
    total_eq_zero _ fun q h => hA.request q none (hq q h)
  simp only [Settles, total_entryAt_mk, total_flightAt_mk, h₁, h₂, h₃, ite_self, add_zero]

/-- A callback settles an account.

**Proof sketch.** By cases on what the callback does: the success of a checkout, the seller
found, or nothing that closes a sale. -/
lemma AccountRules.callback (hA : AccountRules due paid held served delivered) {w : NoteWorld}
    {f : Flight NoteRequest NoteAnswer} {a : NoteAnswer} {c : DetailedNoteViewController}
    (now : Timestamp) [Decidable (delivered w f)] (ha : f.answer = some a)
    (hc : w.clients f.owner = some c) :
    held f.request (some a) + total due (c.recv f.request a now).effects =
      total (fun q => held q none) (c.recv f.request a now).requests +
        total paid (c.recv f.request a now).effects + if delivered w f then 1 else 0 := by
  rcases c.recv_cases f.request a now with
    ⟨amount, url, hq, rfl, hr⟩ | ⟨uid, price, documents, hq, rfl, hr⟩ | ⟨hnotok, hne, hreq, heff⟩
  · have happ : Approved f := ⟨⟨amount, url, hq⟩, ha⟩
    have hheld : held f.request (some .tokenized) = 0 :=
      hA.request _ _ fun _ => ⟨amount, url, hq⟩
    rw [hr, hheld, zero_add]
    exact hA.success w f c url now hc happ
  · have hnot : ¬ delivered w f := by
      intro hd
      obtain ⟨⟨amount, url, hq'⟩, -⟩ := hA.delivered w f hd
      rw [hq] at hq'
      cases hq'
    have hfound := hA.found c uid price documents
    have heffects : (c.updatePriceFound price documents).effects = [] := by
      unfold updatePriceFound; split <;> rfl
    rw [hr, hq, heffects, if_neg hnot, hfound]
    simp
  · have hnot : ¬ delivered w f := by
      intro hd
      obtain ⟨⟨amount, url, hq⟩, ha'⟩ := hA.delivered w f hd
      rw [ha] at ha'
      exact hnotok amount url hq (Option.some.inj ha')
    have h₁ : total due (c.recv f.request a now).effects = 0 :=
      total_eq_zero _ fun o ho => (hA.effect o (heff o ho)).1
    have h₂ : total paid (c.recv f.request a now).effects = 0 :=
      total_eq_zero _ fun o ho => (hA.effect o (heff o ho)).2
    have h₃ : total (fun q => held q none) (c.recv f.request a now).requests = 0 :=
      total_eq_zero _ fun q hq => hA.request q none fun hs => absurd hs (hreq q hq)
    rw [h₁, h₂, h₃, if_neg hnot, hA.rest _ _ hne]

open Classical in
/-- **Every account balances.** What the effects of a purchase have made due is held by its
requests in flight, has been paid by effects, or was given up in steps of the run.

**Proof sketch.** The balance rule. A launch and an act of the user close no sale; neither do
the steps of other purchases concern this account. -/
theorem account_balance (hA : AccountRules due paid held served delivered) {s : NoteServer}
    {h : List (NoteWorld × NoteEvent)} {w : NoteWorld}
    (hr : (noteSystem urlOf).RunFrom s h w) (i r : ℕ) :
    total due (w.effectsAt i r) = total (flightAt i r held) w.flights +
      total paid (w.effectsAt i r) +
      total (fun p => if BreaksAt i r served delivered p.1 p.2 then 1 else 0) h := by
  have hrules : BalanceRules (noteSystem urlOf) (fun _ => True) (entryAt i r due)
      (entryAt i r paid) (flightAt i r held)
      (fun w e => if BreaksAt i r served delivered w e then 1 else 0) := by
    refine ⟨?_, ?_, ?_, ?_⟩
    · intro w j a _ _
      have hrest := viewDidLoad_rest a.1 a.2
      have hset := hA.settles_rest i r j w.next (v := viewDidLoad a.1 a.2)
        (fun q hq hs => absurd hs (hrest.1 q hq)) (by simp [hrest.2])
      simpa [noteSystem, BreaksAt] using hset
    · intro w j u c re _ _ hre
      have hrest := ui_rest hre
      have hset := hA.settles_rest i r j w.next hrest.1 hrest.2
      simpa [noteSystem, BreaksAt] using hset
    · intro w k o f _ hf hnone
      rw [total_entryAt_mk, total_entryAt_mk]
      by_cases hmine : f.owner = i ∧ f.root = r
      · have hserve := hA.serve w f o
        simpa [noteSystem, breaksAt_serve hf, flightAt, hmine, hnone] using hserve
      · simp [breaksAt_serve hf, flightAt, hmine]
    · intro w k now f a c _ hf ha hc
      rw [Settles, total_entryAt_mk, total_entryAt_mk, total_flightAt_mk]
      by_cases hmine : f.owner = i ∧ f.root = r
      · have hcall : held f.request (some a) + total due (c.recv f.request a now).effects =
            total (fun q => held q none) (c.recv f.request a now).requests +
              total paid (c.recv f.request a now).effects +
              if delivered w f then 1 else 0 :=
          hA.callback now ha hc
        simpa [noteSystem, breaksAt_deliver hf, flightAt, hmine, ha] using hcall
      · simp [breaksAt_deliver hf, flightAt, hmine]
  have hb := balance hrules (fun _ _ _ => trivial) hr
  rwa [total_entryAt, total_entryAt] at hb

end Balance

/-! ## The three accounts of a purchase -/

/-- The successes of checkouts. -/
def successes : NoteEffect → ℕ
  | .success _ => 1
  | _ => 0

/-- The seller's credits. -/
def credits : NoteEffect → Option (UserDoc × ℚ)
  | .credited document _ amount => some (document, amount)
  | _ => none

/-- The buyer's entries. -/
def entries : NoteEffect → Option (UserDoc × PurchasedNote)
  | .entered user entry => some (user, entry)
  | _ => none

/-- Counting what a partial function selects. -/
def counted {α : Type} (sel : NoteEffect → Option α) (o : NoteEffect) : ℕ :=
  if (sel o).isSome then 1 else 0

lemma total_counted {α : Type} (sel : NoteEffect → Option α) (t : List NoteEffect) :
    total (counted sel) t = (t.filterMap sel).length := by
  induction t with
  | nil => rfl
  | cons o t ih =>
    rw [total_cons, ih]
    cases h : sel o <;> simp [counted, h, Nat.add_comm]

/-- The requests that still have to credit the seller: the users query, the seller it found,
and the `updateData`. -/
def creditHeld : NoteRequest → Option NoteAnswer → ℕ
  | .updatePrice _ _, none => 1
  | .updatePrice _ _, some (.users (_ :: _)) => 1
  | .updateData _ _ _, none => 1
  | _, _ => 0

/-- A call of `updatePrice` that credits nobody: its query fails or finds no seller, or its
`updateData` fails. -/
def CreditServed (w : NoteWorld) (f : Flight NoteRequest NoteAnswer) (o : Outcome) : Prop :=
  match f.request with
  | .updatePrice uid _ => o = .success → w.server.users.withUid uid = []
  | .updateData document _ _ => o = .success → w.server.users.document document = none
  | _ => False

/-- A checkout succeeds on the screen of a note without a `userId`. -/
def CreditDelivered (w : NoteWorld) (f : Flight NoteRequest NoteAnswer) : Prop :=
  Approved f ∧ ∃ vc, w.clients f.owner = some vc ∧ vc.note.userId = none

/-- The request that still has to store the buyer's entry. -/
def entryHeld : NoteRequest → Option NoteAnswer → ℕ
  | .addDocument _ _ _, none => 1
  | _, _ => 0

/-- The `addDocument` of the entry fails. -/
def EntryServed (_ : NoteWorld) (f : Flight NoteRequest NoteAnswer) (o : Outcome) : Prop :=
  match f.request with
  | .addDocument _ _ _ => o ≠ .success
  | _ => False

/-- A checkout succeeds on a screen that has not loaded its user. -/
def EntryDelivered (w : NoteWorld) (f : Flight NoteRequest NoteAnswer) : Prop :=
  Approved f ∧ ∃ vc, w.clients f.owner = some vc ∧ vc.user = none

/-- The credits of another amount than the price. -/
def wrongCredits : NoteEffect → ℕ
  | .credited _ price amount => if amount = price then 0 else 1
  | _ => 0

/-- The income changed between the read and the write of a call of `updatePrice`. -/
def StaleServed (w : NoteWorld) (f : Flight NoteRequest NoteAnswer) (o : Outcome) : Prop :=
  match f.request with
  | .updateData document earned _ =>
      o = .success ∧ ∃ d, w.server.users.document document = some d ∧ earned ≠ d.income
  | _ => False

/-- The account of the seller's credits. -/
lemma credit_account :
    AccountRules successes (counted credits) creditHeld CreditServed CreditDelivered := by
  refine ⟨?_, ?_, ?_, ?_, ?_, ?_, fun _ _ h => h.1⟩
  · intro q a hq
    cases q <;> simp_all [creditHeld, NoteRequest.OfSale]
  · intro o ho
    cases o <;> simp_all [successes, counted, credits, NoteEffect.OfSale]
  · intro w f o _
    cases hq : f.request with
    | updatePrice uid price =>
      cases o with
      | success =>
        cases hd : w.server.users.withUid uid <;>
          simp [CreditServed, hq, hd, creditHeld, NoteServer.serve]
      | _ => simp [CreditServed, hq, creditHeld, NoteServer.serve]
    | updateData document earned price =>
      cases o with
      | success =>
        cases hd : w.server.users.document document <;>
          simp [CreditServed, hq, hd, creditHeld, NoteServer.serve, successes, counted, credits]
      | _ => simp [CreditServed, hq, creditHeld, NoteServer.serve]
    | _ =>
      cases o <;>
        simp [CreditServed, hq, creditHeld, NoteServer.serve, successes, counted, credits]
  · intro w f c url now _ hc happ
    have hdel : CreditDelivered w f ↔ c.note.userId = none := by
      simp [CreditDelivered, happ, hc]
    rw [success_effects, success_requests]
    unfold updatePrice updateNoteDownload
    cases hu : c.note.userId <;> cases c.user <;>
      simp [hdel, hu, successes, counted, credits, creditHeld]
  · intro c uid price documents
    unfold updatePriceFound
    cases documents <;> simp [creditHeld]
  · intro q a hne
    cases q with
    | updatePrice uid price =>
      cases a with
      | users documents => exact absurd rfl (hne uid price documents rfl)
      | _ => rfl
    | _ => rfl

/-- The account of the buyer's entries. -/
lemma entry_account :
    AccountRules successes (counted entries) entryHeld EntryServed EntryDelivered := by
  refine ⟨?_, ?_, ?_, ?_, ?_, ?_, fun _ _ h => h.1⟩
  · intro q a hq
    cases q <;> simp_all [entryHeld, NoteRequest.OfSale]
  · intro o ho
    cases o <;> simp_all [successes, counted, entries, NoteEffect.OfSale]
  · intro w f o _
    cases hq : f.request with
    | updateData document earned price =>
      cases o with
      | success =>
        cases hd : w.server.users.document document <;>
          simp [EntryServed, hq, hd, entryHeld, NoteServer.serve, successes, counted, entries]
      | _ => simp [EntryServed, hq, entryHeld, NoteServer.serve]
    | _ =>
      cases o <;>
        simp [EntryServed, hq, entryHeld, NoteServer.serve, successes, counted, entries]
  · intro w f c url now _ hc happ
    have hdel : EntryDelivered w f ↔ c.user = none := by
      simp [EntryDelivered, happ, hc]
    rw [success_effects, success_requests]
    unfold updatePrice updateNoteDownload
    cases hu : c.user <;> cases c.note.userId <;>
      simp [hdel, hu, successes, counted, entries, entryHeld]
  · intro c uid price documents
    unfold updatePriceFound
    cases documents <;> simp [entryHeld]
  · intro q a hne
    cases q <;> rfl

/-- The account of the credits of another amount than the price. -/
lemma stale_account : AccountRules wrongCredits (fun _ => 0) (fun _ _ => 0) StaleServed
    fun _ _ => False := by
  refine ⟨by simp, ?_, ?_, ?_, by simp [total], by simp, by simp⟩
  · intro o ho
    cases o <;> simp_all [wrongCredits, NoteEffect.OfSale]
  · intro w f o _
    cases hq : f.request with
    | updateData document earned price =>
      cases o with
      | success =>
        cases hd : w.server.users.document document with
        | none => simp [StaleServed, hq, hd, NoteServer.serve]
        | some d =>
          by_cases hne : earned = d.income
          · simp [StaleServed, hq, hd, NoteServer.serve, wrongCredits, hne]
          · have hamount : earned + price - d.income ≠ price := by
              intro heq
              exact hne (by linarith)
            simp [StaleServed, hq, hd, NoteServer.serve, wrongCredits, hne, hamount]
      | _ => simp [StaleServed, hq, NoteServer.serve]
    | _ => cases o <;> simp [StaleServed, hq, NoteServer.serve, wrongCredits]
  · intro w f c url now _ _ _
    rw [success_effects]
    unfold updatePrice
    cases c.note.userId <;> simp [wrongCredits, total]

/-! ## One success for each tap -/

/-- The checkouts in flight. -/
def checkouts : NoteRequest → Option NoteAnswer → ℕ
  | .startCheckout _ _, _ => 1
  | _, _ => 0

lemma checkouts_of_rest {q : NoteRequest} {a : Option NoteAnswer} (h : ¬ q.OfSale) :
    checkouts q a = 0 := by
  cases q <;> simp_all [checkouts, NoteRequest.OfSale]

lemma successes_of_rest {o : NoteEffect} (h : ¬ o.OfSale) : successes o = 0 := by
  cases o <;> simp_all [successes, NoteEffect.OfSale]

/-- A callback succeeds for at most the checkout it answers, and starts none. -/
lemma recv_checkouts (c : DetailedNoteViewController) (q : NoteRequest) (a : NoteAnswer)
    (now : Timestamp) : total (fun q => checkouts q none) (c.recv q a now).requests +
      total successes (c.recv q a now).effects ≤ checkouts q (some a) := by
  rcases c.recv_cases q a now with
    ⟨amount, url, rfl, rfl, hr⟩ | ⟨uid, price, documents, rfl, rfl, hr⟩ | ⟨-, -, hreq, heff⟩
  · rw [hr, success_effects, success_requests]
    unfold updatePrice updateNoteDownload
    cases c.note.userId <;> cases c.user <;> simp [checkouts, successes]
  · rw [hr]
    unfold updatePriceFound
    cases documents <;> simp [checkouts]
  · rw [total_eq_zero _ fun q' hq' => checkouts_of_rest (hreq q' hq'),
      total_eq_zero _ fun o ho => successes_of_rest (heff o ho)]
    exact Nat.zero_le _

variable {urlOf : String → Option URL} {s : NoteServer} {h : List (NoteWorld × NoteEvent)}
  {w : NoteWorld}

/-- An act of the user starts at most one checkout. -/
lemma ui_checkouts_le_one {vc : DetailedNoteViewController} {u : NoteTap} {re : NoteReaction}
    (hre : vc.ui urlOf u = some re) : total (fun q => checkouts q none) re.requests ≤ 1 := by
  have hlen := ui_requests_length_le hre
  match hreq : re.requests, hlen with
  | [], _ => simp
  | [q], _ => cases q <;> simp [checkouts]

/-- The server starts no checkout, and no checkout succeeds at the server. -/
lemma serve_checkouts (s : NoteServer) (f : Flight NoteRequest NoteAnswer) (o : Outcome)
    (i r : ℕ) : total successes (s.serve f.request o).effects = 0 ∧
      flightAt i r checkouts { f with answer := some (s.serve f.request o).answer } =
        flightAt i r checkouts f := by
  constructor
  · refine total_eq_zero _ fun x hx => ?_
    rcases NoteServer.mem_serve_effects hx with
      ⟨document, earned, price, d, -, -, -, rfl⟩ | ⟨user, note, date, -, -, rfl⟩ <;> rfl
  · unfold flightAt
    cases f.request <;> rfl

/-- Nothing goes back to a user event that has not happened yet. -/
lemma checkouts_next (hr : (noteSystem urlOf).RunFrom s h w) (i : ℕ) :
    total (flightAt i w.next checkouts) w.flights = 0 ∧
      total (entryAt i w.next successes) w.trace = 0 := by
  have hroots := rootsBelow hr
  constructor
  · refine total_eq_zero _ fun f hf => ?_
    have hlt := hroots.flight f hf
    rw [flightAt, if_neg (by omega)]
  · refine total_eq_zero _ fun t ht => ?_
    have hlt := hroots.trace t ht
    rw [entryAt, if_neg (by omega)]

/-- A user event goes back to at most one checkout, in flight or successful.

**Proof sketch.** Induction on the run. An act of the user starts at most one checkout, with a
number that no flight and no effect has yet; its success takes it out of flight. -/
lemma checkouts_le_one (hr : (noteSystem urlOf).RunFrom s h w) (i r : ℕ) :
    total (flightAt i r checkouts) w.flights + total (entryAt i r successes) w.trace ≤ 1 := by
  induction hr with
  | nil => simp
  | @snoc h w e w' hr hs ih =>
    cases took_of_step hs with
    | @boot j a free =>
      have hrest := viewDidLoad_rest a.1 a.2
      have hq : total (fun q => checkouts q none) (viewDidLoad a.1 a.2).requests = 0 :=
        total_eq_zero _ fun q hq => checkouts_of_rest (hrest.1 q hq)
      simpa [noteSystem, total_entryAt_mk, total_flightAt_mk, hq, hrest.2] using ih
    | @ui j u c re client reacts =>
      have ho : total successes re.effects = 0 :=
        total_eq_zero _ fun o ho => successes_of_rest ((ui_rest reacts).2 o ho)
      have hq := ui_checkouts_le_one reacts
      simp only [tick_flights, tick_trace, react_flights, react_trace, total_append, total_map,
        total_entryAt_mk, total_flightAt_mk, ho, ite_self, add_zero]
      by_cases hmine : j = i ∧ w.next = r
      · obtain ⟨rfl, rfl⟩ := hmine
        obtain ⟨h₁, h₂⟩ := checkouts_next hr j
        rw [h₁, h₂, if_pos ⟨rfl, rfl⟩]
        omega
      · rw [if_neg hmine]
        omega
    | @serve k o f flight unanswered =>
      obtain ⟨ho, hf⟩ := serve_checkouts w.server f o i r
      rw [total_eraseIdx _ flight] at ih
      simp only [noteSystem, handle_flights, handle_trace, total_append, total_map,
        total_entryAt_mk, ho, hf, total_cons, total_nil, ite_self, add_zero]
      omega
    | @deliver k now f a c flight answered client =>
      have hcall := recv_checkouts c f.request a now
      rw [total_eraseIdx _ flight, flightAt, answered] at ih
      simp only [noteSystem, react_flights, react_trace, land_flights, land_trace, total_append,
        total_map, total_entryAt_mk, total_flightAt_mk]
      by_cases hmine : f.owner = i ∧ f.root = r
      · rw [if_pos hmine] at ih
        rw [if_pos hmine, if_pos hmine]
        omega
      · rw [if_neg hmine] at ih
        rw [if_neg hmine, if_neg hmine]
        omega

/-! ## All or nothing -/

/-- The effects `t` of a purchase on the screen `vc` are both of what they should be, or
neither: the seller of the note was credited its price and exactly one entry for the note was
stored under the buyer, or the purchase had none of the two effects. -/
def AllOrNothing (vc : DetailedNoteViewController) (t : List NoteEffect) : Prop :=
  (∃ d u p, t.filterMap credits = [(d, vc.note.priceDecimal.getD 0)] ∧
    vc.note.userId = some d.uid ∧ t.filterMap entries = [(u, p)] ∧
    vc.currentUser = some u.uid ∧ p.user = u.documentID ∧ p.note = vc.note.id) ∨
  (t.filterMap credits = [] ∧ t.filterMap entries = [])

/-- The step gives up crediting the seller for the purchase of client `i` that goes back to
the user event number `r`: the checkout succeeds for a note without `userId`, the users query
of `updatePrice` fails or finds no seller, or its `updateData` fails. -/
def BreaksCredit (i r : ℕ) : NoteWorld → NoteEvent → Prop :=
  BreaksAt i r CreditServed CreditDelivered

/-- The step gives up the buyer's entry: the checkout succeeds before the screen has loaded
its user, or `addDocument` fails. -/
def BreaksEntry (i r : ℕ) : NoteWorld → NoteEvent → Prop :=
  BreaksAt i r EntryServed EntryDelivered

/-- The step writes the seller's income although it is no longer the one that was read. -/
def StaleCredit (i r : ℕ) : NoteWorld → NoteEvent → Prop :=
  BreaksAt i r StaleServed fun _ _ => False

/-- At the end of a purchase an account holds nothing. -/
lemma held_eq_zero {due paid : NoteEffect → ℕ} {held : NoteRequest → Option NoteAnswer → ℕ}
    {served : NoteWorld → Flight NoteRequest NoteAnswer → Outcome → Prop}
    {delivered : NoteWorld → Flight NoteRequest NoteAnswer → Prop}
    (hA : AccountRules due paid held served delivered) {i r : ℕ}
    (hdone : ∀ f ∈ w.flights, f.owner = i → f.root = r → ¬ f.request.OfSale) :
    total (flightAt i r held) w.flights = 0 := by
  refine total_eq_zero _ fun f hf => ?_
  by_cases hmine : f.owner = i ∧ f.root = r
  · rw [flightAt, if_pos hmine]
    exact hA.request _ _ fun hs => absurd hs (hdone f hf hmine.1 hmine.2)
  · rw [flightAt, if_neg hmine]

/-- A purchase whose checkout has succeeded has one success. -/
lemma successes_eq_one (hr : (noteSystem urlOf).RunFrom s h w) {i r : ℕ}
    (hsuccess : ∃ price, .success price ∈ w.effectsAt i r) :
    total successes (w.effectsAt i r) = 1 := by
  have hle := checkouts_le_one hr i r
  rw [total_entryAt] at hle
  obtain ⟨price, hp⟩ := hsuccess
  have hpos : 0 < total successes (w.effectsAt i r) :=
    List.sum_pos_iff_exists_pos_nat.mpr ⟨1, List.mem_map.mpr ⟨_, hp, rfl⟩, Nat.one_pos⟩
  omega

open Classical in
/-- An account loses nothing exactly when no step gives anything up. -/
lemma total_breaks_eq_zero_iff {i r : ℕ}
    {served : NoteWorld → Flight NoteRequest NoteAnswer → Outcome → Prop}
    {delivered : NoteWorld → Flight NoteRequest NoteAnswer → Prop} :
    total (fun p : NoteWorld × NoteEvent =>
      if BreaksAt i r served delivered p.1 p.2 then 1 else 0) h = 0 ↔
      ¬ SomeStep (BreaksAt i r served delivered) h := by
  rw [total_ite_eq_zero_iff]
  simp [SomeStep]

open Classical in
/-- At the end of a purchase each of its two writes has happened once or was given up. -/
lemma length_add_breaks_eq_one {α : Type} {sel : NoteEffect → Option α}
    {held : NoteRequest → Option NoteAnswer → ℕ}
    {served : NoteWorld → Flight NoteRequest NoteAnswer → Outcome → Prop}
    {delivered : NoteWorld → Flight NoteRequest NoteAnswer → Prop}
    (hA : AccountRules successes (counted sel) held served delivered)
    (hr : (noteSystem urlOf).RunFrom s h w) {i r : ℕ}
    (hsuccess : ∃ price, .success price ∈ w.effectsAt i r)
    (hdone : ∀ f ∈ w.flights, f.owner = i → f.root = r → ¬ f.request.OfSale) :
    ((w.effectsAt i r).filterMap sel).length +
      total (fun p : NoteWorld × NoteEvent =>
        if BreaksAt i r served delivered p.1 p.2 then 1 else 0) h = 1 := by
  have hb := account_balance hA hr i r
  rw [held_eq_zero hA hdone, successes_eq_one hr hsuccess, total_counted, zero_add] at hb
  exact hb.symm

/-- The credits of a purchase are for the price of the note, to its seller. -/
lemma mem_credits {vc : DetailedNoteViewController} {t : List NoteEffect}
    (hrec : ∀ o ∈ t, vc.Records o) {d : UserDoc} {a : ℚ} (hda : (d, a) ∈ t.filterMap credits) :
    .credited d (vc.note.priceDecimal.getD 0) a ∈ t ∧ vc.note.userId = some d.uid := by
  obtain ⟨o, ho, hsel⟩ := List.mem_filterMap.mp hda
  cases o <;> simp only [credits, Option.some.injEq, Prod.mk.injEq, reduceCtorEq] at hsel
  obtain ⟨rfl, rfl⟩ := hsel
  obtain ⟨hu, hprice⟩ := hrec _ ho
  exact ⟨hprice ▸ ho, hu⟩

/-- The entries of a purchase are for the note, under the buyer. -/
lemma mem_entries {vc : DetailedNoteViewController} {t : List NoteEffect}
    (hrec : ∀ o ∈ t, vc.Records o) {u : UserDoc} {p : PurchasedNote}
    (hup : (u, p) ∈ t.filterMap entries) :
    vc.currentUser = some u.uid ∧ p.user = u.documentID ∧ p.note = vc.note.id := by
  obtain ⟨o, ho, hsel⟩ := List.mem_filterMap.mp hup
  cases o <;> simp only [entries, Option.some.injEq, Prod.mk.injEq, reduceCtorEq] at hsel
  obtain ⟨rfl, rfl⟩ := hsel
  exact hrec _ ho

/-- The seller's income is not written stale exactly when every credit changes it by the price
of the note. -/
lemma not_stale_iff (hr : (noteSystem urlOf).RunFrom s h w) {i r : ℕ}
    {vc : DetailedNoteViewController} (hrec : ∀ o ∈ w.effectsAt i r, vc.Records o)
    (hdone : ∀ f ∈ w.flights, f.owner = i → f.root = r → ¬ f.request.OfSale) :
    ¬ SomeStep (StaleCredit i r) h ↔
      ∀ d a, (d, a) ∈ (w.effectsAt i r).filterMap credits →
        a = vc.note.priceDecimal.getD 0 := by
  have hstale := account_balance stale_account hr i r
  have hzero : total (fun _ : NoteEffect => 0) (w.effectsAt i r) = 0 :=
    total_eq_zero _ fun _ _ => rfl
  rw [held_eq_zero stale_account hdone, hzero, zero_add, zero_add] at hstale
  rw [StaleCredit, ← total_breaks_eq_zero_iff, ← hstale]
  constructor
  · intro h0 d a hda
    by_contra hne
    have hpos : 0 < total wrongCredits (w.effectsAt i r) :=
      List.sum_pos_iff_exists_pos_nat.mpr
        ⟨1, List.mem_map.mpr ⟨_, (mem_credits hrec hda).1, if_neg hne⟩, Nat.one_pos⟩
    omega
  · intro hall
    refine total_eq_zero _ fun o ho => ?_
    cases o with
    | credited d price a =>
      have hprice := (hrec _ ho).2
      have ha := hall d a (List.mem_filterMap.mpr ⟨_, ho, rfl⟩)
      exact if_pos (ha.trans hprice.symm)
    | _ => rfl

/-- **When a purchase is all or nothing.** Once nothing that closes the sale is in flight, a
successful checkout had both effects or neither if and only if both of the writes were given
up in steps of the run or none of them, and the seller's income was not written stale.

**Proof sketch.** There is one success (`checkouts_le_one`), so the accounts of the credits and
of the entries say that each of them either happened once or was given up; whose they are is
part of the invariant of the screens. The third account counts the wrong amounts. -/
theorem all_or_nothing_iff (hr : (noteSystem urlOf).RunFrom s h w) {i r : ℕ}
    {vc : DetailedNoteViewController} (hi : w.clients i = some vc)
    (hsuccess : ∃ price, .success price ∈ w.effectsAt i r)
    (hdone : ∀ f ∈ w.flights, f.owner = i → f.root = r → ¬ f.request.OfSale) :
    AllOrNothing vc (w.effectsAt i r) ↔
      (SomeStep (BreaksCredit i r) h ↔ SomeStep (BreaksEntry i r) h) ∧
        ¬ SomeStep (StaleCredit i r) h := by
  have hrec : ∀ o ∈ w.effectsAt i r, vc.Records o := fun o ho =>
    ((noteSystem_sound hr).client i vc hi).records o (mem_effectsOf_of_mem_effectsAt ho)
  have hcredit := length_add_breaks_eq_one credit_account hr hsuccess hdone
  have hentry := length_add_breaks_eq_one entry_account hr hsuccess hdone
  have hnc : ((w.effectsAt i r).filterMap credits).length = 1 ↔ ¬ SomeStep (BreaksCredit i r) h :=
    Iff.trans (by omega) total_breaks_eq_zero_iff
  have hne : ((w.effectsAt i r).filterMap entries).length = 1 ↔ ¬ SomeStep (BreaksEntry i r) h :=
    Iff.trans (by omega) total_breaks_eq_zero_iff
  have hboth : (SomeStep (BreaksCredit i r) h ↔ SomeStep (BreaksEntry i r) h) ↔
      (((w.effectsAt i r).filterMap credits).length = 1 ↔
        ((w.effectsAt i r).filterMap entries).length = 1) := by
    rw [hnc, hne, not_iff_not]
  rw [not_stale_iff hr hrec hdone, hboth]
  constructor
  · rintro (⟨d, u, p, hc, -, he, -⟩ | ⟨hc, he⟩)
    · refine ⟨by simp [hc, he], fun d' a hda => ?_⟩
      rw [hc, List.mem_singleton, Prod.mk.injEq] at hda
      exact hda.2
    · exact ⟨by simp [hc, he], by simp [hc]⟩
  · rintro ⟨hiff, hall⟩
    by_cases hc : ((w.effectsAt i r).filterMap credits).length = 1
    · left
      obtain ⟨⟨d, a⟩, hcredits⟩ := List.length_eq_one_iff.mp hc
      obtain ⟨⟨u, p⟩, hentries⟩ := List.length_eq_one_iff.mp (hiff.mp hc)
      have hda : (d, a) ∈ (w.effectsAt i r).filterMap credits := by rw [hcredits]; simp
      have hup : (u, p) ∈ (w.effectsAt i r).filterMap entries := by rw [hentries]; simp
      exact ⟨d, u, p, by rw [hcredits, hall d a hda], (mem_credits hrec hda).2, hentries,
        mem_entries hrec hup⟩
    · right
      have he := mt hiff.mpr hc
      exact ⟨List.length_eq_zero_iff.mp (by omega), List.length_eq_zero_iff.mp (by omega)⟩

/-- Alice opens the note from the notes list and buys it: the seller is credited and her entry
is stored. -/
theorem all_or_nothing_alice : ∃ h w vc, (noteSystem some).RunFrom noteShop h w ∧
    w.clients 0 = some vc ∧ (w.effectsAt 0 2).filterMap entries ≠ [] ∧
    (AllOrNothing vc (w.effectsAt 0 2) ↔
      (SomeStep (BreaksCredit 0 2) h ↔ SomeStep (BreaksEntry 0 2) h) ∧
        ¬ SomeStep (StaleCredit 0 2) h) := by
  have he : (exec (noteSystem some).step (start noteShop)
      [.boot 0 (noteOnSale, some "alice"), .serve 0 .success, .deliver 0 0,
        .serve 0 .success, .deliver 0 0, .ui 0 .downloadButtonTouched, .ui 0 .purchase,
        .serve 0 .success, .deliver 0 7, .serve 0 .success, .deliver 2 7,
        .serve 0 .success, .serve 1 .success, .deliver 1 7, .deliver 1 7]).map
      (fun w => (w.flights.map (·.request), (w.clients 0).isSome, w.effectsAt 0 2)) =
      some ([.download "u"], true, [.startCheckout 15, .success 15, .updatePrice "seller" 15,
        .download "u", .entered ⟨"a", "alice", none, none, none⟩ ⟨"a", "n", 7⟩,
        .credited ⟨"d", "seller", none, none, none⟩ 15 15]) := by decide +kernel
  obtain ⟨h, w, hr, -, hw⟩ := run_of_observed he
  obtain ⟨hflights, hclient, ht⟩ : _ ∧ _ ∧ _ := by simpa only [Prod.mk.injEq] using hw
  obtain ⟨vc, hi⟩ := Option.isSome_iff_exists.mp hclient
  refine ⟨h, w, vc, hr, hi, by rw [ht]; decide +kernel, ?_⟩
  refine all_or_nothing_iff hr hi ⟨15, by rw [ht]; simp⟩ fun f hf _ _ => ?_
  have hmem : f.request ∈ w.flights.map (·.request) := List.mem_map_of_mem hf
  rw [hflights, List.mem_singleton] at hmem
  rw [hmem]
  exact id

/-- Alice opens the note from its seller's profile, which shows it without a `userId`, and
buys it: her entry is stored, and the seller is credited nothing. -/
theorem half_done_purchase : ∃ data note h w vc,
    ProfileDetailViewController.note data "n" = some note ∧
    (noteSystem some).RunFrom noteShop h w ∧ w.clients 0 = some vc ∧ vc.note = note ∧
    (∃ price, .success price ∈ w.effectsAt 0 2) ∧
    (∀ f ∈ w.flights, f.owner = 0 → f.root = 2 → ¬ f.request.OfSale) ∧
    ¬ AllOrNothing vc (w.effectsAt 0 2) := by
  let data : NoteData := ⟨some "Logic", some "Seller", some "", some "15", some "u",
    some "seller", some 0⟩
  let note : NoteFile := { noteOnSale with documentId := some "n", userId := none, docID := "" }
  have he : (exec (noteSystem some).step (start noteShop)
      [.boot 0 (note, some "alice"), .serve 0 .success, .deliver 0 0,
        .serve 0 .success, .deliver 0 0, .ui 0 .downloadButtonTouched, .ui 0 .purchase,
        .serve 0 .success, .deliver 0 7, .serve 0 .success, .deliver 1 7]).map
      (fun w => (w.flights.map (·.request), (w.clients 0).map (·.note), w.effectsAt 0 2)) =
      some ([.download "u"], some note, [.startCheckout 15, .success 15, .download "u",
        .entered ⟨"a", "alice", none, none, none⟩ ⟨"a", "n", 7⟩]) := by decide +kernel
  obtain ⟨h, w, hr, -, hw⟩ := run_of_observed he
  obtain ⟨hflights, hclient, ht⟩ : _ ∧ _ ∧ _ := by simpa only [Prod.mk.injEq] using hw
  obtain ⟨vc, hi, hnote⟩ := Option.map_eq_some_iff.mp hclient
  refine ⟨data, note, h, w, vc, rfl, hr, hi, hnote, ⟨15, by rw [ht]; simp⟩, ?_, ?_⟩
  · intro f hf _ _
    have hmem : f.request ∈ w.flights.map (·.request) := List.mem_map_of_mem hf
    rw [hflights, List.mem_singleton] at hmem
    rw [hmem]
    exact id
  · rw [ht]
    rintro (⟨d, u, p, hc, -⟩ | ⟨-, hentries⟩)
    · cases hc
    · cases hentries

end Aoun
