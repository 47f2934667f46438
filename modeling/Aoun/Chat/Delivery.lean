import Mathlib.Data.List.Pairwise
import Aoun.Chat.Receipts

/-!
# Delivery of messages

A message that is sent while the screen is attached is written to the thread, once; the next
snapshot replaces what the screen shows by the thread. A message that is sent before the screen
is attached is shown, and never written. Once nothing is pending, the messages sent are in the
thread, and the screen shows the thread, provided that the screen was attached whenever a message
was sent, and that its listener is not removed and reports no error.

## Main definitions

* `Aoun.NothingPending` — no callback or write of a screen is pending.
* `Aoun.Delivered` — the property.
* `Aoun.FreshUUID` — the UUIDs of the messages are new.
* `Aoun.SendsAttached`, `Aoun.StaysListening` — the condition.

## Main results

* `Aoun.stored_once` — an accepted message that was written is one document.
* `Aoun.screensInv` — the screens show the last snapshot, and its receipts are pending or done.
* `Aoun.delivered` — no accepted message is lost or duplicated.
-/

set_option relaxedAutoImplicit false
set_option autoImplicit false

namespace Aoun

open AsyncSystem AsyncSystem.World StepSystem ChatViewController

/-! ## The property and its condition -/

/-- The effect changes what the listener would be called with, on the part of the screen itself:
a message was sent, a write has failed, or the listener was called. -/
def ChatEffect.Local : ChatEffect → Prop
  | .sent _ _ => True
  | .unsent _ _ => True
  | .unread _ _ => True
  | .received _ _ _ => True
  | .stored _ _ _ => False

/-- The thread of a chat. -/
def ChatsCollection.threadOf (c : ChatsCollection) (chat : ℕ) : List MessageData :=
  ((c.document chat).map (·.thread)).getD []

/-- The screen of client `i` has a listener of the thread. -/
def Listening (w : ChatWorld) (i : ℕ) (vc : ChatViewController) (chat : ℕ) : Prop :=
  vc.newMessageListner = some ⟨chat, false⟩ ∧
    ∃ f ∈ w.flights, f.owner = i ∧ f.request = .listen chat

/-- Since the last change on the part of the screen its listener was called, with the thread as
it is. -/
def UpToDate (w : ChatWorld) (i chat : ℕ) : Prop :=
  ∃ t₁ uid t₂, w.effectsOf i =
      t₁ ++ .received uid chat (orderedByCreated (w.server.threadOf chat)) :: t₂ ∧
    ∀ o ∈ t₂, ¬ o.Local

/-- No callback or write of client `i` is pending: only listeners wait, and have nothing to be
called with. -/
def NothingPending (w : ChatWorld) (i : ℕ) (vc : ChatViewController) : Prop :=
  (∀ f ∈ w.flights, f.owner = i → (∃ chat, f.request = .listen chat) ∧ f.answer = none) ∧
    ∀ chat, Listening w i vc chat → UpToDate w i chat

/-- Every message that client `i` has accepted, and whose write did not fail, is exactly one
document of the thread it is attached to; and it shows the documents of that thread, in the
order of their creation. -/
def Delivered (w : ChatWorld) (i : ℕ) (vc : ChatViewController) : Prop :=
  (∀ docReference m, .sent docReference m ∈ w.effectsOf i →
    (∀ chat, .unsent chat m.dictionary ∉ w.effectsOf i) →
      ∃ chat k, ∃ m' : Message, vc.docReference = some chat ∧
        w.server.messageAt chat k = some m'.dictionary ∧ SameMessage m m' ∧
          ∀ k' (m'' : Message), w.server.messageAt chat k' = some m''.dictionary →
            m''.id = m.id → k' = k) ∧
  ∀ chat, vc.docReference = some chat →
    vc.messages.map Message.dictionary =
      (orderedByCreated (w.server.threadOf chat)).map Prod.snd

/-- A new UUID is not the id of a message that was sent before. -/
def FreshUUID (w : ChatWorld) (e : ChatEvent) : Prop :=
  ∀ i text uuidString now, e = .ui i (.didPressSendButtonWith text uuidString now) →
    ∀ t ∈ w.trace, ∀ docReference m, t.effect = .sent docReference m → m.id ≠ uuidString

/-- Client `i` sends messages only while it is attached to a chat. -/
def SendsAttached (i : ℕ) (w : ChatWorld) (e : ChatEvent) : Prop :=
  ∀ text uuidString now vc, e = .ui i (.didPressSendButtonWith text uuidString now) →
    w.clients i = some vc → vc.docReference ≠ none

/-- The listener of client `i` reports no error and is not removed. -/
def StaysListening (i : ℕ) (w : ChatWorld) (e : ChatEvent) : Prop :=
  e ≠ .ui i .viewWillDisappear ∧ ∀ k choice f chat, e = .serve k choice →
    w.flights[k]? = some f → f.owner = i → f.request = .listen chat → ∃ n, choice = .success n

/-! ## Messages have different ids -/

/-- The id of a message that was sent. -/
def ChatEffect.sentId : ChatEffect → Option String
  | .sent _ m => some m.id
  | _ => none

/-- Messages of different entries have different ids. -/
def DistinctSent (tr : List (Entry ChatEffect)) : Prop :=
  (tr.filterMap fun t => t.effect.sentId).Nodup

section

variable {h : List (ChatWorld × ChatEvent)} {w : ChatWorld}

/-- An effect that sends no message has no id. -/
lemma sentId_of_not_redraws {o : ChatEffect} (h : ¬ o.Redraws) : o.sentId = none := by
  cases o <;> first | rfl | exact absurd trivial h

/-- Effects that send no message keep the ids distinct. -/
lemma DistinctSent.append {tr : List (Entry ChatEffect)} (hw : DistinctSent tr) {i r : ℕ}
    {os : List ChatEffect} (hos : ∀ o ∈ os, o.sentId = none) :
    DistinctSent (tr ++ os.map fun o => ⟨i, r, o⟩) := by
  have hnil : (os.map fun o => (⟨i, r, o⟩ : Entry ChatEffect)).filterMap
      (fun t => t.effect.sentId) = [] := by
    rw [List.filterMap_map, List.filterMap_eq_nil_iff]
    exact hos
  rw [DistinctSent, List.filterMap_append, hnil, List.append_nil]
  exact hw

/-- The messages sent in a run with new UUIDs have different ids. -/
lemma distinctSent (hr : chatSystem.RunFrom .empty h w) (hG : EveryStep FreshUUID h) :
    DistinctSent w.trace := by
  have hstart : DistinctSent (start .empty : ChatWorld).trace := List.nodup_nil
  refine hr.invariant_of_everyStep (I := fun w : ChatWorld => DistinctSent w.trace) hstart
    (fun w e w' hw hfresh hs => ?_) hG
  cases took_of_step hs with
  | boot free => exact hw.append fun o ho => by cases ho
  | @ui i u vc r client reacts =>
    rcases ui_cases reacts with ⟨text, uuidString, now, rfl, rfl⟩ | ⟨-, rfl⟩
    · obtain ⟨message, -, -, rfl, heq⟩ := vc.didPressSendButtonWith_eq text uuidString now
      have htrace : (w.react i w.next (vc.didPressSendButtonWith text message.id now)).trace =
          w.trace ++ [⟨i, w.next, .sent vc.docReference message⟩] := by
        rw [heq]
        rfl
      rw [tick_trace, htrace, DistinctSent, List.filterMap_append, List.nodup_append]
      refine ⟨hw, List.nodup_singleton _, fun id hid id' hid' => ?_⟩
      obtain ⟨⟨j, r, o⟩, ht, ho⟩ := List.mem_filterMap.mp hid
      obtain rfl : id' = message.id := by simpa [ChatEffect.sentId] using hid'
      cases o with
      | sent docReference m =>
        obtain rfl : m.id = id := Option.some.inj ho
        exact hfresh i text message.id now rfl _ ht docReference m rfl
      | _ => cases ho
    · exact hw.append (by simp)
  | @serve k e f flight unanswered =>
    exact hw.append fun o ho => sentId_of_not_redraws (w.server.serve_effects f.request e o ho)
  | @deliver k x f a vc flight answered client =>
    refine hw.append fun o ho => ?_
    have ho' : o ∈ (vc.recv f.request a).effects := ho
    rcases vc.recv_cases f.request a with ⟨uid, documents, -, -, hv⟩ | ⟨users, -, hv⟩ |
      ⟨chat, documents, -, -, -, hv⟩ | hv
    · rw [hv] at ho'
      rcases vc.chatsFound_cases documents with ⟨doc, -, -, hc⟩ | hc <;> rw [hc] at ho' <;>
        cases ho'
    · rw [hv] at ho'
      cases ho'
    · rw [hv, (vc.threadChanged_cases chat documents).2.1, List.mem_singleton] at ho'
      rw [ho']
      rfl
    · rw [hv] at ho'
      cases ho'

/-! ## The writes -/

/-- The write that a message leads to. -/
def ChatEffect.write : ChatEffect → Option (ℕ × MessageData)
  | .sent (some chat) m => some (chat, m.dictionary)
  | _ => none

/-- The write that was carried out, or has failed. -/
def ChatEffect.settled : ChatEffect → Option (ℕ × MessageData)
  | .stored chat _ data => some (chat, data)
  | .unsent chat data => some (chat, data)
  | _ => none

/-- The write that a request waits for. -/
def awaitedWrite : ChatRequest → Option ChatAnswer → Multiset (ℕ × MessageData)
  | .save chat data, none => {(chat, data)}
  | _, _ => 0

/-- The writes of a screen are those of its messages: they wait, were carried out, or have
failed. -/
lemma writes_balance (hr : chatSystem.RunFrom .empty h w) (i : ℕ) :
    (((w.effectsOf i).filterMap ChatEffect.write : List _) : Multiset (ℕ × MessageData)) =
      total (flightOf i awaitedWrite) w.flights +
        ((w.effectsOf i).filterMap ChatEffect.settled : List _) := by
  have hrules : ClientBalanceRules chatSystem (fun _ _ => True)
      (fun o => (ChatEffect.write o).elim (0 : Multiset _) fun p => {p})
      (fun o => (ChatEffect.settled o).elim (0 : Multiset _) fun p => {p}) awaitedWrite := by
    refine ⟨fun users => ?_, fun vc u r hr => ?_, fun c q e => ?_, fun vc q a _ _ => ?_⟩
    · exact accounts_rest (by simp [chatSystem, viewDidLoad, loadChat, awaitedWrite]) rfl
    · rcases ui_cases hr with ⟨text, uuidString, now, -, rfl⟩ | ⟨-, rfl⟩
      · obtain ⟨message, -, -, -, heq⟩ := vc.didPressSendButtonWith_eq text uuidString now
        rw [heq, Accounts]
        cases vc.docReference <;>
          simp [ChatEffect.write, ChatEffect.settled, awaitedWrite]
      · exact accounts_rest (by simp) rfl
    · show awaitedWrite q none + total _ (c.serve q e).effects =
        awaitedWrite q (some (c.serve q e).answer) + total _ (c.serve q e).effects
      rcases c.serve_cases q e with ⟨users, n, rfl, -, hs⟩ | ⟨chat, data, d', rfl, -, hs⟩ |
        ⟨chat, k, data, d', rfl, -, -, hs⟩ | ⟨-, -, -, hs⟩
      · simp [hs, awaitedWrite]
      · simp [hs, awaitedWrite, ChatEffect.write, ChatEffect.settled]
      · simp [hs, awaitedWrite]
      · rw [hs]
        cases q <;>
          simp [ChatRequest.failed, awaitedWrite, ChatEffect.write, ChatEffect.settled]
    · have hnone : awaitedWrite q (some a) = 0 := by cases q <;> rfl
      rw [hnone]
      show Accounts _ _ _ (vc.recv q a) 0
      rcases vc.recv_cases q a with ⟨uid, documents, -, -, hv⟩ | ⟨users, -, hv⟩ |
        ⟨chat, documents, -, -, -, hv⟩ | hv
      · rw [hv]
        rcases vc.chatsFound_cases documents with ⟨doc, -, -, hc⟩ | hc <;> rw [hc] <;>
          exact accounts_rest (by simp [createNewChat, awaitedWrite]) rfl
      · rw [hv]
        exact accounts_rest (by simp [loadChat, awaitedWrite]) rfl
      · obtain ⟨-, heff, hreq⟩ := vc.threadChanged_cases chat documents
        have hzero : total (fun q => awaitedWrite q none) (vc.threadChanged chat documents).requests
            = 0 := by
          refine total_eq_zero _ fun q hq => ?_
          rcases hreq q hq with rfl | ⟨doc, -, hdoc⟩
          · rfl
          · obtain ⟨msg, -, -, rfl⟩ := receipt_eq_some hdoc
            rfl
        rw [hv, Accounts, hzero, heff]
        simp [ChatEffect.write, ChatEffect.settled]
      · rw [hv]
        exact accounts_rest (by simp) rfl
  have hb := client_balance hrules (fun _ _ _ _ _ _ _ => trivial) hr i
  rwa [total_toMultiset, total_toMultiset] at hb

/-- The messages of one screen have different ids. -/
lemma DistinctSent.effectsOf (hw : DistinctSent w.trace) (i : ℕ) :
    ((w.effectsOf i).filterMap ChatEffect.sentId).Nodup := by
  rw [World.effectsOf, List.filterMap_map]
  exact hw.sublist (List.filter_sublist.filterMap _)

/-- The messages that one screen has sent to a chat are written once. -/
lemma DistinctSent.writes (hw : DistinctSent w.trace) (i : ℕ) :
    ((w.effectsOf i).filterMap ChatEffect.write).Nodup := by
  refine List.pairwise_filterMap.mpr ((List.pairwise_filterMap.mp (hw.effectsOf i)).imp ?_)
  intro o o' hoo p hp p' hp' heq
  cases o with
  | sent docReference m₁ =>
    cases o' with
    | sent docReference' m₂ =>
      cases docReference with
      | none => cases hp
      | some chat₁ =>
        cases docReference' with
        | none => cases hp'
        | some chat₂ =>
          obtain rfl := Option.some.inj hp
          obtain rfl := Option.some.inj hp'
          obtain ⟨-, hdata⟩ := Prod.mk.inj heq
          exact hoo m₁.id rfl m₂.id rfl (by rw [Message.dictionary_inj hdata])
    | _ => cases hp'
  | _ => cases hp

/-- Once no write is pending, the writes carried out or failed are those of the messages. -/
lemma settled_perm (hr : chatSystem.RunFrom .empty h w) {i : ℕ}
    (hquiet : ∀ f ∈ w.flights, f.owner = i → f.answer = none → ∀ chat data,
      f.request ≠ .save chat data) :
    ((w.effectsOf i).filterMap ChatEffect.write).Perm
      ((w.effectsOf i).filterMap ChatEffect.settled) := by
  have hzero : total (flightOf i awaitedWrite) w.flights = 0 := by
    refine total_flightOf_eq_zero fun f hf hi => ?_
    cases ha : f.answer with
    | some a => cases f.request <;> rfl
    | none =>
      cases hq : f.request with
      | save chat data => exact absurd hq (hquiet f hf hi ha chat data)
      | _ => rfl
  have hb := writes_balance hr i
  rw [hzero, zero_add] at hb
  exact Multiset.coe_eq_coe.mp hb

/-- An accepted message whose write is done and has not failed was stored. -/
lemma stored_of_sent (hr : chatSystem.RunFrom .empty h w) {i : ℕ}
    (hquiet : ∀ f ∈ w.flights, f.owner = i → f.answer = none → ∀ chat data,
      f.request ≠ .save chat data)
    {chat : ℕ} {m : Message} (hsent : .sent (some chat) m ∈ w.effectsOf i)
    (hwritten : .unsent chat m.dictionary ∉ w.effectsOf i) :
    ∃ k, .stored chat k m.dictionary ∈ w.effectsOf i := by
  have hmem : (chat, m.dictionary) ∈ (w.effectsOf i).filterMap ChatEffect.settled :=
    (settled_perm hr hquiet).subset (List.mem_filterMap.mpr ⟨_, hsent, rfl⟩)
  obtain ⟨o, ho, hsettled⟩ := List.mem_filterMap.mp hmem
  cases o with
  | stored chat' k data =>
    obtain ⟨rfl, rfl⟩ := Prod.mk.inj (Option.some.inj hsettled)
    exact ⟨k, ho⟩
  | unsent chat' data =>
    obtain ⟨rfl, rfl⟩ := Prod.mk.inj (Option.some.inj hsettled)
    exact absurd ho hwritten
  | _ => cases hsettled

/-- **A written message is one document.** A message that was sent to a chat, whose write is not
pending and has not failed, is exactly one document of its thread. -/
theorem stored_once (hr : chatSystem.RunFrom .empty h w) (hG : EveryStep FreshUUID h) {i : ℕ}
    (hquiet : ∀ f ∈ w.flights, f.owner = i → f.answer = none → ∀ chat data,
      f.request ≠ .save chat data)
    {chat : ℕ} {m : Message} (hsent : .sent (some chat) m ∈ w.effectsOf i)
    (hwritten : .unsent chat m.dictionary ∉ w.effectsOf i) :
    ∃ k, ∃ m' : Message, w.server.messageAt chat k = some m'.dictionary ∧ SameMessage m m' ∧
      ∀ k' (m'' : Message), w.server.messageAt chat k' = some m''.dictionary → m''.id = m.id →
        k' = k := by
  have hw := chatSystem_threads hr
  have hids := distinctSent hr hG
  -- the writes carried out or failed are those of the messages, each once
  have hnodup : ((w.effectsOf i).filterMap ChatEffect.settled).Nodup :=
    (settled_perm hr hquiet).nodup_iff.mp (hids.writes i)
  obtain ⟨k, hstored⟩ := stored_of_sent hr hquiet hsent hwritten
  obtain ⟨⟨j, r, o⟩, ht, rfl, rfl⟩ := mem_effectsOf.mp hstored
  obtain ⟨⟨j', r', o'⟩, ht', hj', rfl⟩ := mem_effectsOf.mp hsent
  obtain ⟨d, hd, rfl, hlt⟩ := hw.numbers _ ht chat k m.dictionary rfl
  obtain ⟨m', m₀, hdata, hsentAs, hsame, -⟩ := hw.threads d hd _ (List.mem_cons_self ..) k
    d.thread[k] (List.getElem?_eq_getElem hlt)
  obtain ⟨j₀, r₀, -, hstored₀⟩ := hsentAs
  obtain rfl : m₀ = m :=
    Message.dictionary_inj (hw.unique _ ht _ hstored₀ d.documentID k _ _ rfl rfl)
  refine ⟨k, m', ?_, hsame, fun k' m'' hat hid => ?_⟩
  · exact messageAt_eq_some.mpr ⟨d, ChatsCollection.document_eq_some_iff.mpr ⟨hd, rfl⟩,
      (List.getElem?_eq_getElem hlt).trans (congrArg some hdata)⟩
  · -- another document with this id was written for the same message
    obtain ⟨d', hd', hat⟩ := messageAt_eq_some.mp hat
    obtain ⟨hdmem', hdid'⟩ := ChatsCollection.document_eq_some_iff.mp hd'
    obtain ⟨m₁, m₂, hdata', ⟨i', s, hsent', hstored'⟩, hsame', -⟩ :=
      hw.threads d' hdmem' _ (List.mem_cons_self ..) k' m''.dictionary hat
    obtain rfl := Message.dictionary_inj hdata'
    rw [hdid'] at hsent' hstored'
    have hentry := eq_of_nodup_filterMap hids ht' hsent' (b := m₀.id) rfl
      (by rw [← hid, hsame'.1]; rfl)
    obtain ⟨rfl, rfl, heff⟩ := Entry.mk.inj hentry
    obtain ⟨-, rfl⟩ := ChatEffect.sent.inj heff
    have hmem' : .stored d.documentID k' m₀.dictionary ∈ w.effectsOf j :=
      mem_effectsOf.mpr ⟨_, hstored', hj', rfl⟩
    have heq := eq_of_nodup_filterMap hnodup hstored hmem'
      (b := (d.documentID, m₀.dictionary)) rfl rfl
    exact (ChatEffect.stored.inj heq).2.1.symm

/-! ## What the screens show -/

/-- If the listener was called last with `documents`, and nothing sent since, the screen shows
them. -/
def Shows (vc : ChatViewController) (t : List ChatEffect) : Prop :=
  ∀ t₁ uid chat documents t₂, t = t₁ ++ .received uid chat documents :: t₂ →
    (∀ o ∈ t₂, ¬ o.Redraws) →
      vc.messages = documents.filterMap fun doc => shown uid doc.2

/-- The receipts of a snapshot are pending, have failed since, or their messages are read. -/
def ReceiptsPending (w : ChatWorld) (i : ℕ) : Prop :=
  ∀ t₁ uid chat documents t₂, w.effectsOf i = t₁ ++ .received uid chat documents :: t₂ →
    ∀ k (msg : Message), (k, msg.dictionary) ∈ documents → Unread uid msg →
      (∃ f ∈ w.flights, f.owner = i ∧ f.answer = none ∧
        ∃ data, f.request = .updateData chat k data) ∨
      .unread chat k ∈ t₂ ∨
      ∃ m' : Message, w.server.messageAt chat k = some m'.dictionary ∧ m'.isRead = true

/-- The screens show the last snapshot, its receipts are pending or done, and no screen has
stopped. -/
structure ScreensInv (w : ChatWorld) : Prop where
  alive : ∀ i vc, w.clients i = some vc → vc.trapped = false
  shows : ∀ i vc, w.clients i = some vc → Shows vc (w.effectsOf i)
  pending : ∀ i, ReceiptsPending w i

/-- More effects, none of which redraws the screen. -/
lemma Shows.append {vc vc' : ChatViewController} {t t' : List ChatEffect} (h : Shows vc t)
    (ht' : ∀ o ∈ t', ¬ o.Redraws) (hm : vc'.messages = vc.messages) : Shows vc' (t ++ t') := by
  intro t₁ uid chat documents t₂ heq hquiet
  rcases append_eq_append_cons heq with ⟨l₃, htl, rfl⟩ | ⟨l₃, rfl, htl⟩
  · rw [hm]
    exact h t₁ uid chat documents l₃ htl fun o ho => hquiet o (List.mem_append_left _ ho)
  · exact (ht' (.received uid chat documents) (by simp [htl]) trivial).elim

/-- A message that is sent redraws the screen. -/
lemma shows_sent {vc : ChatViewController} {t : List ChatEffect} {docReference : Option ℕ}
    {m : Message} : Shows vc (t ++ [.sent docReference m]) := by
  intro t₁ uid chat documents t₂ heq hquiet
  rcases append_eq_append_cons heq with ⟨l₃, -, rfl⟩ | ⟨l₃, -, htl⟩
  · exact absurd trivial (hquiet (.sent docReference m) (by simp))
  · cases l₃ with
    | nil => cases (List.cons.inj htl).1
    | cons o l₃ => simp at htl

/-- A snapshot redraws the screen. -/
lemma shows_received {vc : ChatViewController} {t : List ChatEffect} {uid : String} {chat : ℕ}
    {documents : List (ℕ × MessageData)}
    (hm : vc.messages = documents.filterMap fun doc => shown uid doc.2) :
    Shows vc (t ++ [.received uid chat documents]) := by
  intro t₁ uid' chat' documents' t₂ heq hquiet
  rcases append_eq_append_cons heq with ⟨l₃, -, rfl⟩ | ⟨l₃, -, htl⟩
  · exact absurd trivial (hquiet (.received uid chat documents) (by simp))
  · cases l₃ with
    | nil =>
      obtain ⟨hreceived, -⟩ := List.cons.inj htl
      obtain ⟨rfl, rfl, rfl⟩ := ChatEffect.received.inj hreceived
      exact hm
    | cons o l₃ => simp at htl

lemma ScreensInv.tick (hw : ScreensInv w) : ScreensInv w.tick :=
  ⟨hw.alive, hw.shows, hw.pending⟩

/-- The delivery of an answer takes no pending receipt out. -/
lemma ScreensInv.land (hw : ScreensInv w) {n : ℕ} {f : Flight ChatRequest ChatAnswer}
    (flight : w.flights[n]? = some f) (answered : f.answer ≠ none) : ScreensInv (w.land n) := by
  refine ⟨hw.alive, hw.shows, fun i t₁ uid chat documents t₂ heq k msg hk hread => ?_⟩
  rcases hw.pending i t₁ uid chat documents t₂ heq k msg hk hread with
    ⟨g, hg, hgi, hnone, hupdate⟩ | hrest
  · rcases eq_or_mem_eraseIdx flight hg with rfl | hg
    · exact absurd hnone answered
    · exact Or.inl ⟨g, hg, hgi, hnone, hupdate⟩
  · exact Or.inr hrest

/-- A reaction keeps the invariant if its screen shows what it should, and the receipts of a
snapshot it has received are issued. -/
lemma ScreensInv.react (hw : ScreensInv w) {i : ℕ} (root : ℕ) {r : ChatReaction}
    (halive : r.client.trapped = false) (hshows : Shows r.client (w.effectsOf i ++ r.effects))
    (hreceived : ∀ l₁ uid chat documents l₂,
      r.effects = l₁ ++ .received uid chat documents :: l₂ → ∀ k (msg : Message),
        (k, msg.dictionary) ∈ documents → Unread uid msg →
          ∃ data, .updateData chat k data ∈ r.requests) : ScreensInv (w.react i root r) := by
  refine ⟨fun j vc hj => ?_, fun j vc hj => ?_, fun j t₁ uid chat documents t₂ heq => ?_⟩
  · by_cases hji : j = i
    · subst hji
      obtain rfl : r.client = vc := by simpa using hj
      exact halive
    · rw [react_clients_of_ne _ _ _ hji] at hj
      exact hw.alive j vc hj
  · by_cases hji : j = i
    · subst hji
      obtain rfl : r.client = vc := by simpa using hj
      rw [effectsOf_react_self]
      exact hshows
    · rw [react_clients_of_ne _ _ _ hji] at hj
      rw [effectsOf_react_of_ne _ _ _ hji]
      exact hw.shows j vc hj
  · intro k msg hk hread
    by_cases hji : j = i
    · subst hji
      rw [effectsOf_react_self] at heq
      rcases append_eq_append_cons heq with ⟨l₃, htl, rfl⟩ | ⟨l₃, rfl, htl⟩
      · rcases hw.pending j t₁ uid chat documents l₃ htl k msg hk hread with
          ⟨g, hg, hrest⟩ | hunread | hdone
        · exact Or.inl ⟨g, List.mem_append_left _ hg, hrest⟩
        · exact Or.inr (Or.inl (List.mem_append_left _ hunread))
        · exact Or.inr (Or.inr hdone)
      · obtain ⟨data, hdata⟩ := hreceived l₃ uid chat documents t₂ htl k msg hk hread
        exact Or.inl ⟨⟨j, root, .updateData chat k data, none⟩,
          List.mem_append_right _ (List.mem_map_of_mem hdata), rfl, rfl, data, rfl⟩
    · rw [effectsOf_react_of_ne _ _ _ hji] at heq
      rcases hw.pending j t₁ uid chat documents t₂ heq k msg hk hread with
        ⟨g, hg, hrest⟩ | hrest
      · exact Or.inl ⟨g, List.mem_append_left _ hg, hrest⟩
      · exact Or.inr hrest

/-- The server carries a receipt out, or it fails. -/
lemma serve_receipt (hw : ThreadsInv w) {n : ℕ} {f : Flight ChatRequest ChatAnswer}
    (flight : w.flights[n]? = some f) (e : ChatChoice) {chat k : ℕ} {data : MessageData}
    (hq : f.request = .updateData chat k data) :
    .unread chat k ∈ (w.server.serve f.request e).effects ∨
      ∃ m' : Message, (w.server.serve f.request e).server.messageAt chat k =
        some m'.dictionary ∧ m'.isRead = true := by
  obtain ⟨m', m₀, rfl, hread, -⟩ := hw.updates f (mem_of_flight flight) chat k data hq
  rw [hq]
  rcases w.server.serve_cases (.updateData chat k m'.dictionary) e with ⟨users, n, hno, -⟩ |
    ⟨chat', data', d, hno, -⟩ | ⟨chat', k', data', d, heq, hd, hk, hv⟩ | ⟨-, -, -, hv⟩
  · cases hno
  · cases hno
  · obtain ⟨rfl, rfl, rfl⟩ := ChatRequest.updateData.inj heq
    refine Or.inr ⟨m', ?_, hread⟩
    rw [hv, messageAt_setThread hd, if_pos rfl, List.getElem?_modify,
      List.getElem?_eq_getElem hk]
    simp
  · exact Or.inl (by rw [hv]; exact List.mem_singleton_self _)

/-- The server's handling of a request keeps the invariant. -/
lemma ScreensInv.serve (hw : ScreensInv w) (hthreads : ThreadsInv w) {n : ℕ}
    {f : Flight ChatRequest ChatAnswer} (flight : w.flights[n]? = some f) (e : ChatChoice)
    (hkeeps : KeepsMessages w (w.handle n f (w.server.serve f.request e))) :
    ScreensInv (w.handle n f (w.server.serve f.request e)) := by
  have hserve := w.server.serve_effects f.request e
  refine ⟨hw.alive, fun j vc hj => ?_, fun j t₁ uid chat documents t₂ heq k msg hk hread => ?_⟩
  · by_cases hjf : j = f.owner
    · subst hjf
      rw [effectsOf_handle_self]
      exact (hw.shows f.owner vc hj).append hserve rfl
    · rw [effectsOf_handle_of_ne _ _ _ _ _ hjf]
      exact hw.shows j vc hj
  · -- the split is one of the effects before
    obtain ⟨l₃, l₄, htl, rfl, hl₄⟩ : ∃ l₃ l₄,
        w.effectsOf j = t₁ ++ .received uid chat documents :: l₃ ∧ t₂ = l₃ ++ l₄ ∧
          (j = f.owner → l₄ = (w.server.serve f.request e).effects) := by
      by_cases hjf : j = f.owner
      · subst hjf
        rw [effectsOf_handle_self] at heq
        rcases append_eq_append_cons heq with ⟨l₃, htl, rfl⟩ | ⟨l₃, -, htl⟩
        · exact ⟨l₃, _, htl, rfl, fun _ => rfl⟩
        · exact (hserve (.received uid chat documents) (by simp [htl]) trivial).elim
      · rw [effectsOf_handle_of_ne _ _ _ _ _ hjf] at heq
        exact ⟨t₂, [], heq, by simp, fun h => absurd h hjf⟩
    rcases hw.pending j t₁ uid chat documents l₃ htl k msg hk hread with
      ⟨g, hg, hgj, hnone, data, hq⟩ | hunread | ⟨m', hm', hread'⟩
    · rcases eq_or_mem_eraseIdx flight hg with rfl | hg
      · right
        rcases serve_receipt hthreads flight e hq with hunread | hdone
        · left
          rw [hl₄ hgj.symm]
          exact List.mem_append_right _ hunread
        · exact Or.inr hdone
      · exact Or.inl ⟨g, List.mem_append_left _ hg, hgj, hnone, data, hq⟩
    · exact Or.inr (Or.inl (List.mem_append_left _ hunread))
    · obtain ⟨m'', hm'', -, hmono⟩ := hkeeps chat k m' hm'
      exact Or.inr (Or.inr ⟨m'', hm'', hmono hread'⟩)

/-- The delivery of an answer keeps the invariant: a snapshot redraws the screen, and its receipts
are issued. -/
lemma ScreensInv.deliver (hw : ScreensInv w) (hthreads : ThreadsInv w) {n : ℕ}
    {f : Flight ChatRequest ChatAnswer} {a : ChatAnswer} {vc : ChatViewController}
    (flight : w.flights[n]? = some f) (answered : f.answer = some a)
    (client : w.clients f.owner = some vc) :
    ScreensInv ((w.land n).react f.owner f.root (vc.recv f.request a)) := by
  have hland := hw.land flight (by rw [answered]; simp)
  have halive := hw.alive f.owner vc client
  have hshows := hw.shows f.owner vc client
  have hquiet : ∀ r : ChatReaction, r.effects = [] → r.client.trapped = false →
      r.client.messages = vc.messages → ScreensInv ((w.land n).react f.owner f.root r) := by
    intro r heff htrapped hm
    refine hland.react f.root htrapped (hshows.append (by simp [heff]) hm) ?_
    intro l₁ uid chat documents l₂ hl
    simp [heff] at hl
  rcases vc.recv_cases f.request a with ⟨uid, documents, -, -, hv⟩ | ⟨users, -, hv⟩ |
    ⟨chat, documents, hq, rfl, -, hv⟩ | hv
  · rw [hv]
    rcases vc.chatsFound_cases documents with ⟨doc, -, -, hc⟩ | hc
    · rw [hc]
      exact hquiet _ rfl halive rfl
    · rw [hc]
      exact hquiet _ rfl halive rfl
  · rw [hv]
    exact hquiet _ rfl halive rfl
  · have hdocs : ∀ doc ∈ documents, ∃ m : Message, doc.2 = m.dictionary := by
      intro doc hdoc
      obtain ⟨m, m₀, hdata, -⟩ := hthreads.snapshots f (mem_of_flight flight) chat documents
        hq answered doc hdoc
      exact ⟨m, hdata⟩
    rw [hv, threadChanged_eq hdocs]
    refine hland.react f.root halive (shows_received rfl) ?_
    intro l₁ uid chat' documents' l₂ hl k msg hk hread
    cases l₁ with
    | nil =>
      obtain ⟨rfl, rfl, rfl⟩ := ChatEffect.received.inj (List.cons.inj hl).1
      refine ⟨{ msg with isRead := true }.dictionary, List.mem_append_left _ ?_⟩
      exact List.mem_filterMap.mpr ⟨(k, msg.dictionary), hk, by simp [receipt, hread]⟩
    | cons o l₁ => simp at hl
  · rw [hv]
    exact hquiet _ rfl halive rfl

/-- **The screens show the last snapshot**, in every state of every run, and its receipts are
pending or done. -/
theorem screensInv (hr : chatSystem.RunFrom .empty h w) : ScreensInv w := by
  induction hr with
  | nil =>
    refine ⟨by simp, by simp, fun i t₁ uid chat documents t₂ heq => ?_⟩
    rw [effectsOf_start] at heq
    simp at heq
  | @snoc h w e w' hr hs hw =>
    have hthreads := chatSystem_threads hr
    cases took_of_step hs with
    | @boot i users free =>
      refine (hw.react w.next rfl ?_ fun l₁ uid chat documents l₂ heq => ?_).tick
      · rw [effectsOf_fresh hr free]
        intro t₁ uid chat documents t₂ heq
        simp [chatSystem, viewDidLoad, loadChat] at heq
      · simp [chatSystem, viewDidLoad, loadChat] at heq
    | @ui i u vc r client reacts =>
      have halive := hw.alive i vc client
      rcases ui_cases reacts with ⟨text, uuidString, now, -, rfl⟩ | ⟨-, rfl⟩
      · obtain ⟨message, -, -, -, heq⟩ := vc.didPressSendButtonWith_eq text uuidString now
        rw [heq]
        refine (hw.react w.next halive shows_sent fun l₁ uid chat documents l₂ hl => ?_).tick
        cases l₁ with
        | nil => cases (List.cons.inj hl).1
        | cons o l₁ => simp at hl
      · exact (hw.react w.next halive ((hw.shows i vc client).append (by simp) rfl)
          fun l₁ uid chat documents l₂ hl => by simp at hl).tick
    | @serve n e f flight unanswered =>
      exact hw.serve hthreads flight e (keepsMessages_step hthreads hs)
    | deliver flight answered client => exact hw.deliver hthreads flight answered client

/-! ## The listener stays -/

/-- While client `i` is attached to a chat, it has a listener of the thread. -/
def Listens (i : ℕ) (w : ChatWorld) : Prop :=
  ∀ vc, w.clients i = some vc → ∀ chat, vc.docReference = some chat →
    vc.newMessageListner = some ⟨chat, false⟩ ∧ ∃ f ∈ w.flights, f.owner = i ∧
      f.request = .listen chat ∧ ∀ a, f.answer = some a → ∃ documents, a = .thread documents

/-- A reaction of client `i` that leaves it attached as it is. -/
lemma Listens.react {i : ℕ} (hw : Listens i w) {j : ℕ} (root : ℕ) {r : ChatReaction}
    (hsame : j = i → ∀ chat, r.client.docReference = some chat → ∃ vc, w.clients i = some vc ∧
      vc.SameScreen r.client) : Listens i (w.react j root r) := by
  intro vc' hvc' chat hchat
  obtain ⟨vc, hvc, hdoc, hlistner⟩ : ∃ vc, w.clients i = some vc ∧
      vc.docReference = some chat ∧ vc'.newMessageListner = vc.newMessageListner := by
    by_cases hji : j = i
    · subst hji
      obtain rfl : r.client = vc' := by simpa using hvc'
      obtain ⟨vc, hvc, -, -, hdoc, hlistner⟩ := hsame rfl chat hchat
      exact ⟨vc, hvc, hdoc ▸ hchat, hlistner⟩
    · rw [react_clients_of_ne _ _ _ (Ne.symm hji)] at hvc'
      exact ⟨vc', hvc', hchat, rfl⟩
  obtain ⟨hl, f, hf, hrest⟩ := hw vc hvc chat hdoc
  exact ⟨hlistner.trans hl, f, List.mem_append_left _ hf, hrest⟩

/-- The server's handling of a request keeps the listener, if it reports no error. -/
lemma Listens.serve {i : ℕ} (hw : Listens i w) {n : ℕ} {f : Flight ChatRequest ChatAnswer}
    (flight : w.flights[n]? = some f) {e : ChatChoice}
    (hsucceeds : ∀ chat, f.owner = i → f.request = .listen chat → ∃ age, e = .success age) :
    Listens i (w.handle n f (w.server.serve f.request e)) := by
  intro vc hvc chat hchat
  obtain ⟨hl, g, hg, hgi, hgq, hga⟩ := hw vc hvc chat hchat
  refine ⟨hl, ?_⟩
  rcases eq_or_mem_eraseIdx flight hg with rfl | hg
  · refine ⟨_, List.mem_append_right _ (List.mem_singleton_self _), hgi, hgq, ?_⟩
    obtain ⟨age, rfl⟩ := hsucceeds chat hgi hgq
    intro a ha
    obtain rfl := Option.some.inj ha
    rw [hgq]
    exact ⟨_, rfl⟩
  · exact ⟨g, List.mem_append_left _ hg, hgi, hgq, hga⟩

/-- The delivery of an answer keeps the listener: it waits again after it was called. -/
lemma Listens.deliver {i : ℕ} (hw : Listens i w) (hscreens : ScreensInv w) {n : ℕ}
    {f : Flight ChatRequest ChatAnswer} {a : ChatAnswer} {vc : ChatViewController}
    (flight : w.flights[n]? = some f) (answered : f.answer = some a)
    (client : w.clients f.owner = some vc) :
    Listens i ((w.land n).react f.owner f.root (vc.recv f.request a)) := by
  by_cases hfi : f.owner = i
  · subst hfi
    intro vc' hvc' chat hchat
    obtain rfl : (vc.recv f.request a).client = vc' := by simpa using hvc'
    rcases vc.recv_attached f.request a hchat with hv | hsame
    · rw [hv]
      exact ⟨rfl, ⟨f.owner, f.root, .listen chat, none⟩, List.mem_append_right _ (by simp),
        rfl, rfl, fun a ha => by cases ha⟩
    · obtain ⟨-, -, hdoc, hlistner⟩ := hsame
      obtain ⟨hl, g, hg, hgi, hgq, hga⟩ := hw vc client chat (hdoc ▸ hchat)
      refine ⟨hlistner.trans hl, ?_⟩
      rcases eq_or_mem_eraseIdx flight hg with rfl | hg
      · -- the listener was called, and waits again
        obtain ⟨documents, rfl⟩ := hga a answered
        have hv : vc.recv (.listen chat) (.thread documents) =
            vc.threadChanged chat documents :=
          recv_listen (hscreens.alive g.owner vc client) hl
        refine ⟨⟨g.owner, g.root, .listen chat, none⟩, List.mem_append_right _ ?_, rfl, rfl,
          fun a ha => by cases ha⟩
        rw [hgq, hv]
        exact List.mem_map_of_mem (List.mem_append_right _ (List.mem_singleton_self _))
      · exact ⟨g, List.mem_append_left _ hg, hgi, hgq, hga⟩
  · intro vc' hvc' chat hchat
    rw [react_clients_of_ne _ _ _ (Ne.symm hfi)] at hvc'
    obtain ⟨hl, g, hg, hgi, hrest⟩ := hw vc' hvc' chat hchat
    refine ⟨hl, g, List.mem_append_left _ ?_, hgi, hrest⟩
    rcases eq_or_mem_eraseIdx flight hg with rfl | hg
    · exact absurd hgi hfi
    · exact hg

/-- **A listener stays** in every run in which it is not removed and reports no error. -/
lemma listens (hr : chatSystem.RunFrom .empty h w) {i : ℕ}
    (hG : EveryStep (StaysListening i) h) : Listens i w := by
  induction hr with
  | nil => exact fun vc hvc => by simp at hvc
  | @snoc h w e w' hr hs ih =>
    obtain ⟨hG, hstays, hsucceeds⟩ := (everyStep_snoc _ _ _ _).mp hG
    have hw := ih hG
    cases took_of_step hs with
    | @boot j users free => exact hw.react w.next fun _ chat hchat => by cases hchat
    | @ui j u vc r client reacts =>
      refine hw.react w.next fun hji chat _ => ?_
      subst hji
      rcases ui_cases reacts with ⟨text, uuidString, now, -, rfl⟩ | ⟨rfl, -⟩
      · obtain ⟨message, -, -, -, heq⟩ := vc.didPressSendButtonWith_eq text uuidString now
        exact ⟨vc, client, by rw [heq]; exact ⟨rfl, rfl, rfl, rfl⟩⟩
      · exact absurd rfl hstays
    | @serve n e f flight unanswered =>
      exact hw.serve flight fun chat => hsucceeds n e f chat rfl flight
    | deliver flight answered client =>
      exact hw.deliver (screensInv hr) flight answered client

/-! ## Delivery -/

/-- Client `i` has sent no message before it was attached. -/
lemma sent_attached (hr : chatSystem.RunFrom .empty h w) {i : ℕ}
    (hG : EveryStep (SendsAttached i) h) (m : Message) : .sent none m ∉ w.effectsOf i := by
  induction hr with
  | nil => simp
  | @snoc h w e w' hr hs ih =>
    obtain ⟨hG, hsends⟩ := (everyStep_snoc _ _ _ _).mp hG
    have hno := ih hG
    have hreact : ∀ (v : ChatWorld) (j root : ℕ) (r : ChatReaction),
        v.effectsOf i = w.effectsOf i → (j = i → .sent none m ∉ r.effects) →
          .sent none m ∉ (v.react j root r).effectsOf i := by
      intro v j root r hv hreact
      by_cases hji : j = i
      · subst hji
        rw [effectsOf_react_self, hv, List.mem_append, not_or]
        exact ⟨hno, hreact rfl⟩
      · rw [effectsOf_react_of_ne _ _ _ (Ne.symm hji), hv]
        exact hno
    cases took_of_step hs with
    | @boot j users free => exact hreact w j _ _ rfl fun _ hsent => by cases hsent
    | @ui j u vc r client reacts =>
      refine hreact w j _ _ rfl fun hji => ?_
      subst hji
      rcases ui_cases reacts with ⟨text, uuidString, now, rfl, rfl⟩ | ⟨-, rfl⟩
      · obtain ⟨message, -, -, -, heq⟩ := vc.didPressSendButtonWith_eq text uuidString now
        rw [heq, List.mem_singleton]
        intro hsent
        exact hsends text uuidString now vc rfl client (ChatEffect.sent.inj hsent).1.symm
      · simp
    | @serve n e f flight unanswered =>
      by_cases hfi : i = f.owner
      · subst hfi
        rw [effectsOf_handle_self, List.mem_append, not_or]
        exact ⟨hno, fun hsent => w.server.serve_effects f.request e _ hsent trivial⟩
      · rw [effectsOf_handle_of_ne _ _ _ _ _ hfi]
        exact hno
    | @deliver n x f a vc flight answered client =>
      refine hreact (w.land n) _ _ _ rfl fun _ => ?_
      show .sent none m ∉ (vc.recv f.request a).effects
      rcases vc.recv_cases f.request a with ⟨uid, documents, -, -, hv⟩ | ⟨users, -, hv⟩ |
        ⟨chat, documents, -, -, -, hv⟩ | hv
      · rw [hv]
        rcases vc.chatsFound_cases documents with ⟨doc, -, -, hc⟩ | hc <;> rw [hc] <;>
          simp [createNewChat]
      · rw [hv]
        simp [loadChat]
      · rw [hv, (vc.threadChanged_cases chat documents).2.1]
        simp
      · rw [hv]
        simp

/-- A message of a thread, by its number. -/
lemma messageAt_eq (c : ChatsCollection) (chat k : ℕ) :
    c.messageAt chat k = (c.threadOf chat)[k]? := by
  rw [ChatsCollection.messageAt, ChatsCollection.threadOf]
  cases c.document chat <;> simp

/-- Messages that are read, or the user's own, are shown as they are. -/
lemma map_shown {uid : String} {documents : List (ℕ × MessageData)}
    (hdocs : ∀ doc ∈ documents, ∃ m : Message, doc.2 = m.dictionary ∧ ¬ Unread uid m) :
    (documents.filterMap fun doc => shown uid doc.2).map Message.dictionary =
      documents.map Prod.snd := by
  induction documents with
  | nil => rfl
  | cons doc documents ih =>
    obtain ⟨⟨m, hm, hread⟩, hrest⟩ := List.forall_mem_cons.mp hdocs
    have hshown : shown uid doc.2 = some m := by simp [shown, hm, hread]
    rw [List.filterMap_cons, hshown, List.map_cons, List.map_cons, ih hrest, hm]

/-- **No accepted message is lost or duplicated.** In every run with new UUIDs in which client
`i` sends messages only while it is attached, and its listener is not removed and reports no
error, once nothing of client `i` is pending, every message it has accepted, and whose write did
not fail, is exactly one document of the thread it is attached to, and it shows the documents of
that thread.

**Proof sketch.** The messages were written to the chat (`sent_attached`), each once
(`stored_once`). The listener is there (`listens`), and the screen shows what it was called with
last (`screensInv`); that is the thread as it is, in which no receipt of the screen is missing. -/
theorem delivered (hr : chatSystem.RunFrom .empty h w) {i : ℕ}
    (hG : EveryStep (fun w e => FreshUUID w e ∧ SendsAttached i w e ∧ StaysListening i w e) h)
    {vc : ChatViewController} (hi : w.clients i = some vc) (hdone : NothingPending w i vc) :
    Delivered w i vc := by
  have hattached := (chatSystem_attached hr).client i vc hi
  have hscreens := screensInv hr
  obtain ⟨hwaits, hcalled⟩ := hdone
  constructor
  · intro docReference m hsent hwritten
    cases docReference with
    | none => exact absurd hsent (sent_attached hr (fun p hp => (hG p hp).2.1) m)
    | some chat =>
      obtain ⟨k, m', hat, hsame, honly⟩ := stored_once hr (fun p hp => (hG p hp).1)
        (fun f hf hfi _ chat data hq => by
          obtain ⟨⟨chat', hlisten⟩, -⟩ := hwaits f hf hfi
          rw [hlisten] at hq
          cases hq) hsent (hwritten chat)
      exact ⟨chat, k, m', hattached.sent chat m hsent, hat, hsame, honly⟩
  · intro chat hchat
    obtain ⟨hlistner, f, hf, hfi, hfq, -⟩ := listens hr (fun p hp => (hG p hp).2.2) vc hi chat hchat
    obtain ⟨t₁, uid, t₂, heq, hquiet⟩ := hcalled chat ⟨hlistner, f, hf, hfi, hfq⟩
    have hshows := hscreens.shows i vc hi t₁ uid chat _ t₂ heq fun o ho hredraws =>
      hquiet o ho (by cases o <;> first | exact trivial | exact hredraws)
    rw [hshows]
    refine map_shown fun doc hdoc => ?_
    have hat : w.server.messageAt chat doc.1 = some doc.2 := by
      rw [messageAt_eq]
      exact mem_orderedByCreated hdoc
    obtain ⟨d, hd, hk⟩ := messageAt_eq_some.mp hat
    obtain ⟨hdmem, rfl⟩ := ChatsCollection.document_eq_some_iff.mp hd
    obtain ⟨m, m₀, hdata, -⟩ :=
      (chatSystem_threads hr).threads d hdmem _ (List.mem_cons_self ..) doc.1 doc.2 hk
    refine ⟨m, hdata, fun hunread => ?_⟩
    -- a receipt for an unread message would be pending, or have failed since
    rcases hscreens.pending i t₁ uid d.documentID _ t₂ heq doc.1 m (hdata ▸ hdoc) hunread with
      ⟨g, hg, hgi, -, data, hgq⟩ | hfailed | ⟨m', hm', hread⟩
    · obtain ⟨⟨chat', hlisten⟩, -⟩ := hwaits g hg hgi
      rw [hlisten] at hgq
      cases hgq
    · exact hquiet _ hfailed trivial
    · rw [hat, hdata] at hm'
      obtain rfl := Message.dictionary_inj (Option.some.inj hm')
      rw [hunread.2] at hread
      cases hread

end

/-! ## Alice writes to Bob -/

/-- The message that Alice sends. -/
def hello : Message := ⟨"1", "Hello", 5, "alice", "Alice A", false⟩

/-- What is seen of the screen of client `0`, and of the first chat. -/
structure Observed where
  flights : List (ℕ × ChatRequest × Option ChatAnswer)
  effects : List ChatEffect
  thread : List MessageData
  screen : Option (Option ListenerRegistration × Option ℕ × List Message)
  deriving DecidableEq

/-- What is seen in a state. -/
def observed (w : ChatWorld) : Observed :=
  ⟨w.flights.map fun f => (f.owner, f.request, f.answer), w.effectsOf 0, w.server.threadOf 0,
    (w.clients 0).map fun vc => (vc.newMessageListner, vc.docReference, vc.messages)⟩

/-- Only the listener of client `0` waits, and it was called with the thread as it is. -/
lemma nothingPending_of_observed {w : ChatWorld} {vc : ChatViewController}
    (t₁ : List ChatEffect) {uid : String}
    (hflights : (w.flights.map fun f => (f.owner, f.request, f.answer)) =
      [(0, .listen 0, none)])
    (heffects : w.effectsOf 0 =
      t₁ ++ [.received uid 0 (orderedByCreated (w.server.threadOf 0))])
    (hlistner : vc.newMessageListner = some ⟨0, false⟩) : NothingPending w 0 vc := by
  refine ⟨fun f hf _ => ?_, fun chat hlistening => ⟨t₁, uid, [], ?_, by simp⟩⟩
  · have hmem : (f.owner, f.request, f.answer) ∈ [(0, ChatRequest.listen 0, none)] :=
      hflights ▸ List.mem_map_of_mem hf
    rw [List.mem_singleton, Prod.mk.injEq, Prod.mk.injEq] at hmem
    exact ⟨⟨0, hmem.2.1⟩, hmem.2.2⟩
  · have hchat := hlistening.1
    rw [hlistner, Option.some.injEq, ListenerRegistration.mk.injEq] at hchat
    rw [← hchat.1]
    exact heffects

/-- A test that a step meets the conditions: nothing fails, and a message is sent under an unused id
and into a chat that is known. -/
def steadyChat (w : ChatWorld) : ChatEvent → Bool
  | .ui i (.didPressSendButtonWith _ uuidString _) =>
    w.trace.all (fun t => t.effect.sentId ≠ some uuidString) &&
      (w.clients i).all fun vc => vc.docReference ≠ none
  | .ui _ .viewWillDisappear => false
  | .serve _ (.success _) => true
  | .serve _ _ => false
  | _ => true

/-- Alice sends a message when she is attached to the chat. -/
theorem delivered_alice : ∃ h w vc, chatSystem.RunFrom .empty h w ∧ w.clients 0 = some vc ∧
    vc.messages = [hello] ∧ NothingPending w 0 vc ∧ Delivered w 0 vc := by
  have he : (exec (guarded steadyChat chatSystem.step) (start .empty)
      [.boot 0 (alice, bob), .serve 0 (.success 0), .deliver 0 (), .serve 0 (.success 0),
        .deliver 0 (), .serve 0 (.success 0), .deliver 0 (),
        .ui 0 (.didPressSendButtonWith "Hello" "1" 5), .serve 1 (.success 0), .deliver 1 (),
        .serve 0 (.success 0), .deliver 0 ()]).map observed =
      some ⟨[(0, .listen 0, none)], [.sent (some 0) hello, .stored 0 0 hello.dictionary,
        .received "alice" 0 [(0, hello.dictionary)]], [hello.dictionary],
        some (some ⟨0, false⟩, some 0, [hello])⟩ := by decide +kernel
  obtain ⟨h, w, hr, hG, hw⟩ := run_of_guarded he
  obtain ⟨hflights, heffects, hthread, hclient⟩ : _ ∧ _ ∧ _ ∧ _ := by
    simpa only [observed, Observed.mk.injEq] using hw
  obtain ⟨vc, hi, hvc⟩ := Option.map_eq_some_iff.mp hclient
  obtain ⟨hlistner, -, hmessages⟩ : _ ∧ _ ∧ _ := by simpa only [Prod.mk.injEq] using hvc
  have hdone := nothingPending_of_observed [.sent (some 0) hello,
    .stored 0 0 hello.dictionary] hflights (by rw [heffects, hthread]; rfl) hlistner
  refine ⟨h, w, vc, hr, hi, hmessages, hdone, delivered hr (fun p hp => ?_) hi hdone⟩
  have hg : steadyChat p.1 p.2 = true := hG p hp
  refine ⟨?_, ?_, ?_, ?_⟩
  · intro i text uuidString now he t ht docReference m hsent hid
    rw [he, steadyChat, Bool.and_eq_true] at hg
    have hfresh := List.all_eq_true.mp hg.1 t ht
    simp [hsent, ChatEffect.sentId, hid] at hfresh
  · intro text uuidString now vc he hvc
    rw [he, steadyChat, Bool.and_eq_true] at hg
    simpa [hvc] using hg.2
  · intro he
    rw [he] at hg
    cases hg
  · intro k choice f chat he _ _ _
    rw [he] at hg
    cases choice with
    | success n => exact ⟨n, rfl⟩
    | _ => cases hg

/-- She sends it before the search for the chat is answered: it is never written, and the first
snapshot takes it off the screen. -/
theorem lost_message : ∃ h w vc, chatSystem.RunFrom .empty h w ∧ w.clients 0 = some vc ∧
    NothingPending w 0 vc ∧ .sent none hello ∈ w.effectsOf 0 ∧ vc.docReference = some 0 ∧
    vc.messages = [] ∧ ¬ Delivered w 0 vc := by
  have he : (exec chatSystem.step (start .empty)
      [.boot 0 (alice, bob), .ui 0 (.didPressSendButtonWith "Hello" "1" 5), .serve 0 (.success 0),
        .deliver 0 (), .serve 0 (.success 0), .deliver 0 (), .serve 0 (.success 0), .deliver 0 (),
        .serve 0 (.success 0), .deliver 0 ()]).map observed =
      some ⟨[(0, .listen 0, none)], [.sent none hello, .received "alice" 0 []], [],
        some (some ⟨0, false⟩, some 0, [])⟩ := by decide +kernel
  obtain ⟨h, w, hr, -, hw⟩ := run_of_observed he
  obtain ⟨hflights, heffects, hthread, hclient⟩ : _ ∧ _ ∧ _ ∧ _ := by
    simpa only [observed, Observed.mk.injEq] using hw
  obtain ⟨vc, hi, hvc⟩ := Option.map_eq_some_iff.mp hclient
  obtain ⟨hlistner, hdoc, hmessages⟩ : _ ∧ _ ∧ _ := by simpa only [Prod.mk.injEq] using hvc
  have hdone := nothingPending_of_observed [.sent none hello] hflights
    (by rw [heffects, hthread]; rfl) hlistner
  have hsent : .sent none hello ∈ w.effectsOf 0 := by simp [heffects]
  refine ⟨h, w, vc, hr, hi, hdone, hsent, hdoc, hmessages, fun hdelivered => ?_⟩
  obtain ⟨chat, k, m', hchat, hat, -⟩ := hdelivered.1 none hello hsent (by simp [heffects])
  rw [hdoc] at hchat
  obtain rfl := Option.some.inj hchat
  rw [messageAt_eq, hthread] at hat
  cases hat

end Aoun
