import Mathlib.Data.List.Nodup
import Mathlib.Data.Multiset.OrderedMonoid
import Aoun.Lib.Join
import Aoun.Chat.Pair
import Aoun.Chat.Roster

/-!
# The join of the list of chats

A call of `loadChatRoster()` asks for the unread messages of each of its chats that has another
participant than the user, and assigns `chats` when as many queries have answered as it has
chats. A chat of the user with himself is counted, but never asked for. The list is therefore
assigned exactly if there is no such chat; otherwise it stays empty, since it was cleared before.

## Main definitions

* `Aoun.unreadAnswers` — the answers for a call so far, in order.
* `Aoun.Published` — the call has assigned `chats` once, as it should.

## Main results

* `Aoun.rosterSystem_collects` — what holds of the calls of every screen at any time.
* `Aoun.roster_published_iff` — which calls assign the list.
-/

set_option relaxedAutoImplicit false
set_option autoImplicit false

namespace Aoun

open AsyncSystem AsyncSystem.World StepSystem VCChatRoster

/-! ## The effects of a call -/

/-- The answer to the query for the unread messages of a chat. -/
structure UnreadAnswer where
  doc : ℕ × List String
  otherUserID : String
  documents : Option (List MessageData)
  deriving DecidableEq

/-- The row that an answer adds. -/
def UnreadAnswer.row (a : UnreadAnswer) : Chat := rosterRow a.doc a.documents

/-- What the completion of the query gets, without the error, if the environment chooses so. -/
def RosterChoice.unread (doc : ℕ) (otherUserID : String) :
    RosterChoice → Option (List MessageData)
  | .success chats _ => some (chats.unread doc otherUserID)
  | .error => none
  | .neither => some []

/-- In the run the server has handled the query of screen `i` for call `k`, and the documents
of the answer are those it found then. -/
def UnreadAnswer.Queried (h : List (RosterWorld × RosterEvent)) (i k : ℕ) (a : UnreadAnswer) :
    Prop :=
  ∃ w j choice f, (w, .serve j choice) ∈ h ∧ w.flights[j]? = some f ∧ f.owner = i ∧
    f.request = .unread k a.doc a.otherUserID ∧
    a.documents = choice.unread a.doc.1 a.otherUserID

namespace RosterEffect

/-- The documents found for call `k`, with the user signed in then. -/
def foundBy (k : ℕ) : RosterEffect → Option (Option String × List (ℕ × List String))
  | .found call currentUser documents => if call = k then some (currentUser, documents) else none
  | _ => none

/-- The answer for call `k`. -/
def answerFor (k : ℕ) : RosterEffect → Option UnreadAnswer
  | .answered call doc otherUserID documents =>
    if call = k then some ⟨doc, otherUserID, documents⟩ else none
  | _ => none

/-- The list that call `k` has assigned. -/
def assignedBy (k : ℕ) : RosterEffect → Option (List Chat)
  | .assigned call chats => if call = k then some chats else none
  | _ => none

/-- The effect is one of call `k`. -/
def OfCall (k : ℕ) : RosterEffect → Prop
  | .found call _ _ => call = k
  | .answered call _ _ _ => call = k
  | .counted call => call = k
  | .assigned call _ => call = k
  | _ => False

lemma mem_assignedBy {k : ℕ} {chats : List Chat} {t : List RosterEffect} :
    chats ∈ t.filterMap (assignedBy k) ↔ .assigned k chats ∈ t := by
  constructor
  · intro h
    obtain ⟨o, ho, hchats⟩ := List.mem_filterMap.mp h
    cases o with
    | assigned call chats' =>
      simp only [assignedBy, Option.ite_none_right_eq_some, Option.some.injEq] at hchats
      obtain ⟨rfl, rfl⟩ := hchats
      exact ho
    | _ => cases hchats
  · intro h
    exact List.mem_filterMap.mpr ⟨_, h, by simp [assignedBy]⟩

end RosterEffect

open RosterEffect

/-- The answers for call `k` so far, in order. -/
def unreadAnswers (k : ℕ) (t : List RosterEffect) : List UnreadAnswer :=
  t.filterMap (answerFor k)

@[simp] lemma unreadAnswers_append (k : ℕ) (t t' : List RosterEffect) :
    unreadAnswers k (t ++ t') = unreadAnswers k t ++ unreadAnswers k t' :=
  List.filterMap_append ..

/-! ## The invariant -/

/-- The variables of call `k` are as they should be after the effects `t`. -/
structure Collected (k : ℕ) (call : Option RosterCall) (t : List RosterEffect) : Prop where
  found : (t.filterMap (foundBy k)).map Prod.snd = (call.map (·.sds)).toList
  counter : ∀ c, call = some c → c.dataLoadCounter = (unreadAnswers k t).length
  cs : ∀ c, call = some c → c.cs = (unreadAnswers k t).map UnreadAnswer.row
  /-- The counter was found to be the number of documents as often as it should. -/
  counted : ∀ c, call = some c → t.count (.counted k) =
    Join.firings c.sds.length (fun _ => true) (unreadAnswers k t)
  fresh : call = none → unreadAnswers k t = [] ∧ t.count (.counted k) = 0
  /-- `chats` is assigned after at least as many answers as the call has documents. -/
  assigned : ∀ chats, .assigned k chats ∈ t → ∃ c n, call = some c ∧ c.sds.length ≤ n ∧
    n ≤ (unreadAnswers k t).length ∧ chats = ((unreadAnswers k t).take n).map UnreadAnswer.row
  nonempty : ∀ c, call = some c → c.sds ≠ []

section Collected

variable {k : ℕ} {call : Option RosterCall} {c : RosterCall} {t t' : List RosterEffect}

/-- Before anything has happened. -/
lemma collected_nil : Collected k none [] :=
  ⟨rfl, by simp, by simp, by simp, fun _ => ⟨rfl, rfl⟩, by simp, by simp⟩

/-- Effects that are none of a call's do not matter to it. -/
lemma Collected.rest (h : Collected k call t) (ht' : ∀ o ∈ t', ¬ o.OfCall k) :
    Collected k call (t ++ t') := by
  have hfound : t'.filterMap (foundBy k) = [] := by
    refine List.filterMap_eq_nil_iff.mpr fun o ho => ?_
    cases o with
    | found call => exact if_neg (ht' _ ho)
    | _ => rfl
  have hanswers : unreadAnswers k t' = [] := by
    refine List.filterMap_eq_nil_iff.mpr fun o ho => ?_
    cases o with
    | answered call => exact if_neg (ht' _ ho)
    | _ => rfl
  have hcount : t'.count (.counted k) = 0 := by
    rw [List.count_eq_zero]
    exact fun hmem => ht' _ hmem rfl
  have happend : unreadAnswers k (t ++ t') = unreadAnswers k t := by
    rw [unreadAnswers_append, hanswers, List.append_nil]
  refine ⟨?_, ?_, ?_, ?_, ?_, ?_, h.nonempty⟩
  · rw [List.filterMap_append, hfound, List.append_nil]
    exact h.found
  · rw [happend]
    exact h.counter
  · rw [happend]
    exact h.cs
  · rw [happend, List.count_append, hcount]
    exact h.counted
  · rw [happend, List.count_append, hcount]
    exact h.fresh
  · intro chats hmem
    rw [happend]
    rcases List.mem_append.mp hmem with hmem | hmem
    · exact h.assigned chats hmem
    · exact absurd rfl (ht' _ hmem)

/-- A new call has found its documents. -/
lemma Collected.found_new (h : Collected k none t) (currentUser : Option String)
    {sds : List (ℕ × List String)} (hne : sds ≠ []) :
    Collected k (some ⟨sds, [], 0⟩) (t ++ [.found k currentUser sds]) := by
  obtain ⟨hanswers, hcount⟩ := h.fresh rfl
  have happend : unreadAnswers k (t ++ [.found k currentUser sds]) = [] := by
    rw [unreadAnswers_append, hanswers]
    rfl
  refine ⟨?_, ?_, ?_, ?_, by simp, ?_, ?_⟩
  · rw [List.filterMap_append, List.map_append, h.found]
    simp [foundBy]
  · rintro c hc
    rw [← Option.some.inj hc, happend]
    rfl
  · rintro c hc
    rw [← Option.some.inj hc, happend]
    rfl
  · rintro c hc
    rw [happend, List.count_append, hcount, Join.firings_nil]
    simp
  · intro chats hmem
    have hmem : .assigned k chats ∈ t := by simpa using hmem
    obtain ⟨c, n, hc, -⟩ := h.assigned chats hmem
    cases hc
  · rintro c hc
    rw [← Option.some.inj hc]
    exact hne

/-- The effects of an answer. -/
def answerEffects (k : ℕ) (a : UnreadAnswer) (fires : Bool) : List RosterEffect :=
  .answered k a.doc a.otherUserID a.documents :: if fires then [.counted k] else []

/-- An answer is counted, and its row collected. -/
lemma Collected.answer (h : Collected k (some c) t) (a : UnreadAnswer) {fires : Bool}
    (hfires : fires = true ↔ c.dataLoadCounter + 1 = c.sds.length) :
    Collected k (some (c.answered a.doc a.documents)) (t ++ answerEffects k a fires) := by
  have hanswers : unreadAnswers k (t ++ answerEffects k a fires) = unreadAnswers k t ++ [a] := by
    cases fires <;> simp [answerEffects, unreadAnswers, answerFor]
  refine ⟨?_, ?_, ?_, ?_, by simp, ?_, ?_⟩
  · rw [List.filterMap_append, List.map_append, h.found]
    cases fires <;> simp [answerEffects, foundBy, RosterCall.answered]
  · rintro c' hc'
    rw [← Option.some.inj hc', hanswers, List.length_append, ← h.counter c rfl]
    rfl
  · rintro c' hc'
    rw [← Option.some.inj hc', hanswers, List.map_append, ← h.cs c rfl]
    rfl
  · rintro c' hc'
    have hcount : List.count (.counted k) (t ++ answerEffects k a fires) =
        t.count (.counted k) + if fires = true then 1 else 0 := by
      cases fires <;> simp [answerEffects]
    rw [← Option.some.inj hc', hanswers, hcount, h.counted c rfl]
    rw [show (c.answered a.doc a.documents).sds = c.sds from rfl, Join.firings_snoc]
    simp only [hfires, h.counter c rfl, and_true]
  · intro chats hmem
    have hmem : .assigned k chats ∈ t := by
      cases fires <;> simpa [answerEffects] using hmem
    obtain ⟨c', n, hc', hle, hn, hchats⟩ := h.assigned chats hmem
    obtain rfl := Option.some.inj hc'
    refine ⟨_, n, rfl, hle, ?_, ?_⟩
    · rw [hanswers, List.length_append]
      omega
    · rw [hanswers, List.take_append_of_le_length hn]
      exact hchats
  · rintro c' hc'
    rw [← Option.some.inj hc']
    exact h.nonempty c rfl

/-- The list that has been collected is assigned. -/
lemma Collected.assign (h : Collected k (some c) t) (hle : c.sds.length ≤ c.dataLoadCounter) :
    Collected k (some c) (t ++ [.assigned k c.cs]) := by
  have hanswers : unreadAnswers k (t ++ [.assigned k c.cs]) = unreadAnswers k t := by
    rw [unreadAnswers_append]
    exact List.append_nil _
  refine ⟨?_, ?_, ?_, ?_, by simp, ?_, h.nonempty⟩
  · rw [List.filterMap_append, List.map_append, h.found]
    exact List.append_nil _
  · rw [hanswers]
    exact h.counter
  · rw [hanswers]
    exact h.cs
  · rw [hanswers, List.count_append]
    simpa using h.counted
  · intro chats hmem
    rw [hanswers]
    rcases List.mem_append.mp hmem with hmem | hmem
    · exact h.assigned chats hmem
    · obtain ⟨-, rfl⟩ := RosterEffect.assigned.inj (List.mem_singleton.mp hmem)
      refine ⟨c, c.dataLoadCounter, rfl, hle, (h.counter c rfl).le, ?_⟩
      rw [h.counter c rfl, List.take_length]
      exact h.cs c rfl

end Collected

namespace VCChatRoster

/-- The calls of the screen are as they should be after the effects `t`. -/
def Collects (vc : VCChatRoster) (t : List RosterEffect) : Prop :=
  ∀ k, Collected k vc.calls[k]? t

/-- The request is one this screen makes. -/
def Awaits (vc : VCChatRoster) : RosterRequest → Prop
  | .unread call _ _ => ∃ c, vc.calls[call]? = some c
  | .assignChats call => ∃ c, vc.calls[call]? = some c ∧ c.sds.length ≤ c.dataLoadCounter
  | _ => True

variable {vc : VCChatRoster} {t : List RosterEffect}

/-- A reaction keeps the invariant. -/
abbrev KeepsCollects (r : RosterReaction) (t : List RosterEffect) : Prop :=
  Keeps Collects Awaits r t

/-- A reaction that leaves the calls alone, with effects that are none of theirs. -/
lemma Collects.still (h : vc.Collects t) {r : RosterReaction} (hc : r.client.calls = vc.calls)
    (he : ∀ k, ∀ o ∈ r.effects, ¬ o.OfCall k) (hq : ∀ q ∈ r.requests, r.client.Awaits q) :
    KeepsCollects r t := by
  refine ⟨fun k => ?_, hq⟩
  rw [hc]
  exact (h k).rest (he k)

lemma loadChatRoster_keeps (h : vc.Collects t) : KeepsCollects vc.loadChatRoster t := by
  unfold loadChatRoster
  dsimp only
  split <;> exact h.still rfl (by simp) (by simp [Awaits])

/-- A new call, which has found its documents. -/
lemma chatsFound_keeps (h : vc.Collects t) (sds : List (ℕ × List String)) :
    KeepsCollects (vc.chatsFound sds) t := by
  unfold chatsFound
  split_ifs with hlen
  · exact h.still rfl (by simp) (by simp)
  · refine ⟨fun k => ?_, fun q hq => ?_⟩
    · show Collected k (vc.calls ++ [⟨sds, [], 0⟩])[k]? _
      by_cases hk : k = vc.calls.length
      · subst hk
        rw [List.getElem?_concat_length]
        have hnone : Collected vc.calls.length none t := by
          have hold := h vc.calls.length
          rwa [List.getElem?_eq_none le_rfl] at hold
        exact hnone.found_new vc.currentUser fun hnil => hlen (by rw [hnil]; rfl)
      · rw [Join.getElem?_concat_of_ne hk]
        exact (h k).rest (by simpa [OfCall] using Ne.symm hk)
    · obtain ⟨d, -, hd⟩ := List.mem_filterMap.mp hq
      obtain ⟨otherUserID, -, rfl⟩ := Option.map_eq_some_iff.mp hd
      exact ⟨_, List.getElem?_concat_length⟩

/-- What an answer does. -/
lemma unreadFound_eq (vc : VCChatRoster) (call : ℕ) (a : UnreadAnswer) {c : RosterCall}
    (hc : vc.calls[call]? = some c) : ∃ fires : Bool,
      (fires = true ↔ c.dataLoadCounter + 1 = c.sds.length) ∧
      vc.unreadFound call a.doc a.otherUserID a.documents =
        ⟨{ vc with calls := vc.calls.modify call fun c => c.answered a.doc a.documents },
          if fires then [.assignChats call] else [], answerEffects call a fires⟩ := by
  refine ⟨((vc.calls.modify call fun c => c.answered a.doc a.documents)[call]?).any fun c =>
    c.dataLoadCounter = c.sds.length, ?_, ?_⟩
  · rw [Join.getElem?_modify_eq, hc]
    simp [RosterCall.answered]
  · unfold unreadFound
    dsimp only
    split_ifs with hany
    · rw [hany]
      rfl
    · rw [Bool.eq_false_iff.mpr hany]
      rfl

/-- An answer is counted by its call. -/
lemma unreadFound_keeps (h : vc.Collects t) {call : ℕ} (hcall : ∃ c, vc.calls[call]? = some c)
    (a : UnreadAnswer) : KeepsCollects (vc.unreadFound call a.doc a.otherUserID a.documents) t := by
  obtain ⟨c, hc⟩ := hcall
  obtain ⟨fires, hfires, heq⟩ := vc.unreadFound_eq call a hc
  rw [heq]
  refine ⟨fun k => ?_, fun q hq => ?_⟩
  · dsimp only
    rw [Join.getElem?_modify_eq]
    by_cases hk : call = k
    · subst hk
      have hold := h call
      rw [hc] at hold ⊢
      simpa using hold.answer a hfires
    · have hsame : (vc.calls[k]?).map (fun c => if call = k then c.answered a.doc a.documents
          else c) = vc.calls[k]? := by
        simp [hk]
      rw [hsame]
      refine (h k).rest fun o ho => ?_
      cases fires <;> simp [answerEffects] at ho
      · rw [ho]
        exact hk
      · rcases ho with rfl | rfl <;> exact hk
  · cases hf : fires with
    | false => simp [hf] at hq
    | true =>
      rw [hf, if_pos rfl, List.mem_singleton] at hq
      have hlen := hfires.mp hf
      rw [hq]
      refine ⟨c.answered a.doc a.documents, ?_, ?_⟩
      · dsimp only
        rw [Join.getElem?_modify_eq, hc]
        simp
      · show c.sds.length ≤ c.dataLoadCounter + 1
        omega

/-- The list is assigned. -/
lemma assignChats_keeps (h : vc.Collects t) {call : ℕ} {c : RosterCall}
    (hc : vc.calls[call]? = some c) (hle : c.sds.length ≤ c.dataLoadCounter) :
    KeepsCollects (vc.assignChats call) t := by
  have heq : vc.assignChats call = ⟨vc.setChats c.cs, [], [.assigned call c.cs]⟩ := by
    rw [assignChats, hc]
  rw [heq]
  refine ⟨fun k => ?_, by simp⟩
  show Collected k vc.calls[k]? _
  by_cases hk : call = k
  · subst hk
    have hold := h call
    rw [hc] at hold ⊢
    exact hold.assign hle
  · exact (h k).rest (by simpa [OfCall] using hk)

/-- What the user and the table view do keeps the calls. -/
lemma ui_keeps_calls (h : vc.Collects t) {u : RosterTap} {r : RosterReaction}
    (hr : vc.ui u = some r) : KeepsCollects r t ∧ r.client.calls = vc.calls := by
  have hdequeue : ∀ (vc : VCChatRoster) (cell : ℕ), (vc.dequeue cell).calls = vc.calls := by
    intro vc cell
    unfold dequeue
    split_ifs <;> rfl
  rcases ui_cases hr with rfl | ⟨row, cell, c, -, -, -, rfl⟩ | ⟨row, cell, c, -, -, -, rfl⟩ |
    ⟨uid, rows, rfl⟩
  · refine ⟨loadChatRoster_keeps h, ?_⟩
    unfold loadChatRoster
    dsimp only
    split <;> rfl
  · have hcalls := hdequeue vc cell
    exact ⟨h.still hcalls (by simp [cellForRowAt]) (by simp [cellForRowAt, Awaits]), hcalls⟩
  · have hcalls : (vc.didSelectRowAt row cell c).client.calls = vc.calls := by
      simp only [didSelectRowAt, prepare, Reaction.next_client]
      split_ifs <;> exact hdequeue _ cell
    refine ⟨h.still hcalls ?_ ?_, hcalls⟩
    · simp [didSelectRowAt, cellForRowAt, prepare, OfCall]
    · simp [didSelectRowAt, cellForRowAt, prepare, Awaits]
  · exact ⟨h.still rfl (by simp) (by simp), rfl⟩

/-- Every callback keeps the invariant. -/
lemma recv_keeps_calls (h : vc.Collects t) {q : RosterRequest} (hq : vc.Awaits q)
    (a : RosterAnswer) : KeepsCollects (vc.recv q a) t := by
  cases q with
  | chats uid =>
    rcases vc.recv_cases (.chats uid) a with ⟨-, documents, -, hr⟩ | ⟨_, _, _, _, hne, -⟩ |
      ⟨_, hne, -⟩ | ⟨_, _, _, hne, -⟩ | ⟨-, hr⟩
    · rw [hr]; exact chatsFound_keeps h documents
    · cases hne
    · cases hne
    · cases hne
    · rw [hr]; exact h.still rfl (by simp) (by simp)
  | unread call doc otherUserID =>
    cases a with
    | thread documents => exact unreadFound_keeps h hq ⟨doc, otherUserID, some documents⟩
    | neither => exact unreadFound_keeps h hq ⟨doc, otherUserID, some []⟩
    | _ => exact unreadFound_keeps h hq ⟨doc, otherUserID, none⟩
  | assignChats call =>
    obtain ⟨c, hc, hle⟩ := hq
    exact assignChats_keeps h hc hle
  | loadOtherUser cell otherUserID =>
    cases a with
    | users documents =>
      simp only [VCChatRoster.recv, userFound]
      cases documents.head? with
      | none => exact h.still rfl (by simp) (by simp)
      | some user => exact h.still rfl (by simp [OfCall]) (by simp)
    | _ => exact h.still rfl (by simp [VCChatRoster.recv]) (by simp [VCChatRoster.recv])

/-- The calls only get more, and their counters only advance. -/
lemma recv_calls (vc : VCChatRoster) (q : RosterRequest) (a : RosterAnswer) {k : ℕ}
    {c : RosterCall} (hk : vc.calls[k]? = some c) :
    ∃ c', (vc.recv q a).client.calls[k]? = some c' ∧ c'.sds = c.sds ∧
      c.dataLoadCounter ≤ c'.dataLoadCounter := by
  have hsame : (vc.recv q a).client.calls = vc.calls → ∃ c',
      (vc.recv q a).client.calls[k]? = some c' ∧ c'.sds = c.sds ∧
        c.dataLoadCounter ≤ c'.dataLoadCounter := by
    intro heq
    exact ⟨c, by rw [heq]; exact hk, rfl, le_rfl⟩
  rcases vc.recv_cases q a with ⟨uid, documents, -, hr⟩ |
    ⟨call, doc, otherUserID, documents, -, hr⟩ | ⟨call, -, hr⟩ |
    ⟨cell, otherUserID, documents, -, hr⟩ | ⟨-, hr⟩
  · rw [hr] at hsame ⊢
    unfold chatsFound at hsame ⊢
    split_ifs at hsame ⊢
    · exact hsame rfl
    · exact ⟨c, Join.getElem?_concat_of_some hk, rfl, le_rfl⟩
  · have hcalls : (vc.recv q a).client.calls =
        vc.calls.modify call fun c => c.answered doc documents := by
      rw [hr, unreadFound]
      dsimp only
      split_ifs <;> rfl
    rw [hcalls, Join.getElem?_modify_eq, hk]
    refine ⟨_, rfl, ?_⟩
    split_ifs <;> simp [RosterCall.answered]
  · refine hsame ?_
    rw [hr, assignChats]
    cases vc.calls[call]? <;> rfl
  · refine hsame ?_
    rw [hr, userFound]
    cases documents.head? <;> rfl
  · exact hsame (by rw [hr]; rfl)

/-- What is awaited is still awaited after a callback. -/
lemma Awaits.recv {q' : RosterRequest} (hq' : vc.Awaits q') (q : RosterRequest)
    (a : RosterAnswer) : (vc.recv q a).client.Awaits q' := by
  cases q' with
  | unread call doc otherUserID =>
    obtain ⟨c, hc⟩ := hq'
    obtain ⟨c', hc', -⟩ := vc.recv_calls q a hc
    exact ⟨c', hc'⟩
  | assignChats call =>
    obtain ⟨c, hc, hle⟩ := hq'
    obtain ⟨c', hc', hsds, hcount⟩ := vc.recv_calls q a hc
    exact ⟨c', hc', hsds ▸ hle.trans hcount⟩
  | _ => trivial

/-- What is awaited depends on the calls. -/
lemma Awaits.of_calls {vc' : VCChatRoster} {q : RosterRequest} (hq : vc.Awaits q)
    (hc : vc'.calls = vc.calls) : vc'.Awaits q := by
  cases q <;> simp only [Awaits, hc] at hq ⊢ <;> exact hq

end VCChatRoster

/-- The screens satisfy the conditions of the client rule. -/
lemma rosterSystem_rules : ClientRules rosterSystem (fun _ => False) (fun _ => True)
    (fun _ => Collects) Awaits (fun _ _ _ => True) where
  boot := by
    intro _ currentUser _
    exact loadChatRoster_keeps fun k => collected_nil
  ui := by
    intro _ vc t u r _ h hr
    exact ⟨(ui_keeps_calls h hr).1, fun q hq => hq.of_calls (ui_keeps_calls h hr).2⟩
  serve := fun _ _ _ _ _ _ => ⟨trivial, trivial, fun t h => by simpa [rosterSystem] using h⟩
  others := fun _ _ _ _ _ _ => ⟨fun _ _ h => h, fun _ _ h => h⟩
  recv := fun _ _ _ q a _ _ h hq _ =>
    ⟨recv_keeps_calls h hq a, fun _ hq' _ => hq'.recv q a⟩

variable {h : List (RosterWorld × RosterEvent)} {w : RosterWorld}

/-- **The calls of every screen** are as they should be in every state of every run. -/
theorem rosterSystem_collects (hr : rosterSystem.RunFrom () h w) :
    ClientInv (fun _ => True) (fun _ => Collects) Awaits (fun _ _ _ => True) w :=
  client_invariant exclusiveRules_false rosterSystem_rules trivial hr

/-- The requests in flight are those the screen awaits. -/
lemma roster_awaits (h : List (RosterWorld × RosterEvent)) (w : RosterWorld)
    (hr : rosterSystem.RunFrom () h w) : ∀ f ∈ w.flights, ∀ vc,
      w.clients f.owner = some vc → vc.Awaits f.request := by
  intro f hf vc hvc
  obtain ⟨vc', hvc', hq, -⟩ := (rosterSystem_collects hr).flight f hf
  obtain rfl : vc = vc' := by rw [hvc] at hvc'; exact Option.some.inj hvc'
  exact hq

/-! ## The balance of a call -/

/-- The request belongs to call `k`. -/
def RosterRequest.OfCall (k : ℕ) : RosterRequest → Prop
  | .unread call _ _ => call = k
  | .assignChats call => call = k
  | _ => False

/-- The documents that a call asks for, with the participants it asks for. -/
def askedDocs (currentUser : Option String) (documents : List (ℕ × List String)) :
    List ((ℕ × List String) × String) :=
  documents.filterMap fun d => (otherUserID currentUser d.2).map (d, ·)

section Balance

variable (k : ℕ)

/-- What call `k` asks for. -/
def askedBy : RosterEffect → Multiset ((ℕ × List String) × String)
  | .found call currentUser documents =>
    if call = k then ↑(askedDocs currentUser documents) else 0
  | _ => 0

/-- What is answered for call `k`. -/
def answeredFor : RosterEffect → Multiset ((ℕ × List String) × String)
  | .answered call doc otherUserID _ => if call = k then {(doc, otherUserID)} else 0
  | _ => 0

/-- What a request of call `k` asks for. -/
def awaitedBy : RosterRequest → Option RosterAnswer → Multiset ((ℕ × List String) × String)
  | .unread call doc otherUserID, _ => if call = k then {(doc, otherUserID)} else 0
  | _, _ => 0

/-- The counter of call `k` was found to be the number of its documents. -/
def countedBy (o : RosterEffect) : ℕ := if o = .counted k then 1 else 0

/-- Call `k` has assigned `chats`. -/
def assignedOnce (o : RosterEffect) : ℕ := (o.assignedBy k).elim 0 fun _ => 1

/-- The block of call `k`. -/
def awaitedAssign : RosterRequest → Option RosterAnswer → ℕ
  | .assignChats call, _ => if call = k then 1 else 0
  | _, _ => 0

lemma total_answeredFor (t : List RosterEffect) : total (answeredFor k) t =
    ((unreadAnswers k t).map fun a => (a.doc, a.otherUserID) :
      Multiset ((ℕ × List String) × String)) := by
  rw [unreadAnswers, ← total_singleton, total_filterMap]
  congr 1
  funext o
  cases o with
  | answered call doc otherUserID documents =>
    by_cases hk : call = k <;> simp [answeredFor, answerFor, hk]
  | _ => rfl

lemma total_assignedOnce (t : List RosterEffect) :
    total (assignedOnce k) t = (t.filterMap (assignedBy k)).length := by
  have hone : ∀ l : List (List Chat), total (fun _ => 1) l = l.length := by
    intro l
    induction l with
    | nil => rfl
    | cons chats l ih => rw [total_cons, ih, List.length_cons, add_comm]
  rw [← hone, total_filterMap]
  rfl

/-- The documents asked for when the chats are found. -/
lemma total_unread (currentUser : Option String) (call : ℕ)
    (documents : List (ℕ × List String)) :
    total (fun q => awaitedBy k q none) (documents.filterMap fun d =>
        (otherUserID currentUser d.2).map (.unread call d)) =
      if call = k then (askedDocs currentUser documents :
        Multiset ((ℕ × List String) × String)) else 0 := by
  rw [total_filterMap]
  by_cases hk : call = k
  · rw [if_pos hk, askedDocs, ← total_toMultiset]
    congr 1
    funext d
    cases otherUserID currentUser d.2 <;> simp [awaitedBy, hk]
  · rw [if_neg hk]
    refine total_eq_zero _ fun d _ => ?_
    cases otherUserID currentUser d.2 <;> simp [awaitedBy, hk]

/-- What the user and the table view do is no matter of a call. -/
lemma ui_accounts {vc : VCChatRoster} {u : RosterTap} {r : RosterReaction}
    (hr : vc.ui u = some r) : Accounts (askedBy k) (answeredFor k) (awaitedBy k) r 0 ∧
      Accounts (countedBy k) (assignedOnce k) (awaitedAssign k) r 0 := by
  rcases ui_cases hr with rfl | ⟨row, cell, c, -, -, -, rfl⟩ | ⟨row, cell, c, -, -, -, rfl⟩ |
    ⟨uid, rows, rfl⟩
  · unfold loadChatRoster
    dsimp only
    split <;> simp [Accounts, awaitedBy, awaitedAssign]
  · simp [Accounts, cellForRowAt, awaitedBy, awaitedAssign, total_eq_zero]
  · simp [Accounts, didSelectRowAt, cellForRowAt, prepare, awaitedBy, awaitedAssign, askedBy,
      answeredFor, countedBy, assignedOnce, assignedBy, total_eq_zero]
  · simp [Accounts]

/-- A callback asks for the chats it has found, or takes one of them over. -/
lemma recv_accounts_docs (vc : VCChatRoster) (q : RosterRequest) (a : RosterAnswer) :
    Accounts (askedBy k) (answeredFor k) (awaitedBy k) (vc.recv q a)
      (awaitedBy k q (some a)) := by
  rcases vc.recv_cases q a with ⟨uid, documents, rfl, hr⟩ |
    ⟨call, doc, otherUserID, documents, rfl, hr⟩ | ⟨call, rfl, hr⟩ |
    ⟨cell, otherUserID, documents, rfl, hr⟩ | ⟨hq, hr⟩
  · rw [hr]
    unfold chatsFound
    split_ifs
    · simp [Accounts, awaitedBy]
    · rw [Accounts, total_unread]
      by_cases hk : vc.calls.length = k <;> simp [awaitedBy, askedBy, answeredFor, hk]
  · rw [hr]
    unfold unreadFound
    dsimp only
    split_ifs <;> simp [Accounts, awaitedBy, askedBy, answeredFor]
  · rw [hr]
    unfold assignChats
    split <;> simp [Accounts, awaitedBy, askedBy, answeredFor]
  · rw [hr]
    unfold userFound
    split <;> simp [Accounts, awaitedBy, askedBy, answeredFor]
  · have hnone : awaitedBy k q (some a) = 0 := by
      rcases hq with ⟨uid, rfl⟩ | ⟨cell, otherUserID, rfl⟩ <;> rfl
    simp [hr, hnone, Accounts]

/-- A callback that counts the last answer puts the block of its call on the main queue. -/
lemma recv_accounts_assign {vc : VCChatRoster} {q : RosterRequest} (hq : vc.Awaits q)
    (a : RosterAnswer) : Accounts (countedBy k) (assignedOnce k) (awaitedAssign k) (vc.recv q a)
      (awaitedAssign k q (some a)) := by
  rcases vc.recv_cases q a with ⟨uid, documents, rfl, hr⟩ |
    ⟨call, doc, otherUserID, documents, rfl, hr⟩ | ⟨call, rfl, hr⟩ |
    ⟨cell, otherUserID, documents, rfl, hr⟩ | ⟨hno, hr⟩
  · have hzero : total (fun q => awaitedAssign k q none) (documents.filterMap fun d =>
        (otherUserID vc.currentUser d.2).map (.unread vc.calls.length d)) = 0 := by
      refine total_eq_zero _ fun q hq => ?_
      obtain ⟨d, -, hd⟩ := List.mem_filterMap.mp hq
      obtain ⟨other, -, rfl⟩ := Option.map_eq_some_iff.mp hd
      rfl
    rw [hr]
    unfold chatsFound
    split_ifs
    · simp [Accounts, awaitedAssign]
    · rw [Accounts, hzero]
      simp [awaitedAssign, countedBy, assignedOnce, assignedBy]
  · rw [hr]
    unfold unreadFound
    dsimp only
    split_ifs <;> simp [Accounts, awaitedAssign, countedBy, assignedOnce, assignedBy]
  · obtain ⟨c, hc, -⟩ := hq
    rw [hr, assignChats, hc]
    by_cases hk : call = k <;>
      simp [Accounts, awaitedAssign, countedBy, assignedOnce, assignedBy, hk]
  · rw [hr]
    unfold userFound
    split <;> simp [Accounts, awaitedAssign, countedBy, assignedOnce, assignedBy]
  · have hnone : awaitedAssign k q (some a) = 0 := by
      rcases hno with ⟨uid, rfl⟩ | ⟨cell, otherUserID, rfl⟩ <;> rfl
    simp [hr, hnone, Accounts]

/-- A call asks for the unread messages of each of its chats that has another participant. -/
lemma asked_balance (hr : rosterSystem.RunFrom () h w) (i : ℕ) :
    total (askedBy k) (w.effectsOf i) =
      total (flightOf i (awaitedBy k)) w.flights + total (answeredFor k) (w.effectsOf i) := by
  have hrules : ClientBalanceRules rosterSystem Awaits (askedBy k) (answeredFor k)
      (awaitedBy k) := by
    refine ⟨fun currentUser => ?_, fun vc u r hr => (ui_accounts k hr).1, fun _ q a => ?_,
      fun vc q a _ _ => recv_accounts_docs k vc q a⟩
    · cases currentUser <;> exact accounts_rest
        (by simp [rosterSystem, viewDidLoad, loadChatRoster, awaitedBy]) rfl
    · cases q <;> simp [rosterSystem, awaitedBy]
  exact client_balance hrules roster_awaits hr i

/-- A call assigns `chats`, or is about to, as often as its counter was found to be the number
of its documents. -/
lemma assign_balance (hr : rosterSystem.RunFrom () h w) (i : ℕ) :
    (w.effectsOf i).count (.counted k) = total (flightOf i (awaitedAssign k)) w.flights +
      ((w.effectsOf i).filterMap (assignedBy k)).length := by
  have hrules : ClientBalanceRules rosterSystem Awaits (countedBy k) (assignedOnce k)
      (awaitedAssign k) := by
    refine ⟨fun currentUser => ?_, fun vc u r hr => (ui_accounts k hr).2, fun _ q a => ?_,
      fun vc q a _ hq => recv_accounts_assign k hq a⟩
    · cases currentUser <;> exact accounts_rest
        (by simp [rosterSystem, viewDidLoad, loadChatRoster, awaitedAssign]) rfl
    · cases q <;> simp [rosterSystem, awaitedAssign]
  have hb := client_balance hrules roster_awaits hr i
  rwa [show countedBy k = fun o => if o = .counted k then 1 else 0 from rfl, total_eq_count,
    total_assignedOnce] at hb

end Balance

/-! ## What was queried -/

/-- The answer to a query for unread messages is counted with what it has found. -/
lemma recv_unread_serve (vc : VCChatRoster) (call : ℕ) (doc : ℕ × List String)
    (otherUserID : String) (choice : RosterChoice) :
    vc.recv (.unread call doc otherUserID)
        (RosterRequest.serve (.unread call doc otherUserID) choice) =
      vc.unreadFound call doc otherUserID (choice.unread doc.1 otherUserID) := by
  cases choice <;> rfl

/-- Only the callback of a query for unread messages counts an answer. -/
lemma recv_answerFor {vc : VCChatRoster} {k : ℕ} {q : RosterRequest} {choice : RosterChoice}
    {o : RosterEffect} (ho : o ∈ (vc.recv q (q.serve choice)).effects) {a : UnreadAnswer}
    (ha : o.answerFor k = some a) : q = .unread k a.doc a.otherUserID ∧
      a.documents = choice.unread a.doc.1 a.otherUserID := by
  have hnone : ∀ os : List RosterEffect, (∀ o ∈ os, o.answerFor k = none) → o ∉ os :=
    fun os hos ho => by rw [hos o ho] at ha; cases ha
  rcases vc.recv_cases q (q.serve choice) with ⟨uid, documents, -, hr⟩ |
    ⟨call, doc, otherUserID, -, rfl, -⟩ | ⟨call, -, hr⟩ |
    ⟨cell, otherUserID, documents, -, hr⟩ | ⟨-, hr⟩
  · rw [hr] at ho
    refine absurd ho (hnone _ ?_)
    unfold chatsFound
    split_ifs <;> simp [answerFor]
  · rw [recv_unread_serve] at ho
    have hmem : o = .answered call doc otherUserID (choice.unread doc.1 otherUserID) ∨
        o = .counted call := by
      unfold unreadFound at ho
      dsimp only at ho
      split_ifs at ho <;> simp at ho
      · exact ho
      · exact Or.inl ho
    rcases hmem with rfl | rfl
    · simp only [answerFor, Option.ite_none_right_eq_some, Option.some.injEq] at ha
      obtain ⟨rfl, rfl⟩ := ha
      exact ⟨rfl, rfl⟩
    · cases ha
  · rw [hr] at ho
    refine absurd ho (hnone _ ?_)
    unfold assignChats
    split <;> simp [answerFor]
  · rw [hr] at ho
    refine absurd ho (hnone _ ?_)
    unfold userFound
    split <;> simp [answerFor]
  · rw [hr] at ho
    cases ho

/-- **The answers that are counted** are what the queries of the run have found. -/
lemma unreadAnswers_queried (hr : rosterSystem.RunFrom () h w) {i k : ℕ} {a : UnreadAnswer}
    (ha : a ∈ unreadAnswers k (w.effectsOf i)) : a.Queried h i k := by
  have hboot : ∀ currentUser, ∀ o ∈ (viewDidLoad currentUser).effects,
      ¬ o.answerFor k = some a := by
    intro currentUser o ho
    cases currentUser <;> cases ho
  have hui : ∀ (vc : VCChatRoster) u r, vc.ui u = some r → ∀ o ∈ r.effects,
      ¬ o.answerFor k = some a := by
    intro vc u r hu o ho hanswer
    rcases ui_cases hu with rfl | ⟨row, cell, c, -, -, -, rfl⟩ | ⟨row, cell, c, -, -, -, rfl⟩ |
      ⟨uid, rows, rfl⟩
    · unfold loadChatRoster at ho
      dsimp only at ho
      split at ho <;> cases ho
    · cases ho
    · simp only [didSelectRowAt, cellForRowAt, prepare, Reaction.next_effects, List.nil_append,
        List.mem_singleton] at ho
      rw [ho] at hanswer
      cases hanswer
    · cases ho
  obtain ⟨o, ho, hanswer⟩ := List.mem_filterMap.mp ha
  obtain ⟨vc, q, b, x, ⟨w', j, choice, f, hmem, hf, hi, rfl, rfl⟩, hrecv⟩ :=
    answered_of_effect hboot hui (by simp [rosterSystem]) hr ho hanswer
  obtain ⟨hq, hdocuments⟩ := recv_answerFor hrecv hanswer
  exact ⟨w', j, choice, f, hmem, hf, hi, hq, hdocuments⟩

/-! ## Which calls assign the list -/

/-- In the run `h`, with the effects `t` of screen `i`, its call `k` has assigned `chats` once:
one row for each of its documents, with the number of the unread messages of the other participant
where they could be queried. -/
def Published (h : List (RosterWorld × RosterEvent)) (i k : ℕ) (currentUser : Option String)
    (documents : List (ℕ × List String)) (t : List RosterEffect) : Prop :=
  t.filterMap (assignedBy k) = [(unreadAnswers k t).map UnreadAnswer.row] ∧
    ((unreadAnswers k t).map (·.doc)).Perm documents ∧
    ∀ a ∈ unreadAnswers k t, otherUserID currentUser a.doc.2 = some a.otherUserID ∧
      a.Queried h i k

section Call

variable {i k : ℕ} {currentUser : Option String} {documents : List (ℕ × List String)}

/-- A call that has found chats keeps them. -/
lemma call_of_found (hr : rosterSystem.RunFrom () h w)
    (hfound : .found k currentUser documents ∈ w.effectsOf i) :
    ∃ c, c.sds = documents ∧ Collected k (some c) (w.effectsOf i) ∧
      (w.effectsOf i).filterMap (foundBy k) = [(currentUser, documents)] := by
  have hinv := rosterSystem_collects hr
  cases hi : w.clients i with
  | none => rw [hinv.fresh i hi] at hfound; cases hfound
  | some vc =>
    have hcollected := hinv.client i vc hi k
    have hmem : (currentUser, documents) ∈ (w.effectsOf i).filterMap (foundBy k) :=
      List.mem_filterMap.mpr ⟨_, hfound, by simp [foundBy]⟩
    have hmap := hcollected.found
    cases hc : vc.calls[k]? with
    | none =>
      rw [hc] at hmap
      rw [List.map_eq_nil_iff.mp hmap] at hmem
      cases hmem
    | some c =>
      rw [hc] at hmap hcollected
      obtain ⟨p, hp, hsds⟩ := List.map_eq_singleton_iff.mp hmap
      rw [hp] at hmem
      obtain rfl := List.mem_singleton.mp hmem
      exact ⟨c, hsds.symm, hcollected, hp⟩

/-- Once no request of a call is in flight, what it asked for is answered. -/
lemma unreadAnswers_perm (hr : rosterSystem.RunFrom () h w)
    (hfound : .found k currentUser documents ∈ w.effectsOf i)
    (hdone : ∀ f ∈ w.flights, f.owner = i → ¬ f.request.OfCall k) :
    ((unreadAnswers k (w.effectsOf i)).map fun a => (a.doc, a.otherUserID)).Perm
      (askedDocs currentUser documents) := by
  obtain ⟨c, -, -, honly⟩ := call_of_found hr hfound
  have hzero : total (flightOf i (awaitedBy k)) w.flights = 0 := by
    refine total_flightOf_eq_zero fun f hf hi => ?_
    have hno := hdone f hf hi
    cases hq : f.request with
    | unread call doc otherUserID => rw [hq] at hno; exact if_neg hno
    | _ => rfl
  have hasked : total (askedBy k) (w.effectsOf i) = (askedDocs currentUser documents :
      Multiset ((ℕ × List String) × String)) := by
    have hfilter : total (askedBy k) (w.effectsOf i) =
        total (fun p => (askedDocs p.1 p.2 : Multiset ((ℕ × List String) × String)))
          ((w.effectsOf i).filterMap (foundBy k)) := by
      rw [total_filterMap]
      congr 1
      funext o
      cases o with
      | found call currentUser documents =>
        by_cases hk : call = k <;> simp [askedBy, foundBy, hk]
      | _ => rfl
    rw [hfilter, honly, total_cons, total_nil, add_zero]
  have hb := asked_balance k hr i
  rw [hzero, zero_add, hasked, total_answeredFor] at hb
  exact (Multiset.coe_eq_coe.mp hb).symm

/-- Once no request of a call is in flight, it has assigned `chats` if as many answers have come
as it has documents, and otherwise not. -/
lemma assignedBy_length (hr : rosterSystem.RunFrom () h w)
    (hfound : .found k currentUser documents ∈ w.effectsOf i)
    (hdone : ∀ f ∈ w.flights, f.owner = i → ¬ f.request.OfCall k) :
    ((w.effectsOf i).filterMap (assignedBy k)).length =
      Join.firings documents.length (fun _ => true) (unreadAnswers k (w.effectsOf i)) := by
  obtain ⟨c, rfl, hcollected, -⟩ := call_of_found hr hfound
  have hzero : total (flightOf i (awaitedAssign k)) w.flights = 0 := by
    refine total_flightOf_eq_zero fun f hf hi => ?_
    have hno := hdone f hf hi
    cases hq : f.request with
    | assignChats call => rw [hq] at hno; exact if_neg hno
    | _ => rfl
  have hb := assign_balance k hr i
  rw [hzero, zero_add, hcollected.counted c rfl] at hb
  exact hb.symm

/-- The documents that have another participant. -/
lemma map_askedDocs (currentUser : Option String) (documents : List (ℕ × List String)) :
    (askedDocs currentUser documents).map Prod.fst =
      documents.filter fun d => (otherUserID currentUser d.2).isSome := by
  induction documents with
  | nil => rfl
  | cons d documents ih =>
    rw [List.filter_cons, ← ih, askedDocs, List.filterMap_cons]
    cases otherUserID currentUser d.2 <;> rfl

/-- **Which calls assign the list.** Once no request of a call is in flight, the call has assigned
`chats` once, with one row for each of its documents, if and only if each of them has a
participant other than the user who was signed in when they were found.

**Proof sketch.** The documents answered are those that have another participant
(`unreadAnswers_perm`), each with what its query has found (`unreadAnswers_queried`), and the
counter is found to be the number of all documents exactly when as many are answered
(`Join.firings_true_eq_one_iff`). -/
theorem roster_published_iff (hr : rosterSystem.RunFrom () h w)
    (hfound : .found k currentUser documents ∈ w.effectsOf i)
    (hdone : ∀ f ∈ w.flights, f.owner = i → ¬ f.request.OfCall k) :
    Published h i k currentUser documents (w.effectsOf i) ↔
      ∀ doc ∈ documents, otherUserID currentUser doc.2 ≠ none := by
  have hperm := unreadAnswers_perm hr hfound hdone
  have hassigned := assignedBy_length hr hfound hdone
  obtain ⟨c, rfl, hcollected, -⟩ := call_of_found hr hfound
  have hdocs : ((unreadAnswers k (w.effectsOf i)).map (·.doc)).Perm
      (c.sds.filter fun d => (otherUserID currentUser d.2).isSome) := by
    have hp := hperm.map Prod.fst
    rwa [List.map_map, map_askedDocs] at hp
  constructor
  · rintro ⟨-, hall, -⟩ doc hdoc
    have hmem : doc ∈ c.sds.filter fun d => (otherUserID currentUser d.2).isSome :=
      (hall.symm.trans hdocs).subset hdoc
    simpa using Option.isSome_iff_ne_none.mp (List.mem_filter.mp hmem).2
  · intro hall
    have hevery : (c.sds.filter fun d => (otherUserID currentUser d.2).isSome) = c.sds :=
      List.filter_eq_self.mpr fun d hd => Option.isSome_iff_ne_none.mpr (hall d hd)
    rw [hevery] at hdocs
    have hlen : (unreadAnswers k (w.effectsOf i)).length = c.sds.length := by
      simpa using hdocs.length_eq
    refine ⟨?_, hdocs, fun a ha => ⟨?_, unreadAnswers_queried hr ha⟩⟩
    · have hone : ((w.effectsOf i).filterMap (assignedBy k)).length = 1 := by
        rw [hassigned, Join.firings_true_eq_one_iff]
        exact ⟨List.length_pos_iff.mpr (hcollected.nonempty c rfl), hlen.ge⟩
      obtain ⟨chats, hchats⟩ := List.length_eq_one_iff.mp hone
      have hmem : .assigned k chats ∈ w.effectsOf i := by
        rw [← mem_assignedBy, hchats]
        exact List.mem_cons_self
      -- all answers had come by then
      obtain ⟨c', n, hc', hle, hn, htake⟩ := hcollected.assigned chats hmem
      obtain rfl := Option.some.inj hc'
      have hfull : n = (unreadAnswers k (w.effectsOf i)).length := by omega
      rw [hchats, htake, hfull, List.take_length]
    · have hmem : (a.doc, a.otherUserID) ∈ askedDocs currentUser c.sds :=
        hperm.subset (List.mem_map_of_mem ha)
      obtain ⟨d, -, hd⟩ := List.mem_filterMap.mp hmem
      obtain ⟨other, hother, heq⟩ := Option.map_eq_some_iff.mp hd
      obtain ⟨rfl, rfl⟩ := Prod.mk.inj heq
      exact hother

end Call

/-! ## Alice's chats -/

/-- A chat of Alice with Bob, and one with `other`; Bob has written to her. -/
def aliceChats (other : String) : ChatsCollection :=
  ((ChatsCollection.empty.addDocument ["alice", "bob"] 0).addDocument ["alice", other] 1).setThread
    0 [(⟨"m", "hi", 7, "bob", "Bob B", false⟩ : Message).dictionary]

/-- No users. -/
def noUsers : UsersCollection := ⟨[], List.nodup_nil⟩

/-- Alice opens the list, and her chats are found. -/
def aliceLooks (other : String) : List RosterEvent :=
  [.boot 0 (some "alice"), .serve 0 (.success (aliceChats other) noUsers), .deliver 0 ()]

/-- The documents of her chats. -/
def aliceDocs (other : String) : List (ℕ × List String) :=
  [(0, ["alice", "bob"]), (1, ["alice", other])]

/-- Her chats with Bob and Carol are listed; Carol's messages could not be queried. -/
theorem roster_published_alice : ∃ h w, rosterSystem.RunFrom () h w ∧
    (w.clients 0).map (·.chats) =
      some [⟨["alice", "carol"], some 1, none⟩, ⟨["alice", "bob"], some 0, some 1⟩] ∧
    (Published h 0 0 (some "alice") (aliceDocs "carol") (w.effectsOf 0) ↔
      ∀ doc ∈ aliceDocs "carol", otherUserID (some "alice") doc.2 ≠ none) := by
  have he : (exec rosterSystem.step (start ()) (aliceLooks "carol" ++
      [.serve 1 .error, .deliver 1 (), .serve 0 (.success (aliceChats "carol") noUsers),
        .deliver 0 (), .serve 0 .neither, .deliver 0 ()])).map
      (fun w => (w.flights.map (·.request), (w.effectsOf 0).head?,
        (w.clients 0).map (·.chats))) =
      some ([], some (.found 0 (some "alice") (aliceDocs "carol")),
        some [⟨["alice", "carol"], some 1, none⟩, ⟨["alice", "bob"], some 0, some 1⟩]) := by
    decide +kernel
  obtain ⟨h, w, hr, -, hw⟩ := run_of_observed he
  obtain ⟨hflights, hhead, hchats⟩ : _ ∧ _ ∧ _ := by simpa only [Prod.mk.injEq] using hw
  refine ⟨h, w, hr, hchats, roster_published_iff hr (List.mem_of_head? hhead) ?_⟩
  intro f hf
  rw [List.map_eq_nil_iff.mp hflights] at hf
  cases hf

/-- Alice has a chat with Bob, and one with herself, from her own question. Nothing is listed. -/
theorem roster_not_published : ∃ h w, rosterSystem.RunFrom () h w ∧ w.flights = [] ∧
    .found 0 (some "alice") (aliceDocs "alice") ∈ w.effectsOf 0 ∧
    (w.clients 0).map (·.chats) = some [] ∧
    ¬ Published h 0 0 (some "alice") (aliceDocs "alice") (w.effectsOf 0) := by
  have he : (exec rosterSystem.step (start ()) (aliceLooks "alice" ++
      [.serve 0 (.success (aliceChats "alice") noUsers), .deliver 0 ()])).map
      (fun w => (w.flights.map (·.request), (w.effectsOf 0).head?,
        (w.effectsOf 0).filterMap (assignedBy 0), (w.clients 0).map (·.chats))) =
      some ([], some (.found 0 (some "alice") (aliceDocs "alice")), [], some []) := by
    decide +kernel
  obtain ⟨h, w, hr, -, hw⟩ := run_of_observed he
  obtain ⟨hflights, hhead, hassigned, hchats⟩ : _ ∧ _ ∧ _ ∧ _ := by
    simpa only [Prod.mk.injEq] using hw
  refine ⟨h, w, hr, List.map_eq_nil_iff.mp hflights, List.mem_of_head? hhead, hchats, ?_⟩
  rintro ⟨hone, -⟩
  rw [hassigned] at hone
  cases hone

end Aoun
