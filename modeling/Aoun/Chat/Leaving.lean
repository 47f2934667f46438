import Aoun.Chat.Pair

/-!
# After a chat is left

`viewWillDisappear(_:)` removes the listener of a screen, if it has one. A screen that is left
while it still looks for its chat has none: the answer then registers one, which nothing removes,
and the messages that come in are marked as read with nobody there.

## Main definitions

* `Aoun.HasLeft` — a screen has been left.
* `Aoun.NoReceiptAfter`, `Aoun.NotAttachedAfter` — the property, and its condition.

## Main results

* `Aoun.recv_receipt` — only a screen with a listener marks messages as read.
* `Aoun.no_receipt_after_leaving` — when the screens that are left mark nothing as read.
-/

set_option relaxedAutoImplicit false
set_option autoImplicit false

namespace Aoun

open AsyncSystem AsyncSystem.World StepSystem ChatViewController

/-- Screen `i` has been left. -/
def HasLeft (h : List (ChatWorld × ChatEvent)) (i : ℕ) : Prop :=
  .ui i .viewWillDisappear ∈ h.map Prod.snd

/-- A screen that has been left marks nothing as read. -/
def NoReceiptAfter (h : List (ChatWorld × ChatEvent)) (w : ChatWorld) (e : ChatEvent) : Prop :=
  ∀ i, HasLeft h i → ∀ chat k data, (i, .updateData chat k data) ∉ chatSystem.issues w e

/-- The chats that are delivered to a screen that has been left, if it has not stopped, do not
have the other user. -/
def NotAttachedAfter (h : List (ChatWorld × ChatEvent)) (w : ChatWorld) (e : ChatEvent) : Prop :=
  ∀ k f uid documents vc, e = .deliver k () → w.flights[k]? = some f →
    f.request = .loadChat uid → f.answer = some (.chats documents) →
    w.clients f.owner = some vc → vc.trapped = false → HasLeft h f.owner →
    ∀ doc ∈ documents, vc.otherUser.uid ∉ doc.2

namespace ChatViewController

/-- The screen has no listener that can still be called. -/
def Deaf (vc : ChatViewController) : Prop :=
  ∀ l, vc.newMessageListner = some l → l.removed = true

variable {vc vc' : ChatViewController}

lemma Deaf.of_screen (hd : vc.Deaf) (hs : vc.SameScreen vc') : vc'.Deaf := by
  intro l hl
  exact hd l (hs.2.2.2 ▸ hl)

/-- A screen that is left has no listener any more. -/
lemma viewWillDisappear_deaf (vc : ChatViewController) : vc.viewWillDisappear.Deaf := by
  intro l hl
  obtain ⟨l', -, rfl⟩ := Option.map_eq_some_iff.mp hl
  rfl

/-- What the user does registers no listener, and marks nothing as read. -/
lemma ui_deaf {u : ChatTap} {r : ChatReaction} (hr : vc.ui u = some r) :
    (vc.Deaf → r.client.Deaf) ∧ (u = .viewWillDisappear → r.client.Deaf) ∧
      ∀ chat k data, .updateData chat k data ∉ r.requests := by
  rcases ui_cases hr with ⟨text, uuidString, now, rfl, rfl⟩ | ⟨rfl, rfl⟩
  · obtain ⟨message, -, -, -, heq⟩ := vc.didPressSendButtonWith_eq text uuidString now
    rw [heq]
    exact ⟨fun hd => hd, fun hu => (by cases hu), by simp⟩
  · exact ⟨fun _ => vc.viewWillDisappear_deaf, fun _ => vc.viewWillDisappear_deaf, by simp⟩

/-- **Who marks messages as read.** A callback of a screen without a listener marks nothing as
read, and registers none unless it is delivered a chat with the other user. -/
lemma recv_receipt (hd : vc.Deaf) (q : ChatRequest) (a : ChatAnswer) :
    (∀ chat k data, .updateData chat k data ∉ (vc.recv q a).requests) ∧
      ((∀ uid documents, q = .loadChat uid → a = .chats documents → vc.trapped = false →
        ∀ doc ∈ documents, vc.otherUser.uid ∉ doc.2) → (vc.recv q a).client.Deaf) := by
  cases htrapped : vc.trapped with
  | true =>
    have hrecv : vc.recv q a = .skip vc := by simp [ChatViewController.recv, htrapped]
    rw [hrecv]
    exact ⟨by simp, fun _ => hd⟩
  | false =>
    rcases vc.recv_cases q a with ⟨uid, documents, rfl, rfl, hv⟩ | ⟨users, -, hv⟩ |
      ⟨chat, documents, -, -, hlistner, -⟩ | hv
    · rw [hv]
      rcases vc.chatsFound_cases documents with ⟨doc, hdoc, hother, hc⟩ | hc
      · rw [hc]
        refine ⟨by simp, fun hno => ?_⟩
        exact absurd hother (hno uid documents rfl rfl rfl doc hdoc)
      · rw [hc]
        exact ⟨by simp [createNewChat], fun _ => hd⟩
    · rw [hv]
      exact ⟨by simp [loadChat], fun _ => hd⟩
    · -- a listener that is called has not been removed
      have hremoved := hd _ hlistner
      cases hremoved
    · rw [hv]
      exact ⟨by simp, fun _ => hd⟩

end ChatViewController

/-- Every screen that has been left has no listener that can still be called. -/
def DeafAfter (h : List (ChatWorld × ChatEvent)) (w : ChatWorld) : Prop :=
  ∀ i vc, HasLeft h i → w.clients i = some vc → vc.Deaf

section

variable {h : List (ChatWorld × ChatEvent)} {w w' : ChatWorld} {e : ChatEvent}

lemma hasLeft_snoc {i : ℕ} :
    HasLeft (h ++ [(w, e)]) i ↔ HasLeft h i ∨ e = .ui i .viewWillDisappear := by
  simp [HasLeft, eq_comm]

/-- A screen that has been left was opened. -/
lemma clients_of_hasLeft (hr : chatSystem.RunFrom .empty h w) {i : ℕ} (hi : HasLeft h i) :
    w.clients i ≠ none := by
  induction hr with
  | nil => cases hi
  | @snoc h w e w' hr hs ih =>
    have hreact : ∀ (v : ChatWorld) (j root : ℕ) (r : ChatReaction),
        v.clients i ≠ none ∨ j = i → (v.react j root r).clients i ≠ none := by
      intro v j root r hor
      by_cases hj : i = j
      · subst hj
        simp
      · rw [react_clients_of_ne _ _ _ hj]
        exact hor.resolve_right (Ne.symm hj)
    have hbefore : w.clients i ≠ none ∨ e = .ui i .viewWillDisappear :=
      (hasLeft_snoc.mp hi).imp_left ih
    cases took_of_step hs with
    | boot free => exact hreact w.tick _ _ _ (Or.inl (hbefore.resolve_right (by simp)))
    | @ui j u vc r client reacts =>
      refine hreact w.tick _ _ _ (hbefore.imp_right fun he => ?_)
      exact (Event.ui.inj he).1
    | serve flight unanswered => exact hbefore.resolve_right (by simp)
    | deliver flight answered client =>
      exact hreact (w.land _) _ _ _ (Or.inl (hbefore.resolve_right (by simp)))

/-- A reaction of one screen leaves the others as they are. -/
lemma deafAfter_react {p : ChatWorld × ChatEvent} (hw : DeafAfter h w) (i root : ℕ)
    (r : ChatReaction) (hothers : ∀ j, j ≠ i → HasLeft (h ++ [p]) j → HasLeft h j)
    (hr : HasLeft (h ++ [p]) i → r.client.Deaf) : DeafAfter (h ++ [p]) (w.react i root r) := by
  intro j vc hleft hj
  by_cases hji : j = i
  · subst hji
    obtain rfl : r.client = vc := by simpa using hj
    exact hr hleft
  · rw [react_clients_of_ne _ _ _ hji] at hj
    exact hw j vc (hothers j hji hleft) hj

/-- A step that attaches no screen that has been left marks nothing as read for one, and leaves
them without listeners. -/
lemma deafAfter_step (hr : chatSystem.RunFrom .empty h w) (hw : DeafAfter h w)
    (hlate : NotAttachedAfter h w e) (hs : chatSystem.step w e = some w') :
    NoReceiptAfter h w e ∧ DeafAfter (h ++ [(w, e)]) w' := by
  cases took_of_step hs with
  | @boot i users free =>
    have hnot : ∀ j, HasLeft (h ++ [(w, .boot i users)]) j → HasLeft h j := by
      intro j hj
      exact (hasLeft_snoc.mp hj).resolve_right (by simp)
    refine ⟨fun j hj chat k data hmem => ?_, ?_⟩
    · simp [issues, chatSystem, viewDidLoad, loadChat] at hmem
    · refine deafAfter_react (w := w.tick) hw i w.next _ (fun j _ hj => hnot j hj)
        fun hleft => ?_
      exact absurd free (clients_of_hasLeft hr (hnot i hleft))
  | @ui i u vc r client reacts =>
    obtain ⟨hkeeps, hleaves, hno⟩ := ui_deaf reacts
    refine ⟨fun j hj chat k data hmem => ?_, ?_⟩
    · have hreacts : chatSystem.ui vc u = some r := reacts
      simp only [issues, client, Option.bind_some, hreacts, Option.elim_some, List.mem_map,
        Prod.mk.injEq] at hmem
      obtain ⟨q, hq, -, rfl⟩ := hmem
      exact hno chat k data hq
    · refine deafAfter_react (w := w.tick) hw i w.next r (fun j hji hj => ?_) fun hleft => ?_
      · refine (hasLeft_snoc.mp hj).resolve_right fun he => ?_
        exact hji (Event.ui.inj he).1.symm
      · rcases hasLeft_snoc.mp hleft with hleft | he
        · exact hkeeps (hw i vc hleft client)
        · exact hleaves (Event.ui.inj he).2
  | @serve k e f flight unanswered =>
    refine ⟨fun j hj chat k data hmem => (by cases hmem), fun i vc hleft hi => ?_⟩
    exact hw i vc ((hasLeft_snoc.mp hleft).resolve_right (by simp)) hi
  | @deliver k x f a vc flight answered client =>
    have hnot : ∀ j, HasLeft (h ++ [(w, .deliver k x)]) j → HasLeft h j := by
      intro j hj
      exact (hasLeft_snoc.mp hj).resolve_right (by simp)
    refine ⟨fun j hj chat n data hmem => ?_, ?_⟩
    · simp only [issues, flight, Option.bind_some, answered, client, Option.map_some,
        Option.getD_some, List.mem_map, Prod.mk.injEq] at hmem
      obtain ⟨q, hq, rfl, rfl⟩ := hmem
      exact (recv_receipt (hw _ vc hj client) f.request a).1 chat n data hq
    · refine deafAfter_react (w := w.land k) hw f.owner f.root _ (fun j _ hj => hnot j hj)
        fun hleft => ?_
      refine (recv_receipt (hw _ vc (hnot _ hleft) client) f.request a).2 ?_
      rintro uid documents hq rfl htrapped
      exact hlate k f uid documents vc rfl flight hq answered client htrapped (hnot _ hleft)

/-- **After a chat is left.** In a run in which no screen that has been left is delivered a chat
with its other user, no screen marks a message as read after it has been left.

**Proof sketch.** A screen that is left has its listener removed (`viewWillDisappear_deaf`);
without one it marks nothing as read, and only chats delivered to it make it register one
(`recv_receipt`). -/
theorem no_receipt_after_leaving (hr : chatSystem.RunFrom .empty h w)
    (hlate : EveryStepAfter NotAttachedAfter h) : EveryStepAfter NoReceiptAfter h := by
  refine hr.everyStepAfter_of_everyStepAfter (J := DeafAfter) ?_ ?_ hlate
  · intro i vc hleft
    cases hleft
  · intro h w e w' hr hw hlate hs
    exact deafAfter_step hr hw hlate hs

end

/-! ## Alice leaves -/

/-- Bob opens a chat on Alice and sends her a message; Alice opens the chat on him. -/
def bobWrites : List ChatEvent :=
  [.boot 0 (bob, alice), .serve 0 (.success 0), .deliver 0 (), .serve 0 (.success 0),
    .deliver 0 (), .serve 0 (.success 0), .deliver 0 (),
    .ui 0 (.didPressSendButtonWith "hi" "m" 7), .serve 1 (.success 0), .boot 1 (alice, bob)]

/-- His message, as Alice's screen marks it. -/
def bobsMessage : Message := ⟨"m", "hi", 7, "bob", "Bob B", true⟩

/-- A run is left to answers, without chats delivered to those who have left, if it ends when a
screen is left. -/
lemma notAttachedAfter_of_events {h : List (ChatWorld × ChatEvent)} {es : List ChatEvent} {i : ℕ}
    (hes : h.map Prod.snd = es ++ [.ui i .viewWillDisappear])
    (hno : ∀ j, .ui j .viewWillDisappear ∉ es) : EveryStepAfter NotAttachedAfter h := by
  rintro h₁ ⟨w, e⟩ h₂ rfl k f uid documents vc rfl hflight hq ha hclient htrapped hleft
  rw [List.map_append, List.map_cons] at hes
  rcases append_eq_append_cons hes.symm with ⟨l, rfl, -⟩ | ⟨l, hl, hlast⟩
  · exact absurd (List.mem_append_left _ hleft) (hno f.owner)
  · cases l with
    | nil => cases hlast
    | cons e l => simp at hlast

/-- Alice has found the chat and leaves it. The message arrives, and is not marked as read. -/
theorem no_receipt_after_leaving_alice : ∃ h w, chatSystem.RunFrom .empty h w ∧ HasLeft h 1 ∧
    (w.clients 1).map (·.docReference) = some (some 0) ∧
    EveryStepAfter NotAttachedAfter h ∧ EveryStepAfter NoReceiptAfter h := by
  have he : (exec chatSystem.step (start .empty) ((bobWrites ++ [.serve 2 (.success 0),
      .deliver 2 (), .serve 2 (.success 0)]) ++ [.ui 1 .viewWillDisappear])).map
      (fun w => ((w.flights[2]?).map (·.request), (chatSystem.step w (.deliver 2 ())).map
        fun w' => (w'.clients 1).map (·.docReference))) =
      some (some (.listen 0), some (some (some 0))) := by decide +kernel
  obtain ⟨h, w, hr, hes, hw⟩ := run_of_observed he
  obtain ⟨hrequest, hstep⟩ := Prod.mk.inj hw
  obtain ⟨w', hs, hclient⟩ := Option.map_eq_some_iff.mp hstep
  have hnone : ∀ j, (.ui j .viewWillDisappear : ChatEvent) ∉
      bobWrites ++ [.serve 2 (.success 0), .deliver 2 (), .serve 2 (.success 0)] := by
    simp [bobWrites]
  have hleft : HasLeft h 1 := by
    rw [HasLeft, hes]
    simp
  have hlate : EveryStepAfter NotAttachedAfter (h ++ [(w, .deliver 2 ())]) := by
    refine (everyStepAfter_snoc ..).mpr ⟨notAttachedAfter_of_events hes hnone, ?_⟩
    intro k f uid documents vc he hflight hq
    obtain ⟨rfl, -⟩ := Event.deliver.inj he
    rw [hflight, Option.map_some, hq] at hrequest
    cases hrequest
  exact ⟨_, w', hr.snoc hs, hasLeft_snoc.mpr (Or.inl hleft), hclient, hlate,
    no_receipt_after_leaving (hr.snoc hs) hlate⟩

/-- Alice leaves before her chats are delivered. Then they are, her screen attaches itself to the
chat, and marks the message as read. -/
theorem receipt_after_leaving : ∃ h w e w', chatSystem.RunFrom .empty h w ∧
    chatSystem.step w e = some w' ∧ HasLeft h 1 ∧
    (1, .updateData 0 0 bobsMessage.dictionary) ∈ chatSystem.issues w e ∧
    ¬ EveryStepAfter NoReceiptAfter (h ++ [(w, e)]) := by
  have he : (exec chatSystem.step (start .empty) (bobWrites ++ [.ui 1 .viewWillDisappear,
      .serve 2 (.success 0), .deliver 2 (), .serve 2 (.success 0)])).map
      (fun w => ((chatSystem.step w (.deliver 2 ())).isSome,
        chatSystem.issues w (.deliver 2 ()))) =
      some (true, [(1, .updateData 0 0 bobsMessage.dictionary), (1, .listen 0)]) := by
    decide +kernel
  obtain ⟨h, w, hr, hes, hw⟩ := run_of_observed he
  obtain ⟨hstep, hissues⟩ := Prod.mk.inj hw
  obtain ⟨w', hs⟩ := Option.isSome_iff_exists.mp hstep
  have hleft : HasLeft h 1 := by
    rw [HasLeft, hes]
    simp
  have hmem : (1, .updateData 0 0 bobsMessage.dictionary) ∈
      chatSystem.issues w (.deliver 2 ()) := by
    rw [hissues]
    exact List.mem_cons_self
  refine ⟨h, w, .deliver 2 (), w', hr, hs, hleft, hmem, fun hall => ?_⟩
  exact ((everyStepAfter_snoc ..).mp hall).2 1 hleft 0 0 _ hmem

end Aoun
