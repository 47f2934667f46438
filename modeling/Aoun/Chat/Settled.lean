import Aoun.Chat.Delivery

/-!
# What the screens of a chat say

Under each of the user's own messages the chat screen has a label, "Read" or "Sent". A screen may
show an old version of the thread, or messages that were never written; even so the label "Read"
is never wrong. And once nothing is pending for the screens that listen to a chat, they all show
the same messages, and all labels say "Read".

## Main definitions

* `Aoun.ChatViewController.messageBottomLabelText` — the label of a row.
* `Aoun.Originates` — a message of a screen was sent from it, or comes from a thread.
* `Aoun.ListensSettled` — a screen listens to a chat, and nothing is pending for it.

## Main results

* `Aoun.label_read_sound` — the label "Read" stands only under what another user has received.
* `Aoun.settled_agree` — settled screens of a chat agree.
-/

set_option relaxedAutoImplicit false
set_option autoImplicit false

namespace Aoun

open AsyncSystem AsyncSystem.World StepSystem ChatViewController

namespace ChatViewController

/-- `isFromCurrentSender(message:)`. -/
def isFromCurrentSender (vc : ChatViewController) (message : Message) : Bool :=
  message.senderID = vc.currentUser.uid

/-- The text of `messageBottomLabelAttributedText(for:at:)`, which is asked for a row that
there is. -/
def messageBottomLabelText (vc : ChatViewController) (row : ℕ) : Option String :=
  vc.messages[row]?.bind fun m =>
    if vc.isFromCurrentSender m then some (if m.isRead then "Read" else "Sent") else none

/-- What the label of a row says. -/
lemma messageBottomLabelText_eq_read {vc : ChatViewController} {row : ℕ} :
    vc.messageBottomLabelText row = some "Read" ↔ ∃ m, vc.messages[row]? = some m ∧
      m.senderID = vc.currentUser.uid ∧ m.isRead = true := by
  unfold messageBottomLabelText isFromCurrentSender
  cases hm : vc.messages[row]? with
  | none => simp
  | some m =>
    by_cases hs : m.senderID = vc.currentUser.uid <;> cases hr : m.isRead <;> simp [hs, hr]

end ChatViewController

/-! ## The label "Read" -/

/-- The message was sent from a screen, and is not marked as read; or it is a message of a thread,
and if it is marked as read on the screen of its own sender, another user has received it. -/
def Originates (tr : List (Entry ChatEffect)) (uid : String) (m : Message) : Prop :=
  m.isRead = false ∨ ∃ chat k m₀, SentAs tr chat k m₀ ∧ SameMessage m₀ m ∧
    (m.senderID = uid → m.isRead = true → ReceivedBy tr chat k m.senderID)

/-- All messages on the screens originate as they should. -/
def MessagesOriginate (w : ChatWorld) : Prop :=
  ∀ i vc, w.clients i = some vc → ∀ m ∈ vc.messages, Originates w.trace vc.currentUser.uid m

section

variable {tr tr' : List (Entry ChatEffect)} {uid : String} {w : ChatWorld}

lemma Originates.mono {m : Message} (h : Originates tr uid m) (htr : tr ⊆ tr') :
    Originates tr' uid m := by
  rcases h with h | ⟨chat, k, m₀, hsent, hsame, hread⟩
  · exact Or.inl h
  · exact Or.inr ⟨chat, k, m₀, hsent.mono htr, hsame, fun hs hm => (hread hs hm).mono htr⟩

/-- What a screen shows for a genuine document originates in its thread: the screen of the sender
shows it as it is. -/
lemma originates_of_genuine {chat k : ℕ} {data : MessageData} {m : Message}
    (hdata : Genuine tr chat k data) (hm : shown uid data = some m) : Originates tr uid m := by
  obtain ⟨m₁, m₀, rfl, hsent, hsame, hread⟩ := hdata
  rw [shown, Message.ofDictionary_dictionary, Option.map_some, Option.some.injEq] at hm
  right
  by_cases hun : Unread uid m₁
  · rw [if_pos hun] at hm
    subst hm
    exact ⟨chat, k, m₀, hsent, hsame, fun hs => absurd hs hun.1⟩
  · rw [if_neg hun] at hm
    subst hm
    exact ⟨chat, k, m₀, hsent, hsame, fun _ => hread⟩

lemma MessagesOriginate.tick (hw : MessagesOriginate w) : MessagesOriginate w.tick := hw

/-- A reaction keeps the property if the messages it leaves have it. -/
lemma MessagesOriginate.react (hw : MessagesOriginate w) {i root : ℕ} {r : ChatReaction}
    (hr : ∀ m ∈ r.client.messages,
      Originates (w.react i root r).trace r.client.currentUser.uid m) :
    MessagesOriginate (w.react i root r) := by
  intro j vc hj m hm
  by_cases hji : j = i
  · subst hji
    obtain rfl : r.client = vc := by simpa using hj
    exact hr m hm
  · rw [react_clients_of_ne _ _ _ hji] at hj
    exact (hw j vc hj m hm).mono (List.subset_append_left _ _)

/-- A reaction that leaves the messages of a screen as they were. -/
lemma MessagesOriginate.still (hw : MessagesOriginate w) {i root : ℕ} {r : ChatReaction}
    {vc : ChatViewController} (hi : w.clients i = some vc)
    (hu : r.client.currentUser = vc.currentUser) (hm : r.client.messages = vc.messages) :
    MessagesOriginate (w.react i root r) := by
  refine hw.react fun m hmem => ?_
  rw [hu]
  exact (hw i vc hi m (hm ▸ hmem)).mono (List.subset_append_left _ _)

/-- The delivery of an answer keeps the property: a snapshot has genuine documents. -/
lemma MessagesOriginate.deliver (hw : MessagesOriginate w) (hthreads : ThreadsInv w) {n : ℕ}
    {f : Flight ChatRequest ChatAnswer} {a : ChatAnswer} {vc : ChatViewController}
    (flight : w.flights[n]? = some f) (answered : f.answer = some a)
    (client : w.clients f.owner = some vc) :
    MessagesOriginate ((w.land n).react f.owner f.root (vc.recv f.request a)) := by
  have hland : MessagesOriginate (w.land n) := hw
  rcases vc.recv_cases f.request a with ⟨uid, documents, -, -, hv⟩ | ⟨users, -, hv⟩ |
    ⟨chat, documents, hq, rfl, -, hv⟩ | hv
  · rw [hv]
    rcases vc.chatsFound_cases documents with ⟨doc, -, -, hc⟩ | hc
    · rw [hc]
      exact hland.still client rfl rfl
    · rw [hc]
      exact hland.still client rfl rfl
  · rw [hv]
    exact hland.still client rfl rfl
  · have hgenuine := hthreads.snapshots f (mem_of_flight flight) chat documents hq answered
    have hdocs : ∀ doc ∈ documents, ∃ m : Message, doc.2 = m.dictionary := by
      intro doc hdoc
      obtain ⟨m, m₀, hdata, -⟩ := hgenuine doc hdoc
      exact ⟨m, hdata⟩
    rw [hv, threadChanged_eq hdocs]
    refine hland.react fun m hm => ?_
    obtain ⟨doc, hdoc, hshown⟩ := List.mem_filterMap.mp hm
    have hor : Originates w.trace vc.currentUser.uid m :=
      originates_of_genuine (hgenuine doc hdoc) hshown
    exact hor.mono (List.subset_append_left _ _)
  · rw [hv]
    exact hland.still client rfl rfl

variable {h : List (ChatWorld × ChatEvent)}

/-- All messages on the screens originate as they should, in every state of every run. -/
lemma messagesOriginate (hr : chatSystem.RunFrom .empty h w) : MessagesOriginate w := by
  induction hr with
  | nil => intro i vc hi; cases hi
  | @snoc h w e w' hr hs hw =>
    cases took_of_step hs with
    | boot free =>
      refine (hw.react fun m hm => ?_).tick
      cases hm
    | @ui i u vc r client reacts =>
      rcases ui_cases reacts with ⟨text, uuidString, now, -, rfl⟩ | ⟨-, rfl⟩
      · obtain ⟨message, hnew, -, -, heq⟩ := vc.didPressSendButtonWith_eq text uuidString now
        rw [heq]
        refine (hw.react fun m hm => ?_).tick
        rcases List.mem_append.mp hm with hm | hm
        · exact (hw i vc client m hm).mono (List.subset_append_left _ _)
        · rw [List.mem_singleton.mp hm]
          exact Or.inl hnew
      · exact (hw.still client rfl rfl).tick
    | serve flight unanswered =>
      intro i vc hi m hm
      exact (hw i vc hi m hm).mono (List.subset_append_left _ _)
    | deliver flight answered client =>
      exact hw.deliver (chatSystem_threads hr) flight answered client

/-- **The label "Read" is sound.** Whenever, in any state of any run, a screen has the label
"Read" under a row, the row is a message that was sent by the screen's user and is a document of a
thread, with everything but `isRead` as it was sent; and the screen of another user, attached to
that thread, has received that document.

**Proof sketch.** What a screen shows is a message it has sent, which is not marked as read, or
comes from a snapshot (`messagesOriginate`); and on the screen of its sender it is marked as read
only if it is so in the thread. -/
theorem label_read_sound (hr : chatSystem.RunFrom .empty h w) {i : ℕ} {vc : ChatViewController}
    (hi : w.clients i = some vc) {row : ℕ} (hread : vc.messageBottomLabelText row = some "Read") :
    ∃ m chat k m₀, vc.messages[row]? = some m ∧ m.senderID = vc.currentUser.uid ∧
      SentAs w.trace chat k m₀ ∧ SameMessage m₀ m ∧
        ∃ j vc' documents, w.clients j = some vc' ∧ vc'.docReference = some chat ∧
          vc'.currentUser.uid ≠ vc.currentUser.uid ∧
          .received vc'.currentUser.uid chat documents ∈ w.effectsOf j ∧
          ∃ data, (k, data) ∈ documents := by
  obtain ⟨m, hm, hsender, htrue⟩ := messageBottomLabelText_eq_read.mp hread
  rcases messagesOriginate hr i vc hi m (List.mem_of_getElem? hm) with
    hfalse | ⟨chat, k, m₀, hsent, hsame, hreceived⟩
  · rw [htrue] at hfalse
    cases hfalse
  · obtain ⟨j, r, uid, documents, hmem, hother, hdoc⟩ := hreceived hsender htrue
    have heffect : .received uid chat documents ∈ w.effectsOf j :=
      mem_effectsOf.mpr ⟨_, hmem, rfl, rfl⟩
    have hattached := chatSystem_attached hr
    cases hc : w.clients j with
    | none =>
      rw [hattached.fresh j hc] at heffect
      cases heffect
    | some vc' =>
      obtain ⟨rfl, hchat⟩ := (hattached.client j vc' hc).received uid chat documents heffect
      exact ⟨m, chat, k, m₀, hm, hsender, hsent, hsame, j, vc', documents, hc, hchat,
        hsender ▸ hother, heffect, hdoc⟩

end

/-! ## Settled screens -/

/-- The screen of client `i` listens to the chat, and nothing is pending for it. -/
def ListensSettled (w : ChatWorld) (i : ℕ) (vc : ChatViewController) (chat : ℕ) : Prop :=
  w.clients i = some vc ∧ Listening w i vc chat ∧ NothingPending w i vc

section

variable {h : List (ChatWorld × ChatEvent)} {w : ChatWorld} {i j chat : ℕ}
  {vc vc' : ChatViewController}

/-- A settled screen shows the thread as it is, and has read it.

**Proof sketch.** The listener was called last with the thread as it is (`screensInv`). A receipt
for a message that is still unread would be pending, or have failed since. -/
lemma settled_shows (hr : chatSystem.RunFrom .empty h w) (hs : ListensSettled w i vc chat) :
    vc.messages.map Message.dictionary =
        (orderedByCreated (w.server.threadOf chat)).map Prod.snd ∧
      ∀ m ∈ vc.messages, ¬ Unread vc.currentUser.uid m := by
  obtain ⟨hi, hl, hwaits, hcalled⟩ := hs
  have hscreens := screensInv hr
  obtain ⟨t₁, uid, t₂, heq, hquiet⟩ := hcalled chat hl
  have hreceived : .received uid chat (orderedByCreated (w.server.threadOf chat)) ∈
      w.effectsOf i := by rw [heq]; simp
  obtain ⟨rfl, -⟩ := ((chatSystem_attached hr).client i vc hi).received uid chat _ hreceived
  have hshows := hscreens.shows i vc hi t₁ _ chat _ t₂ heq fun o ho hredraws =>
    hquiet o ho (by cases o <;> first | exact trivial | exact hredraws)
  have hdocs : ∀ doc ∈ orderedByCreated (w.server.threadOf chat),
      ∃ m : Message, doc.2 = m.dictionary ∧ ¬ Unread vc.currentUser.uid m := by
    intro doc hdoc
    have hat : w.server.messageAt chat doc.1 = some doc.2 := by
      rw [messageAt_eq]
      exact mem_orderedByCreated hdoc
    obtain ⟨d, hd, hk⟩ := messageAt_eq_some.mp hat
    obtain ⟨hdmem, hid⟩ := ChatsCollection.document_eq_some_iff.mp hd
    obtain ⟨m, m₀, hdata, -⟩ :=
      (chatSystem_threads hr).threads d hdmem _ (List.mem_cons_self ..) doc.1 doc.2 hk
    refine ⟨m, hdata, fun hunread => ?_⟩
    rcases hscreens.pending i t₁ _ chat _ t₂ heq doc.1 m (hdata ▸ hdoc) hunread with
      ⟨g, hg, hgi, -, data, hgq⟩ | hfailed | ⟨m', hm', hread⟩
    · obtain ⟨⟨chat', hlisten⟩, -⟩ := hwaits g hg hgi
      rw [hlisten] at hgq
      cases hgq
    · exact hquiet _ hfailed trivial
    · rw [hat, hdata] at hm'
      obtain rfl := Message.dictionary_inj (Option.some.inj hm')
      rw [hunread.2] at hread
      cases hread
  refine ⟨hshows ▸ map_shown hdocs, fun m hm => ?_⟩
  rw [hshows] at hm
  obtain ⟨doc, hdoc, hshown⟩ := List.mem_filterMap.mp hm
  obtain ⟨m', hdata, hnot⟩ := hdocs doc hdoc
  obtain rfl : m' = m := by simpa [shown, hdata, hnot] using hshown
  exact hnot

/-- A thread is listed in the order in which its messages were created. -/
lemma orderedByCreated_sorted (thread : List MessageData) :
    (orderedByCreated thread).Pairwise fun d d' => d.2.created.getD 0 ≤ d'.2.created.getD 0 := by
  have htotal : Std.Total fun d d' : ℕ × MessageData => d.2.created.getD 0 ≤ d'.2.created.getD 0 :=
    ⟨fun d d' => Nat.le_total _ _⟩
  have htrans : IsTrans (ℕ × MessageData) fun d d' => d.2.created.getD 0 ≤ d'.2.created.getD 0 :=
    ⟨fun _ _ _ => Nat.le_trans⟩
  exact List.pairwise_insertionSort _ _

lemma map_dictionary_inj {l l' : List Message}
    (h : l.map Message.dictionary = l'.map Message.dictionary) : l = l' :=
  List.map_injective_iff.mpr (fun _ _ => Message.dictionary_inj) h

/-- **Settled screens agree.** In any state of any run, whatever requests have failed before and
whoever has left or come back, two screens that listen to the same chat, and for which nothing is
pending, show the same messages, in the order in which they were created. If they are of different
users, every message is marked as read on both, so that each has the label "Read" under all of its
user's messages. -/
theorem settled_agree (hr : chatSystem.RunFrom .empty h w) (hi : ListensSettled w i vc chat)
    (hj : ListensSettled w j vc' chat) :
    vc.messages = vc'.messages ∧
      vc.messages.Pairwise (fun m m' => m.created ≤ m'.created) ∧
      (vc.currentUser.uid ≠ vc'.currentUser.uid → ∀ m ∈ vc.messages, m.isRead = true) := by
  obtain ⟨hthread, hread⟩ := settled_shows hr hi
  obtain ⟨hthread', hread'⟩ := settled_shows hr hj
  have hsame : vc.messages = vc'.messages := map_dictionary_inj (hthread.trans hthread'.symm)
  refine ⟨hsame, ?_, fun hne m hm => ?_⟩
  · have hsorted : (vc.messages.map Message.dictionary).Pairwise
        fun d d' => d.created.getD 0 ≤ d'.created.getD 0 := by
      rw [hthread]
      exact (orderedByCreated_sorted _).map _ fun _ _ h => h
    rw [List.pairwise_map] at hsorted
    exact hsorted
  · -- one of the two users is not its sender
    by_contra hunread
    have hfalse : m.isRead = false := by simpa using hunread
    have hown : m.senderID = vc.currentUser.uid := by
      by_contra hs
      exact hread m hm ⟨hs, hfalse⟩
    exact hread' m (hsame ▸ hm) ⟨fun hs => hne (hown.symm.trans hs), hfalse⟩

end

/-! ## Alice and Bob -/

/-- A test that the screen of client `i` is settled: only its listener waits, and was called last
with the thread as it is. -/
def restsAt (w : ChatWorld) (i chat : ℕ) : Bool :=
  (w.flights.all fun f => f.owner ≠ i ∨ f.request = .listen chat ∧ f.answer = none) &&
    (w.flights.any fun f => f.owner = i ∧ f.request = .listen chat) &&
    ((w.clients i).all fun vc => vc.newMessageListner = some ⟨chat, false⟩) &&
    match (w.effectsOf i).getLast? with
    | some (.received _ chat' documents) =>
        chat' = chat ∧ documents = orderedByCreated (w.server.threadOf chat)
    | _ => false

lemma settled_of_restsAt {w : ChatWorld} {i chat : ℕ} {vc : ChatViewController}
    (hi : w.clients i = some vc) (h : restsAt w i chat = true) : ListensSettled w i vc chat := by
  simp only [restsAt, hi, Bool.and_eq_true, List.all_eq_true, List.any_eq_true,
    decide_eq_true_eq, Option.all_some] at h
  obtain ⟨⟨⟨hwaits, f, hf, hfi, hfq⟩, hl⟩, hlast⟩ := h
  refine ⟨hi, ⟨hl, f, hf, hfi, hfq⟩, fun g hg hgi => ?_, fun chat' hl' => ?_⟩
  · have hg := (hwaits g hg).resolve_left (not_not_intro hgi)
    exact ⟨⟨chat, hg.1⟩, hg.2⟩
  · obtain rfl : chat = chat' := by
      have hchat := hl'.1
      rw [hl, Option.some.injEq, ListenerRegistration.mk.injEq] at hchat
      exact hchat.1
    cases ho : (w.effectsOf i).getLast? with
    | none => simp [ho] at hlast
    | some o =>
      obtain ⟨t₁, ht⟩ := List.getLast?_eq_some_iff.mp ho
      cases o with
      | received uid chat' documents =>
        obtain ⟨rfl, rfl⟩ : chat' = chat ∧
            documents = orderedByCreated (w.server.threadOf chat) := by
          simpa [ho] using hlast
        exact ⟨t₁, uid, [], ht, by simp⟩
      | _ => simp [ho] at hlast

/-- Alice writes to Bob, who has opened the chat. Both screens are up to date. -/
lemma alice_and_bob_settle : ∃ h w vc vc', chatSystem.RunFrom .empty h w ∧ ListensSettled w 0 vc 0 ∧
    ListensSettled w 1 vc' 0 ∧ vc.messages = [{ hello with isRead := true }] ∧
    vc.currentUser.uid = "alice" ∧ vc'.currentUser.uid = "bob" := by
  have he : (exec chatSystem.step (start .empty)
      [.boot 0 (alice, bob), .serve 0 (.success 0), .deliver 0 (), .serve 0 (.success 0),
        .deliver 0 (), .serve 0 (.success 0), .deliver 0 (),
        .ui 0 (.didPressSendButtonWith "Hello" "1" 5), .serve 1 (.success 0), .deliver 1 (),
        -- Bob opens the chat, and his screen marks the message as read
        .boot 1 (bob, alice), .serve 1 (.success 0), .deliver 1 (), .serve 1 (.success 0),
        .deliver 1 (), .serve 1 (.success 0), .deliver 2 (),
        -- both listeners are called with the thread as it is now
        .serve 0 (.success 0), .deliver 1 (), .serve 0 (.success 0), .deliver 1 ()]).map
      (fun w => (restsAt w 0 0 && restsAt w 1 0,
        (w.clients 0).map fun vc => (vc.messages, vc.currentUser.uid),
        (w.clients 1).map fun vc => vc.currentUser.uid)) =
      some (true, some ([{ hello with isRead := true }], "alice"), some "bob") := by
    decide +kernel
  obtain ⟨h, w, hr, -, hw⟩ := run_of_observed he
  obtain ⟨hrests, hvc, hvc'⟩ : _ ∧ _ ∧ _ := by simpa only [Prod.mk.injEq] using hw
  obtain ⟨vc, hi, hvc⟩ := Option.map_eq_some_iff.mp hvc
  obtain ⟨vc', hj, huid'⟩ := Option.map_eq_some_iff.mp hvc'
  obtain ⟨hmessages, huid⟩ := Prod.mk.inj hvc
  obtain ⟨h₀, h₁⟩ := Bool.and_eq_true_iff.mp hrests
  exact ⟨h, w, vc, vc', hr, settled_of_restsAt hi h₀, settled_of_restsAt hj h₁, hmessages, huid,
    huid'⟩

/-- Alice's screen says that her message was read, and Bob has received it. -/
theorem label_read_sound_alice : ∃ h w vc, chatSystem.RunFrom .empty h w ∧
    w.clients 0 = some vc ∧ vc.messageBottomLabelText 0 = some "Read" ∧
    ∃ (j : ℕ) (vc' : ChatViewController), w.clients j = some vc' ∧
      vc'.currentUser.uid ≠ vc.currentUser.uid := by
  obtain ⟨h, w, vc, vc', hr, ⟨hi, -⟩, -, hmessages, huid, -⟩ := alice_and_bob_settle
  have hlabel : vc.messageBottomLabelText 0 = some "Read" :=
    messageBottomLabelText_eq_read.mpr ⟨_, by rw [hmessages]; rfl, by rw [huid]; rfl, rfl⟩
  obtain ⟨-, -, -, -, -, -, -, -, j, vc'', -, hj, -, hne, -⟩ := label_read_sound hr hi hlabel
  exact ⟨h, w, vc, hr, hi, hlabel, j, vc'', hj, hne⟩

/-- Once nothing is pending, both screens show Alice's message, and it is marked as read. -/
theorem settled_agree_alice_bob : ∃ h w vc vc', chatSystem.RunFrom .empty h w ∧
    ListensSettled w 0 vc 0 ∧ ListensSettled w 1 vc' 0 ∧ vc.messages ≠ [] ∧
    vc.messages = vc'.messages ∧ ∀ m ∈ vc.messages, m.isRead = true := by
  obtain ⟨h, w, vc, vc', hr, hi, hj, hmessages, huid, huid'⟩ := alice_and_bob_settle
  obtain ⟨hsame, -, hread⟩ := settled_agree hr hi hj
  refine ⟨h, w, vc, vc', hr, hi, hj, by rw [hmessages]; simp, hsame, hread ?_⟩
  rw [huid, huid']
  decide

end Aoun
