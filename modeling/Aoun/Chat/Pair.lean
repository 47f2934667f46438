import Aoun.Chat.Screen

/-!
# One conversation for two users

The screens that two users open on each other ask for their chat, and create one if they find
none. A screen attaches only to a chat of the two users. They therefore share one conversation
as long as each chat of theirs is created while there is none; a query and the `addDocument`
that follows it are two requests, and nothing keeps those of two screens apart.

## Main definitions

* `Aoun.chatsOf` — the chats of two users.
* `Aoun.OneConversation`, `Aoun.CreatesFirst` — the property, and its condition.

## Main results

* `Aoun.chatSystem_attached` — the screens are attached to chats of their two users.
* `Aoun.one_conversation_iff` — when two users share one conversation.
-/

set_option relaxedAutoImplicit false
set_option autoImplicit false

namespace Aoun

open AsyncSystem AsyncSystem.World StepSystem ChatViewController

/-! ## The chats of two users -/

/-- The users of a chat are `a` and `b`. -/
def IsPair (a b : String) (users : List String) : Prop := users = [a, b] ∨ users = [b, a]

instance (a b : String) (users : List String) : Decidable (IsPair a b users) :=
  inferInstanceAs (Decidable (_ ∨ _))

/-- The chats of `a` and `b`. -/
def chatsOf (c : ChatsCollection) (a b : String) : List ChatDoc :=
  c.docs.filter fun d => IsPair a b d.users

/-- The screen was opened by one of `a` and `b` on the other. -/
def ChatViewController.Between (a b : String) (vc : ChatViewController) : Prop :=
  IsPair a b [vc.currentUser.uid, vc.otherUser.uid]

/-- There is at most one chat of `a` and `b`, and all their screens that are attached to one are
attached to the same. -/
def OneConversation (a b : String) (w : ChatWorld) : Prop :=
  (chatsOf w.server a b).length ≤ 1 ∧
    ∀ i j vi vj, w.clients i = some vi → w.clients j = some vj → vi.Between a b →
      vj.Between a b → ∀ di dj, vi.docReference = some di → vj.docReference = some dj → di = dj

/-- The step creates a chat of `a` and `b`. -/
def Creates (a b : String) (w : ChatWorld) (e : ChatEvent) : Prop :=
  ∃ k n f users, e = .serve k (.success n) ∧ w.flights[k]? = some f ∧
    f.request = .createNewChat users ∧ IsPair a b users

/-- A chat of `a` and `b` is created only while there is none. -/
def CreatesFirst (a b : String) (w : ChatWorld) (e : ChatEvent) : Prop :=
  Creates a b w e → chatsOf w.server a b = []

section

variable {c : ChatsCollection} {a b : String}

/-- A list of two users that has both of two distinct ones has only these. -/
lemma isPair_of_mem {users : List String} (hab : a ≠ b) (htwo : ∃ x y, users = [x, y])
    (ha : a ∈ users) (hb : b ∈ users) : IsPair a b users := by
  obtain ⟨x, y, rfl⟩ := htwo
  simp only [List.mem_cons, List.not_mem_nil, or_false] at ha hb
  rcases ha with rfl | rfl
  · rcases hb with rfl | rfl
    · exact absurd rfl hab
    · exact Or.inl rfl
  · rcases hb with rfl | rfl
    · exact Or.inr rfl
    · exact absurd rfl hab

/-- A change of a thread leaves the chats of two users as many. -/
lemma chatsOf_setThread (id : ℕ) (thread : List MessageData) :
    (chatsOf (c.setThread id thread) a b).length = (chatsOf c a b).length := by
  have hsame : (fun d => decide (IsPair a b (ChatsCollection.changeThread id thread d).users)) =
      fun d => decide (IsPair a b d.users) := by
    funext d
    rw [ChatsCollection.changeThread_users]
  rw [chatsOf, ChatsCollection.setThread, List.filter_map, List.length_map, chatsOf]
  exact congrArg (fun p => (c.docs.filter p).length) hsame

/-- A new chat is one more of its users. -/
lemma chatsOf_addDocument (users : List String) (position : ℕ) :
    (chatsOf (c.addDocument users position) a b).length =
      (chatsOf c a b).length + if IsPair a b users then 1 else 0 := by
  have hperm := (List.perm_insertIdx (⟨c.docs.length, users, [], []⟩ : ChatDoc) c.docs
    (Nat.min_le_right position c.docs.length)).filter fun d => IsPair a b d.users
  rw [chatsOf, ChatsCollection.addDocument, hperm.length_eq, List.filter_cons]
  by_cases hp : IsPair a b users <;> simp [hp, chatsOf]

/-- What the server does keeps the chats there are. -/
lemma serve_keeps_docs (q : ChatRequest) (e : ChatChoice) {d : ChatDoc} (hd : d ∈ c.docs) :
    ∃ d' ∈ (c.serve q e).server.docs, d'.documentID = d.documentID ∧ d'.users = d.users := by
  have hset : ∀ id thread, ∃ d' ∈ (c.setThread id thread).docs,
      d'.documentID = d.documentID ∧ d'.users = d.users := fun id thread =>
    ⟨ChatsCollection.changeThread id thread d, List.mem_map_of_mem hd, by simp, by simp⟩
  rcases c.serve_cases q e with ⟨users, n, -, -, hs⟩ | ⟨chat, data, d', -, -, hs⟩ |
    ⟨chat, k, data, d', -, -, -, hs⟩ | ⟨-, hs, -⟩
  · rw [hs]
    exact ⟨d, ChatsCollection.mem_addDocument.mpr (Or.inr hd), rfl, rfl⟩
  · rw [hs]; exact hset _ _
  · rw [hs]; exact hset _ _
  · rw [hs]; exact ⟨d, hd, rfl, rfl⟩

/-- What the server does leaves every chat with two users, if a new one has two. -/
lemma serve_two (q : ChatRequest) (e : ChatChoice)
    (hc : ∀ d ∈ c.docs, ∃ x y, d.users = [x, y])
    (hq : ∀ users, q = .createNewChat users → ∃ x y, users = [x, y]) :
    ∀ d ∈ (c.serve q e).server.docs, ∃ x y, d.users = [x, y] := by
  have hset : ∀ id thread, ∀ d ∈ (c.setThread id thread).docs, ∃ x y, d.users = [x, y] := by
    intro id thread d hd
    obtain ⟨d', hd', rfl⟩ := List.mem_map.mp hd
    rw [ChatsCollection.changeThread_users]
    exact hc d' hd'
  rcases c.serve_cases q e with ⟨users, n, rfl, -, hs⟩ | ⟨chat, data, d', -, -, hs⟩ |
    ⟨chat, k, data, d', -, -, -, hs⟩ | ⟨-, hs, -⟩
  · intro d hd
    rw [hs] at hd
    rcases ChatsCollection.mem_addDocument.mp hd with rfl | hd
    · exact hq users rfl
    · exact hc d hd
  · rw [hs]; exact hset _ _
  · rw [hs]; exact hset _ _
  · rw [hs]; exact hc

end

/-! ## What the screens are attached to -/

/-- The request is one of the search for the chat. -/
def ChatRequest.Looks : ChatRequest → Prop
  | .loadChat _ => True
  | .createNewChat _ => True
  | _ => False

namespace ChatViewController

/-- The screen is attached to a chat of its two users, which it listens to. -/
structure Attached (c : ChatsCollection) (vc : ChatViewController) (t : List ChatEffect) :
    Prop where
  chat : ∀ id, vc.docReference = some id → ∃ d ∈ c.docs, d.documentID = id ∧
    vc.currentUser.uid ∈ d.users ∧ vc.otherUser.uid ∈ d.users
  listens : ∀ l, vc.newMessageListner = some l → vc.docReference = some l.chat
  received : ∀ uid chat documents, .received uid chat documents ∈ t →
    uid = vc.currentUser.uid ∧ vc.docReference = some chat
  sent : ∀ chat message, .sent (some chat) message ∈ t → vc.docReference = some chat

/-- The screen asks for the chats of its user, and creates chats of its two users, only while it
is attached to none. -/
def Asks (vc : ChatViewController) : ChatRequest → Prop
  | .loadChat uid => uid = vc.currentUser.uid ∧ vc.docReference = none
  | .createNewChat users =>
    users = [vc.currentUser.uid, vc.otherUser.uid] ∧ vc.docReference = none
  | _ => True

/-- The chats found are there, and have the user asked for. -/
def FoundChats (c : ChatsCollection) (q : ChatRequest) (a : ChatAnswer) : Prop :=
  ∀ uid documents, q = .loadChat uid → a = .chats documents → ∀ p ∈ documents,
    ∃ d ∈ c.docs, d.documentID = p.1 ∧ d.users = p.2 ∧ uid ∈ d.users

variable {c : ChatsCollection} {vc vc' : ChatViewController} {t t' : List ChatEffect}

lemma Asks.of_screen {q : ChatRequest} (hq : vc.Asks q) (hs : vc.SameScreen vc') :
    vc'.Asks q := by
  obtain ⟨hcurrent, hother, hdoc, -⟩ := hs
  cases q <;> simp only [Asks, hcurrent, hother, hdoc] at hq ⊢ <;> exact hq

/-- A screen that is attached as before, and has received nothing from another thread. -/
lemma Attached.of_screen (h : vc.Attached c t) (hs : vc.SameScreen vc')
    (ht' : ∀ uid chat documents, .received uid chat documents ∈ t' →
      uid = vc.currentUser.uid ∧ vc.docReference = some chat)
    (hsent' : ∀ chat message, .sent (some chat) message ∈ t' → vc.docReference = some chat) :
    vc'.Attached c (t ++ t') := by
  obtain ⟨hcurrent, hother, hdoc, hlistner⟩ := hs
  refine ⟨fun id hid => ?_, fun l hl => ?_, fun uid chat documents hmem => ?_,
    fun chat message hmem => ?_⟩
  · rw [hcurrent, hother]
    exact h.chat id (hdoc ▸ hid)
  · rw [hdoc]
    exact h.listens l (hlistner ▸ hl)
  · rw [hcurrent, hdoc]
    rcases List.mem_append.mp hmem with hmem | hmem
    · exact h.received uid chat documents hmem
    · exact ht' uid chat documents hmem
  · rw [hdoc]
    rcases List.mem_append.mp hmem with hmem | hmem
    · exact h.sent chat message hmem
    · exact hsent' chat message hmem

/-- Sending a message leaves the screen attached as it is. -/
lemma didPressSendButtonWith_eq (vc : ChatViewController) (text uuidString : String)
    (now : Timestamp) : ∃ message : Message, message.isRead = false ∧
      message.senderID = vc.currentUser.uid ∧ message.id = uuidString ∧
      vc.didPressSendButtonWith text uuidString now =
        ⟨vc.insertNewMessage message,
          vc.docReference.toList.map fun chat => .save chat message.dictionary,
          [.sent vc.docReference message]⟩ := by
  refine ⟨⟨uuidString, text, now, vc.currentUser.uid, vc.currentUser.displayName, false⟩, rfl,
    rfl, rfl, ?_⟩
  unfold didPressSendButtonWith save
  simp only [Reaction.next, insertNewMessage]
  cases hd : vc.docReference <;> simp

/-- A snapshot leaves the screen attached as it is. -/
lemma threadChanged_cases (vc : ChatViewController) (chat : ℕ)
    (documents : List (ℕ × MessageData)) :
    vc.SameScreen (vc.threadChanged chat documents).client ∧
      (vc.threadChanged chat documents).effects =
        [.received vc.currentUser.uid chat documents] ∧
      ∀ q ∈ (vc.threadChanged chat documents).requests, q = .listen chat ∨
        ∃ doc ∈ documents, receipt vc.currentUser.uid chat doc = some q := by
  obtain ⟨hs, heff, hreq⟩ := @showThread_cases chat documents { vc with messages := [] }
  refine ⟨hs, by simp [threadChanged, heff], fun q hq => ?_⟩
  simp only [threadChanged, Reaction.next_requests, List.nil_append, List.mem_append,
    List.mem_singleton] at hq
  rcases hq with hq | rfl
  · exact Or.inr (hreq q hq)
  · exact Or.inl rfl

/-- A receipt is an update by a message that is read. -/
lemma receipt_eq_some {uid : String} {chat : ℕ} {doc : ℕ × MessageData} {q : ChatRequest}
    (h : receipt uid chat doc = some q) : ∃ msg : Message, doc.2 = msg.dictionary ∧
      Unread uid msg ∧ q = .updateData chat doc.1 { msg with isRead := true }.dictionary := by
  obtain ⟨msg, hmsg, h⟩ := Option.bind_eq_some_iff.mp h
  split_ifs at h with hread
  exact ⟨msg, Message.ofDictionary_eq_some_iff.mp hmsg, hread, (Option.some.inj h).symm⟩

/-- A reaction to the user leaves the screen attached as it is. -/
lemma ui_keeps_attached (h : vc.Attached c t) {u : ChatTap} {r : ChatReaction}
    (hr : vc.ui u = some r) : Keeps (Attached c) Asks r t ∧ ∀ q, vc.Asks q → r.client.Asks q := by
  rcases ui_cases hr with ⟨text, uuidString, now, -, rfl⟩ | ⟨-, rfl⟩
  · obtain ⟨message, -, -, -, heq⟩ := vc.didPressSendButtonWith_eq text uuidString now
    rw [heq]
    have hs : vc.SameScreen (vc.insertNewMessage message) := ⟨rfl, rfl, rfl, rfl⟩
    refine ⟨⟨h.of_screen hs (by simp) fun chat m hm => ?_, by simp [Asks]⟩,
      fun q hq => hq.of_screen hs⟩
    exact (ChatEffect.sent.inj (List.mem_singleton.mp hm)).1.symm
  · refine ⟨⟨⟨h.chat, fun l hl => ?_, fun uid chat documents hmem => ?_, fun chat m hm => ?_⟩,
      by simp⟩, fun q hq => ?_⟩
    · obtain ⟨l', hl', rfl⟩ := Option.map_eq_some_iff.mp hl
      exact h.listens l' hl'
    · exact h.received uid chat documents (by simpa using hmem)
    · exact h.sent chat m (by simpa using hm)
    · cases q <;> exact hq

/-- A callback leaves the screen with its users, and attaches it to a chat that was found. -/
lemma recv_keeps_attached (h : vc.Attached c t) {q : ChatRequest} (hq : vc.Asks q)
    {a : ChatAnswer} (hf : FoundChats c q a) : Keeps (Attached c) Asks (vc.recv q a) t ∧
      ∀ q', vc.Asks q' → (q.Looks → ¬ q'.Looks) → (vc.recv q a).client.Asks q' := by
  have hsame : ∀ r : ChatReaction, vc.SameScreen r.client → r.effects = [] →
      (∀ q' ∈ r.requests, r.client.Asks q') → Keeps (Attached c) Asks r t ∧
        ∀ q', vc.Asks q' → (q.Looks → ¬ q'.Looks) → r.client.Asks q' := by
    intro r hs heff hreq
    exact ⟨⟨h.of_screen hs (by simp [heff]) (by simp [heff]), hreq⟩,
      fun q' hq' _ => hq'.of_screen hs⟩
  rcases vc.recv_cases q a with ⟨uid, documents, rfl, rfl, hr⟩ | ⟨users, rfl, hr⟩ |
    ⟨chat, documents, rfl, rfl, hlistner, hr⟩ | hr
  · obtain ⟨rfl, hnone⟩ := hq
    rw [hr]
    rcases vc.chatsFound_cases documents with ⟨doc, hdoc, hother, hc⟩ | hc
    · rw [hc]
      refine ⟨⟨⟨fun id hid => ?_, fun l hl => ?_, fun uid chat docs hmem => ?_,
        fun chat m hm => ?_⟩, by simp [Asks]⟩, fun q' hq' hno => ?_⟩
      · obtain rfl : doc.1 = id := Option.some.inj hid
        obtain ⟨d, hd, hid, husers, hmem⟩ := hf _ documents rfl rfl doc hdoc
        exact ⟨d, hd, hid, hmem, husers ▸ hother⟩
      · rw [← Option.some.inj hl]
      · -- before it is attached the screen has received nothing
        rw [List.append_nil] at hmem
        have hdoc := (h.received uid chat docs hmem).2
        rw [hnone] at hdoc
        cases hdoc
      · rw [List.append_nil] at hm
        have hdoc := h.sent chat m hm
        rw [hnone] at hdoc
        cases hdoc
      · cases q' with
        | loadChat uid => exact absurd trivial (hno trivial)
        | createNewChat users => exact absurd trivial (hno trivial)
        | _ => trivial
    · rw [hc]
      exact hsame _ ⟨rfl, rfl, rfl, rfl⟩ rfl (by simp [createNewChat, Asks, hnone])
  · rw [hr]
    exact hsame _ ⟨rfl, rfl, rfl, rfl⟩ rfl (by simp [loadChat, Asks, hq.2])
  · rw [hr]
    obtain ⟨hs, heff, hreq⟩ := vc.threadChanged_cases chat documents
    refine ⟨⟨h.of_screen hs ?_ (by simp [heff]), fun q' hq' => ?_⟩,
      fun q' hq' _ => hq'.of_screen hs⟩
    · intro uid chat' docs hmem
      rw [heff, List.mem_singleton, ChatEffect.received.injEq] at hmem
      obtain ⟨rfl, rfl, rfl⟩ := hmem
      exact ⟨rfl, h.listens _ hlistner⟩
    · rcases hreq q' hq' with rfl | ⟨doc, -, hdoc⟩
      · trivial
      · obtain ⟨msg, -, -, rfl⟩ := receipt_eq_some hdoc
        trivial
  · rw [hr]
    exact hsame _ ⟨rfl, rfl, rfl, rfl⟩ rfl (by simp)

end ChatViewController

/-- A screen makes one request of its search for the chat at a time. -/
lemma chatSystem_exclusive : ExclusiveRules chatSystem ChatRequest.Looks where
  boot := fun _ => List.pairwise_singleton _ _
  ui := by
    intro vc u r hr q hq hlooks
    rcases ui_cases hr with ⟨text, uuidString, now, -, rfl⟩ | ⟨-, rfl⟩
    · obtain ⟨message, -, -, -, heq⟩ := vc.didPressSendButtonWith_eq text uuidString now
      rw [heq] at hq
      obtain ⟨chat, -, rfl⟩ := List.mem_map.mp hq
      exact hlooks
    · cases hq
  recv := by
    intro vc q a _
    show AtMostOne _ (vc.recv q a).requests ∧ ∀ q' ∈ (vc.recv q a).requests, q'.Looks → q.Looks
    rcases vc.recv_cases q a with ⟨uid, documents, rfl, rfl, hr⟩ | ⟨users, rfl, hr⟩ |
      ⟨chat, documents, rfl, rfl, -, hr⟩ | hr
    · rw [hr]
      refine ⟨?_, fun _ _ _ => trivial⟩
      rcases vc.chatsFound_cases documents with ⟨doc, -, -, hc⟩ | hc <;> rw [hc] <;>
        exact List.pairwise_singleton _ _
    · rw [hr]
      exact ⟨List.pairwise_singleton _ _, fun _ _ _ => trivial⟩
    · have hno : ∀ q' ∈ (vc.threadChanged chat documents).requests, ¬ q'.Looks := by
        intro q' hq'
        rcases (vc.threadChanged_cases chat documents).2.2 q' hq' with rfl | ⟨doc, -, hdoc⟩
        · exact id
        · obtain ⟨msg, -, -, rfl⟩ := receipt_eq_some hdoc
          exact id
      rw [hr]
      exact ⟨List.pairwise_of_forall_mem_list fun q' hq' _ _ hlooks => absurd hlooks (hno q' hq'),
        fun q' hq' hlooks => absurd hlooks (hno q' hq')⟩
    · rw [hr]
      exact ⟨List.Pairwise.nil, by simp⟩

/-- The screens satisfy the conditions of the client rule. -/
lemma chatSystem_rules : ClientRules chatSystem ChatRequest.Looks
    (fun c => ∀ d ∈ c.docs, ∃ x y, d.users = [x, y]) Attached Asks FoundChats where
  boot := by
    intro c users _
    refine ⟨⟨fun id hid => ?_, fun l hl => ?_, by simp [chatSystem, viewDidLoad, loadChat],
      by simp [chatSystem, viewDidLoad, loadChat]⟩,
      by simp [chatSystem, viewDidLoad, loadChat, Asks]⟩
    · cases hid
    · cases hl
  ui := fun _ _ _ _ _ _ h hr => ui_keeps_attached h hr
  serve := by
    intro c q e vc hc hq
    refine ⟨serve_two q e hc fun users hu => ?_, ?_, fun t h => ?_⟩
    · subst hu
      exact ⟨_, _, hq.1⟩
    · rintro uid documents rfl ha p hp
      cases e with
      | success n =>
        obtain rfl : c.withUser uid = documents := ChatAnswer.chats.inj ha
        obtain ⟨d, hd, hmem, rfl⟩ := ChatsCollection.mem_withUser.mp hp
        exact ⟨d, hd, rfl, rfl, hmem⟩
      | error => cases ha
      | neither => cases ha
    · refine ⟨fun id hid => ?_, h.listens, fun uid chat documents hmem => ?_,
        fun chat m hm => ?_⟩
      · obtain ⟨d, hd, rfl, hcurrent, hother⟩ := h.chat id hid
        obtain ⟨d', hd', hid', husers⟩ := serve_keeps_docs q e hd
        exact ⟨d', hd', hid', husers ▸ hcurrent, husers ▸ hother⟩
      · rcases List.mem_append.mp hmem with hmem | hmem
        · exact h.received uid chat documents hmem
        · exact absurd trivial (c.serve_effects q e _ hmem)
      · rcases List.mem_append.mp hm with hm | hm
        · exact h.sent chat m hm
        · exact absurd trivial (c.serve_effects q e _ hm)
  others := by
    intro c q e _ _ _
    refine ⟨fun vc t h => ⟨fun id hid => ?_, h.listens, h.received, h.sent⟩,
      fun q' a h uid documents hq' ha p hp => ?_⟩
    · obtain ⟨d, hd, rfl, hcurrent, hother⟩ := h.chat id hid
      obtain ⟨d', hd', hid', husers⟩ := serve_keeps_docs q e hd
      exact ⟨d', hd', hid', husers ▸ hcurrent, husers ▸ hother⟩
    · obtain ⟨d, hd, hid, husers, hmem⟩ := h uid documents hq' ha p hp
      obtain ⟨d', hd', hid', husers'⟩ := serve_keeps_docs q e hd
      exact ⟨d', hd', hid'.trans hid, husers'.trans husers, husers' ▸ hmem⟩
  recv := fun _ _ _ _ _ _ _ h hq hf => recv_keeps_attached h hq hf

variable {h : List (ChatWorld × ChatEvent)} {w : ChatWorld}

/-- **The screens are attached to chats of their two users**, in every state of every run. -/
theorem chatSystem_attached (hr : chatSystem.RunFrom .empty h w) :
    ClientInv (fun c => ∀ d ∈ c.docs, ∃ x y, d.users = [x, y]) Attached Asks FoundChats w :=
  client_invariant chatSystem_exclusive chatSystem_rules (by simp [ChatsCollection.empty]) hr

/-- What a step does to the number of chats of two users. -/
lemma chatsOf_step {a b : String} {w' : ChatWorld} {e : ChatEvent}
    (hs : chatSystem.step w e = some w') :
    (Creates a b w e ∧ (chatsOf w'.server a b).length = (chatsOf w.server a b).length + 1) ∨
      (¬ Creates a b w e ∧ (chatsOf w'.server a b).length = (chatsOf w.server a b).length) := by
  cases took_of_step hs with
  | boot free => exact Or.inr ⟨by simp [Creates], rfl⟩
  | ui client reacts => exact Or.inr ⟨by simp [Creates], rfl⟩
  | deliver flight answered client => exact Or.inr ⟨by simp [Creates], rfl⟩
  | @serve k e f flight unanswered =>
    show (_ ∧ (chatsOf (w.server.serve f.request e).server a b).length = _) ∨
      (_ ∧ (chatsOf (w.server.serve f.request e).server a b).length = _)
    have hcreates : Creates a b w (.serve k e) ↔ ∃ n users, e = .success n ∧
        f.request = .createNewChat users ∧ IsPair a b users := by
      constructor
      · rintro ⟨k', n, f', users, he, hf', hq, hp⟩
        obtain ⟨rfl, rfl⟩ := Event.serve.inj he
        obtain rfl : f = f' := by rw [flight] at hf'; exact Option.some.inj hf'
        exact ⟨n, users, rfl, hq, hp⟩
      · rintro ⟨n, users, rfl, hq, hp⟩
        exact ⟨k, n, f, users, rfl, flight, hq, hp⟩
    rw [hcreates]
    rcases w.server.serve_cases f.request e with ⟨users, n, hq, rfl, hv⟩ |
      ⟨chat, data, d, hq, -, hv⟩ | ⟨chat, i, data, d, hq, -, -, hv⟩ | ⟨hno, hv, -⟩
    · rw [hv, chatsOf_addDocument]
      by_cases hp : IsPair a b users
      · exact Or.inl ⟨⟨n, users, rfl, hq, hp⟩, by rw [if_pos hp]⟩
      · refine Or.inr ⟨?_, by rw [if_neg hp, Nat.add_zero]⟩
        rintro ⟨n', users', -, hq', hp'⟩
        rw [hq, ChatRequest.createNewChat.injEq] at hq'
        exact hp (hq' ▸ hp')
    · rw [hv]
      exact Or.inr ⟨by simp [hq], chatsOf_setThread chat _⟩
    · rw [hv]
      exact Or.inr ⟨by simp [hq], chatsOf_setThread chat _⟩
    · rw [hv]
      refine Or.inr ⟨?_, rfl⟩
      rintro ⟨n, users, he, hq, -⟩
      exact hno users n hq he

/-- Screens that are attached to a chat of two users are attached to the same one if there is
only one. -/
lemma oneConversation_of_length (hr : chatSystem.RunFrom .empty h w) {a b : String}
    (hab : a ≠ b) (hone : (chatsOf w.server a b).length ≤ 1) : OneConversation a b w := by
  have hinv := chatSystem_attached hr
  have hchat : ∀ i vc, w.clients i = some vc → vc.Between a b → ∀ id,
      vc.docReference = some id → ∃ d ∈ chatsOf w.server a b, d.documentID = id := by
    intro i vc hi hbetween id hid
    obtain ⟨d, hd, hdid, hcurrent, hother⟩ := (hinv.client i vc hi).chat id hid
    refine ⟨d, List.mem_filter.mpr ⟨hd, decide_eq_true ?_⟩, hdid⟩
    have htwo := hinv.server d hd
    rcases hbetween with heq | heq
    · obtain ⟨rfl, rfl⟩ : vc.currentUser.uid = a ∧ vc.otherUser.uid = b := by simpa using heq
      exact isPair_of_mem hab htwo hcurrent hother
    · obtain ⟨rfl, rfl⟩ : vc.currentUser.uid = b ∧ vc.otherUser.uid = a := by simpa using heq
      exact isPair_of_mem hab htwo hother hcurrent
  refine ⟨hone, fun i j vi vj hi hj hbi hbj di dj hdi hdj => ?_⟩
  obtain ⟨d, hd, rfl⟩ := hchat i vi hi hbi di hdi
  obtain ⟨d', hd', rfl⟩ := hchat j vj hj hbj dj hdj
  obtain ⟨d₀, hd₀⟩ | hnil : (∃ d₀, chatsOf w.server a b = [d₀]) ∨ chatsOf w.server a b = [] := by
    rcases hl : chatsOf w.server a b with _ | ⟨d₀, _ | ⟨d₁, l⟩⟩
    · exact Or.inr rfl
    · exact Or.inl ⟨d₀, rfl⟩
    · rw [hl] at hone
      simp at hone
  · rw [hd₀, List.mem_singleton] at hd hd'
    rw [hd, hd']
  · rw [hnil] at hd
    cases hd

/-- Alice, with her name and her account. -/
def alice : User := ⟨"Alice", "A", "alice", some "a"⟩

/-- Bob, with his name and his account. -/
def bob : User := ⟨"Bob", "B", "bob", some "b"⟩

end Aoun
