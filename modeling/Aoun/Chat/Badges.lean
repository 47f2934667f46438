import Mathlib.Data.Finset.Card
import Mathlib.Data.List.Sigma
import Aoun.Lib.Beside
import Aoun.Lib.Chain
import Aoun.Chat.Receipts
import Aoun.Chat.RosterJoin

/-!
# The badges of the list of chats

The list of chats shows, beside each chat, how many messages its user has not read. It counts them
when it is loaded, while the chat screens write to the threads; it is assigned later, in one piece,
and a row that is tapped is set to zero. Here the lists stand beside the chat screens, and their
queries find what is in the threads. A badge then counts messages that the other user has sent,
and that were not read at some time while the list was open.

## Main definitions

* `Aoun.messengerStep` — the chat screens, and the lists of chats beside them.
* `Aoun.UnreadBy`, `Aoun.ReadIn` — a message of a thread, not read or read.

## Main results

* `Aoun.roster_rows` — what the rows of a list are.
* `Aoun.badges_sound` — what a badge counts.
-/

set_option relaxedAutoImplicit false
set_option autoImplicit false

namespace Aoun

open AsyncSystem AsyncSystem.World StepSystem VCChatRoster

/-! ## The rows -/

/-- A row with unread messages is that of an answer. -/
def Counts (t : List RosterEffect) (c : Chat) : Prop :=
  ∀ n, c.unreadCount = some n → 0 < n → ∃ k, ∃ a ∈ unreadAnswers k t, c = a.row

lemma Counts.append {t : List RosterEffect} {c : Chat} (h : Counts t c) (t' : List RosterEffect) :
    Counts (t ++ t') c := by
  intro n hn hpos
  obtain ⟨k, a, ha, hrow⟩ := h n hn hpos
  exact ⟨k, a, by rw [unreadAnswers_append]; exact List.mem_append_left _ ha, hrow⟩

/-- A row that is set to zero counts nothing. -/
lemma counts_zero (t : List RosterEffect) (c : Chat) :
    Counts t { c with unreadCount := some 0 } := by
  intro n hn hpos
  obtain rfl := Option.some.inj hn
  omega

namespace VCChatRoster

variable {vc : VCChatRoster} {t : List RosterEffect}

/-- What the user does keeps the rows, but for one that is set to zero. -/
lemma ui_counts (h : ∀ c ∈ vc.chats, Counts t c) {u : RosterTap} {r : RosterReaction}
    (hr : vc.ui u = some r) : ∀ c ∈ r.client.chats, Counts t c := by
  have hdequeue : ∀ (vc : VCChatRoster) cell, (vc.dequeue cell).chats = vc.chats := by
    intro vc cell
    unfold dequeue
    split_ifs <;> rfl
  rcases ui_cases hr with rfl | ⟨row, cell, c, -, -, -, rfl⟩ | ⟨row, cell, c, -, -, -, rfl⟩ |
    ⟨uid, rows, rfl⟩
  · unfold loadChatRoster
    dsimp only
    split <;> exact h
  · have hchats : (vc.cellForRowAt row cell c).client.chats = vc.chats := hdequeue vc cell
    rw [hchats]
    exact h
  · have hchats : (vc.didSelectRowAt row cell c).client.chats =
        vc.chats.set row { c with unreadCount := some 0 } := by
      simp only [didSelectRowAt, prepare, Reaction.next_client]
      split_ifs <;> exact hdequeue _ cell
    intro c' hc'
    rw [hchats] at hc'
    rcases List.mem_or_eq_of_mem_set hc' with hc' | rfl
    · exact h c' hc'
    · exact counts_zero t c
  · exact h

/-- A callback keeps the rows, clears them, or assigns those of a call. -/
lemma recv_counts (h : ∀ c ∈ vc.chats, Counts t c) (hcollects : vc.Collects t)
    (q : RosterRequest) (a : RosterAnswer) :
    ∀ c ∈ (vc.recv q a).client.chats, Counts (t ++ (vc.recv q a).effects) c := by
  have hsame : (vc.recv q a).client.chats = vc.chats →
      ∀ c ∈ (vc.recv q a).client.chats, Counts (t ++ (vc.recv q a).effects) c :=
    fun heq c hc => (h c (heq ▸ hc)).append _
  rcases vc.recv_cases q a with ⟨uid, documents, -, hr⟩ |
    ⟨call, doc, otherUserID, documents, -, hr⟩ | ⟨call, -, hr⟩ |
    ⟨cell, otherUserID, documents, -, hr⟩ | ⟨-, hr⟩
  · rw [hr] at hsame ⊢
    unfold chatsFound at hsame ⊢
    split_ifs at hsame ⊢
    · exact hsame rfl
    · intro c hc
      cases hc
  · refine hsame ?_
    rw [hr, unreadFound]
    dsimp only
    split_ifs <;> rfl
  · cases hcall : vc.calls[call]? with
    | none => exact hsame (by rw [hr, assignChats, hcall]; rfl)
    | some c =>
      have hcs : c.cs = (unreadAnswers call t).map UnreadAnswer.row :=
        (hcollects call).cs c hcall
      rw [hr, assignChats, hcall]
      dsimp only
      intro row hrow n hn hpos
      obtain ⟨a, ha, rfl⟩ := List.mem_map.mp (show row ∈ _ from hcs ▸ hrow)
      exact ⟨call, a, by rw [unreadAnswers_append]; exact List.mem_append_left _ ha, rfl⟩
  · refine hsame ?_
    rw [hr, userFound]
    cases documents.head? <;> rfl
  · exact hsame (by rw [hr]; rfl)

end VCChatRoster

section

variable {h : List (RosterWorld × RosterEvent)} {w : RosterWorld}

/-- **The rows.** In every state of every run, a row that counts unread messages is that of an
answer to one of the screen's queries.

**Proof sketch.** The rows are assigned from the variables of a call, which are the rows of its
answers (`rosterSystem_collects`). -/
theorem roster_rows (hr : rosterSystem.RunFrom () h w) {i : ℕ} {vc : VCChatRoster}
    (hi : w.clients i = some vc) : ∀ c ∈ vc.chats, Counts (w.effectsOf i) c := by
  induction hr generalizing i vc with
  | nil => cases hi
  | @snoc h w e w' hr hs ih =>
    have hreact : ∀ (v : RosterWorld) (j root : ℕ) (r : RosterReaction),
        v.clients = w.clients → v.trace = w.trace →
        (∀ c ∈ r.client.chats, Counts (w.effectsOf j ++ r.effects) c) →
        (v.react j root r).clients i = some vc →
        ∀ c ∈ vc.chats, Counts ((v.react j root r).effectsOf i) c := by
      intro v j root r hclients htrace hr hi
      have heffects : ∀ i, v.effectsOf i = w.effectsOf i := fun i => by
        rw [World.effectsOf, htrace, World.effectsOf]
      by_cases hij : i = j
      · subst hij
        rw [react_clients_self] at hi
        obtain rfl := Option.some.inj hi
        rw [effectsOf_react_self, heffects]
        exact hr
      · rw [react_clients_of_ne _ _ _ hij, hclients] at hi
        rw [effectsOf_react_of_ne _ _ _ hij, heffects]
        exact ih hi
    cases took_of_step hs with
    | @boot j currentUser free =>
      refine hreact w j w.next _ rfl rfl (fun c hc => ?_) hi
      have hnone : (viewDidLoad currentUser).client.chats = [] := by
        cases currentUser <;> rfl
      rw [show (rosterSystem.boot currentUser).client.chats = [] from hnone] at hc
      cases hc
    | @ui j u vc' r client reacts =>
      exact hreact w j w.next r rfl rfl
        (fun c hc => (ui_counts (ih client) reacts c hc).append _) hi
    | @serve k x f flight unanswered =>
      have hsame : (w.handle k f (rosterSystem.serve w.server f.request x)).effectsOf i =
          w.effectsOf i := by
        simp [World.effectsOf, rosterSystem]
      rw [hsame]
      exact ih hi
    | @deliver k x f a vc' flight answered client =>
      have hcollects := (rosterSystem_collects hr).client f.owner vc' client
      exact hreact (w.land k) f.owner f.root _ rfl rfl
        (recv_counts (ih client) hcollects f.request a) hi

/-- The queries for unread messages are about a participant of the chat. -/
def RosterRequest.OfParticipant : RosterRequest → Prop
  | .unread _ doc otherUserID => otherUserID ∈ doc.2
  | _ => True

/-- The other user of a chat is one of its participants. -/
lemma mem_of_otherUserID {currentUser : Option String} {users : List String} {other : String}
    (h : otherUserID currentUser users = some other) : other ∈ users := by
  obtain ⟨uid, -, hlast⟩ := Option.bind_eq_some_iff.mp h
  exact List.mem_of_mem_filter (List.mem_of_getLast? hlast)

/-- The lists ask for the messages of participants. -/
lemma rosterSystem_participants (hr : rosterSystem.RunFrom () h w) :
    ∀ f ∈ w.flights, f.request.OfParticipant := by
  have hrules : FlightRules rosterSystem (fun _ => True) fun _ q _ => q.OfParticipant := by
    have hload : ∀ vc : VCChatRoster, ∀ q ∈ vc.loadChatRoster.requests, q.OfParticipant := by
      intro vc q hq
      unfold loadChatRoster at hq
      dsimp only at hq
      split at hq
      · cases hq
      · rw [List.mem_singleton.mp hq]
        trivial
    refine ⟨fun _ a _ q hq => hload _ q hq, fun _ vc u r _ hu q hq => ?_,
      fun _ _ _ _ hq => ⟨trivial, hq⟩, fun _ _ _ _ _ _ _ hq => hq, fun _ vc q a _ _ _ q' hq' => ?_⟩
    · rcases ui_cases hu with rfl | ⟨row, cell, c, -, -, -, rfl⟩ | ⟨row, cell, c, -, -, -, rfl⟩ |
        ⟨uid, rows, rfl⟩
      · exact hload vc q hq
      · obtain ⟨other, -, rfl⟩ := List.mem_map.mp hq
        trivial
      · simp only [didSelectRowAt, cellForRowAt, prepare, Reaction.next_requests,
          List.append_nil] at hq
        obtain ⟨other, -, rfl⟩ := List.mem_map.mp hq
        trivial
      · cases hq
    · replace hq' : q' ∈ (vc.recv q a).requests := hq'
      rcases vc.recv_cases q a with ⟨uid, documents, -, hr⟩ |
        ⟨call, doc, otherUserID, documents, -, hr⟩ | ⟨call, -, hr⟩ |
        ⟨cell, otherUserID, documents, -, hr⟩ | ⟨-, hr⟩
      · rw [hr] at hq'
        unfold chatsFound at hq'
        split_ifs at hq'
        · cases hq'
        · obtain ⟨doc, -, hdoc⟩ := List.mem_filterMap.mp hq'
          obtain ⟨other, hother, rfl⟩ := Option.map_eq_some_iff.mp hdoc
          exact mem_of_otherUserID hother
      · rw [hr, unreadFound] at hq'
        dsimp only at hq'
        split_ifs at hq'
        · rw [List.mem_singleton.mp hq']
          trivial
        · cases hq'
      · rw [hr] at hq'
        unfold assignChats at hq'
        split at hq' <;> cases hq'
      · rw [hr] at hq'
        unfold userFound at hq'
        split at hq' <;> cases hq'
      · rw [hr] at hq'
        cases hq'
  exact (flight_invariant hrules trivial hr).2

end

/-! ## The lists beside the chat screens -/

/-- The environment's choice for a query of a list; the chats it finds are those there are. -/
inductive RosterOutcome
  | success (users : UsersCollection)
  | error
  | neither

/-- The choice, where the collection of chats is `chats`. -/
def RosterOutcome.choice (chats : ChatsCollection) : RosterOutcome → RosterChoice
  | .success users => .success chats users
  | .error => .error
  | .neither => .neither

/-- What can happen to the lists. -/
abbrev ListEvent := AsyncSystem.Event (Option String) RosterTap RosterOutcome Unit

/-- What it is beside the chat screens. -/
def rosterView (p : ChatWorld × RosterWorld) : ListEvent → RosterEvent
  | .boot i currentUser => .boot i currentUser
  | .ui i u => .ui i u
  | .serve k outcome => .serve k (outcome.choice p.1.server)
  | .deliver k x => .deliver k x

/-- Any number of chat screens, and of lists of chats. -/
abbrev messengerStep : ChatWorld × RosterWorld → ChatEvent ⊕ ListEvent →
    Option (ChatWorld × RosterWorld) :=
  beside chatSystem.step rosterSystem.step rosterView

/-- The document `k` of a thread is a message of `other` that is not read. -/
def UnreadBy (w : ChatWorld) (chat : ℕ) (other : String) (k : ℕ) : Prop :=
  ∃ m : Message, w.server.messageAt chat k = some m.dictionary ∧ m.senderID = other ∧
    m.isRead = false

/-- The document `k` of a thread is a message that is read. -/
def ReadIn (w : ChatWorld) (chat k : ℕ) : Prop :=
  ∃ m : Message, w.server.messageAt chat k = some m.dictionary ∧ m.isRead = true

/-- The places of the elements of a list that satisfy a condition. -/
lemma exists_places {α : Type} (l : List α) (p : α → Prop) [DecidablePred p] :
    ∃ ks : Finset ℕ, ks.card = (l.filter p).length ∧ ∀ k, k ∈ ks ↔ ∃ x, l[k]? = some x ∧ p x := by
  have hnodup : ((l.zipIdx.filter fun d => p d.1).map Prod.snd).Nodup :=
    (List.nodup_zipIdx_map_snd l).sublist (List.filter_sublist.map _)
  have hfst : l.filter p = (l.zipIdx.filter fun d => p d.1).map Prod.fst := by
    conv_lhs => rw [← List.zipIdx_map_fst 0 l]
    exact List.filter_map
  refine ⟨((l.zipIdx.filter fun d => p d.1).map Prod.snd).toFinset, ?_, fun k => ?_⟩
  · rw [List.toFinset_card_of_nodup hnodup, hfst, List.length_map, List.length_map]
  · simp [List.mk_mem_zipIdx_iff_getElem?]

/-- The query for unread messages counts the documents of the thread that are such messages. -/
lemma unread_places {h : List (ChatWorld × ChatEvent)} {w : ChatWorld}
    (hr : chatSystem.RunFrom .empty h w) (chat : ℕ) (other : String) :
    ∃ ks : Finset ℕ, ks.card = (w.server.unread chat other).length ∧
      ∀ k, k ∈ ks ↔ UnreadBy w chat other k := by
  obtain ⟨ks, hcard, hks⟩ := exists_places (((w.server.document chat).map (·.thread)).getD [])
    fun data => data.senderID = some other ∧ data.isRead = some false
  refine ⟨ks, hcard, fun k => (hks k).trans ?_⟩
  cases hd : w.server.document chat with
  | none => simp [UnreadBy, ChatsCollection.messageAt, hd]
  | some d =>
    have hat : ∀ data, d.thread[k]? = some data ↔ w.server.messageAt chat k = some data := by
      intro data
      rw [messageAt_of_document hd]
    constructor
    · rintro ⟨data, hdata, hsender, hread⟩
      obtain ⟨hdmem, hid⟩ := ChatsCollection.document_eq_some_iff.mp hd
      obtain ⟨m, m₀, rfl, -⟩ :=
        (chatSystem_threads hr).threads d hdmem _ (List.mem_cons_self ..) k data hdata
      exact ⟨m, (hat _).mp hdata, Option.some.inj hsender, Option.some.inj hread⟩
    · rintro ⟨m, hm, rfl, hread⟩
      exact ⟨m.dictionary, (hat _).mpr hm, rfl, congrArg some hread⟩

/-! ## What a badge counts -/

lemma KeepsMessages.refl (w : ChatWorld) : KeepsMessages w w := fun _ _ m hm => ⟨m, hm, .refl m, id⟩

lemma KeepsMessages.trans {w₁ w₂ w₃ : ChatWorld} (h : KeepsMessages w₁ w₂)
    (h' : KeepsMessages w₂ w₃) : KeepsMessages w₁ w₃ := by
  intro chat k m hm
  obtain ⟨m', hm', hsame, hread⟩ := h chat k m hm
  obtain ⟨m'', hm'', hsame', hread'⟩ := h' chat k m' hm'
  exact ⟨m'', hm'', hsame.trans hsame', fun htrue => hread' (hread htrue)⟩

/-- A message that was read is not unread later. -/
lemma ReadIn.not_unreadBy {w w' : ChatWorld} {chat k : ℕ} {other : String} (h : ReadIn w chat k)
    (hkeeps : KeepsMessages w w') : ¬ UnreadBy w' chat other k := by
  obtain ⟨m, hm, hread⟩ := h
  rintro ⟨m₁, hm₁, -, hunread⟩
  obtain ⟨m₂, hm₂, -, hread₂⟩ := hkeeps chat k m hm
  obtain rfl := Message.dictionary_inj (Option.some.inj (hm₁.symm.trans hm₂))
  rw [hread₂ hread] at hunread
  cases hunread

/-- A message of a thread was sent. -/
lemma UnreadBy.sent {h : List (ChatWorld × ChatEvent)} {w : ChatWorld} {chat k : ℕ} {other : String}
    (hu : UnreadBy w chat other k) (hr : chatSystem.RunFrom .empty h w) :
    ∃ m, SentAs w.trace chat k m ∧ m.senderID = other := by
  obtain ⟨m, hm, rfl, -⟩ := hu
  obtain ⟨d, hd, hk⟩ := messageAt_eq_some.mp hm
  obtain ⟨hdmem, rfl⟩ := ChatsCollection.document_eq_some_iff.mp hd
  obtain ⟨m₁, m₀, heq, hsent, ⟨-, -, -, hsender, -⟩, -⟩ :=
    (chatSystem_threads hr).threads d hdmem _ (List.mem_cons_self ..) k m.dictionary hk
  obtain rfl := Message.dictionary_inj heq
  exact ⟨m₀, hsent, hsender.symm⟩

section

variable {h : List ((ChatWorld × RosterWorld) × (ChatEvent ⊕ ListEvent))}
  {p : ChatWorld × RosterWorld}

/-- Where the answer that has made a row with unread messages was given: in a state of the run in
which the list was open, and for a participant of the chat. -/
lemma counted_at (hr : Run messengerStep (start .empty, start ()) h p) {j k : ℕ} {a : UnreadAnswer}
    (ha : a ∈ unreadAnswers k (p.2.effectsOf j)) {documents : List MessageData}
    (hdocuments : a.documents = some documents) (hpos : 0 < documents.length) :
    ∃ q ∈ h, q.1.2.clients j ≠ none ∧ a.otherUserID ∈ a.doc.2 ∧
      documents = q.1.1.server.unread a.doc.1 a.otherUserID := by
  obtain ⟨w, k', choice, f, hmem, hf, rfl, hq, hfound⟩ := unreadAnswers_queried hr.snd ha
  obtain ⟨v, e, hstep, hview⟩ := exists_of_mem_sndStep hmem
  obtain ⟨h₁, h₂, heq⟩ := List.append_of_mem hstep
  have hbefore := (hr.before heq).snd
  have hopen : w.clients f.owner ≠ none := launched hbefore f (mem_of_flight hf)
  have hparticipant := rosterSystem_participants hbefore f (mem_of_flight hf)
  rw [hq] at hparticipant
  refine ⟨_, hstep, hopen, hparticipant, ?_⟩
  rw [hdocuments] at hfound
  cases e with
  | serve k'' outcome =>
    obtain ⟨-, rfl⟩ := Event.serve.inj hview
    cases outcome with
    | success users => exact Option.some.inj hfound
    | error => cases hfound
    | neither =>
      obtain rfl := Option.some.inj hfound
      cases hpos
  | _ => cases hview

/-- **Badges are sound.** In every run of chat screens and of lists of chats beside them, a badge
counts messages of one participant of its chat: exactly those which, in some state that the run
has passed, were stored in the thread and not read. Each of them was sent by him, and none was read
in any state before the list was opened.

**Proof sketch.** A row with unread messages is that of an answer (`roster_rows`), which was given
while the list was open, and is what the threads had then (`counted_at`). What was read before is
read then, since the threads keep their messages (`keepsMessages_step`). -/
theorem badges_sound (hr : Run messengerStep (start .empty, start ()) h p) {j : ℕ}
    {vc : VCChatRoster} (hj : p.2.clients j = some vc) {c : Chat} (hc : c ∈ vc.chats) {n : ℕ}
    (hn : c.unreadCount = some n) (hpos : 0 < n) :
    ∃ chat other, c.documentID = some chat ∧ other ∈ c.users ∧ ∃ q ∈ h, ∃ ks : Finset ℕ,
      ks.card = n ∧ (∀ k, k ∈ ks ↔ UnreadBy q.1.1 chat other k) ∧
      ∀ k ∈ ks, (∃ m, SentAs p.1.trace chat k m ∧ m.senderID = other) ∧
        ∀ q' ∈ h, q'.1.2.clients j = none → ¬ ReadIn q'.1.1 chat k := by
  obtain ⟨call, a, ha, rfl⟩ := roster_rows hr.snd hj c hc n hn hpos
  obtain ⟨documents, hdocuments, rfl⟩ := Option.map_eq_some_iff.mp hn
  obtain ⟨q, hq, hopen, hparticipant, rfl⟩ := counted_at hr ha hdocuments hpos
  obtain ⟨h₁, h₂, heq⟩ := List.append_of_mem hq
  have hbefore := hr.before heq
  obtain ⟨ks, hcard, hks⟩ := unread_places hbefore.fst a.doc.1 a.otherUserID
  refine ⟨a.doc.1, a.otherUserID, rfl, hparticipant, q, hq, ks, hcard, hks, fun k hk => ⟨?_, ?_⟩⟩
  · obtain ⟨m, hsent, hsender⟩ := ((hks k).mp hk).sent hbefore.fst
    have htrace : q.1.1.trace ⊆ p.1.trace :=
      hr.related_fst (R := fun w w' => w.trace ⊆ w'.trace) (fun _ => List.Subset.refl _)
        (fun _ _ _ => List.Subset.trans) (fun _ _ _ _ _ => trace_subset_step) q hq
    exact ⟨m, hsent.mono htrace, hsender⟩
  · intro q' hq' hclosed hread
    have hearlier : q' ∈ h₁ := hr.mem_of_lasts (P := fun s => s.2.clients j ≠ none)
      (fun _ _ _ he => lasts_snd (P := fun w => w.clients j ≠ none)
        (fun _ _ _ hs => clients_ne_none_step hs) he) heq hq' (fun hnot => hnot hclosed) hopen
    have hkeeps : KeepsMessages q'.1.1 q.1.1 := hbefore.related_fst KeepsMessages.refl
      (fun _ _ _ => KeepsMessages.trans)
      (fun _ _ _ _ hr hs => keepsMessages_step (chatSystem_threads hr) hs) q' hearlier
    exact hread.not_unreadBy hkeeps ((hks k).mp hk)

/-- Alice writes to Bob, who then opens his list of chats: it has a badge for her message. -/
theorem badges_sound_bob : ∃ h p vc, Run messengerStep (start .empty, start ()) h p ∧
    p.2.clients 0 = some vc ∧ vc.chats = [⟨["alice", "bob"], some 0, some 1⟩] ∧
    ∃ other ∈ ["alice", "bob"], ∃ q ∈ h, ∃ ks : Finset ℕ, ks.card = 1 ∧
      (∀ k, k ∈ ks ↔ UnreadBy q.1.1 0 other k) ∧
      ∀ k ∈ ks, ∃ m, SentAs p.1.trace 0 k m ∧ m.senderID = other := by
  have he : (exec messengerStep (start .empty, start ())
      ([.boot 0 (alice, bob), .serve 0 (.success 0), .deliver 0 (), .serve 0 (.success 0),
        .deliver 0 (), .serve 0 (.success 0), .deliver 0 (),
        .ui 0 (.didPressSendButtonWith "Hello" "1" 5), .serve 1 (.success 0)].map .inl ++
      [.boot 0 (some "bob"), .serve 0 (.success noUsers), .deliver 0 (),
        .serve 0 (.success noUsers), .deliver 0 (), .serve 0 .neither, .deliver 0 ()].map .inr)).map
      (fun p => (p.2.clients 0).map (·.chats)) =
      some (some [⟨["alice", "bob"], some 0, some 1⟩]) := by decide +kernel
  obtain ⟨h, p, hr, -, hp⟩ := run_of_observed he
  obtain ⟨vc, hj, hchats⟩ := Option.map_eq_some_iff.mp hp
  obtain ⟨chat, other, hchat, hother, q, hq, ks, hcard, hks, hsent⟩ :=
    badges_sound hr hj (hchats ▸ List.mem_singleton_self _) rfl Nat.one_pos
  obtain rfl := Option.some.inj hchat
  exact ⟨h, p, vc, hr, hj, hchats, other, hother, q, hq, ks, hcard, hks, fun k hk => (hsent k hk).1⟩

end

end Aoun
