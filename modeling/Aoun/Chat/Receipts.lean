import Aoun.Chat.Pair

/-!
# Read receipts

A receipt rewrites a whole message, from a snapshot that may be old. Nevertheless every stored
message remains the one that was sent, since all versions of it in threads, snapshots and
receipts agree in everything but `isRead`, and a receipt only sets `isRead`. And a message is
read only after a screen of another user than its sender has received it.

## Main definitions

* `Aoun.SentAs` — a message was sent and became the document of a thread with a number.
* `Aoun.ReceivedBy` — the listener of another user has received that document.
* `Aoun.Genuine` — the data of a document are those of the message sent, read only if received.
* `Aoun.MessagesSound`, `Aoun.KeepsMessages` — the property, of a state and of two states.

## Main results

* `Aoun.chatSystem_threads` — all data in threads, snapshots and receipts are genuine.
* `Aoun.receipts_sound` — messages stay as they were sent, and are read only if received.
-/

set_option relaxedAutoImplicit false
set_option autoImplicit false

namespace Aoun

open AsyncSystem AsyncSystem.World StepSystem ChatViewController

/-! ## Messages that were sent -/

/-- The messages agree in everything but `isRead`. -/
def SameMessage (m m' : Message) : Prop :=
  m'.id = m.id ∧ m'.content = m.content ∧ m'.created = m.created ∧ m'.senderID = m.senderID ∧
    m'.senderName = m.senderName

lemma SameMessage.refl (m : Message) : SameMessage m m := ⟨rfl, rfl, rfl, rfl, rfl⟩

lemma SameMessage.symm {m m' : Message} (h : SameMessage m m') : SameMessage m' m := by
  obtain ⟨hid, hcontent, hcreated, hsender, hname⟩ := h
  exact ⟨hid.symm, hcontent.symm, hcreated.symm, hsender.symm, hname.symm⟩

lemma SameMessage.trans {m m' m'' : Message} (h : SameMessage m m') (h' : SameMessage m' m'') :
    SameMessage m m'' := by
  obtain ⟨hid, hcontent, hcreated, hsender, hname⟩ := h
  obtain ⟨hid', hcontent', hcreated', hsender', hname'⟩ := h'
  exact ⟨hid'.trans hid, hcontent'.trans hcontent, hcreated'.trans hcreated,
    hsender'.trans hsender, hname'.trans hname⟩

/-- The data of the document `k` of a thread. -/
def ChatsCollection.messageAt (c : ChatsCollection) (chat k : ℕ) : Option MessageData :=
  (c.document chat).bind fun d => d.thread[k]?

/-- A message was sent to a chat, and became the document `k` of its thread. -/
def SentAs (tr : List (Entry ChatEffect)) (chat k : ℕ) (m : Message) : Prop :=
  ∃ i r, ⟨i, r, .sent (some chat) m⟩ ∈ tr ∧ ⟨i, r, .stored chat k m.dictionary⟩ ∈ tr

/-- The document `k` of a thread was in a snapshot that a screen of another user than the sender
received. -/
def ReceivedBy (tr : List (Entry ChatEffect)) (chat k : ℕ) (senderID : String) : Prop :=
  ∃ i r uid documents, ⟨i, r, .received uid chat documents⟩ ∈ tr ∧ uid ≠ senderID ∧
    ∃ data, (k, data) ∈ documents

/-- The data are those of the message sent, and read only if another user has received it. -/
def Genuine (tr : List (Entry ChatEffect)) (chat k : ℕ) (data : MessageData) : Prop :=
  ∃ m m₀, data = m.dictionary ∧ SentAs tr chat k m₀ ∧ SameMessage m₀ m ∧
    (m.isRead = true → ReceivedBy tr chat k m.senderID)

/-- The data of a receipt: those of the message sent, read. -/
def GenuineReceipt (tr : List (Entry ChatEffect)) (chat k : ℕ) (data : MessageData) : Prop :=
  ∃ m m₀, data = m.dictionary ∧ m.isRead = true ∧ SentAs tr chat k m₀ ∧ SameMessage m₀ m ∧
    ReceivedBy tr chat k m.senderID

section

variable {tr tr' : List (Entry ChatEffect)} {chat k : ℕ} {data : MessageData}

lemma SentAs.mono {m : Message} (h : SentAs tr chat k m) (htr : tr ⊆ tr') :
    SentAs tr' chat k m := by
  obtain ⟨i, r, hsent, hstored⟩ := h
  exact ⟨i, r, htr hsent, htr hstored⟩

lemma ReceivedBy.mono {senderID : String} (h : ReceivedBy tr chat k senderID) (htr : tr ⊆ tr') :
    ReceivedBy tr' chat k senderID := by
  obtain ⟨i, r, uid, documents, hreceived, hrest⟩ := h
  exact ⟨i, r, uid, documents, htr hreceived, hrest⟩

lemma Genuine.mono (h : Genuine tr chat k data) (htr : tr ⊆ tr') :
    Genuine tr' chat k data := by
  obtain ⟨m, m₀, hdata, hsent, hsame, hread⟩ := h
  exact ⟨m, m₀, hdata, hsent.mono htr, hsame, fun hm => (hread hm).mono htr⟩

lemma GenuineReceipt.mono (h : GenuineReceipt tr chat k data) (htr : tr ⊆ tr') :
    GenuineReceipt tr' chat k data := by
  obtain ⟨m, m₀, hdata, hm, hsent, hsame, hreceived⟩ := h
  exact ⟨m, m₀, hdata, hm, hsent.mono htr, hsame, hreceived.mono htr⟩

lemma GenuineReceipt.genuine (h : GenuineReceipt tr chat k data) : Genuine tr chat k data := by
  obtain ⟨m, m₀, hdata, -, hsent, hsame, hreceived⟩ := h
  exact ⟨m, m₀, hdata, hsent, hsame, fun _ => hreceived⟩

/-- The documents of a snapshot are those of the thread. -/
lemma mem_orderedByCreated {thread : List MessageData} {p : ℕ × MessageData}
    (h : p ∈ orderedByCreated thread) : thread[p.1]? = some p.2 := by
  obtain ⟨hmem, -⟩ := List.mem_filter.mp ((List.mem_insertionSort _).mp h)
  obtain ⟨⟨data, k⟩, hdata, rfl⟩ := List.mem_map.mp hmem
  exact List.mk_mem_zipIdx_iff_getElem?.mp hdata

/-- A version of a thread is the thread, or one of the past. -/
lemma version_mem (d : ChatDoc) (n : ℕ) : d.version n ∈ d.thread :: d.past := by
  rw [ChatDoc.version]
  cases hn : (d.thread :: d.past)[n]? with
  | none => exact List.mem_cons_self ..
  | some thread => exact List.mem_of_getElem? hn

/-- The documents after a change of a thread. -/
lemma mem_setThread {c : ChatsCollection} {thread : List MessageData} {d : ChatDoc}
    (h : d ∈ (c.setThread chat thread).docs) : d ∈ c.docs ∨
      ∃ d₀ ∈ c.docs, d₀.documentID = chat ∧
        d = { d₀ with thread := thread, past := d₀.thread :: d₀.past } := by
  obtain ⟨d₀, hd₀, rfl⟩ := List.mem_map.mp h
  unfold ChatsCollection.changeThread
  split_ifs with hid
  · exact Or.inr ⟨d₀, hd₀, hid, rfl⟩
  · exact Or.inl hd₀

end

/-! ## The invariant -/

/-- Everywhere in the system the data of a document are genuine. -/
structure ThreadsInv (w : ChatWorld) : Prop where
  threads : ∀ d ∈ w.server.docs, ∀ thread ∈ d.thread :: d.past, ∀ k data,
    thread[k]? = some data → Genuine w.trace d.documentID k data
  snapshots : ∀ f ∈ w.flights, ∀ chat documents, f.request = .listen chat →
    f.answer = some (.thread documents) → ∀ p ∈ documents, Genuine w.trace chat p.1 p.2
  updates : ∀ f ∈ w.flights, ∀ chat k data, f.request = .updateData chat k data →
    GenuineReceipt w.trace chat k data
  saves : ∀ f ∈ w.flights, ∀ chat data, f.request = .save chat data →
    ∃ m : Message, data = m.dictionary ∧ m.isRead = false ∧
      ⟨f.owner, f.root, .sent (some chat) m⟩ ∈ w.trace
  /-- The numbers used are those of the documents there are. -/
  numbers : ∀ t ∈ w.trace, ∀ chat k data, t.effect = .stored chat k data →
    ∃ d ∈ w.server.docs, d.documentID = chat ∧ k < d.thread.length
  /-- A number is used once. -/
  unique : ∀ t ∈ w.trace, ∀ t' ∈ w.trace, ∀ chat k data data', t.effect = .stored chat k data →
    t'.effect = .stored chat k data' → data' = data

section

variable {w : ChatWorld}

lemma ThreadsInv.tick (hw : ThreadsInv w) : ThreadsInv w.tick :=
  ⟨hw.threads, hw.snapshots, hw.updates, hw.saves, hw.numbers, hw.unique⟩

lemma ThreadsInv.land (hw : ThreadsInv w) (k : ℕ) : ThreadsInv (w.land k) :=
  ⟨hw.threads, fun f hf => hw.snapshots f (List.mem_of_mem_eraseIdx hf),
    fun f hf => hw.updates f (List.mem_of_mem_eraseIdx hf),
    fun f hf => hw.saves f (List.mem_of_mem_eraseIdx hf), hw.numbers, hw.unique⟩

/-- A reaction keeps the invariant if its receipts are genuine, and what it saves was sent. -/
lemma ThreadsInv.react (hw : ThreadsInv w) {i root : ℕ} {r : ChatReaction}
    (hstored : ∀ chat k data, .stored chat k data ∉ r.effects)
    (hupdates : ∀ chat k data, .updateData chat k data ∈ r.requests →
      GenuineReceipt (w.react i root r).trace chat k data)
    (hsaves : ∀ chat data, .save chat data ∈ r.requests → ∃ m : Message, data = m.dictionary ∧
      m.isRead = false ∧ .sent (some chat) m ∈ r.effects) : ThreadsInv (w.react i root r) := by
  have htr : w.trace ⊆ (w.react i root r).trace := List.subset_append_left _ _
  have hnew : ∀ t ∈ (w.react i root r).trace, ∀ chat k data, t.effect = .stored chat k data →
      t ∈ w.trace := by
    intro t ht chat k data he
    rcases List.mem_append.mp ht with ht | ht
    · exact ht
    · obtain ⟨o, ho, rfl⟩ := List.mem_map.mp ht
      exact absurd (he ▸ ho) (hstored chat k data)
  refine ⟨fun d hd thread hthread k data hdata => ?_, fun f hf chat documents hq ha p hp => ?_,
    fun f hf chat k data hq => ?_, fun f hf chat data hq => ?_, fun t ht chat k data he => ?_,
    fun t ht t' ht' chat k data data' he he' => ?_⟩
  · exact (hw.threads d hd thread hthread k data hdata).mono htr
  · rcases List.mem_append.mp hf with hf | hf
    · exact (hw.snapshots f hf chat documents hq ha p hp).mono htr
    · obtain ⟨q, -, rfl⟩ := List.mem_map.mp hf
      cases ha
  · rcases List.mem_append.mp hf with hf | hf
    · exact (hw.updates f hf chat k data hq).mono htr
    · obtain ⟨q, hmem, rfl⟩ := List.mem_map.mp hf
      obtain rfl : q = .updateData chat k data := hq
      exact hupdates chat k data hmem
  · rcases List.mem_append.mp hf with hf | hf
    · obtain ⟨m, hdata, hm, hsent⟩ := hw.saves f hf chat data hq
      exact ⟨m, hdata, hm, htr hsent⟩
    · obtain ⟨q, hmem, rfl⟩ := List.mem_map.mp hf
      obtain rfl : q = .save chat data := hq
      obtain ⟨m, hdata, hm, hsent⟩ := hsaves chat data hmem
      exact ⟨m, hdata, hm, List.mem_append_right _ (List.mem_map_of_mem hsent)⟩
  · exact hw.numbers t (hnew t ht chat k data he) chat k data he
  · exact hw.unique t (hnew t ht chat k data he) t' (hnew t' ht' chat k data' he') chat k data
      data' he he'

/-- A handled request keeps the invariant if the threads stay genuine, the snapshot it answers
with is, and a number it uses is new. -/
lemma ThreadsInv.handle (hw : ThreadsInv w) {n : ℕ}
    {f : Flight ChatRequest ChatAnswer} (flight : w.flights[n]? = some f)
    {v : Served ChatsCollection ChatAnswer ChatEffect}
    (hthreads : ∀ d ∈ v.server.docs, ∀ thread ∈ d.thread :: d.past, ∀ k data,
      thread[k]? = some data → Genuine (w.handle n f v).trace d.documentID k data)
    (hsnapshot : ∀ chat documents, f.request = .listen chat → v.answer = .thread documents →
      ∀ p ∈ documents, Genuine w.trace chat p.1 p.2)
    (hnumbers : ∀ t ∈ (w.handle n f v).trace, ∀ chat k data, t.effect = .stored chat k data →
      ∃ d ∈ v.server.docs, d.documentID = chat ∧ k < d.thread.length)
    (hunique : ∀ chat k data, .stored chat k data ∈ v.effects →
      v.effects = [.stored chat k data] ∧
        ∀ t ∈ w.trace, ∀ data', t.effect ≠ .stored chat k data') :
    ThreadsInv (w.handle n f v) := by
  have htr : w.trace ⊆ (w.handle n f v).trace := List.subset_append_left _ _
  have hmem : f ∈ w.flights := mem_of_flight flight
  refine ⟨hthreads, fun g hg chat documents hq ha p hp => ?_, fun g hg chat k data hq => ?_,
    fun g hg chat data hq => ?_, hnumbers, fun t ht t' ht' chat k data data' he he' => ?_⟩
  · rcases List.mem_append.mp hg with hg | hg
    · exact (hw.snapshots g (List.mem_of_mem_eraseIdx hg) chat documents hq ha p hp).mono htr
    · obtain rfl := List.mem_singleton.mp hg
      exact (hsnapshot chat documents hq (Option.some.inj ha) p hp).mono htr
  · rcases List.mem_append.mp hg with hg | hg
    · exact (hw.updates g (List.mem_of_mem_eraseIdx hg) chat k data hq).mono htr
    · obtain rfl := List.mem_singleton.mp hg
      exact (hw.updates f hmem chat k data hq).mono htr
  · rcases List.mem_append.mp hg with hg | hg
    · obtain ⟨m, hdata, hm, hsent⟩ := hw.saves g (List.mem_of_mem_eraseIdx hg) chat data hq
      exact ⟨m, hdata, hm, htr hsent⟩
    · obtain rfl := List.mem_singleton.mp hg
      obtain ⟨m, hdata, hm, hsent⟩ := hw.saves f hmem chat data hq
      exact ⟨m, hdata, hm, htr hsent⟩
  · rw [handle_trace] at ht ht'
    rcases List.mem_append.mp ht with ht | ht <;> rcases List.mem_append.mp ht' with ht' | ht'
    · exact hw.unique t ht t' ht' chat k data data' he he'
    · obtain ⟨o', ho', rfl⟩ := List.mem_map.mp ht'
      obtain rfl : o' = .stored chat k data' := he'
      exact absurd he ((hunique chat k data' ho').2 t ht data)
    · obtain ⟨o, ho, rfl⟩ := List.mem_map.mp ht
      obtain rfl : o = .stored chat k data := he
      exact absurd he' ((hunique chat k data ho).2 t' ht' data')
    · obtain ⟨o, ho, rfl⟩ := List.mem_map.mp ht
      obtain rfl : o = .stored chat k data := he
      obtain ⟨o', ho', rfl⟩ := List.mem_map.mp ht'
      obtain rfl : o' = .stored chat k data' := he'
      have hone := (hunique chat k data ho).1
      rw [hone, List.mem_singleton, ChatEffect.stored.injEq] at ho'
      exact ho'.2.2

/-- The documents after a change of the thread of a document that is there. -/
lemma mem_setThread_of_document {c : ChatsCollection} {chat : ℕ} {thread : List MessageData}
    {d d' : ChatDoc} (hd : c.document chat = some d) (h : d' ∈ (c.setThread chat thread).docs) :
    d' ∈ c.docs ∨ d' = { d with thread := thread, past := d.thread :: d.past } := by
  rcases mem_setThread h with h | ⟨d₀, hd₀, hid, rfl⟩
  · exact Or.inl h
  · obtain rfl : d = d₀ := by
      rw [ChatsCollection.document_eq_some_iff.mpr ⟨hd₀, hid⟩] at hd
      exact (Option.some.inj hd).symm
    exact Or.inr rfl

/-- A changed thread that is not shorter keeps the numbers used. -/
lemma setThread_grows {c : ChatsCollection} {chat : ℕ} {thread : List MessageData} {d d' : ChatDoc}
    (hd : c.document chat = some d) (hlen : d.thread.length ≤ thread.length) (hd' : d' ∈ c.docs) :
    ∃ d'' ∈ (c.setThread chat thread).docs, d''.documentID = d'.documentID ∧
      d'.thread.length ≤ d''.thread.length := by
  refine ⟨ChatsCollection.changeThread chat thread d', List.mem_map_of_mem hd', by simp, ?_⟩
  unfold ChatsCollection.changeThread
  split_ifs with hid
  · obtain rfl : d = d' := by
      rw [ChatsCollection.document_eq_some_iff.mpr ⟨hd', hid⟩] at hd
      exact (Option.some.inj hd).symm
    exact hlen
  · exact le_rfl

section Serve

variable {n : ℕ} {f : Flight ChatRequest ChatAnswer}

/-- What is stored stays genuine. -/
lemma ThreadsInv.genuine_handle (hw : ThreadsInv w)
    (v : Served ChatsCollection ChatAnswer ChatEffect) {d : ChatDoc} (hd : d ∈ w.server.docs)
    {thread : List MessageData} (hthread : thread ∈ d.thread :: d.past) {k : ℕ} {data : MessageData}
    (hdata : thread[k]? = some data) : Genuine (w.handle n f v).trace d.documentID k data :=
  (hw.threads d hd thread hthread k data hdata).mono (List.subset_append_left _ _)

/-- A changed thread keeps the threads genuine if its documents are. -/
lemma ThreadsInv.genuine_setThread (hw : ThreadsInv w)
    (v : Served ChatsCollection ChatAnswer ChatEffect) {chat : ℕ} {d : ChatDoc}
    {thread : List MessageData} (hd : w.server.document chat = some d)
    (hgenuine : ∀ k data, thread[k]? = some data → Genuine (w.handle n f v).trace chat k data) :
    ∀ d' ∈ (w.server.setThread chat thread).docs, ∀ thread' ∈ d'.thread :: d'.past,
      ∀ k data, thread'[k]? = some data →
        Genuine (w.handle n f v).trace d'.documentID k data := by
  intro d' hd' thread' hthread' k data hdata
  obtain ⟨hdmem, rfl⟩ := ChatsCollection.document_eq_some_iff.mp hd
  rcases mem_setThread_of_document hd hd' with hd' | rfl
  · exact hw.genuine_handle v hd' hthread' hdata
  · rcases List.mem_cons.mp hthread' with rfl | hthread'
    · exact hgenuine k data hdata
    · exact hw.genuine_handle v hdmem hthread' hdata

/-- A changed thread that is not shorter keeps the numbers used below its length. -/
lemma ThreadsInv.numbers_setThread (hw : ThreadsInv w) {chat : ℕ} {d : ChatDoc}
    {thread : List MessageData} (hd : w.server.document chat = some d)
    (hlen : d.thread.length ≤ thread.length) {t : Entry ChatEffect} (ht : t ∈ w.trace)
    {chat' k : ℕ} {data : MessageData} (he : t.effect = .stored chat' k data) :
    ∃ d' ∈ (w.server.setThread chat thread).docs, d'.documentID = chat' ∧ k < d'.thread.length := by
  obtain ⟨d', hd', hid', hlt⟩ := hw.numbers t ht chat' k data he
  obtain ⟨d'', hd'', hid'', hle⟩ := setThread_grows hd hlen hd'
  exact ⟨d'', hd'', hid''.trans hid', by omega⟩

/-- A new chat has an empty thread. -/
lemma ThreadsInv.createNewChat (hw : ThreadsInv w) (flight : w.flights[n]? = some f)
    (users : List String) (position : ℕ) :
    ThreadsInv (w.handle n f ⟨w.server.addDocument users position, .written, []⟩) := by
  refine hw.handle flight (fun d hd thread hthread k data hdata => ?_) (by simp)
    (fun t ht chat k data he => ?_) (by simp)
  · rcases ChatsCollection.mem_addDocument.mp hd with rfl | hd
    · rw [List.mem_singleton.mp hthread] at hdata
      cases hdata
    · exact hw.genuine_handle _ hd hthread hdata
  · obtain ⟨d, hd, hrest⟩ := hw.numbers t (by simpa using ht) chat k data he
    exact ⟨d, ChatsCollection.mem_addDocument.mpr (Or.inr hd), hrest⟩

/-- A message becomes the next document of its thread. -/
lemma ThreadsInv.save (hw : ThreadsInv w) (flight : w.flights[n]? = some f) {chat : ℕ}
    {data : MessageData} {d : ChatDoc} (hq : f.request = .save chat data)
    (hd : w.server.document chat = some d) :
    ThreadsInv (w.handle n f ⟨w.server.setThread chat (d.thread ++ [data]), .written,
      [.stored chat d.thread.length data]⟩) := by
  obtain ⟨hdmem, hid⟩ := ChatsCollection.document_eq_some_iff.mp hd
  obtain ⟨m, hdata, hm, hsent⟩ := hw.saves f (mem_of_flight flight) chat data hq
  refine hw.handle flight (hw.genuine_setThread _ hd fun i data' hi => ?_) (by simp)
    (fun t ht chat' i data' he => ?_) (fun chat' i data' he => ?_)
  · rcases Nat.lt_or_ge i d.thread.length with hlt | hge
    · rw [List.getElem?_append_left hlt] at hi
      exact hid ▸ hw.genuine_handle _ hdmem (List.mem_cons_self ..) hi
    · obtain ⟨rfl, rfl⟩ : i = d.thread.length ∧ data = data' := by
        rw [List.getElem?_append_right hge, List.getElem?_singleton] at hi
        split_ifs at hi with hzero
        exact ⟨by omega, Option.some.inj hi⟩
      refine ⟨m, m, hdata, ⟨f.owner, f.root, ?_, ?_⟩, .refl m, fun htrue => ?_⟩
      · exact List.mem_append_left _ hsent
      · exact List.mem_append_right _ (by simp [hdata])
      · rw [hm] at htrue
        cases htrue
  · rw [handle_trace] at ht
    rcases List.mem_append.mp ht with ht | ht
    · exact hw.numbers_setThread hd (by simp) ht he
    · obtain ⟨o, ho, rfl⟩ := List.mem_map.mp ht
      obtain rfl : o = .stored chat d.thread.length data := by simpa using ho
      obtain ⟨rfl, rfl, rfl⟩ := ChatEffect.stored.inj he
      refine ⟨ChatsCollection.changeThread chat (d.thread ++ [data]) d,
        List.mem_map_of_mem hdmem, by simp [hid], ?_⟩
      simp [ChatsCollection.changeThread, hid]
  · -- all the numbers used so far are smaller
    obtain ⟨rfl, rfl, rfl⟩ := ChatEffect.stored.inj (List.mem_singleton.mp he)
    refine ⟨rfl, fun t ht data'' hstored => ?_⟩
    obtain ⟨d', hd', hid', hlt⟩ := hw.numbers t ht chat' d.thread.length data'' hstored
    have hsame := ChatsCollection.document_eq_some_iff.mpr ⟨hd', hid'⟩
    rw [hd] at hsame
    rw [Option.some.inj hsame] at hlt
    omega

/-- A receipt rewrites its document. -/
lemma ThreadsInv.updateData (hw : ThreadsInv w) (flight : w.flights[n]? = some f) {chat k : ℕ}
    {data : MessageData} {d : ChatDoc} (hq : f.request = .updateData chat k data)
    (hd : w.server.document chat = some d) :
    ThreadsInv (w.handle n f ⟨w.server.setThread chat
      (d.thread.modify k fun old => old.updateData data), .written, []⟩) := by
  obtain ⟨hdmem, hid⟩ := ChatsCollection.document_eq_some_iff.mp hd
  have hreceipt := (hw.updates f (mem_of_flight flight) chat k data hq).genuine
  refine hw.handle flight (hw.genuine_setThread _ hd fun i data' hi => ?_) (by simp)
    (fun t ht chat' i data' he => ?_) (by simp)
  · rw [List.getElem?_modify] at hi
    obtain ⟨old, hold, rfl⟩ := Option.map_eq_some_iff.mp hi
    by_cases hki : k = i
    · subst hki
      obtain ⟨m, m₀, rfl, -⟩ := id hreceipt
      simpa using hreceipt
    · simp only [hki, if_false]
      exact hid ▸ hw.genuine_handle _ hdmem (List.mem_cons_self ..) hold
  · exact hw.numbers_setThread hd (by simp) (by simpa using ht) he

/-- The server's handling of a request keeps the invariant. -/
lemma ThreadsInv.serve (hw : ThreadsInv w) (flight : w.flights[n]? = some f) (e : ChatChoice) :
    ThreadsInv (w.handle n f (w.server.serve f.request e)) := by
  rcases w.server.serve_cases f.request e with ⟨users, position, -, -, hv⟩ |
    ⟨chat, data, d, hq, hd, hv⟩ | ⟨chat, k, data, d, hq, hd, -, hv⟩ | ⟨-, hserver, -, heff⟩
  · exact hv ▸ hw.createNewChat flight users position
  · exact hv ▸ hw.save flight hq hd
  · exact hv ▸ hw.updateData flight hq hd
  · -- the collection is as it was, and a snapshot is a version of a thread
    have hnone : ∀ chat k data, .stored chat k data ∉ (w.server.serve f.request e).effects := by
      intro chat k data
      rw [heff]
      cases f.request <;> simp [ChatRequest.failed]
    refine hw.handle flight ?_ (fun chat documents hq ha p hp => ?_)
      (fun t ht chat k data he => ?_) (fun chat k data he => absurd he (hnone chat k data))
    · rw [hserver]
      exact fun d hd thread hthread k data hdata => hw.genuine_handle _ hd hthread hdata
    · rw [hq] at ha
      cases e with
      | success age =>
        obtain rfl := ChatAnswer.thread.inj ha
        have hdata := mem_orderedByCreated hp
        cases hd : w.server.document chat with
        | none => simp [hd] at hdata
        | some d =>
          obtain ⟨hdmem, rfl⟩ := ChatsCollection.document_eq_some_iff.mp hd
          rw [hd] at hdata
          exact hw.threads d hdmem _ (version_mem d age) p.1 p.2 hdata
      | error => cases ha
      | neither => cases ha
    · rw [handle_trace] at ht
      rw [hserver]
      rcases List.mem_append.mp ht with ht | ht
      · exact hw.numbers t ht chat k data he
      · obtain ⟨o, ho, rfl⟩ := List.mem_map.mp ht
        exact absurd (he ▸ ho) (hnone chat k data)

end Serve

end

/-! ## The runs -/

variable {h : List (ChatWorld × ChatEvent)} {w : ChatWorld}

/-- What the user does keeps the invariant: a message is saved as it is sent. -/
lemma ThreadsInv.ui (hw : ThreadsInv w) {vc : ChatViewController} {u : ChatTap} {r : ChatReaction}
    (reacts : chatSystem.ui vc u = some r) (i root : ℕ) : ThreadsInv (w.react i root r) := by
  rcases ui_cases reacts with ⟨text, uuidString, now, -, rfl⟩ | ⟨-, rfl⟩
  · obtain ⟨message, hread, -, -, heq⟩ := vc.didPressSendButtonWith_eq text uuidString now
    rw [heq]
    refine hw.react (by simp) (by simp) fun chat data hq => ?_
    obtain ⟨chat', hchat, hdata⟩ := List.mem_map.mp hq
    obtain ⟨rfl, rfl⟩ := ChatRequest.save.inj hdata
    rw [Option.mem_toList] at hchat
    exact ⟨message, rfl, hread, by rw [hchat]; exact List.mem_singleton_self _⟩
  · exact hw.react (by simp) (by simp) (by simp)

/-- A reaction that only looks for chats and listens to them keeps the invariant. -/
lemma ThreadsInv.quiet (hw : ThreadsInv w) {i root : ℕ} {r : ChatReaction} (heff : r.effects = [])
    (hreq : ∀ q ∈ r.requests, q.Looks ∨ ∃ chat, q = .listen chat) :
    ThreadsInv (w.react i root r) := by
  refine hw.react (by simp [heff]) (fun chat i data hq => ?_) fun chat data hq => ?_
  · rcases hreq _ hq with hlooks | ⟨chat', hchat⟩
    · exact absurd hlooks id
    · cases hchat
  · rcases hreq _ hq with hlooks | ⟨chat', hchat⟩
    · exact absurd hlooks id
    · cases hchat

/-- A callback keeps the invariant: a receipt is sent for a message of a genuine snapshot. -/
lemma ThreadsInv.deliver (hw : ThreadsInv w) {k : ℕ} {f : Flight ChatRequest ChatAnswer}
    {a : ChatAnswer} (flight : w.flights[k]? = some f) (answered : f.answer = some a)
    (vc : ChatViewController) :
    ThreadsInv ((w.land k).react f.owner f.root (vc.recv f.request a)) := by
  have hland := hw.land k
  rcases vc.recv_cases f.request a with ⟨uid, documents, -, -, hv⟩ | ⟨users, -, hv⟩ |
    ⟨chat, documents, hq, rfl, -, hv⟩ | hv
  · rw [hv]
    rcases vc.chatsFound_cases documents with ⟨doc, -, -, hc⟩ | hc
    · exact hland.quiet (by rw [hc]) (by simp [hc])
    · exact hland.quiet (by rw [hc]; rfl)
        (by simp [hc, ChatViewController.createNewChat, ChatRequest.Looks])
  · rw [hv]
    exact hland.quiet rfl (by simp [loadChat, ChatRequest.Looks])
  · obtain ⟨-, heff, hreq⟩ := vc.threadChanged_cases chat documents
    rw [hv]
    refine hland.react (by simp [heff]) (fun chat' i data hupdate => ?_)
      fun chat' data hsave => ?_
    · rcases hreq _ hupdate with hlisten | ⟨doc, hdoc, hreceipt⟩
      · cases hlisten
      · obtain ⟨msg, hmsg, ⟨hsender, -⟩, hupd⟩ := receipt_eq_some hreceipt
        obtain ⟨rfl, rfl, rfl⟩ := ChatRequest.updateData.inj hupd
        obtain ⟨m, m₀, hdata, hsent, hsame, -⟩ := hw.snapshots f (mem_of_flight flight) chat'
          documents hq answered doc hdoc
        obtain rfl : msg = m := Message.dictionary_inj (hmsg.symm.trans hdata)
        refine ⟨{ msg with isRead := true }, m₀, rfl, rfl,
          hsent.mono (List.subset_append_left _ _), hsame, f.owner, f.root,
          vc.currentUser.uid, documents, ?_, hsender.symm, doc.2, hdoc⟩
        exact List.mem_append_right _ (by simp [heff])
    · rcases hreq _ hsave with hlisten | ⟨doc, -, hreceipt⟩
      · cases hlisten
      · obtain ⟨msg, -, -, hupd⟩ := receipt_eq_some hreceipt
        cases hupd
  · rw [hv]
    exact hland.quiet rfl (by simp)

/-- **All data are genuine**, in every state of every run.

**Proof sketch.** A listener receives genuine data, and its receipts are for documents of the
snapshot that are not of its own user, who has thereby received them. -/
theorem chatSystem_threads (hr : chatSystem.RunFrom .empty h w) : ThreadsInv w := by
  induction hr with
  | nil => exact ⟨by simp [ChatsCollection.empty], by simp, by simp, by simp, by simp, by simp⟩
  | @snoc h w e w' hr hs hw =>
    cases took_of_step hs with
    | boot free =>
      exact (hw.react (by simp [chatSystem, viewDidLoad, loadChat])
        (by simp [chatSystem, viewDidLoad, loadChat])
        (by simp [chatSystem, viewDidLoad, loadChat])).tick
    | ui client reacts => exact (hw.ui reacts _ _).tick
    | @serve k e f flight unanswered => exact hw.serve flight e
    | @deliver k x f a vc flight answered client => exact hw.deliver flight answered vc

/-- A number of a thread has one message. -/
lemma SentAs.unique (hw : ThreadsInv w) {chat k : ℕ} {m m' : Message}
    (h : SentAs w.trace chat k m) (h' : SentAs w.trace chat k m') : m' = m := by
  obtain ⟨i, r, -, hstored⟩ := h
  obtain ⟨i', r', -, hstored'⟩ := h'
  exact Message.dictionary_inj (hw.unique _ hstored _ hstored' chat k _ _ rfl rfl)

/-- In the second state every message of the first is as it was, and read if it was. -/
def KeepsMessages (w w' : ChatWorld) : Prop :=
  ∀ chat k m, w.server.messageAt chat k = some m.dictionary → ∃ m' : Message,
    w'.server.messageAt chat k = some m'.dictionary ∧ SameMessage m m' ∧
      (m.isRead = true → m'.isRead = true)

/-- A message of a thread, by its document. -/
lemma messageAt_eq_some {c : ChatsCollection} {chat k : ℕ} {data : MessageData} :
    c.messageAt chat k = some data ↔
      ∃ d, c.document chat = some d ∧ d.thread[k]? = some data := Option.bind_eq_some_iff

/-- A changed thread, and the others. -/
lemma document_setThread {c : ChatsCollection} {chat : ℕ} {thread : List MessageData}
    {chat' : ℕ} : (c.setThread chat thread).document chat' =
      (c.document chat').map (ChatsCollection.changeThread chat thread) := by
  unfold ChatsCollection.document ChatsCollection.setThread
  rw [List.find?_map]
  congr 2
  funext d
  simp

/-- The messages of a chat whose document is known. -/
lemma messageAt_of_document {c : ChatsCollection} {chat : ℕ} {d : ChatDoc}
    (hd : c.document chat = some d) (k : ℕ) : c.messageAt chat k = d.thread[k]? := by
  rw [ChatsCollection.messageAt, hd]
  rfl

lemma messageAt_setThread {c : ChatsCollection} {chat : ℕ} {thread : List MessageData}
    {d : ChatDoc} (hd : c.document chat = some d) {chat' k : ℕ} :
    (c.setThread chat thread).messageAt chat' k =
      if chat' = chat then thread[k]? else c.messageAt chat' k := by
  rw [ChatsCollection.messageAt, document_setThread, ChatsCollection.messageAt]
  split_ifs with hchat
  · subst hchat
    have hid := (ChatsCollection.document_eq_some_iff.mp hd).2
    simp [hd, ChatsCollection.changeThread, hid]
  · cases hd' : c.document chat' with
    | none => rfl
    | some d' =>
      have hid := (ChatsCollection.document_eq_some_iff.mp hd').2
      have hne : d'.documentID ≠ chat := hid ▸ hchat
      simp [ChatsCollection.changeThread, hne]

lemma messageAt_addDocument {c : ChatsCollection} {users : List String} {position chat k : ℕ}
    {data : MessageData} (h : c.messageAt chat k = some data) :
    (c.addDocument users position).messageAt chat k = some data := by
  obtain ⟨d, hd, hk⟩ := messageAt_eq_some.mp h
  obtain ⟨hmem, hid⟩ := ChatsCollection.document_eq_some_iff.mp hd
  exact messageAt_eq_some.mpr ⟨d, ChatsCollection.document_eq_some_iff.mpr
    ⟨ChatsCollection.mem_addDocument.mpr (Or.inr hmem), hid⟩, hk⟩

/-- A step keeps the messages. -/
lemma keepsMessages_step (hw : ThreadsInv w) {e : ChatEvent} {w' : ChatWorld}
    (hs : chatSystem.step w e = some w') : KeepsMessages w w' := by
  have hstill : ∀ w' : ChatWorld, w'.server = w.server → KeepsMessages w w' := by
    intro w' hserver chat k m hm
    exact ⟨m, hserver ▸ hm, .refl m, id⟩
  cases took_of_step hs with
  | boot free => exact hstill _ rfl
  | ui client reacts => exact hstill _ rfl
  | deliver flight answered client => exact hstill _ rfl
  | @serve n e f flight unanswered =>
    show KeepsMessages w (w.handle n f (w.server.serve f.request e))
    rcases w.server.serve_cases f.request e with ⟨users, position, -, -, hv⟩ |
      ⟨chat, data, d, -, hd, hv⟩ | ⟨chat, k, data, d, hq, hd, -, hv⟩ | ⟨-, hserver, -⟩
    · rw [hv]
      exact fun chat k m hm => ⟨m, messageAt_addDocument hm, .refl m, id⟩
    · rw [hv]
      intro chat' k m hm
      refine ⟨m, ?_, .refl m, id⟩
      rw [handle_server, messageAt_setThread hd]
      split_ifs with hchat
      · subst hchat
        rw [messageAt_of_document hd] at hm
        obtain ⟨hlt, -⟩ := List.getElem?_eq_some_iff.mp hm
        rw [List.getElem?_append_left hlt]
        exact hm
      · exact hm
    · rw [hv]
      intro chat' i m hm
      have hpair : (w.handle n f ⟨w.server.setThread chat
          (d.thread.modify k fun old => old.updateData data), .written, []⟩).server.messageAt
            chat' i = if chat' = chat then
              (d.thread.modify k fun old => old.updateData data)[i]?
            else w.server.messageAt chat' i := messageAt_setThread hd
      rw [hpair]
      split_ifs with hchat
      · subst hchat
        rw [messageAt_of_document hd] at hm
        rw [List.getElem?_modify, hm]
        by_cases hki : k = i
        · -- the receipt is for the message that was sent
          subst hki
          obtain ⟨m', m₀, rfl, hread, hsent, hsame, -⟩ :=
            hw.updates f (mem_of_flight flight) chat' k data hq
          obtain ⟨hdmem, rfl⟩ := ChatsCollection.document_eq_some_iff.mp hd
          obtain ⟨m₁, m₀', hm₁, hsent', hsame', -⟩ :=
            hw.threads d hdmem _ (List.mem_cons_self ..) k m.dictionary hm
          obtain rfl := Message.dictionary_inj hm₁
          obtain rfl := SentAs.unique hw hsent hsent'
          exact ⟨m', by simp, hsame'.symm.trans hsame, fun _ => hread⟩
        · exact ⟨m, by simp [hki], .refl m, id⟩
      · exact ⟨m, hm, .refl m, id⟩
    · exact hstill _ hserver

/-- Each stored message is one that was sent, with everything but `isRead` as it was sent, and it
is read only if a screen of another user than its sender, attached to the thread, has received
it. -/
def MessagesSound (w : ChatWorld) : Prop :=
  ∀ chat k data, w.server.messageAt chat k = some data → ∃ m m₀ : Message,
    data = m.dictionary ∧ SentAs w.trace chat k m₀ ∧ SameMessage m₀ m ∧
      (m.isRead = true → ∃ i vc documents, w.clients i = some vc ∧
        vc.docReference = some chat ∧ vc.currentUser.uid ≠ m.senderID ∧
        .received vc.currentUser.uid chat documents ∈ w.effectsOf i ∧
          ∃ data, (k, data) ∈ documents)

/-- **Read receipts are sound, and messages immutable.** In every state of every run, each
stored message is one that was sent, and read only if it was received. And every message that
was stored in an earlier state of the run is stored as it was, and read if it was.

**Proof sketch.** Stored data are genuine (`chatSystem_threads`), and a step keeps the messages,
since a receipt has the data of the message sent (`keepsMessages_step`). -/
theorem receipts_sound (hr : chatSystem.RunFrom .empty h w) :
    MessagesSound w ∧ ∀ p ∈ h, KeepsMessages p.1 w := by
  have hw := chatSystem_threads hr
  constructor
  · intro chat k data hdata
    obtain ⟨d, hd, hk⟩ := messageAt_eq_some.mp hdata
    obtain ⟨hdmem, rfl⟩ := ChatsCollection.document_eq_some_iff.mp hd
    obtain ⟨m, m₀, hm, hsent, hsame, hread⟩ :=
      hw.threads d hdmem _ (List.mem_cons_self ..) k data hk
    refine ⟨m, m₀, hm, hsent, hsame, fun htrue => ?_⟩
    obtain ⟨i, r, uid, documents, hreceived, hother, hmem⟩ := hread htrue
    have heffect : .received uid d.documentID documents ∈ w.effectsOf i :=
      mem_effectsOf.mpr ⟨_, hreceived, rfl, rfl⟩
    have hinv := chatSystem_attached hr
    cases hc : w.clients i with
    | none =>
      rw [hinv.fresh i hc] at heffect
      cases heffect
    | some vc =>
      obtain ⟨rfl, hdoc⟩ := (hinv.client i vc hc).received uid d.documentID documents heffect
      exact ⟨i, vc, documents, hc, hdoc, hother, heffect, hmem⟩
  · refine hr.related (fun w₁ w₂ w₃ h₁ h₂ chat k m hm => ?_) fun _ w e w' hr hs =>
      keepsMessages_step (chatSystem_threads hr) hs
    obtain ⟨m', hm', hsame, hread⟩ := h₁ chat k m hm
    obtain ⟨m'', hm'', hsame', hread'⟩ := h₂ chat k m' hm'
    exact ⟨m'', hm'', hsame.trans hsame', fun htrue => hread' (hread htrue)⟩

/-- Alice writes to Bob, who receives the message and marks it as read. -/
theorem receipts_sound_alice_bob : ∃ h w, chatSystem.RunFrom .empty h w ∧
    w.server.messageAt 0 0 =
      some (⟨"1", "Hello", 5, "alice", "Alice A", true⟩ : Message).dictionary ∧
    MessagesSound w ∧ ∀ p ∈ h, KeepsMessages p.1 w := by
  have he : (exec chatSystem.step (start .empty)
      [.boot 0 (alice, bob), .serve 0 (.success 0), .deliver 0 (), .serve 0 (.success 0),
        .deliver 0 (), .serve 0 (.success 0), .deliver 0 (),
        .ui 0 (.didPressSendButtonWith "Hello" "1" 5), .serve 1 (.success 0),
        .boot 1 (bob, alice), .serve 2 (.success 0), .deliver 2 (), .serve 2 (.success 0),
        .deliver 2 (), .serve 2 (.success 0)]).map
      (fun w => w.server.messageAt 0 0) =
      some (some (⟨"1", "Hello", 5, "alice", "Alice A", true⟩ : Message).dictionary) := by
    decide +kernel
  obtain ⟨h, w, hr, -, hw⟩ := run_of_observed he
  exact ⟨h, w, hr, hw, receipts_sound hr⟩

end Aoun
