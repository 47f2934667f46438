import Aoun.Note.Purchase

/-!
# Where the entries of `purchasedNotes` come from

An entry for a note opens it on every screen of its user, not only on the one that bought it:
`purchased(note:)` looks it up in the collection. So what makes access safe is a property of the
whole system: the entries in the collection were there at the start, or each of them was stored by
a checkout that succeeded, for the same account and the same note, and no checkout stored two.

## Main definitions

* `Aoun.stored` — the entry that an effect stores.
* `Aoun.DetailedNoteViewController.Traced` — the users documents a screen holds, and the entries
  it was returned, are those of the collections.
* `Aoun.PaidFor` — the user of a screen has an entry from the start, or has paid on some screen;
  `Aoun.Bought` — the same for an account and a note.

## Main results

* `Aoun.entries_paid` — the collection is what it was, with one entry at most for every checkout
  that succeeded.
* `Aoun.access_paid` — access to a note that has a price was paid for, on this screen or on
  another one of the same account.
-/

set_option relaxedAutoImplicit false
set_option autoImplicit false

namespace Aoun

open AsyncSystem AsyncSystem.World StepSystem DetailedNoteViewController

/-- The entry that the effect stores. -/
def stored (o : NoteEffect) : Option PurchasedNote := (entries o).map Prod.snd

lemma stored_of_rest {o : NoteEffect} (h : ¬ o.OfSale) : stored o = none := by
  cases o <;> simp_all [stored, entries, NoteEffect.OfSale]

lemma stored_eq_some {o : NoteEffect} {p : PurchasedNote} (h : stored o = some p) :
    ∃ user, o = .entered user p := by
  cases o with
  | entered user entry =>
    obtain rfl : entry = p := by simpa [stored, entries] using h
    exact ⟨user, rfl⟩
  | _ => cases h

/-- Effects that close no sale store nothing. -/
lemma filterMap_stored_of_rest {t : List NoteEffect} (h : ∀ o ∈ t, ¬ o.OfSale) :
    t.filterMap stored = [] :=
  List.filterMap_eq_nil_iff.mpr fun o ho => stored_of_rest (h o ho)

/-- The server appends to the collection what its effects store. -/
lemma serve_purchasedNotes (s : NoteServer) (q : NoteRequest) (e : Outcome) :
    (s.serve q e).server.purchasedNotes =
      s.purchasedNotes ++ (s.serve q e).effects.filterMap stored := by
  cases e with
  | failure e => cases q <;> simp [NoteServer.serve]
  | neither => cases q <;> simp [NoteServer.serve]
  | success =>
    cases q with
    | updateData document earned price =>
      cases hd : s.users.document document <;> simp [NoteServer.serve, hd, stored, entries]
    | _ => simp [NoteServer.serve, stored, entries]

/-- No entry is ever taken out. -/
lemma mem_serve_purchasedNotes {s : NoteServer} {p : PurchasedNote} (hp : p ∈ s.purchasedNotes)
    (q : NoteRequest) (e : Outcome) : p ∈ (s.serve q e).server.purchasedNotes := by
  rw [serve_purchasedNotes]
  exact List.mem_append_left _ hp

/-! ## The collection -/

section

variable {urlOf : String → Option URL} {s : NoteServer} {h : List (NoteWorld × NoteEvent)}
  {w : NoteWorld}

/-- What a trace stores after a reaction. -/
lemma filterMap_stored_react (w : NoteWorld) (i root : ℕ) (r : NoteReaction) :
    (w.react i root r).trace.filterMap (fun t => stored t.effect) =
      w.trace.filterMap (fun t => stored t.effect) ++ r.effects.filterMap stored := by
  simp [List.filterMap_map]

/-- No callback stores an entry: only the server does. -/
lemma recv_stored (c : DetailedNoteViewController) (q : NoteRequest) (a : NoteAnswer)
    (now : Timestamp) : (c.recv q a now).effects.filterMap stored = [] := by
  rcases c.recv_cases q a now with
    ⟨amount, url, -, -, hr⟩ | ⟨uid, price, documents, -, -, hr⟩ | ⟨-, -, -, heff⟩
  · rw [hr, success_effects]
    unfold updatePrice
    cases c.note.userId <;> simp [stored, entries]
  · rw [hr]
    unfold updatePriceFound
    cases documents <;> rfl
  · exact filterMap_stored_of_rest heff

/-- The collection is what it was at the start, with the entries stored since, in their order.

**Proof sketch.** Induction on the run: only the server stores, and it appends. -/
lemma purchasedNotes_eq (hr : (noteSystem urlOf).RunFrom s h w) :
    w.server.purchasedNotes =
      s.purchasedNotes ++ w.trace.filterMap fun t => stored t.effect := by
  refine hr.invariant (I := fun w => w.server.purchasedNotes =
    s.purchasedNotes ++ w.trace.filterMap fun t => stored t.effect) (by simp)
    fun w e w' hw hs => ?_
  cases took_of_step hs with
  | @boot i a free =>
    have hnone : (viewDidLoad a.1 a.2).effects.filterMap stored = [] := by
      rw [(viewDidLoad_rest a.1 a.2).2]; rfl
    show w.server.purchasedNotes = _
    rw [tick_trace, filterMap_stored_react]
    simp only [noteSystem, hnone, List.append_nil, hw]
  | @ui i u c r client reacts =>
    have hnone := filterMap_stored_of_rest (ui_rest reacts).2
    show w.server.purchasedNotes = _
    rw [tick_trace, filterMap_stored_react, hnone, List.append_nil, hw]
  | @serve k e f flight unanswered =>
    show (w.server.serve f.request e).server.purchasedNotes = _
    rw [serve_purchasedNotes, hw]
    simp [noteSystem, List.filterMap_map]
  | @deliver k now f a c flight answered client =>
    show w.server.purchasedNotes = _
    rw [filterMap_stored_react]
    simp only [noteSystem, recv_stored, List.append_nil, hw, land_trace]

/-- An entry in the collection was there at the start, or it was stored for some screen. -/
lemma entered_of_mem (hr : (noteSystem urlOf).RunFrom s h w) {p : PurchasedNote}
    (hp : p ∈ w.server.purchasedNotes) :
    p ∈ s.purchasedNotes ∨ ∃ j user, .entered user p ∈ w.effectsOf j := by
  rw [purchasedNotes_eq hr] at hp
  refine (List.mem_append.mp hp).imp_right fun hp => ?_
  obtain ⟨t, ht, hst⟩ := List.mem_filterMap.mp hp
  obtain ⟨user, ho⟩ := stored_eq_some hst
  exact ⟨t.owner, user, mem_effectsOf.mpr ⟨t, ht, rfl, ho⟩⟩

open Classical in
/-- A purchase stores at most as many entries as its checkouts have succeeded. -/
lemma entries_le_successes (hr : (noteSystem urlOf).RunFrom s h w) (i r : ℕ) :
    ((w.effectsAt i r).filterMap entries).length ≤ total successes (w.effectsAt i r) := by
  have hb := account_balance entry_account hr i r
  rw [total_counted] at hb
  omega

/-- A purchase has at most one success. -/
lemma successes_le_one (hr : (noteSystem urlOf).RunFrom s h w) (i r : ℕ) :
    total successes (w.effectsAt i r) ≤ 1 := by
  have hle := checkouts_le_one hr i r
  rw [total_entryAt] at hle
  omega

end

/-! ## The users documents -/

namespace DetailedNoteViewController

variable (owners : List (String × String)) (vc : DetailedNoteViewController)

/-- The users documents that the request names are documents of the collection. -/
def Names : NoteRequest → Prop
  | .purchased user _ => (user.documentID, user.uid) ∈ owners
  | .addDocument user _ _ => (user.documentID, user.uid) ∈ owners
  | _ => True

/-- What the effect records of the collections is so. -/
def Recalls (s : NoteServer) : NoteEffect → Prop
  | .returned user documents =>
      (user.documentID, user.uid) ∈ owners ∧ ∀ p ∈ documents, p ∈ s.purchasedNotes
  | .entered user _ => (user.documentID, user.uid) ∈ owners
  | .success price => 0 < price
  | _ => True

/-- The users document a screen holds is one of the collection, and its effects record what the
collections have. -/
structure Traced (s : NoteServer) (t : List NoteEffect) : Prop where
  sound : vc.Sound t
  user : ∀ u, vc.user = some u → (u.documentID, u.uid) ∈ owners
  recalls : ∀ o ∈ t, Recalls owners s o

/-- The answer comes from the collections. -/
def Drawn (s : NoteServer) : NoteRequest → NoteAnswer → Prop
  | .loadUserReference _, .users documents => ∀ d ∈ documents, (d.documentID, d.uid) ∈ owners
  | .purchased _ _, .entries documents => ∀ p ∈ documents, p ∈ s.purchasedNotes
  | _, _ => True

variable {owners vc} {s : NoteServer} {t : List NoteEffect}

/-- A reaction that keeps the screen sound keeps it traced, if the user it leaves and the effects
it has are. -/
lemma Traced.react (h : vc.Traced owners s t) {r : NoteReaction} (hs : KeepsSound owners r t)
    (hu : ∀ u, r.client.user = some u → vc.user = some u ∨ (u.documentID, u.uid) ∈ owners)
    (hq : ∀ q ∈ r.requests, Names owners q) (ho : ∀ o ∈ r.effects, Recalls owners s o) :
    Keeps (fun vc t => vc.Traced owners s t) (fun vc q => vc.Asked owners q ∧ Names owners q)
      r t := by
  refine ⟨⟨hs.1, fun u hu' => ?_, fun o ho' => ?_⟩, fun q hq' => ⟨hs.2 q hq', hq q hq'⟩⟩
  · exact (hu u hu').elim (h.user u) id
  · exact (List.mem_append.mp ho').elim (h.recalls o) (ho o)

/-- A launch asks for no users document that it does not have. -/
lemma loadUserReference_named (owners : List (String × String))
    (vc : DetailedNoteViewController) :
    vc.loadUserReference.client.user = vc.user ∧
      (∀ q ∈ vc.loadUserReference.requests, Names owners q) ∧
      vc.loadUserReference.effects = [] := by
  unfold loadUserReference
  split <;> simp [Names]

lemma complition_named (owners : List (String × String)) (s : NoteServer)
    (vc : DetailedNoteViewController) (b : Bool) : (vc.complition b).client.user = vc.user ∧
    (vc.complition b).requests = [] ∧
    ∀ o ∈ (vc.complition b).effects, Recalls owners s o := by
  cases b <;> simp [complition, updateDownloadButton, Recalls]

/-- `updateReviewButton()` looks for entries under the users document it holds. -/
lemma updateReviewButton_named (s : NoteServer) (vc : DetailedNoteViewController)
    (hu : ∀ u, vc.user = some u → (u.documentID, u.uid) ∈ owners) :
    vc.updateReviewButton.client.user = vc.user ∧
      (∀ q ∈ vc.updateReviewButton.requests, Names owners q) ∧
      ∀ o ∈ vc.updateReviewButton.effects, Recalls owners s o := by
  unfold updateReviewButton purchasedNote
  split_ifs
  · cases huser : vc.user with
    | none => simp [huser]
    | some user =>
      have hc := complition_named owners s vc false
      refine ⟨hc.1.trans huser, ?_, ?_⟩
      · simpa [hc.2.1, Names] using hu user huser
      · simpa using hc.2.2
  · simp [Recalls]

/-- The closures of a successful checkout store the entry under the users document held. -/
lemma success_named (h : vc.Traced owners s t) (h0 : 0 < vc.priceOfNote) (url : URL)
    (now : Timestamp) : (vc.success url now).client.user = vc.user ∧
      (∀ q ∈ (vc.success url now).requests, Names owners q) ∧
      ∀ o ∈ (vc.success url now).effects, Recalls owners s o := by
  refine ⟨by rw [success_client]; rfl, fun q hq => ?_, fun o ho => ?_⟩
  · rw [success_requests, List.mem_append, List.mem_append, List.mem_singleton] at hq
    rcases hq with hq | hq | rfl
    · unfold updatePrice at hq
      cases hn : vc.note.userId <;> simp_all [Names]
    · unfold updateNoteDownload at hq
      cases hu : vc.user with
      | none => simp [hu] at hq
      | some user =>
        rw [hu] at hq
        rw [List.mem_singleton.mp hq]
        exact h.user user hu
    · trivial
  · rw [success_effects, List.mem_cons, List.mem_append, List.mem_singleton] at ho
    rcases ho with rfl | ho | rfl
    · exact h.sound.price ▸ h0
    · unfold updatePrice at ho
      cases hn : vc.note.userId <;> simp_all [Recalls]
    · trivial

/-- A reaction to the user keeps a screen traced. -/
lemma Traced.ui (h : vc.Traced owners s t) {urlOf : String → Option URL} {u : NoteTap}
    {r : NoteReaction} (hr : vc.ui urlOf u = some r) :
    Keeps (fun vc t => vc.Traced owners s t) (fun vc q => vc.Asked owners q ∧ Names owners q)
      r t := by
  refine h.react (ui_keeps h.sound hr) ?_ ?_ ?_
  all_goals rcases ui_cases hr with rfl | ⟨url, -, rfl⟩ | rfl | ⟨presented, dismissed, -, rfl⟩
  · -- the user of the screen
    unfold downloadButtonTouched
    split
    · exact fun _ => Or.inl
    · split_ifs <;> exact fun _ => Or.inl
  · exact fun _ => Or.inl
  · rw [(loadUserReference_named owners _).1]
    exact fun _ => Or.inl
  · exact fun _ => Or.inl
  · -- its requests
    unfold downloadButtonTouched
    split
    · simp
    · split_ifs <;> simp [triggerPurchase, download, Names]
  · simp [paymentAction, Names]
  · exact (loadUserReference_named owners _).2.1
  · simp
  · -- its effects
    unfold downloadButtonTouched
    split
    · simp
    · split_ifs <;> simp [triggerPurchase, download, Recalls]
  · simp [paymentAction, Recalls]
  · simp [(loadUserReference_named owners _).2.2]
  · simp

/-- A callback keeps a screen traced. -/
lemma Traced.recv (h : vc.Traced owners s t) {q : NoteRequest} {a : NoteAnswer}
    (now : Timestamp) (hq : vc.Asked owners q) (hn : Names owners q) (ha : Answered owners q a)
    (hd : Drawn owners s q a) :
    Keeps (fun vc t => vc.Traced owners s t) (fun vc q => vc.Asked owners q ∧ Names owners q)
      (vc.recv q a now) t := by
  have hk := recv_keeps now h.sound hq ha
  unfold DetailedNoteViewController.recv at hk ⊢
  split at hk
  case h_1 uid documents =>
    have hfound : ∀ u, documents.head? = some u → (u.documentID, u.uid) ∈ owners :=
      fun u hu => hd u (List.mem_of_mem_head? hu)
    obtain ⟨hu, hreq, heff⟩ := updateReviewButton_named s
      { vc with user := documents.head? } hfound
    exact h.react hk (fun u hu' => Or.inr (hfound u (hu.symm.trans hu'))) hreq heff
  case h_2 user note documents =>
    have hret : Recalls owners s (.returned user documents) := ⟨hn, hd⟩
    have hc := complition_named owners s vc true
    refine h.react hk ?_ ?_ ?_ <;> unfold purchasedReturned <;>
      simp only [Reaction.next_client, Reaction.next_requests, Reaction.next_effects] <;>
      split_ifs
    · exact fun u hu => Or.inl (hc.1 ▸ hu)
    · exact fun _ => Or.inl
    · simp [hc.2.1]
    · simp
    · simpa using ⟨hret, hc.2.2⟩
    · simpa using hret
  case h_3 =>
    have hc := complition_named owners s vc false
    exact h.react hk (fun u hu => Or.inl (hc.1 ▸ hu)) (by simp [hc.2.1]) hc.2.2
  case h_4 amount url =>
    obtain ⟨hu, hreq, heff⟩ := success_named h hq url now
    exact h.react hk (fun u hu' => Or.inl (hu ▸ hu')) hreq heff
  case h_5 => exact h.react hk (fun _ => Or.inl) (by simp [failure]) (by simp [failure])
  case h_6 uid price documents =>
    refine h.react hk ?_ ?_ ?_ <;> unfold updatePriceFound <;> cases documents.head?
    · exact fun _ => Or.inl
    · exact fun _ => Or.inl
    all_goals simp [Names]
  case h_7 => exact h.react hk (fun _ => Or.inl) (by simp) (by simp)
  case h_8 =>
    obtain ⟨hu, hreq, heff⟩ := updateReviewButton_named (s := s)
      { vc with user := none } (by simp)
    exact h.react hk (fun u hu' => absurd (hu.symm.trans hu') (by simp)) hreq heff
  case h_9 => exact h.react hk (fun _ => Or.inl) (by simp) (by simp)

end DetailedNoteViewController

/-- What an effect recorded stays so while the collection only grows. -/
lemma recalls_mono {owners : List (String × String)} {s s' : NoteServer}
    (hs : ∀ p ∈ s.purchasedNotes, p ∈ s'.purchasedNotes) {o : NoteEffect}
    (ho : Recalls owners s o) : Recalls owners s' o := by
  cases o with
  | returned user documents => exact ⟨ho.1, fun p hp => hs p (ho.2 p hp)⟩
  | _ => exact ho

lemma drawn_mono {owners : List (String × String)} {s s' : NoteServer}
    (hs : ∀ p ∈ s.purchasedNotes, p ∈ s'.purchasedNotes) {q : NoteRequest} {a : NoteAnswer}
    (ha : Drawn owners s q a) : Drawn owners s' q a := by
  cases q with
  | purchased user note =>
    cases a with
    | entries documents => exact fun p hp => hs p (ha p hp)
    | _ => trivial
  | loadUserReference uid => cases a <;> exact ha
  | _ => trivial

/-- The server's answers come from the collections. -/
lemma serve_drawn {owners : List (String × String)} {s : NoteServer} (hs : s.users.owners = owners)
    (q : NoteRequest) (e : Outcome) : Drawn owners (s.serve q e).server q (s.serve q e).answer := by
  cases e with
  | failure e => cases q <;> trivial
  | neither => cases q <;> trivial
  | success =>
    cases q with
    | loadUserReference uid =>
      intro d hd
      rw [← hs]
      exact UsersCollection.mem_owners (UsersCollection.mem_withUid.mp hd).1
    | purchased user note => exact fun p hp => (List.mem_filter.mp hp).1
    | _ => trivial

/-- The screens satisfy the conditions of the client rule. -/
lemma traced_rules (urlOf : String → Option URL) (owners : List (String × String)) :
    ClientRules (noteSystem urlOf) (fun _ => False) (fun s => s.users.owners = owners)
      (fun s vc t => vc.Traced owners s t) (fun vc q => vc.Asked owners q ∧ Names owners q)
      (fun s q a => Answered owners q a ∧ Drawn owners s q a) where
  boot := fun s a _ => by
    have hk : KeepsSound owners (viewDidLoad a.1 a.2) [] := viewDidLoad_keeps a.1 a.2
    have hnamed : (viewDidLoad a.1 a.2).client.user = none ∧
        (∀ q ∈ (viewDidLoad a.1 a.2).requests, Names owners q) ∧
        (viewDidLoad a.1 a.2).effects = [] := by
      unfold viewDidLoad
      cases a.1.priceDecimal <;> exact loadUserReference_named owners _
    refine ⟨⟨hk.1, ?_, ?_⟩, fun q hq => ⟨hk.2 q hq, hnamed.2.1 q hq⟩⟩
    · simp [noteSystem, hnamed.1]
    · simp [noteSystem, hnamed.2.2]
  ui := fun _ _ _ _ _ _ h hr =>
    ⟨h.ui hr, fun _ hq => ⟨Asked.of_static (ui_static _ hr) hq.1, hq.2⟩⟩
  serve := fun s q e vc hs hq => by
    have hgrow : ∀ p ∈ s.purchasedNotes, p ∈ (s.serve q e).server.purchasedNotes :=
      fun p hp => mem_serve_purchasedNotes hp q e
    refine ⟨(s.serve_owners q e).trans hs, ⟨serve_answered hs q e, serve_drawn hs q e⟩,
      fun t h => ⟨serve_keeps hs hq.1 e h.sound, h.user, fun o ho => ?_⟩⟩
    rcases List.mem_append.mp ho with ho | ho
    · exact recalls_mono hgrow (h.recalls o ho)
    · rcases NoteServer.mem_serve_effects ho with
        ⟨_, _, _, _, -, -, -, rfl⟩ | ⟨user, note, date, rfl, -, rfl⟩
      · trivial
      · exact hq.2
  others := fun s q e _ _ _ => by
    have hgrow : ∀ p ∈ s.purchasedNotes, p ∈ (s.serve q e).server.purchasedNotes :=
      fun p hp => mem_serve_purchasedNotes hp q e
    exact ⟨fun _ _ h => ⟨h.sound, h.user, fun o ho => recalls_mono hgrow (h.recalls o ho)⟩,
      fun _ _ ha => ⟨ha.1, drawn_mono hgrow ha.2⟩⟩
  recv := fun _ c _ q a now _ h hq ha =>
    ⟨h.recv now hq.1 hq.2 ha.1 ha.2,
      fun _ hq' _ => ⟨Asked.of_static (c.recv_static q a now) hq'.1, hq'.2⟩⟩

section

variable {urlOf : String → Option URL} {s : NoteServer} {h : List (NoteWorld × NoteEvent)}
  {w : NoteWorld}

/-- Every screen is traced in every state of every run. -/
lemma noteSystem_traced (hr : (noteSystem urlOf).RunFrom s h w) {i : ℕ}
    {vc : DetailedNoteViewController} (hi : w.clients i = some vc) :
    vc.Traced s.users.owners w.server (w.effectsOf i) :=
  (client_invariant exclusiveRules_false (traced_rules urlOf s.users.owners) rfl hr).client i vc hi

/-- A client with effects was launched. -/
lemma client_of_effect (hr : (noteSystem urlOf).RunFrom s h w) {i : ℕ} {o : NoteEffect}
    (ho : o ∈ w.effectsOf i) : ∃ vc, w.clients i = some vc := by
  cases hi : w.clients i with
  | some vc => exact ⟨vc, rfl⟩
  | none =>
    rw [effectsOf_fresh hr hi] at ho
    cases ho

/-! ## Entries are paid for -/

/-- **Entries are paid for.** In every run, with whatever failures and in whatever order requests
are handled and answered, the collection is what it was at the start, followed by the entries
stored since. An entry stored for a screen is one under a document of that screen's user, for its
note; and of the requests that go back to one tap of the user, at most one checkout succeeds, and
at most as many entries are stored as checkouts succeed. -/
theorem entries_paid (hr : (noteSystem urlOf).RunFrom s h w) :
    w.server.purchasedNotes =
        (s.purchasedNotes ++ w.trace.filterMap fun t => stored t.effect) ∧
      (∀ i user p, .entered user p ∈ w.effectsOf i → ∃ vc, w.clients i = some vc ∧
        vc.currentUser = some user.uid ∧ p.user = user.documentID ∧
        (p.user, user.uid) ∈ s.users.owners ∧ p.note = vc.note.id) ∧
      ∀ i r, ((w.effectsAt i r).filterMap entries).length ≤
          total successes (w.effectsAt i r) ∧
        total successes (w.effectsAt i r) ≤ 1 := by
  refine ⟨purchasedNotes_eq hr, fun i user p ho => ?_,
    fun i r => ⟨entries_le_successes hr i r, successes_le_one hr i r⟩⟩
  obtain ⟨vc, hi⟩ := client_of_effect hr ho
  have ht := noteSystem_traced hr hi
  obtain ⟨hu, hdoc, hnote⟩ : vc.currentUser = some user.uid ∧ p.user = user.documentID ∧
    p.note = vc.note.id := ht.sound.records _ ho
  have hmem : (user.documentID, user.uid) ∈ s.users.owners := ht.recalls _ ho
  exact ⟨vc, hi, hu, hdoc, hdoc ▸ hmem, hnote⟩

/-- A run in which Alice buys the note on one screen and downloads it on another one. -/
lemma alice_on_two_screens : ∃ h w, (noteSystem some).RunFrom noteShop h w ∧
    w.server.purchasedNotes = [⟨"a", "n", 7⟩] ∧
    (w.clients 1).map (fun vc => (vc.note, vc.currentUser)) = some (noteOnSale, some "alice") ∧
    .download "u" ∈ w.effectsOf 1 := by
  have he : (exec (noteSystem some).step (start noteShop)
      [.boot 0 (noteOnSale, some "alice"), .serve 0 .success, .deliver 0 0,
        .ui 0 .downloadButtonTouched, .ui 0 .purchase, .serve 1 .success, .deliver 1 7,
        .serve 2 .success,
        -- the entry is stored, and the other screen finds it
        .boot 1 (noteOnSale, some "alice"), .serve 4 .success, .deliver 4 8, .serve 4 .success,
        .deliver 4 8, .ui 1 .downloadButtonTouched]).map
      (fun w => (w.server.purchasedNotes, (w.clients 1).map (fun vc => (vc.note, vc.currentUser)),
        decide (.download "u" ∈ w.effectsOf 1))) =
      some ([⟨"a", "n", 7⟩], some (noteOnSale, some "alice"), true) := by decide +kernel
  obtain ⟨h, w, hr, -, hw⟩ := run_of_observed he
  obtain ⟨hp, hc, hd⟩ : w.server.purchasedNotes = [⟨"a", "n", 7⟩] ∧
      (w.clients 1).map (fun vc => (vc.note, vc.currentUser)) = some (noteOnSale, some "alice") ∧
      .download "u" ∈ w.effectsOf 1 := by simpa using hw
  exact ⟨h, w, hr, hp, hc, hd⟩

/-- Alice's entry is the one that her checkout has stored. -/
theorem entries_paid_alice : ∃ h w, (noteSystem some).RunFrom noteShop h w ∧
    w.server.purchasedNotes = [⟨"a", "n", 7⟩] ∧
    w.server.purchasedNotes =
      noteShop.purchasedNotes ++ w.trace.filterMap fun t => stored t.effect := by
  obtain ⟨h, w, hr, hp, -⟩ := alice_on_two_screens
  exact ⟨h, w, hr, hp, (entries_paid hr).1⟩

/-! ## Access is paid for -/

/-- For the note and the user of the screen `vc` there was an entry at the start, or a checkout
has succeeded, at a price above zero, on some screen of the same user for the same note. -/
def PaidFor (s : NoteServer) (w : NoteWorld) (vc : DetailedNoteViewController) : Prop :=
  (∃ p ∈ s.purchasedNotes, p.note = vc.note.id ∧
    ∃ uid, vc.currentUser = some uid ∧ (p.user, uid) ∈ s.users.owners) ∨
  ∃ j vc' price, w.clients j = some vc' ∧ vc'.currentUser = vc.currentUser ∧
    vc'.note.id = vc.note.id ∧ .success price ∈ w.effectsOf j ∧ 0 < price

/-- Where an entry is stored for a screen, a checkout has succeeded on it.

**Proof sketch.** The entry goes back to some tap of the user, and the entries that go back to it
are at most as many as the successes (`entries_le_successes`). -/
lemma success_of_entered (hr : (noteSystem urlOf).RunFrom s h w) {j : ℕ} {user : UserDoc}
    {p : PurchasedNote} (ho : .entered user p ∈ w.effectsOf j) :
    ∃ price, .success price ∈ w.effectsOf j := by
  obtain ⟨t, ht, rfl, heff⟩ := mem_effectsOf.mp ho
  have hat : .entered user p ∈ w.effectsAt t.owner t.root :=
    mem_effectsAt.mpr ⟨t, ht, ⟨rfl, rfl⟩, heff⟩
  have hmem : (user, p) ∈ (w.effectsAt t.owner t.root).filterMap entries :=
    List.mem_filterMap.mpr ⟨_, hat, rfl⟩
  have hpos : 0 < total successes (w.effectsAt t.owner t.root) :=
    (List.length_pos_of_mem hmem).trans_le (entries_le_successes hr t.owner t.root)
  obtain ⟨n, hn, h0⟩ := List.sum_pos_iff_exists_pos_nat.mp hpos
  obtain ⟨o, hmem, rfl⟩ := List.mem_map.mp hn
  cases o with
  | success price => exact ⟨price, mem_effectsOf_of_mem_effectsAt hmem⟩
  | _ => exact absurd h0 (lt_irrefl _)

/-- For the note and the account there was an entry at the start, or a checkout has succeeded, at a
price above zero, on some screen of the account for the note. -/
def Bought (s : NoteServer) (w : NoteWorld) (uid note : String) : Prop :=
  (∃ p ∈ s.purchasedNotes, p.note = note ∧ (p.user, uid) ∈ s.users.owners) ∨
  ∃ j vc price, w.clients j = some vc ∧ vc.currentUser = some uid ∧ vc.note.id = note ∧
    .success price ∈ w.effectsOf j ∧ 0 < price

/-- What is in the collection was paid for.

**Proof sketch.** An entry was there at the start, or some screen stored it; that one has a success,
and is for the same note. Both the screen and the account name the document of the entry, which
belongs to one account. -/
lemma bought_of_mem (hr : (noteSystem urlOf).RunFrom s h w) {p : PurchasedNote}
    (hp : p ∈ w.server.purchasedNotes) {uid : String} (hown : (p.user, uid) ∈ s.users.owners) :
    Bought s w uid p.note := by
  rcases entered_of_mem hr hp with hp | ⟨j, user, ho⟩
  · exact Or.inl ⟨p, hp, rfl, hown⟩
  · obtain ⟨vc, hj⟩ := client_of_effect hr ho
    have ht := noteSystem_traced hr hj
    obtain ⟨hu, hdoc, hnote⟩ : vc.currentUser = some user.uid ∧ p.user = user.documentID ∧
      p.note = vc.note.id := ht.sound.records _ ho
    have hown' : (user.documentID, user.uid) ∈ s.users.owners := ht.recalls _ ho
    obtain rfl : user.uid = uid := by
      rw [← hdoc] at hown'
      exact UsersCollection.owner_unique hown' hown
    obtain ⟨price, hsuccess⟩ := success_of_entered hr ho
    exact Or.inr ⟨j, vc, price, hj, hu, hnote.symm, hsuccess, ht.recalls _ hsuccess⟩

/-- What entitles the user of a screen was paid for: a success on the screen is the payment, and an
entry that a query returned is in the collection. -/
lemma paidFor_of_entitled (hr : (noteSystem urlOf).RunFrom s h w) {i : ℕ}
    {vc : DetailedNoteViewController} (hi : w.clients i = some vc) {o : NoteEffect}
    (ho : o ∈ w.effectsOf i) (he : o.Entitles vc.note vc.currentUser) : PaidFor s w vc := by
  have ht := noteSystem_traced hr hi
  cases o with
  | success price => exact Or.inr ⟨i, vc, price, hi, rfl, rfl, ho, ht.recalls _ ho⟩
  | returned user documents =>
    obtain ⟨huid, p, hp, hdoc, hnote⟩ := he
    obtain ⟨hown, hstore⟩ := ht.recalls _ ho
    rcases bought_of_mem hr (hstore p hp) (hdoc ▸ hown) with
      ⟨p', hp', hnote', hown'⟩ | ⟨j, vc', price, hj, hu', hnote', hsuccess⟩
    · exact Or.inl ⟨p', hp', hnote'.trans hnote, user.uid, huid, hown'⟩
    · exact Or.inr ⟨j, vc', price, hj, hu'.trans huid.symm, hnote'.trans hnote, hsuccess⟩
  | _ => exact he.elim

/-- **Access is paid for, on any screen.** In every state of every run, if a note that has a price
was downloaded from a screen, or its add-review button is visible there, then an entry for the
note under a document of the screen's user was there at the start, or a checkout has succeeded on
a screen of the same user for the same note. -/
theorem access_paid (hr : (noteSystem urlOf).RunFrom s h w) {i : ℕ}
    {vc : DetailedNoteViewController} (hi : w.clients i = some vc)
    (h0 : 0 < vc.note.priceDecimal.getD 0)
    (haccess : (∃ o ∈ w.effectsOf i, o.IsAccess) ∨ vc.addReviewHidden = false) :
    PaidFor s w vc := by
  have hs : vc.Sound (w.effectsOf i) := (noteSystem_sound hr).client i vc hi
  have hp : 0 < vc.priceOfNote := hs.price ▸ h0
  obtain ⟨o, ho, he⟩ : ∃ o ∈ w.effectsOf i, o.Entitles vc.note vc.currentUser := by
    rcases haccess with ⟨o, ho, ha⟩ | hreview
    · obtain ⟨t₁, t₂, ht⟩ := List.append_of_mem ho
      obtain ⟨o', ho', he⟩ := hs.access hp t₁ o t₂ ht ha
      exact ⟨o', by rw [ht]; exact List.mem_append_left _ ho', he⟩
    · exact hs.review hp hreview
  exact paidFor_of_entitled hr hi ho he

/-- Alice downloads on the second screen what she has paid for on the first one. -/
theorem access_paid_alice : ∃ h w vc, (noteSystem some).RunFrom noteShop h w ∧
    w.clients 1 = some vc ∧ .download "u" ∈ w.effectsOf 1 ∧ PaidFor noteShop w vc := by
  obtain ⟨h, w, hr, -, hc, hd⟩ := alice_on_two_screens
  obtain ⟨vc, hvc, hnote⟩ := Option.map_eq_some_iff.mp hc
  have h0 : 0 < vc.note.priceDecimal.getD 0 := by
    rw [(Prod.mk.inj hnote).1]
    decide +kernel
  exact ⟨h, w, vc, hr, hvc, hd, access_paid hr hvc h0 (Or.inl ⟨_, hd, trivial⟩)⟩

end

end Aoun
