import Aoun.Chat.Pair
import Aoun.Chat.Roster
import Aoun.Chat.RosterJoin

/-!
# The user behind a row

A tap on a row opens the chat screen on the user that is stored in the cell of the row. This is
the one of the last answer, with a document, that was delivered to the cell, for whatever chat the
cell showed when it was asked for. Before the first one a cell has no user, and the chat screen
none to open with.

## Main definitions

* `Aoun.lastLoaded` — the user last stored in a cell.
* `Aoun.OpensRight`, `Aoun.LoadedRight` — the property, and its condition.

## Main results

* `Aoun.rosterSystem_cells` — the users in the cells at any time.
* `Aoun.opens_right_iff` — when a tap opens the right chat.
-/

set_option relaxedAutoImplicit false
set_option autoImplicit false

namespace Aoun

open AsyncSystem AsyncSystem.World StepSystem VCChatRoster

/-- The user stored in the cell `cell`. -/
def RosterEffect.loadedIn (cell : ℕ) : RosterEffect → Option String
  | .loaded cell' uid => if cell' = cell then some uid else none
  | _ => none

/-- The user last stored in the cell `cell`. -/
def lastLoaded (cell : ℕ) (t : List RosterEffect) : Option String :=
  (t.filterMap (RosterEffect.loadedIn cell)).getLast?

/-- Effects that store no user in the cell do not matter to it. -/
lemma lastLoaded_append_of_none {cell : ℕ} {t t' : List RosterEffect}
    (ht' : ∀ o ∈ t', o.loadedIn cell = none) : lastLoaded cell (t ++ t') = lastLoaded cell t := by
  have hnone : t'.filterMap (RosterEffect.loadedIn cell) = [] := List.filterMap_eq_nil_iff.mpr ht'
  rw [lastLoaded, List.filterMap_append, hnone, List.append_nil]
  rfl

lemma lastLoaded_loaded (cell : ℕ) (t : List RosterEffect) (uid : String) :
    lastLoaded cell (t ++ [.loaded cell uid]) = some uid := by
  simp [lastLoaded, RosterEffect.loadedIn]

namespace VCChatRoster

/-- The user in a cell. -/
def userIn (vc : VCChatRoster) (cell : ℕ) : Option User := (vc.cells[cell]?).bind (·.user)

/-- Every cell has the user that was last stored in it. -/
def Stores (vc : VCChatRoster) (t : List RosterEffect) : Prop :=
  ∀ cell, (vc.userIn cell).map (·.uid) = lastLoaded cell t

/-- The users that the screen asks for are asked for a cell that there is. -/
def HasCell (vc : VCChatRoster) : RosterRequest → Prop
  | .loadOtherUser cell _ => cell < vc.cells.length
  | _ => True

variable {vc vc' : VCChatRoster} {t : List RosterEffect}

/-- There are at least as many cells. -/
lemma HasCell.mono {q : RosterRequest} (hq : vc.HasCell q)
    (hle : vc.cells.length ≤ vc'.cells.length) : vc'.HasCell q := by
  cases q with
  | loadOtherUser cell uid => exact lt_of_lt_of_le hq hle
  | _ => trivial

/-- A reaction that leaves the users in the cells. -/
lemma Stores.still (h : vc.Stores t) {r : RosterReaction}
    (hu : ∀ cell, r.client.userIn cell = vc.userIn cell)
    (he : ∀ cell, ∀ o ∈ r.effects, o.loadedIn cell = none)
    (hq : ∀ q ∈ r.requests, r.client.HasCell q) : Keeps Stores HasCell r t := by
  refine ⟨fun cell => ?_, hq⟩
  rw [hu, lastLoaded_append_of_none (he cell)]
  exact h cell

/-- A cell that is dequeued keeps its user, and a new one has none. -/
lemma dequeue_userIn (vc : VCChatRoster) (cell cell' : ℕ) :
    (vc.dequeue cell).userIn cell' = vc.userIn cell' := by
  unfold dequeue
  split_ifs with hnew
  · unfold userIn
    by_cases hk : cell' = vc.cells.length
    · rw [hk, List.getElem?_concat_length, List.getElem?_eq_none le_rfl]
      rfl
    · rw [Join.getElem?_concat_of_ne hk]
  · rfl

/-- There is the cell that was dequeued. -/
lemma lt_dequeue {cell : ℕ} (hcell : cell ≤ vc.cells.length) :
    cell < (vc.dequeue cell).cells.length ∧ vc.cells.length ≤ (vc.dequeue cell).cells.length := by
  unfold dequeue
  split_ifs with hnew
  · rw [List.length_append, List.length_singleton]
    omega
  · omega

/-- Showing a row leaves the users in the cells. -/
lemma cellForRowAt_userIn (vc : VCChatRoster) (row cell : ℕ) (c : Chat) (cell' : ℕ) :
    (vc.cellForRowAt row cell c).client.userIn cell' = vc.userIn cell' := by
  rw [← vc.dequeue_userIn cell cell']
  show (((vc.dequeue cell).cells.modify cell
    fun cell => { cell with chat := some c })[cell']?).bind (·.user) = _
  rw [Join.getElem?_modify_eq, userIn]
  cases (vc.dequeue cell).cells[cell']? with
  | none => rfl
  | some cell₀ =>
    simp only [Option.map_some, Option.bind_some]
    split_ifs <;> rfl

/-- Showing a row makes no cell, or one. -/
lemma length_cellForRowAt {cell : ℕ} (hcell : cell ≤ vc.cells.length) (row : ℕ) (c : Chat) :
    cell < (vc.cellForRowAt row cell c).client.cells.length ∧
      vc.cells.length ≤ (vc.cellForRowAt row cell c).client.cells.length := by
  simpa [cellForRowAt] using lt_dequeue hcell

/-- What is asked for when a row is shown is for its cell. -/
lemma cellForRowAt_requests {row cell : ℕ} {c : Chat} {q : RosterRequest}
    (hq : q ∈ (vc.cellForRowAt row cell c).requests) : ∃ uid, q = .loadOtherUser cell uid := by
  obtain ⟨uid, -, rfl⟩ := List.mem_map.mp hq
  exact ⟨uid, rfl⟩

/-- What a tap on a row does: the row is shown again, and the chat screen is opened on the user
in its cell. -/
lemma didSelectRowAt_eq (vc : VCChatRoster) (row cell : ℕ) (c : Chat) :
    (vc.didSelectRowAt row cell c).effects = [.opened row (vc.userIn cell)] ∧
      (∀ cell', (vc.didSelectRowAt row cell c).client.userIn cell' = vc.userIn cell') ∧
      (cell ≤ vc.cells.length →
        vc.cells.length ≤ (vc.didSelectRowAt row cell c).client.cells.length ∧
        ∀ q ∈ (vc.didSelectRowAt row cell c).requests,
          (vc.didSelectRowAt row cell c).client.HasCell q) := by
  have hprepare : ∀ vc : VCChatRoster, (vc.prepare row cell).client.cells = vc.cells := by
    intro vc
    unfold prepare
    dsimp only
    split_ifs <;> rfl
  -- the screen before and after the row is shown again
  let c' : Chat := { c with unreadCount := some 0 }
  let vc' := vc.setChats (vc.chats.set row c')
  have hcells : (vc.didSelectRowAt row cell c).client.cells =
      (vc'.cellForRowAt row cell c').client.cells := by
    rw [didSelectRowAt, Reaction.next_client, hprepare]
  have huser : ∀ cell', (vc'.cellForRowAt row cell c').client.userIn cell' = vc.userIn cell' :=
    vc'.cellForRowAt_userIn row cell c'
  refine ⟨?_, fun cell' => ?_, fun hcell => ?_⟩
  · show [RosterEffect.opened row (userIn _ cell)] = _
    rw [huser]
  · rw [userIn, hcells]
    exact huser cell'
  · have hcell' : cell ≤ vc'.cells.length := hcell
    obtain ⟨hlt, hle⟩ := length_cellForRowAt hcell' row c'
    refine ⟨hcells ▸ hle, fun q hq => ?_⟩
    have hq : q ∈ (vc'.cellForRowAt row cell c').requests := by
      simpa [didSelectRowAt, prepare] using hq
    obtain ⟨uid, rfl⟩ := cellForRowAt_requests hq
    show cell < (vc.didSelectRowAt row cell c).client.cells.length
    rw [hcells]
    exact hlt

/-- What the user and the table view do leaves the users in the cells. -/
lemma ui_keeps_cells (h : vc.Stores t) {u : RosterTap} {r : RosterReaction}
    (hr : vc.ui u = some r) :
    Keeps Stores HasCell r t ∧ vc.cells.length ≤ r.client.cells.length := by
  rcases ui_cases hr with rfl | ⟨row, cell, c, -, ⟨hcell, -⟩, -, rfl⟩ |
    ⟨row, cell, c, -, hcell, -, rfl⟩ | ⟨uid, rows, rfl⟩
  · unfold loadChatRoster
    dsimp only
    split <;> exact ⟨h.still (fun _ => rfl) (by simp) (by simp [HasCell]), le_rfl⟩
  · obtain ⟨hlt, hle⟩ := length_cellForRowAt hcell row c
    refine ⟨h.still (vc.cellForRowAt_userIn row cell c) (by simp [cellForRowAt])
      fun q hq => ?_, hle⟩
    obtain ⟨uid, rfl⟩ := cellForRowAt_requests hq
    exact hlt
  · obtain ⟨heff, huser, hrest⟩ := vc.didSelectRowAt_eq row cell c
    obtain ⟨hle, hreq⟩ := hrest hcell
    refine ⟨h.still huser ?_ hreq, hle⟩
    rw [heff]
    simp [RosterEffect.loadedIn]
  · exact ⟨h.still (fun _ => rfl) (by simp) (by simp), le_rfl⟩

/-- The user that is found is stored in the cell. -/
lemma userFound_keeps (h : vc.Stores t) {cell : ℕ} (hcell : cell < vc.cells.length) (uid : String)
    (documents : List UserDoc) : Keeps Stores HasCell (vc.userFound cell uid documents) t := by
  unfold userFound
  split
  · exact h.still (fun _ => rfl) (by simp) (by simp)
  · next user _ =>
    refine ⟨fun cell' => ?_, by simp⟩
    dsimp only
    rw [userIn, Join.getElem?_modify_eq]
    by_cases hk : cell = cell'
    · subst hk
      rw [lastLoaded_loaded, List.getElem?_eq_getElem hcell]
      simp
    · rw [lastLoaded_append_of_none (by simp [RosterEffect.loadedIn, hk]), ← h cell', userIn]
      simp [hk]

/-- Every callback keeps the users in the cells, or stores one. -/
lemma recv_keeps_cells (h : vc.Stores t) {q : RosterRequest} (hq : vc.HasCell q)
    (a : RosterAnswer) :
    Keeps Stores HasCell (vc.recv q a) t ∧
      vc.cells.length ≤ (vc.recv q a).client.cells.length := by
  rcases vc.recv_cases q a with ⟨uid, documents, rfl, hr⟩ |
    ⟨call, doc, otherUserID, documents, rfl, hr⟩ | ⟨call, rfl, hr⟩ |
    ⟨cell, otherUserID, documents, rfl, hr⟩ | ⟨-, hr⟩
  · rw [hr]
    unfold chatsFound
    split_ifs
    · exact ⟨h.still (fun _ => rfl) (by simp) (by simp), le_rfl⟩
    · refine ⟨h.still (fun _ => rfl) (by simp [RosterEffect.loadedIn]) fun q hq => ?_, le_rfl⟩
      obtain ⟨d, -, hd⟩ := List.mem_filterMap.mp hq
      obtain ⟨uid, -, rfl⟩ := Option.map_eq_some_iff.mp hd
      trivial
  · rw [hr]
    unfold unreadFound
    dsimp only
    split_ifs <;>
      exact ⟨h.still (fun _ => rfl) (by simp [RosterEffect.loadedIn]) (by simp [HasCell]), le_rfl⟩
  · rw [hr]
    unfold assignChats
    split <;> exact ⟨h.still (fun _ => rfl) (by simp [RosterEffect.loadedIn]) (by simp), le_rfl⟩
  · rw [hr]
    refine ⟨userFound_keeps h hq otherUserID documents, ?_⟩
    unfold userFound
    split <;> simp
  · rw [hr]
    exact ⟨h.still (fun _ => rfl) (by simp) (by simp), le_rfl⟩

end VCChatRoster

/-- The screens satisfy the conditions of the client rule. -/
lemma rosterSystem_cell_rules : ClientRules rosterSystem (fun _ => False) (fun _ => True)
    (fun _ => Stores) HasCell (fun _ _ _ => True) where
  boot := by
    intro _ currentUser _
    cases currentUser <;> exact ⟨fun _ => rfl, by simp [rosterSystem, viewDidLoad, loadChatRoster,
      HasCell]⟩
  ui := by
    intro _ vc t u r _ h hr
    obtain ⟨hkeeps, hle⟩ := ui_keeps_cells h hr
    exact ⟨hkeeps, fun q hq => hq.mono hle⟩
  serve := fun _ _ _ _ _ _ => ⟨trivial, trivial, fun t h => by simpa [rosterSystem] using h⟩
  others := fun _ _ _ _ _ _ => ⟨fun _ _ h => h, fun _ _ h => h⟩
  recv := by
    intro _ vc t q a _ _ h hq _
    obtain ⟨hkeeps, hle⟩ := recv_keeps_cells h hq a
    exact ⟨hkeeps, fun q' hq' _ => hq'.mono hle⟩

variable {h : List (RosterWorld × RosterEvent)} {w : RosterWorld}

/-- **The users in the cells.** In every state of every run a cell has the user that was last
stored in it. -/
theorem rosterSystem_cells (hr : rosterSystem.RunFrom () h w) {i : ℕ} {vc : VCChatRoster}
    (hi : w.clients i = some vc) (cell : ℕ) :
    (vc.userIn cell).map (·.uid) = lastLoaded cell (w.effectsOf i) :=
  (client_invariant exclusiveRules_false rosterSystem_cell_rules trivial hr).client i vc hi cell

/-! ## Taps -/

/-- A tap on a row opens the chat screen on the participant of the row's chat other than the
signed-in user. -/
def OpensRight (w : RosterWorld) (e : RosterEvent) : Prop :=
  ∀ i row cell vc c r, e = .ui i (.didSelectRowAt row cell) → w.clients i = some vc →
    vc.chats[row]? = some c → vc.ui (.didSelectRowAt row cell) = some r →
    ∃ user, r.effects = [.opened row (some user)] ∧
      otherUserID vc.currentUser c.users = some user.uid

/-- When a row is tapped, the last answer with a document that was delivered to the cell that the
table has for the row was for the participant of the row's chat other than the signed-in user. -/
def LoadedRight (w : RosterWorld) (e : RosterEvent) : Prop :=
  ∀ i row cell vc c r, e = .ui i (.didSelectRowAt row cell) → w.clients i = some vc →
    vc.chats[row]? = some c → vc.ui (.didSelectRowAt row cell) = some r →
    ∃ uid, lastLoaded cell (w.effectsOf i) = some uid ∧
      otherUserID vc.currentUser c.users = some uid

/-- **When a tap opens the right chat.** In a run every tap on a row opens the chat screen on the
participant of the row's chat other than the signed-in user, if and only if each time the last
answer delivered to the cell of the row was for that participant.

**Proof sketch.** The chat screen is opened on the user in the cell (`didSelectRowAt_eq`), which
is the one last stored in it (`rosterSystem_cells`). -/
theorem opens_right_iff (hr : rosterSystem.RunFrom () h w) :
    EveryStep OpensRight h ↔ EveryStep LoadedRight h := by
  refine forall_congr' fun p => forall_congr' fun hp => ?_
  obtain ⟨h', hr', -⟩ := hr.reached hp
  refine forall_congr' fun i => forall_congr' fun row => forall_congr' fun cell =>
    forall_congr' fun vc => forall_congr' fun c => forall_congr' fun r =>
    forall_congr' fun _ => forall_congr' fun hi => forall_congr' fun hc =>
    forall_congr' fun hreact => ?_
  obtain rfl : vc.didSelectRowAt row cell c = r := by
    simp only [VCChatRoster.ui, Option.ite_none_right_eq_some, hc, Option.map_some,
      Option.some.injEq] at hreact
    exact hreact.2
  rw [(vc.didSelectRowAt_eq row cell c).1, ← rosterSystem_cells hr' hi cell]
  constructor
  · rintro ⟨user, heff, hother⟩
    obtain ⟨-, huser⟩ := RosterEffect.opened.inj (List.singleton_inj.mp heff)
    exact ⟨user.uid, by rw [huser, Option.map_some], hother⟩
  · rintro ⟨uid, hloaded, hother⟩
    obtain ⟨user, huser, rfl⟩ := Option.map_eq_some_iff.mp hloaded
    exact ⟨user, by rw [huser], hother⟩

/-! ## Alice taps on a row -/

/-- Bob's and Carol's documents. -/
def bobAndCarol : UsersCollection where
  docs := [⟨"b", "bob", some "Bob", some "B", none⟩, ⟨"c", "carol", some "Carol", some "C", none⟩]
  nodup := by decide

/-- Alice opens the list, and her chats with Bob and Carol are listed. Bob's row is shown in the
first cell, and his document is found for it. -/
def aliceLists : List RosterEvent :=
  aliceLooks "carol" ++ [.serve 0 (.success (aliceChats "carol") noUsers), .deliver 1 (),
    .serve 0 (.success (aliceChats "carol") noUsers), .deliver 0 (), .serve 0 .neither,
    .deliver 0 (), .ui 0 (.cellForRowAt 0 0),
    .serve 0 (.success (aliceChats "carol") bobAndCarol), .deliver 0 ()]

/-- Alice taps on Bob's row. -/
theorem opens_right_alice : ∃ h w, rosterSystem.RunFrom () h w ∧
    .opened 0 (some ⟨"Bob", "B", "bob", some "b"⟩) ∈ w.effectsOf 0 ∧
    (EveryStep OpensRight h ↔ EveryStep LoadedRight h) := by
  have he : (exec rosterSystem.step (start ()) (aliceLists ++
      [.ui 0 (.didSelectRowAt 0 0)])).map (fun w => (w.effectsOf 0).getLast?) =
      some (some (.opened 0 (some ⟨"Bob", "B", "bob", some "b"⟩))) := by decide +kernel
  obtain ⟨h, w, hr, -, hw⟩ := run_of_observed he
  exact ⟨h, w, hr, List.mem_of_getLast? hw, opens_right_iff hr⟩

/-- Bob's row is scrolled out of sight, and Carol's is shown in the same cell. Alice taps on it
before Carol's document is found, and the chat screen is opened on Bob. -/
theorem opens_on_another : ∃ h w vc r, rosterSystem.RunFrom () h w ∧ w.clients 0 = some vc ∧
    vc.currentUser = some "alice" ∧ vc.chats[1]? = some ⟨["alice", "carol"], some 1, some 0⟩ ∧
    vc.ui (.didSelectRowAt 1 0) = some r ∧
    r.effects = [.opened 1 (some ⟨"Bob", "B", "bob", some "b"⟩)] ∧
    ¬ OpensRight w (.ui 0 (.didSelectRowAt 1 0)) := by
  have he : (exec rosterSystem.step (start ()) (aliceLists ++
      [.ui 0 (.didEndDisplaying 0), .ui 0 (.cellForRowAt 1 0)])).map
      (fun w => (w.clients 0).map fun vc => (vc.currentUser, vc.chats[1]?,
        (vc.ui (.didSelectRowAt 1 0)).map (·.effects))) =
      some (some (some "alice", some ⟨["alice", "carol"], some 1, some 0⟩,
        some [.opened 1 (some ⟨"Bob", "B", "bob", some "b"⟩)])) := by decide +kernel
  obtain ⟨h, w, hr, -, hw⟩ := run_of_observed he
  obtain ⟨vc, hi, hvc⟩ := Option.map_eq_some_iff.mp hw
  obtain ⟨hcurrent, hchat, hui⟩ : _ ∧ _ ∧ _ := by simpa only [Prod.mk.injEq] using hvc
  obtain ⟨r, hreact, heff⟩ := Option.map_eq_some_iff.mp hui
  refine ⟨h, w, vc, r, hr, hi, hcurrent, hchat, hreact, heff, fun hright => ?_⟩
  obtain ⟨user, hopened, hother⟩ := hright 0 1 0 vc _ r rfl hi hchat hreact
  rw [heff] at hopened
  obtain ⟨-, huser⟩ := RosterEffect.opened.inj (List.singleton_inj.mp hopened)
  rw [hcurrent, ← Option.some.inj huser] at hother
  exact absurd hother (by decide)

end Aoun
