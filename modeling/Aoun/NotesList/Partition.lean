import Aoun.NotesList.Screen

/-!
# The two lists of notes

Whatever chains of queries overlap, every assignment of `myNotes` is followed by a call of
`loadNotes()`, and the block of that call filters by `myNotes` as it is then. Once nothing is
pending, `notes` is therefore the last snapshot without the notes in `myNotes`.

## Main definitions

* `Aoun.lastAssigned` — the decoded notes of the snapshot that `notes` was last assigned from.
* `Aoun.NotesLoad` — the queries of `loadNotes()` succeed.

## Main results

* `Aoun.pending_or_settled` — a reload is pending, or the lists are those of the last snapshot.
* `Aoun.notes_partition` — the lists share no note, and together have the last snapshot.
-/

set_option relaxedAutoImplicit false
set_option autoImplicit false

namespace Aoun

open AsyncSystem AsyncSystem.World StepSystem ViewNotesViewController

/-- The request leads to an assignment of `notes`. -/
def NotesListRequest.Reloads : NotesListRequest → Prop
  | .loadNotes => True
  | .assignNotes _ => True
  | _ => False

/-- The decoded notes that `notes` was assigned from. -/
def NotesListEffect.assigned : NotesListEffect → Option (List NoteFile)
  | .assignedNotes lnotes => some lnotes
  | _ => none

/-- The decoded notes of the snapshot that `notes` was last assigned from. -/
def lastAssigned (t : List NotesListEffect) : Option (List NoteFile) :=
  (t.filterMap NotesListEffect.assigned).getLast?

/-- The queries of `loadNotes()` succeed. -/
def NotesLoad (w : NotesListWorld) (e : NotesListEvent) : Prop :=
  ∀ k a f, e = .serve k a → w.flights[k]? = some f → f.request = .loadNotes →
    ∃ documents, a = .notes documents

/-- An assignment of `notes` on the screen of client `i` is pending. -/
def ReloadPending (w : NotesListWorld) (i : ℕ) : Prop :=
  ∃ f ∈ w.flights, f.owner = i ∧ f.request.Reloads

/-- `notes` is the last snapshot without the notes in `myNotes`. -/
def Settled (vc : ViewNotesViewController) (t : List NotesListEffect) : Prop :=
  ∃ lnotes, lastAssigned t = some lnotes ∧
    vc.notes = lnotes.filter fun n => n.id ∉ vc.purchasedNotesIds

/-- The invariant of the lists: a reload is pending, nothing has been loaded yet, or the lists
are those of the last snapshot; and the answers that are under way have a snapshot. -/
structure ListsInv (w : NotesListWorld) : Prop where
  lists : ∀ i vc, w.clients i = some vc →
    ReloadPending w i ∨ .loadNotes ∉ w.effectsOf i ∨ Settled vc (w.effectsOf i)
  answers : ∀ f ∈ w.flights, f.request = .loadNotes → ∀ a, f.answer = some a →
    ∃ documents, a = .notes documents

/-- A reaction that starts a reload, or leaves the lists alone. -/
def Harmless (vc : ViewNotesViewController) (r : NotesListReaction) : Prop :=
  (∃ q ∈ r.requests, q.Reloads) ∨
    (r.client.notes = vc.notes ∧ r.client.myNotes = vc.myNotes ∧ .loadNotes ∉ r.effects ∧
      r.effects.filterMap NotesListEffect.assigned = [])

/-! ## The reactions -/

section

variable {vc : ViewNotesViewController}

lemma loadNotes_harmless (vc' : ViewNotesViewController) : Harmless vc vc'.loadNotes :=
  Or.inl ⟨.loadNotes, by simp [loadNotes], trivial⟩

lemma loadUserReference_harmless (currentUser : Option String) :
    Harmless vc (vc.loadUserReference currentUser) := by
  cases currentUser <;> exact Or.inr ⟨rfl, rfl, by simp [loadUserReference], rfl⟩

lemma ui_harmless (u : NotesListTap) : Harmless vc (vc.ui u) := by
  cases u with
  | postNote added =>
    cases added with
    | false => exact Or.inr ⟨rfl, rfl, by simp [ViewNotesViewController.ui], rfl⟩
    | true => exact loadNotes_harmless vc
  | detail currentUser => exact loadUserReference_harmless currentUser

/-- A callback other than that of a reload is harmless: if it assigns `myNotes`, it starts a
reload. -/
lemma recv_harmless {q : NotesListRequest} (hq : ¬ q.Reloads) (a : NotesListAnswer) :
    Harmless vc (vc.recv q a) := by
  rcases vc.recv_cases q a with ⟨uid, documents, rfl, hr⟩ | ⟨call, entry, data, rfl, hr⟩ |
    ⟨call, rfl, hr⟩ | ⟨documents, rfl, -, -⟩ | ⟨lnotes, rfl, -⟩ | ⟨-, hr⟩
  · rw [hr]
    exact Or.inr ⟨rfl, rfl, by simp [entriesFound], rfl⟩
  · rw [hr]
    unfold gotDocument
    dsimp only
    split_ifs <;> exact Or.inr ⟨rfl, rfl, by simp, rfl⟩
  · rw [hr]
    unfold runComplition
    cases vc.calls[call]? with
    | none => exact Or.inr ⟨rfl, rfl, by simp, rfl⟩
    | some c => exact Or.inl ⟨.loadNotes, by simp [complition, loadNotes], trivial⟩
  · exact absurd trivial hq
  · exact absurd trivial hq
  · rcases hr with hr | ⟨id, hr⟩ | hr
    · rw [hr]; exact Or.inr ⟨rfl, rfl, by simp, rfl⟩
    · rw [hr]; exact Or.inr ⟨rfl, rfl, by simp, rfl⟩
    · rw [hr]; exact loadNotes_harmless vc

/-- More effects that assign nothing leave settled lists settled. -/
lemma Settled.append {vc' : ViewNotesViewController} {t t' : List NotesListEffect}
    (h : Settled vc t) (hn : vc'.notes = vc.notes) (hm : vc'.myNotes = vc.myNotes)
    (ht : t'.filterMap NotesListEffect.assigned = []) : Settled vc' (t ++ t') := by
  obtain ⟨lnotes, hlast, hnotes⟩ := h
  refine ⟨lnotes, ?_, ?_⟩
  · rw [lastAssigned, List.filterMap_append, ht, List.append_nil]
    exact hlast
  · rw [hn, hnotes, purchasedNotesIds, purchasedNotesIds, hm]

end

/-! ## The runs -/

section

variable {w : NotesListWorld}

/-- The lists of the screen of client `i` are in order. -/
def ListsInOrder (w : NotesListWorld) (i : ℕ) (vc : ViewNotesViewController) : Prop :=
  ReloadPending w i ∨ .loadNotes ∉ w.effectsOf i ∨ Settled vc (w.effectsOf i)

lemma ListsInv.tick (hw : ListsInv w) : ListsInv w.tick := ⟨hw.lists, hw.answers⟩

/-- Taking out a flight of client `i` leaves the other screens as they are. -/
lemma ListsInv.land {k : ℕ} {f : Flight NotesListRequest NotesListAnswer} (hw : ListsInv w)
    (flight : w.flights[k]? = some f) {j : ℕ} {vc : ViewNotesViewController}
    (hj : w.clients j = some vc) (hother : j = f.owner → ¬ f.request.Reloads) :
    ListsInOrder (w.land k) j vc := by
  rcases hw.lists j vc hj with ⟨g, hg, hgj, hload⟩ | hrest
  · rcases eq_or_mem_eraseIdx flight hg with rfl | hg
    · exact absurd hload (hother hgj.symm)
    · exact Or.inl ⟨g, hg, hgj, hload⟩
  · exact Or.inr hrest

/-- A reaction of client `i` keeps the lists of all screens in order, if it does for client
`i`. -/
lemma ListsInv.react {i : ℕ} (root : ℕ) {r : NotesListReaction}
    (hothers : ∀ j vc, j ≠ i → w.clients j = some vc → ListsInOrder w j vc)
    (hanswers : ∀ f ∈ w.flights, f.request = .loadNotes → ∀ a, f.answer = some a →
      ∃ documents, a = .notes documents)
    (hi : ReloadPending (w.react i root r) i ∨ .loadNotes ∉ w.effectsOf i ++ r.effects ∨
      Settled r.client (w.effectsOf i ++ r.effects)) : ListsInv (w.react i root r) := by
  refine ⟨fun j vc hj => ?_, fun f hf hq a ha => ?_⟩
  · by_cases hji : j = i
    · subst hji
      obtain rfl : r.client = vc := by simpa using hj
      rw [effectsOf_react_self]
      exact hi
    · rw [react_clients_of_ne _ _ _ hji] at hj
      rw [effectsOf_react_of_ne _ _ _ hji]
      rcases hothers j vc hji hj with ⟨f, hf, hrest⟩ | hrest
      · exact Or.inl ⟨f, List.mem_append_left _ hf, hrest⟩
      · exact Or.inr hrest
  · rcases List.mem_append.mp hf with hf | hf
    · exact hanswers f hf hq a ha
    · obtain ⟨q, -, rfl⟩ := List.mem_map.mp hf
      cases ha

/-- A harmless reaction keeps the lists of its screen in order. -/
lemma harmless_lists {i root : ℕ} {vc : ViewNotesViewController} {r : NotesListReaction}
    (hr : Harmless vc r)
    (hi : ListsInOrder w i vc) :
    ReloadPending (w.react i root r) i ∨ .loadNotes ∉ w.effectsOf i ++ r.effects ∨
      Settled r.client (w.effectsOf i ++ r.effects) := by
  rcases hr with ⟨q, hq, hload⟩ | ⟨hn, hm, hno, hassign⟩
  · exact Or.inl ⟨⟨i, root, q, none⟩, List.mem_append_right _ (List.mem_map_of_mem hq), rfl,
      hload⟩
  · rcases hi with ⟨f, hf, hrest⟩ | hnone | hset
    · exact Or.inl ⟨f, List.mem_append_left _ hf, hrest⟩
    · exact Or.inr (Or.inl (by simp [hnone, hno]))
    · exact Or.inr (Or.inr (hset.append hn hm hassign))

end

variable {h : List (NotesListWorld × NotesListEvent)} {w : NotesListWorld}

/-- **A reload is pending or the lists are in order**, in every state of every run in which the
queries of `loadNotes()` succeed.

**Proof sketch.** An assignment of `myNotes` starts a reload (`recv_harmless`), the answer of a
reload puts its block on the main queue, and the block filters by `myNotes` as it is then. -/
theorem pending_or_settled (hr : notesListSystem.RunFrom () h w) (hG : EveryStep NotesLoad h) :
    ListsInv w := by
  induction hr with
  | nil => exact ⟨by simp, by simp⟩
  | @snoc h w e w' hr hs ih =>
    obtain ⟨hG, hload⟩ := (everyStep_snoc _ _ _ _).mp hG
    have hw := ih hG
    cases took_of_step hs with
    | @boot i currentUser free =>
      have hfresh := effectsOf_fresh hr free
      refine (ListsInv.react w.next (fun j vc _ hj => hw.lists j vc hj) hw.answers
        (Or.inr (Or.inl ?_))).tick
      cases currentUser <;>
        simp [hfresh, notesListSystem, viewDidLoad, loadUserReference]
    | @ui i u vc r client reacts =>
      obtain rfl : vc.ui u = r := Option.some.inj reacts
      exact (ListsInv.react w.next (fun j vc _ hj => hw.lists j vc hj) hw.answers
        (harmless_lists (ui_harmless u) (hw.lists i vc client))).tick
    | @serve k a f flight unanswered =>
      have hmem : ∀ g ∈ w.flights, ∃ g' ∈ w.flights.eraseIdx k ++
          [{ f with answer := some a }], g'.owner = g.owner ∧ g'.request = g.request := by
        intro g hg
        rcases eq_or_mem_eraseIdx flight hg with rfl | hg
        · exact ⟨_, List.mem_append_right _ (List.mem_singleton_self _), rfl, rfl⟩
        · exact ⟨g, List.mem_append_left _ hg, rfl, rfl⟩
      refine ⟨fun i vc hi => ?_, fun g hg hq b hb => ?_⟩
      · rcases hw.lists i vc hi with ⟨g, hg, hgi, hreload⟩ | hrest
        · obtain ⟨g', hg', howner, hreq⟩ := hmem g hg
          exact Or.inl ⟨g', hg', howner.trans hgi, hreq ▸ hreload⟩
        · right
          simpa [effectsOf, notesListSystem] using hrest
      · rcases List.mem_append.mp hg with hg | hg
        · exact hw.answers g (List.mem_of_mem_eraseIdx hg) hq b hb
        · obtain rfl := List.mem_singleton.mp hg
          obtain rfl := Option.some.inj hb
          exact hload k a f rfl flight hq
    | @deliver k x f a vc flight answered client =>
      refine ListsInv.react f.root (fun j vc hj hjc => ?_) (fun g hg => ?_) ?_
      · exact hw.land flight hjc fun h => absurd h hj
      · exact hw.answers g (List.mem_of_mem_eraseIdx hg)
      · by_cases hreload : f.request.Reloads
        · cases hq : f.request with
          | loadNotes =>
            obtain ⟨documents, rfl⟩ := hw.answers f (mem_of_flight flight) hq a answered
            exact Or.inl ⟨⟨f.owner, f.root, .assignNotes _, none⟩, List.mem_append_right _
              (List.mem_singleton_self _), rfl, trivial⟩
          | assignNotes lnotes =>
            refine Or.inr (Or.inr ⟨lnotes, ?_, rfl⟩)
            simp [lastAssigned, notesListSystem, ViewNotesViewController.recv, assignNotes,
              NotesListEffect.assigned]
          | _ => rw [hq] at hreload; exact absurd hreload id
        · exact harmless_lists (recv_harmless hreload a)
            (hw.land flight client fun _ => hreload)

/-- **The notes screen partitions the notes.** In every state of every run in which the queries
of `loadNotes()` succeed, once nothing of a screen is pending and `loadNotes()` has been called,
`notes` and `myNotes` share no note, and every decoded note of the last snapshot assigned is in
one of them.

**Proof sketch.** No reload is pending, so that `notes` is the last snapshot without the notes
in `myNotes` (`pending_or_settled`). -/
theorem notes_partition (hr : notesListSystem.RunFrom () h w) (hG : EveryStep NotesLoad h)
    {i : ℕ} {vc : ViewNotesViewController} (hi : w.clients i = some vc)
    (hdone : ∀ f ∈ w.flights, f.owner ≠ i) (hload : .loadNotes ∈ w.effectsOf i) :
    ∃ lnotes, lastAssigned (w.effectsOf i) = some lnotes ∧
      (∀ n ∈ vc.notes, ∀ m ∈ vc.myNotes, n.id ≠ m.id) ∧
      ∀ n ∈ lnotes, n ∈ vc.notes ∨ ∃ m ∈ vc.myNotes, m.id = n.id := by
  rcases (pending_or_settled hr hG).lists i vc hi with ⟨f, hf, hfi, -⟩ | hno | hset
  · exact absurd hfi (hdone f hf)
  · exact absurd hload hno
  · obtain ⟨lnotes, hlast, hnotes⟩ := hset
    have hids : ∀ id, id ∈ vc.purchasedNotesIds ↔ ∃ m ∈ vc.myNotes, m.id = id := by
      intro id
      exact List.mem_map
    refine ⟨lnotes, hlast, fun n hn m hm heq => ?_, fun n hn => ?_⟩
    · rw [hnotes, List.mem_filter] at hn
      have hnot : n.id ∉ vc.purchasedNotesIds := by simpa using hn.2
      exact hnot ((hids _).mpr ⟨m, hm, heq.symm⟩)
    · by_cases hmem : n.id ∈ vc.purchasedNotesIds
      · exact Or.inr ((hids _).mp hmem)
      · left
        rw [hnotes, List.mem_filter]
        exact ⟨hn, by simpa using hmem⟩

/-- A note, by its title. -/
def noteTitled (title : String) : NoteData :=
  ⟨some title, some "Sara", some "", some "5", some "", some "seller", some 3⟩

/-- A test that the collection of notes, when it is asked for, is delivered. -/
def deliversNotes (w : NotesListWorld) : NotesListEvent → Bool
  | .serve _ (.notes _) => true
  | .serve k _ => (w.flights[k]?).all fun f => f.request ≠ .loadNotes
  | _ => true

/-- Alice has bought the first of two notes. -/
theorem notes_partition_alice : ∃ h w vc, notesListSystem.RunFrom () h w ∧
    w.clients 0 = some vc ∧ vc.notes.map (·.id) = ["n"] ∧ vc.myNotes.map (·.id) = ["m"] ∧
    ∃ lnotes, lastAssigned (w.effectsOf 0) = some lnotes ∧
      (∀ n ∈ vc.notes, ∀ m ∈ vc.myNotes, n.id ≠ m.id) ∧
      ∀ n ∈ lnotes, n ∈ vc.notes ∨ ∃ m ∈ vc.myNotes, m.id = n.id := by
  have he : (exec (guarded deliversNotes notesListSystem.step) (start ())
      [.boot 0 (some "alice"), .serve 0 (.users [⟨"a", "alice", none, none, none⟩]),
        .deliver 0 (), .serve 0 (.entries [⟨some "m", 7⟩]), .deliver 0 (),
        .serve 0 (.document (noteTitled "M")), .deliver 0 (), .serve 0 .neither, .deliver 0 (),
        .serve 0 (.notes [("m", noteTitled "M"), ("n", noteTitled "N")]), .deliver 0 (),
        .serve 0 .neither, .deliver 0 ()]).map
      (fun w => (w.flights.map (·.request), decide (.loadNotes ∈ w.effectsOf 0),
        (w.clients 0).map fun vc => (vc.notes.map (·.id), vc.myNotes.map (·.id)))) =
      some ([], true, some (["n"], ["m"])) := by decide +kernel
  obtain ⟨h, w, hr, hG, hw⟩ := run_of_guarded he
  obtain ⟨hflights, hload, hclient⟩ : _ ∧ _ ∧ _ := by simpa only [Prod.mk.injEq] using hw
  obtain ⟨vc, hi, hvc⟩ := Option.map_eq_some_iff.mp hclient
  obtain ⟨hnotes, hmine⟩ := Prod.mk.inj hvc
  refine ⟨h, w, vc, hr, hi, hnotes, hmine, notes_partition hr (fun p hp => ?_) hi ?_
    (of_decide_eq_true hload)⟩
  · rintro k a f he hf hq
    have hg := hG p hp
    simp only [deliversNotes, he] at hg
    cases a with
    | notes documents => exact ⟨documents, rfl⟩
    | _ => simp [hf, hq] at hg
  · simp [List.map_eq_nil_iff.mp hflights]

end Aoun
