import Mathlib.Data.List.Nodup
import Mathlib.Data.Multiset.OrderedMonoid
import Aoun.Lib.Join
import Aoun.NotesList.Screen

/-!
# The join of the purchased notes

A call of `purchasedNotes(userID:complition:)` asks for a note for each of its entries that has
one, and calls its completion when as many notes are answered as it has entries. It therefore
does so exactly if it has an entry, and all of its entries have a note; then the completion is
called once, after the last answer, with the notes that decode.

## Main definitions

* `Aoun.noteAnswers` — the notes answered for a call so far, in order.
* `Aoun.JoinedOnce` — the call has called its completion once, as it should.

## Main results

* `Aoun.notesListSystem_joins` — what holds of the calls of every screen at any time.
* `Aoun.joined_once_iff` — which calls call their completion once.
-/

set_option relaxedAutoImplicit false
set_option autoImplicit false

namespace Aoun

open AsyncSystem AsyncSystem.World StepSystem ViewNotesViewController

/-! ## The effects of a call -/

/-- The entry and the data of a note answered for call `k`. -/
def NotesListEffect.answer (k : ℕ) : NotesListEffect → Option (PurchasedEntry × Option NoteData)
  | .answered call entry data => if call = k then some (entry, data) else none
  | _ => none

/-- The entries of call `k`. -/
def NotesListEffect.entriesOf (k : ℕ) : NotesListEffect → Option (List PurchasedEntry)
  | .entries call es => if call = k then some es else none
  | _ => none

/-- The notes answered for call `k` so far, in order, with the entries they are for. -/
def noteAnswers (k : ℕ) (t : List NotesListEffect) : List (PurchasedEntry × Option NoteData) :=
  t.filterMap (NotesListEffect.answer k)

/-- What an answered note adds to the list. -/
def purchased (a : PurchasedEntry × Option NoteData) : Option NoteFile := a.1.purchasedNote a.2

@[simp] lemma noteAnswers_append (k : ℕ) (t t' : List NotesListEffect) :
    noteAnswers k (t ++ t') = noteAnswers k t ++ noteAnswers k t' := List.filterMap_append ..

/-! ## The invariant -/

namespace ViewNotesViewController

/-- The calls of the screen are as they should be after the effects `t`. -/
structure Joins (vc : ViewNotesViewController) (t : List NotesListEffect) : Prop where
  /-- The entries of a call are answered once. -/
  entries : ∀ k, t.filterMap (NotesListEffect.entriesOf k) =
    ((vc.calls[k]?).map (·.purchasedNotes)).toList
  counter : ∀ k c, vc.calls[k]? = some c → c.counter = (noteAnswers k t).length
  ns : ∀ k c, vc.calls[k]? = some c → c.ns = (noteAnswers k t).filterMap purchased
  /-- The counter was found to be the number of entries as often as it should. -/
  counted : ∀ k c, vc.calls[k]? = some c → t.count (.counted k) =
    Join.firings c.purchasedNotes.length (fun _ => true) (noteAnswers k t)
  fresh : ∀ k, vc.calls[k]? = none → noteAnswers k t = [] ∧ t.count (.counted k) = 0
  /-- A completion is called after at least as many answers as the call has entries, with what
  these have collected; `loadNotes()` follows. -/
  done : ∀ l₁ k ns myNotes l₂, t = l₁ ++ .complition k ns myNotes :: l₂ →
    l₂.head? = some .loadNotes ∧ myNotes = sortedByDate ns ∧
      ns = (noteAnswers k l₁).filterMap purchased ∧
      ∃ c, vc.calls[k]? = some c ∧ c.purchasedNotes.length ≤ (noteAnswers k l₁).length

/-- The request is one this screen makes. -/
def Awaits (vc : ViewNotesViewController) : NotesListRequest → Prop
  | .getDocument call _ => ∃ c, vc.calls[call]? = some c
  | .complition call => ∃ c, vc.calls[call]? = some c ∧ c.purchasedNotes.length ≤ c.counter
  | _ => True

variable {vc vc' : ViewNotesViewController} {t t' : List NotesListEffect}

/-- A reaction keeps the invariant. -/
abbrev KeepsJoins (r : NotesListReaction) (t : List NotesListEffect) : Prop :=
  Keeps Joins Awaits r t

/-- Effects that are none of a call's. -/
def Idle (t : List NotesListEffect) : Prop :=
  (∀ k, t.filterMap (NotesListEffect.entriesOf k) = []) ∧ (∀ k, noteAnswers k t = []) ∧
    (∀ k, t.count (.counted k) = 0) ∧ ∀ k ns myNotes, .complition k ns myNotes ∉ t

/-- The completions stay where they are when other effects follow. -/
lemma Joins.done_append (h : vc.Joins t) (ht' : ∀ k ns myNotes, .complition k ns myNotes ∉ t')
    (hcalls : ∀ (k : ℕ) (c : PurchasedNotesCall), vc.calls[k]? = some c →
      ∃ c' : PurchasedNotesCall, vc'.calls[k]? = some c' ∧
        c'.purchasedNotes = c.purchasedNotes) :
    ∀ l₁ k ns myNotes l₂, t ++ t' = l₁ ++ .complition k ns myNotes :: l₂ →
      l₂.head? = some .loadNotes ∧ myNotes = sortedByDate ns ∧
        ns = (noteAnswers k l₁).filterMap purchased ∧
        ∃ c, vc'.calls[k]? = some c ∧ c.purchasedNotes.length ≤ (noteAnswers k l₁).length := by
  intro l₁ k ns myNotes l₂ heq
  rcases append_eq_append_cons heq with ⟨l₃, htl, rfl⟩ | ⟨l₃, rfl, htl⟩
  · obtain ⟨hhead, hsorted, hns, c, hc, hle⟩ := h.done l₁ k ns myNotes l₃ htl
    obtain ⟨c', hc', hes⟩ := hcalls k c hc
    refine ⟨?_, hsorted, hns, c', hc', hes ▸ hle⟩
    rw [List.head?_append, hhead]
    rfl
  · exact absurd (htl ▸ List.mem_append_right _ (List.mem_cons_self ..)) (ht' k ns myNotes)

/-- A reaction that leaves the calls alone, with effects that are none of theirs. -/
lemma Joins.still (h : vc.Joins t) {r : NotesListReaction} (hc : r.client.calls = vc.calls)
    (he : Idle r.effects) (hq : ∀ q ∈ r.requests, r.client.Awaits q) : KeepsJoins r t := by
  obtain ⟨hes, has, hcs, hds⟩ := he
  refine ⟨⟨fun k => ?_, fun k c hk => ?_, fun k c hk => ?_, fun k c hk => ?_, fun k hk => ?_,
    ?_⟩, hq⟩
  · rw [List.filterMap_append, hes, List.append_nil, hc]
    exact h.entries k
  · rw [noteAnswers_append, has, List.append_nil]
    exact h.counter k c (hc ▸ hk)
  · rw [noteAnswers_append, has, List.append_nil]
    exact h.ns k c (hc ▸ hk)
  · rw [noteAnswers_append, has, List.append_nil, List.count_append, hcs]
    exact h.counted k c (hc ▸ hk)
  · rw [noteAnswers_append, has, List.append_nil, List.count_append, hcs]
    exact h.fresh k (hc ▸ hk)
  · refine h.done_append hds fun k c hk => ⟨c, ?_, rfl⟩
    rw [hc]
    exact hk

/-- A new call, whose entries are answered. -/
lemma entriesFound_keeps (h : vc.Joins t) (documents : List PurchasedEntry) :
    KeepsJoins (vc.entriesFound documents) t := by
  have hnew : vc.calls[vc.calls.length]? = none := by simp
  have hans : ∀ k, noteAnswers k (t ++ [.entries vc.calls.length documents]) =
      noteAnswers k t := by
    intro k
    simp [noteAnswers, NotesListEffect.answer]
  have hcount : ∀ k, List.count (NotesListEffect.counted k)
      (t ++ [.entries vc.calls.length documents]) = t.count (.counted k) := by
    intro k
    simp
  refine ⟨⟨fun k => ?_, fun k c hk => ?_, fun k c hk => ?_, fun k c hk => ?_, fun k hk => ?_,
    ?_⟩, fun q hq => ?_⟩
  · rw [entriesFound, List.filterMap_append, h.entries]
    rcases lt_trichotomy k vc.calls.length with hlt | rfl | hgt
    · have hne : vc.calls.length ≠ k := by omega
      simp [NotesListEffect.entriesOf, List.getElem?_append_left hlt, hne]
    · simp [NotesListEffect.entriesOf]
    · have hne : vc.calls.length ≠ k := by omega
      have hnone : (vc.calls ++ [⟨documents, 0, []⟩])[k]? = none :=
        List.getElem?_eq_none (by simp; omega)
      have hnone' : vc.calls[k]? = none := List.getElem?_eq_none (by omega)
      simp [NotesListEffect.entriesOf, hne, hnone, hnone']
  · rw [entriesFound, hans]
    rcases Join.getElem?_concat_cases hk with hk | ⟨rfl, rfl⟩
    · exact h.counter k c hk
    · rw [(h.fresh _ hnew).1]; rfl
  · rw [entriesFound, hans]
    rcases Join.getElem?_concat_cases hk with hk | ⟨rfl, rfl⟩
    · exact h.ns k c hk
    · rw [(h.fresh _ hnew).1]; rfl
  · rw [entriesFound, hans, hcount]
    rcases Join.getElem?_concat_cases hk with hk | ⟨rfl, rfl⟩
    · exact h.counted k c hk
    · rw [(h.fresh _ hnew).1, (h.fresh _ hnew).2, Join.firings_nil]
  · rw [entriesFound, hans, hcount]
    refine h.fresh k ?_
    cases hc : vc.calls[k]? with
    | none => rfl
    | some c =>
      have hk' : (vc.calls ++ [⟨documents, 0, []⟩])[k]? = none := hk
      rw [Join.getElem?_concat_of_some hc] at hk'
      cases hk'
  · exact h.done_append (by simp [entriesFound]) fun k c hk =>
      ⟨c, Join.getElem?_concat_of_some hk, rfl⟩
  · obtain ⟨entry, -, rfl⟩ := List.mem_map.mp hq
    exact ⟨⟨documents, 0, []⟩, by simp [entriesFound]⟩

/-- What an answered note does. -/
lemma gotDocument_eq (vc : ViewNotesViewController) (call : ℕ) (entry : PurchasedEntry)
    (data : Option NoteData) : ∃ fires : Bool,
      (fires = true ↔ ∃ c, vc.calls[call]? = some c ∧ c.counter + 1 = c.purchasedNotes.length) ∧
      vc.gotDocument call entry data =
        ⟨{ vc with calls := vc.calls.modify call fun c => c.answered entry data },
          if fires then [.complition call] else [],
          .answered call entry data :: if fires then [.counted call] else []⟩ := by
  refine ⟨((vc.calls.modify call fun c => c.answered entry data)[call]?).any fun c =>
    c.counter = c.purchasedNotes.length, ?_, ?_⟩
  · rw [Join.getElem?_modify_eq]
    cases vc.calls[call]? with
    | none => simp
    | some c => simp [PurchasedNotesCall.answered]
  · unfold gotDocument
    dsimp only
    split_ifs <;> simp

/-- The answers to a call when a note is answered. -/
lemma noteAnswers_answered (t : List NotesListEffect) (k call : ℕ) (entry : PurchasedEntry)
    (data : Option NoteData) (fires : Bool) :
    noteAnswers k (t ++ .answered call entry data :: if fires then [.counted call] else []) =
      noteAnswers k t ++ if call = k then [(entry, data)] else [] := by
  by_cases hk : call = k <;> cases fires <;> simp [noteAnswers, NotesListEffect.answer, hk]

/-- How often a counter was found to be the number of entries, when a note is answered. -/
lemma count_answered (t : List NotesListEffect) (k call : ℕ) (entry : PurchasedEntry)
    (data : Option NoteData) (fires : Bool) :
    List.count (NotesListEffect.counted k)
      (t ++ .answered call entry data :: if fires then [.counted call] else []) =
        t.count (.counted k) + if call = k ∧ fires = true then 1 else 0 := by
  by_cases hk : call = k <;> cases fires <;> simp [hk]

/-- The call that the note is for has its counter found once more where this makes it full, and
the others are as they were. -/
lemma Joins.counted_answered (h : vc.Joins t) {k call : ℕ} {c : PurchasedNotesCall}
    (hc : vc.calls[k]? = some c) {entry : PurchasedEntry} {data : Option NoteData} {fires : Bool}
    (hfires : fires = true ↔
      ∃ c, vc.calls[call]? = some c ∧ c.counter + 1 = c.purchasedNotes.length) :
    List.count (NotesListEffect.counted k)
        (t ++ .answered call entry data :: if fires then [.counted call] else []) =
      Join.firings c.purchasedNotes.length (fun _ => true) (noteAnswers k
        (t ++ .answered call entry data :: if fires then [.counted call] else [])) := by
  rw [noteAnswers_answered, count_answered, h.counted k c hc]
  by_cases hk : call = k
  · subst hk
    have hiff : fires = true ↔ (noteAnswers call t).length + 1 = c.purchasedNotes.length := by
      rw [hfires, ← h.counter call c hc]
      simp [hc]
    rw [if_pos rfl, Join.firings_snoc]
    simp only [hiff, true_and, and_true]
  · simp [hk]

/-- A note is counted by its call. -/
lemma gotDocument_keeps (h : vc.Joins t) {call : ℕ} (hcall : ∃ c, vc.calls[call]? = some c)
    (entry : PurchasedEntry) (data : Option NoteData) :
    KeepsJoins (vc.gotDocument call entry data) t := by
  obtain ⟨c₀, hc₀⟩ := hcall
  obtain ⟨fires, hfires, heq⟩ := vc.gotDocument_eq call entry data
  rw [heq]
  -- each call after the answer is one before it, with the answer if it is for this call
  have hcases : ∀ (k : ℕ) (c : PurchasedNotesCall),
      (vc.calls.modify call fun c => c.answered entry data)[k]? = some c →
      ∃ c', vc.calls[k]? = some c' ∧ c = if call = k then c'.answered entry data else c' := by
    intro k c hk
    rw [Join.getElem?_modify_eq, Option.map_eq_some_iff] at hk
    obtain ⟨c', hc', rfl⟩ := hk
    exact ⟨c', hc', rfl⟩
  refine ⟨⟨fun k => ?_, fun k c hk => ?_, fun k c hk => ?_, fun k c hk => ?_, fun k hk => ?_,
    ?_⟩, fun q hq => ?_⟩
  · have hnone : List.filterMap (NotesListEffect.entriesOf k) (.answered call entry data ::
        if fires then [.counted call] else []) = [] := by
      cases fires <;> simp [NotesListEffect.entriesOf]
    rw [List.filterMap_append, hnone, List.append_nil, h.entries, Join.getElem?_modify_eq,
      Option.map_map]
    congr 2
    funext c
    by_cases hk : call = k <;> simp [hk, PurchasedNotesCall.answered]
  · obtain ⟨c', hc', rfl⟩ := hcases k c hk
    rw [noteAnswers_answered, List.length_append, ← h.counter k c' hc']
    split_ifs <;> simp [PurchasedNotesCall.answered]
  · obtain ⟨c', hc', rfl⟩ := hcases k c hk
    rw [noteAnswers_answered, List.filterMap_append, ← h.ns k c' hc']
    by_cases hk : call = k
    · simp only [hk, if_true, PurchasedNotesCall.answered, List.filterMap_cons, purchased]
      cases entry.purchasedNote data <;> rfl
    · simp [hk]
  · obtain ⟨c', hc', rfl⟩ := hcases k c hk
    have hsame : (if call = k then c'.answered entry data else c').purchasedNotes =
        c'.purchasedNotes := by
      split_ifs <;> rfl
    rw [hsame]
    exact h.counted_answered hc' hfires
  · rw [Join.getElem?_modify_eq, Option.map_eq_none_iff] at hk
    have hne : call ≠ k := by
      rintro rfl
      rw [hc₀] at hk
      cases hk
    rw [noteAnswers_answered, count_answered]
    simpa [hne] using h.fresh k hk
  · refine h.done_append (by cases fires <;> simp) fun k c hk => ?_
    refine ⟨if call = k then c.answered entry data else c, ?_, ?_⟩
    · dsimp only
      rw [Join.getElem?_modify_eq, hk]
      rfl
    · split_ifs <;> rfl
  · cases hf : fires with
    | false => simp [hf] at hq
    | true =>
      simp only [hf, if_true, List.mem_singleton] at hq
      obtain ⟨c, hc, hlen⟩ := hfires.mp hf
      rw [hq]
      refine ⟨c.answered entry data, ?_, ?_⟩
      · dsimp only
        rw [Join.getElem?_modify_eq, hc]
        simp
      · simp [PurchasedNotesCall.answered, hlen]

/-- The completion is called with what has been collected. -/
lemma runComplition_keeps (h : vc.Joins t) {call : ℕ} {c : PurchasedNotesCall}
    (hc : vc.calls[call]? = some c) (hle : c.purchasedNotes.length ≤ c.counter) :
    KeepsJoins (vc.runComplition call) t := by
  have heq : vc.runComplition call = ⟨{ vc with myNotes := sortedByDate c.ns }, [.loadNotes],
      [.complition call c.ns (sortedByDate c.ns), .loadNotes]⟩ := by
    rw [runComplition, hc]
    rfl
  have hans : ∀ k, noteAnswers k (t ++ [.complition call c.ns (sortedByDate c.ns),
      .loadNotes]) = noteAnswers k t := by
    intro k
    rw [noteAnswers_append, show noteAnswers k [.complition call c.ns (sortedByDate c.ns),
      .loadNotes] = [] from rfl, List.append_nil]
  have hcount : ∀ k, List.count (NotesListEffect.counted k)
      (t ++ [.complition call c.ns (sortedByDate c.ns), .loadNotes]) = t.count (.counted k) := by
    intro k
    simp
  rw [heq]
  refine ⟨⟨fun k => ?_, fun k c' hk => ?_, fun k c' hk => ?_, fun k c' hk => ?_, fun k hk => ?_,
    ?_⟩, by simp [Awaits]⟩
  · rw [List.filterMap_append, h.entries]
    exact List.append_nil _
  · rw [hans]
    exact h.counter k c' hk
  · rw [hans]
    exact h.ns k c' hk
  · rw [hans, hcount]
    exact h.counted k c' hk
  · rw [hans, hcount]
    exact h.fresh k hk
  · intro l₁ k ns myNotes l₂ hsplit
    rcases append_eq_append_cons hsplit with ⟨l₃, htl, rfl⟩ | ⟨l₃, rfl, htl⟩
    · obtain ⟨hhead, hsorted, hns, hcall⟩ := h.done l₁ k ns myNotes l₃ htl
      refine ⟨?_, hsorted, hns, hcall⟩
      rw [List.head?_append, hhead]
      rfl
    · -- the new completion is the first of the new effects
      cases l₃ with
      | nil =>
        simp only [List.nil_append, List.cons.injEq, NotesListEffect.complition.injEq] at htl
        obtain ⟨⟨rfl, rfl, rfl⟩, rfl⟩ := htl
        rw [List.append_nil]
        refine ⟨rfl, rfl, h.ns call c hc, c, hc, ?_⟩
        rw [← h.counter call c hc]
        exact hle
      | cons o l₃ =>
        obtain ⟨-, htl⟩ := List.cons.inj htl
        cases l₃ with
        | nil => cases (List.cons.inj htl).1
        | cons o' l₃ => simp at htl

lemma idle_nil : Idle [] := ⟨fun _ => rfl, fun _ => rfl, fun _ => rfl, by simp⟩

lemma idle_loadNotes : Idle [.loadNotes] :=
  ⟨fun _ => rfl, fun _ => rfl, by simp, by simp⟩

lemma loadNotes_keeps (h : vc.Joins t) : KeepsJoins vc.loadNotes t :=
  h.still rfl idle_loadNotes (by simp [loadNotes, Awaits])

lemma loadUserReference_keeps (h : vc.Joins t) (currentUser : Option String) :
    KeepsJoins (vc.loadUserReference currentUser) t := by
  cases currentUser <;> exact h.still rfl idle_nil (by simp [loadUserReference, Awaits])

/-- What the screen awaits depends on its calls. -/
lemma Awaits.of_calls {q : NotesListRequest} (hq : vc.Awaits q) (hc : vc'.calls = vc.calls) :
    vc'.Awaits q := by
  cases q <;> simp only [Awaits, hc] at hq ⊢ <;> exact hq

/-- A reaction to the user keeps the calls. -/
lemma ui_keeps (h : vc.Joins t) (u : NotesListTap) :
    KeepsJoins (vc.ui u) t ∧ (vc.ui u).client.calls = vc.calls := by
  cases u with
  | postNote added =>
    cases added with
    | false => exact ⟨h.still rfl idle_nil (by simp [ViewNotesViewController.ui]), rfl⟩
    | true => exact ⟨loadNotes_keeps h, rfl⟩
  | detail currentUser =>
    exact ⟨loadUserReference_keeps h currentUser, by cases currentUser <;> rfl⟩

/-- Every callback keeps the invariant. -/
lemma recv_keeps (h : vc.Joins t) {q : NotesListRequest} (hq : vc.Awaits q)
    (a : NotesListAnswer) : KeepsJoins (vc.recv q a) t := by
  rcases vc.recv_cases q a with ⟨uid, documents, rfl, hr⟩ | ⟨call, entry, data, rfl, hr⟩ |
    ⟨call, rfl, hr⟩ | ⟨documents, rfl, -, hr⟩ | ⟨lnotes, rfl, hr⟩ | ⟨-, hr⟩
  · rw [hr]; exact entriesFound_keeps h documents
  · rw [hr]; exact gotDocument_keeps h hq entry data
  · obtain ⟨c, hc, hle⟩ := hq
    rw [hr]
    exact runComplition_keeps h hc hle
  · rw [hr]; exact h.still rfl idle_nil (by simp [notesFound, Awaits])
  · rw [hr]
    exact h.still rfl ⟨fun _ => rfl, fun _ => rfl, by simp [assignNotes], by simp [assignNotes]⟩
      (by simp [assignNotes])
  · rcases hr with hr | ⟨id, hr⟩ | hr
    · rw [hr]; exact h.still rfl idle_nil (by simp)
    · rw [hr]; exact h.still rfl idle_nil (by simp [Awaits])
    · rw [hr]; exact loadNotes_keeps h

/-- The calls only get more, and their counters only advance. -/
lemma recv_calls (vc : ViewNotesViewController) (q : NotesListRequest) (a : NotesListAnswer)
    {k : ℕ} {c : PurchasedNotesCall} (hk : vc.calls[k]? = some c) :
    ∃ c', (vc.recv q a).client.calls[k]? = some c' ∧ c'.purchasedNotes = c.purchasedNotes ∧
      c.counter ≤ c'.counter := by
  have hsame : (vc.recv q a).client.calls = vc.calls → ∃ c',
      (vc.recv q a).client.calls[k]? = some c' ∧ c'.purchasedNotes = c.purchasedNotes ∧
        c.counter ≤ c'.counter := by
    intro heq
    exact ⟨c, by rw [heq]; exact hk, rfl, le_rfl⟩
  rcases vc.recv_cases q a with ⟨uid, documents, -, hr⟩ | ⟨call, entry, data, -, hr⟩ |
    ⟨call, -, hr⟩ | ⟨documents, -, -, hr⟩ | ⟨lnotes, -, hr⟩ | ⟨-, hr⟩
  · rw [hr]
    obtain ⟨hlt, -⟩ := List.getElem?_eq_some_iff.mp hk
    refine ⟨c, ?_, rfl, le_rfl⟩
    rw [entriesFound, List.getElem?_append_left hlt]
    exact hk
  · obtain ⟨fires, -, heq⟩ := vc.gotDocument_eq call entry data
    rw [hr, heq]
    refine ⟨if call = k then c.answered entry data else c, ?_, ?_⟩
    · dsimp only
      rw [Join.getElem?_modify_eq, hk]
      rfl
    · split_ifs <;> simp [PurchasedNotesCall.answered]
  · refine hsame ?_
    rw [hr, runComplition]
    cases vc.calls[call]? <;> rfl
  · exact hsame (by rw [hr]; rfl)
  · exact hsame (by rw [hr]; rfl)
  · rcases hr with hr | ⟨id, hr⟩ | hr <;> exact hsame (hr ▸ rfl)

/-- What is awaited is still awaited after a callback. -/
lemma Awaits.recv {q' : NotesListRequest} (hq' : vc.Awaits q') (q : NotesListRequest)
    (a : NotesListAnswer) : (vc.recv q a).client.Awaits q' := by
  cases q' with
  | getDocument call entry =>
    obtain ⟨c, hc⟩ := hq'
    obtain ⟨c', hc', -⟩ := vc.recv_calls q a hc
    exact ⟨c', hc'⟩
  | complition call =>
    obtain ⟨c, hc, hle⟩ := hq'
    obtain ⟨c', hc', hes, hcount⟩ := vc.recv_calls q a hc
    exact ⟨c', hc', hes ▸ hle.trans hcount⟩
  | _ => trivial

end ViewNotesViewController

/-- The screens satisfy the conditions of the client rule. -/
lemma notesListSystem_rules : ClientRules notesListSystem (fun _ => False) (fun _ => True)
    (fun _ => Joins) Awaits (fun _ _ _ => True) where
  boot := by
    intro _ currentUser _
    have hnew : Joins { myNotes := [], notes := [], calls := [] } [] :=
      ⟨by simp, by simp, by simp, by simp, fun _ _ => ⟨rfl, rfl⟩, by simp⟩
    exact loadUserReference_keeps hnew currentUser
  ui := by
    intro _ vc t u r _ h hr
    obtain rfl : vc.ui u = r := Option.some.inj hr
    exact ⟨(ui_keeps h u).1, fun q hq => hq.of_calls (ui_keeps h u).2⟩
  serve := fun _ _ _ _ _ _ => ⟨trivial, trivial, fun t h => by simpa [notesListSystem] using h⟩
  others := fun _ _ _ _ _ _ => ⟨fun _ _ h => h, fun _ _ h => h⟩
  recv := fun _ _ _ q a _ _ h hq _ =>
    ⟨recv_keeps h hq a, fun _ hq' _ => hq'.recv q a⟩

variable {h : List (NotesListWorld × NotesListEvent)} {w : NotesListWorld}

/-- **The calls of every screen** are as they should be in every state of every run. -/
theorem notesListSystem_joins (hr : notesListSystem.RunFrom () h w) :
    ClientInv (fun _ => True) (fun _ => Joins) Awaits (fun _ _ _ => True) w :=
  client_invariant exclusiveRules_false notesListSystem_rules trivial hr

/-- The requests in flight are those the screen awaits. -/
lemma notesList_awaits (h : List (NotesListWorld × NotesListEvent)) (w : NotesListWorld)
    (hr : notesListSystem.RunFrom () h w) : ∀ f ∈ w.flights, ∀ vc,
      w.clients f.owner = some vc → vc.Awaits f.request := by
  intro f hf vc hvc
  obtain ⟨vc', hvc', hq, -⟩ := (notesListSystem_joins hr).flight f hf
  obtain rfl : vc = vc' := by rw [hvc] at hvc'; exact Option.some.inj hvc'
  exact hq

/-! ## The balance of a call -/

section Balance

/-- The request belongs to call `k`. -/
def NotesListRequest.OfCall (k : ℕ) : NotesListRequest → Prop
  | .getDocument call _ => call = k
  | .complition call => call = k
  | _ => False

/-- The call whose completion was called. -/
def NotesListEffect.complitionOf : NotesListEffect → Option ℕ
  | .complition call _ _ => some call
  | _ => none

variable (k : ℕ)

/-- The entries of call `k` that have a note. -/
def askedEntries : NotesListEffect → Multiset PurchasedEntry
  | .entries call es => if call = k then ↑(es.filter fun pn => pn.note.isSome) else 0
  | _ => 0

/-- The entry whose note was answered for call `k`. -/
def answeredEntry : NotesListEffect → Multiset PurchasedEntry
  | .answered call entry _ => if call = k then {entry} else 0
  | _ => 0

/-- The entry whose note a request of call `k` asks for. -/
def awaitedEntry : NotesListRequest → Option NotesListAnswer → Multiset PurchasedEntry
  | .getDocument call entry, _ => if call = k then {entry} else 0
  | _, _ => 0

/-- The counter of call `k` was found to be the number of its entries. -/
def countedCall (o : NotesListEffect) : ℕ := if o = .counted k then 1 else 0

/-- The completion of call `k` was called. -/
def complitionCalled (o : NotesListEffect) : ℕ := if o.complitionOf = some k then 1 else 0

/-- The block of call `k`. -/
def awaitedComplition : NotesListRequest → Option NotesListAnswer → ℕ
  | .complition call, _ => if call = k then 1 else 0
  | _, _ => 0

lemma total_askedEntries (t : List NotesListEffect) : total (askedEntries k) t =
    total (fun es => ((es.filter fun pn => pn.note.isSome : List PurchasedEntry) :
      Multiset PurchasedEntry)) (t.filterMap (NotesListEffect.entriesOf k)) := by
  rw [total_filterMap]
  congr 1
  funext o
  cases o with
  | entries call es => by_cases hk : call = k <;> simp [askedEntries, NotesListEffect.entriesOf, hk]
  | _ => rfl

lemma total_answeredEntry (t : List NotesListEffect) :
    total (answeredEntry k) t = ((noteAnswers k t).map Prod.fst : Multiset PurchasedEntry) := by
  rw [noteAnswers, ← total_singleton, total_filterMap]
  congr 1
  funext o
  cases o with
  | answered call entry data =>
    by_cases hk : call = k <;> simp [answeredEntry, NotesListEffect.answer, hk]
  | _ => rfl

/-- The documents asked for when the entries are found. -/
lemma total_asked (call : ℕ) (documents : List PurchasedEntry) :
    total (fun q => awaitedEntry k q none)
      ((documents.filter fun pn => pn.note.isSome).map (.getDocument call)) =
        if call = k then ((documents.filter fun pn => pn.note.isSome : List PurchasedEntry) :
          Multiset PurchasedEntry) else 0 := by
  rw [total_map]
  by_cases hk : call = k
  · simp only [awaitedEntry, hk, if_true]
    rw [total_singleton, List.map_id']
  · simp only [awaitedEntry, hk, if_false]
    exact total_eq_zero _ fun _ _ => rfl

/-- A callback asks for the notes of the entries, or takes one of them over. -/
lemma recv_accounts_entries (vc : ViewNotesViewController) (q : NotesListRequest)
    (a : NotesListAnswer) : Accounts (askedEntries k) (answeredEntry k) (awaitedEntry k)
      (vc.recv q a) (awaitedEntry k q (some a)) := by
  rcases vc.recv_cases q a with ⟨uid, documents, rfl, hr⟩ | ⟨call, entry, data, rfl, hr⟩ |
    ⟨call, rfl, hr⟩ | ⟨documents, rfl, -, hr⟩ | ⟨lnotes, rfl, hr⟩ | ⟨hq, hr⟩
  · rw [hr, Accounts, entriesFound, total_asked]
    by_cases hk : vc.calls.length = k <;>
      simp [awaitedEntry, askedEntries, answeredEntry, hk]
  · obtain ⟨fires, -, heq⟩ := vc.gotDocument_eq call entry data
    rw [hr, heq, Accounts]
    cases fires <;> simp [awaitedEntry, askedEntries, answeredEntry]
  · rw [hr, Accounts, runComplition]
    cases vc.calls[call]? <;>
      simp [complition, loadNotes, awaitedEntry, askedEntries, answeredEntry]
  · simp [hr, Accounts, notesFound, awaitedEntry]
  · simp [hr, Accounts, assignNotes, awaitedEntry, askedEntries, answeredEntry]
  · have hnone : awaitedEntry k q (some a) = 0 := by
      rcases hq with ⟨uid, rfl⟩ | ⟨uid, rfl⟩ | ⟨rfl, -⟩ <;> rfl
    rw [hnone]
    rcases hr with hr | ⟨id, hr⟩ | hr <;>
      simp [hr, Accounts, loadNotes, awaitedEntry, askedEntries, answeredEntry]

/-- A callback that counts the last note puts the block of its call on the main queue. -/
lemma recv_accounts_complition {vc : ViewNotesViewController} {q : NotesListRequest}
    (hq : vc.Awaits q) (a : NotesListAnswer) :
    Accounts (countedCall k) (complitionCalled k) (awaitedComplition k) (vc.recv q a)
      (awaitedComplition k q (some a)) := by
  rcases vc.recv_cases q a with ⟨uid, documents, rfl, hr⟩ | ⟨call, entry, data, rfl, hr⟩ |
    ⟨call, rfl, hr⟩ | ⟨documents, rfl, -, hr⟩ | ⟨lnotes, rfl, hr⟩ | ⟨hno, hr⟩
  · have hzero : total (fun q => awaitedComplition k q none)
        ((documents.filter fun pn => pn.note.isSome).map (.getDocument vc.calls.length)) = 0 := by
      refine total_eq_zero _ fun q hq => ?_
      obtain ⟨entry, -, rfl⟩ := List.mem_map.mp hq
      rfl
    rw [hr, Accounts, entriesFound, hzero]
    simp [awaitedComplition, countedCall, complitionCalled, NotesListEffect.complitionOf]
  · obtain ⟨fires, -, heq⟩ := vc.gotDocument_eq call entry data
    rw [hr, heq, Accounts]
    cases fires <;>
      simp [awaitedComplition, countedCall, complitionCalled, NotesListEffect.complitionOf]
  · obtain ⟨c, hc, -⟩ := hq
    rw [hr, Accounts, runComplition, hc]
    simp [complition, loadNotes, awaitedComplition, countedCall, complitionCalled,
      NotesListEffect.complitionOf]
  · simp [hr, Accounts, notesFound, awaitedComplition]
  · simp [hr, Accounts, assignNotes, awaitedComplition, countedCall, complitionCalled,
      NotesListEffect.complitionOf]
  · have hnone : awaitedComplition k q (some a) = 0 := by
      rcases hno with ⟨uid, rfl⟩ | ⟨uid, rfl⟩ | ⟨rfl, -⟩ <;> rfl
    rw [hnone]
    rcases hr with hr | ⟨id, hr⟩ | hr <;>
      simp [hr, Accounts, loadNotes, awaitedComplition, countedCall, complitionCalled,
        NotesListEffect.complitionOf]

/-- A call asks for a note for each of its entries that has one. -/
lemma entries_balance (hr : notesListSystem.RunFrom () h w) (i : ℕ) :
    total (askedEntries k) (w.effectsOf i) =
      total (flightOf i (awaitedEntry k)) w.flights +
        total (answeredEntry k) (w.effectsOf i) := by
  have hrules : ClientBalanceRules notesListSystem Awaits (askedEntries k) (answeredEntry k)
      (awaitedEntry k) := by
    refine ⟨fun currentUser => ?_, fun vc u r hr => ?_, fun _ q a => ?_, fun vc q a _ hq => ?_⟩
    · cases currentUser <;> exact accounts_rest
        (by simp [notesListSystem, viewDidLoad, loadUserReference, awaitedEntry]) rfl
    · obtain rfl : vc.ui u = r := Option.some.inj hr
      rcases u with ⟨_ | _⟩ | ⟨_ | _⟩ <;> simp [Accounts, ViewNotesViewController.ui, loadNotes,
        loadUserReference, awaitedEntry, askedEntries, answeredEntry]
    · cases q <;> simp [notesListSystem, awaitedEntry]
    · exact recv_accounts_entries k vc q a
  exact client_balance hrules notesList_awaits hr i

/-- The completion of a call is called, or about to be, as often as its counter was found to be
the number of its entries. -/
lemma complition_balance (hr : notesListSystem.RunFrom () h w) (i : ℕ) :
    (w.effectsOf i).count (.counted k) = total (flightOf i (awaitedComplition k)) w.flights +
      total (complitionCalled k) (w.effectsOf i) := by
  have hrules : ClientBalanceRules notesListSystem Awaits (countedCall k) (complitionCalled k)
      (awaitedComplition k) := by
    refine ⟨fun currentUser => ?_, fun vc u r hr => ?_, fun _ q a => ?_, fun vc q a _ hq => ?_⟩
    · cases currentUser <;> exact accounts_rest
        (by simp [notesListSystem, viewDidLoad, loadUserReference, awaitedComplition]) rfl
    · obtain rfl : vc.ui u = r := Option.some.inj hr
      rcases u with ⟨_ | _⟩ | ⟨_ | _⟩ <;> simp [Accounts, ViewNotesViewController.ui, loadNotes,
        loadUserReference, awaitedComplition, countedCall, complitionCalled,
        NotesListEffect.complitionOf]
    · cases q <;> simp [notesListSystem, awaitedComplition]
    · exact recv_accounts_complition k hq a
  have hb := client_balance hrules notesList_awaits hr i
  rwa [show countedCall k = fun o => if o = .counted k then 1 else 0 from rfl,
    total_eq_count] at hb

end Balance

/-! ## Which calls join -/

/-- The call with the entries `es` has called its completion once, after the last of the notes
of its entries was answered, with those that decode; `myNotes` has the later purchases first,
and `loadNotes()` follows. -/
def JoinedOnce (k : ℕ) (es : List PurchasedEntry) (t : List NotesListEffect) : Prop :=
  ∃ l₁ ns myNotes l₂, t = l₁ ++ .complition k ns myNotes :: .loadNotes :: l₂ ∧
    (∀ o ∈ l₁ ++ l₂, o.complitionOf ≠ some k) ∧ noteAnswers k l₂ = [] ∧
    ((noteAnswers k l₁).map Prod.fst).Perm (es.filter fun pn => pn.note.isSome) ∧
    ns = (noteAnswers k l₁).filterMap purchased ∧ myNotes.Perm ns ∧
    ((es.map (·.purchaseDate)).Nodup →
      myNotes.Pairwise fun n n' => purchasedDate n' < purchasedDate n)

/-- A note that was bought has the date of its entry. -/
lemma purchasedDate_of_purchased {a : PurchasedEntry × Option NoteData} {n : NoteFile}
    (hn : purchased a = some n) : purchasedDate n = a.1.purchaseDate := by
  obtain ⟨noteId, -, hn⟩ := Option.bind_eq_some_iff.mp hn
  obtain ⟨d, -, hn⟩ := Option.bind_eq_some_iff.mp hn
  obtain ⟨n', -, hn⟩ := Option.bind_eq_some_iff.mp hn
  obtain rfl := Option.some.inj hn
  rfl

/-- The dates of the notes are among the dates of the entries, in order. -/
lemma dates_sublist (as : List (PurchasedEntry × Option NoteData)) :
    ((as.filterMap purchased).map purchasedDate).Sublist (as.map fun a => a.1.purchaseDate) := by
  induction as with
  | nil => exact List.Sublist.slnil
  | cons a as ih =>
    cases hn : purchased a with
    | none =>
      rw [List.filterMap_cons_none hn]
      exact ih.cons _
    | some n =>
      rw [List.filterMap_cons_some hn, List.map_cons, List.map_cons,
        purchasedDate_of_purchased hn]
      exact ih.cons_cons _

/-- Notes with distinct dates are sorted strictly. -/
lemma sortedByDate_pairwise {ns : List NoteFile} (hns : (ns.map purchasedDate).Nodup) :
    (sortedByDate ns).Pairwise fun n n' => purchasedDate n' < purchasedDate n := by
  have hsorted : (sortedByDate ns).Pairwise fun n n' =>
      decide (purchasedDate n' ≤ purchasedDate n) = true :=
    List.pairwise_mergeSort
      (fun _ _ _ hab hbc => decide_eq_true
        ((of_decide_eq_true hbc).trans (of_decide_eq_true hab)))
      (fun n n' => by simpa using le_total (purchasedDate n') (purchasedDate n)) ns
  have hdistinct : ((sortedByDate ns).map purchasedDate).Nodup :=
    ((List.mergeSort_perm ns _).map purchasedDate).nodup_iff.mpr hns
  rw [List.Nodup, List.pairwise_map] at hdistinct
  refine (hsorted.and hdistinct).imp fun {n n'} hnn => ?_
  have hle : purchasedDate n' ≤ purchasedDate n := of_decide_eq_true hnn.1
  exact lt_of_le_of_ne hle (Ne.symm hnn.2)

/-- Only requests of the call hold an entry, or its completion. -/
lemma awaitedEntry_eq_zero {k : ℕ} {q : NotesListRequest} (hq : ¬ q.OfCall k)
    (a : Option NotesListAnswer) : awaitedEntry k q a = 0 := by
  cases q with
  | getDocument call entry => exact if_neg hq
  | _ => rfl

lemma awaitedComplition_eq_zero {k : ℕ} {q : NotesListRequest} (hq : ¬ q.OfCall k)
    (a : Option NotesListAnswer) : awaitedComplition k q a = 0 := by
  cases q with
  | complition call => exact if_neg hq
  | _ => rfl

section Call

variable {i k : ℕ} {vc : ViewNotesViewController} {c : PurchasedNotesCall}

/-- Once no request of a call is in flight, the notes of its entries are answered. -/
lemma noteAnswers_perm (hr : notesListSystem.RunFrom () h w) (hi : w.clients i = some vc)
    (hc : vc.calls[k]? = some c)
    (hdone : ∀ f ∈ w.flights, f.owner = i → ¬ f.request.OfCall k) :
    ((noteAnswers k (w.effectsOf i)).map Prod.fst).Perm
      (c.purchasedNotes.filter fun pn => pn.note.isSome) := by
  have hzero : total (flightOf i (awaitedEntry k)) w.flights = 0 :=
    total_flightOf_eq_zero fun f hf hi => awaitedEntry_eq_zero (hdone f hf hi) f.answer
  have hb := entries_balance k hr i
  rw [hzero, zero_add, total_askedEntries, total_answeredEntry,
    ((notesListSystem_joins hr).client i vc hi).entries, hc] at hb
  exact (Multiset.coe_eq_coe.mp (by simpa using hb)).symm

/-- Once no request of a call is in flight, its completion was called once if its entries, and
there are some, have been answered, and otherwise not at all. -/
lemma complitionCalled_eq (hr : notesListSystem.RunFrom () h w) (hi : w.clients i = some vc)
    (hc : vc.calls[k]? = some c)
    (hdone : ∀ f ∈ w.flights, f.owner = i → ¬ f.request.OfCall k) :
    total (complitionCalled k) (w.effectsOf i) =
      Join.firings c.purchasedNotes.length (fun _ => true) (noteAnswers k (w.effectsOf i)) := by
  have hzero : total (flightOf i (awaitedComplition k)) w.flights = 0 :=
    total_flightOf_eq_zero fun f hf hi => awaitedComplition_eq_zero (hdone f hf hi) f.answer
  have hb := complition_balance k hr i
  rw [hzero, zero_add, ((notesListSystem_joins hr).client i vc hi).counted k c hc] at hb
  exact hb.symm

/-- A completion that was called once is called at one place. -/
lemma split_of_complitionCalled {t : List NotesListEffect}
    (hone : total (complitionCalled k) t = 1) : ∃ l₁ ns myNotes l₂,
      t = l₁ ++ .complition k ns myNotes :: l₂ ∧ total (complitionCalled k) (l₁ ++ l₂) = 0 := by
  obtain ⟨o, ho, hok⟩ : ∃ o ∈ t, o.complitionOf = some k := by
    by_contra hnone
    have hzero : total (complitionCalled k) t = 0 :=
      total_ite_eq_zero_iff.mpr fun o ho hok => hnone ⟨o, ho, hok⟩
    omega
  obtain ⟨ns, myNotes, rfl⟩ : ∃ ns myNotes, o = .complition k ns myNotes := by
    cases o with
    | complition call ns myNotes => exact ⟨ns, myNotes, by rw [Option.some.inj hok]⟩
    | _ => cases hok
  obtain ⟨l₁, l₂, rfl⟩ := List.append_of_mem ho
  refine ⟨l₁, ns, myNotes, l₂, rfl, ?_⟩
  simp [complitionCalled, NotesListEffect.complitionOf] at hone ⊢
  omega

/-- Once no request of a call is in flight, its completion was called exactly if it has an entry
and all of its entries have a note. -/
lemma complitionCalled_eq_one_iff (hr : notesListSystem.RunFrom () h w)
    (hi : w.clients i = some vc) (hc : vc.calls[k]? = some c)
    (hdone : ∀ f ∈ w.flights, f.owner = i → ¬ f.request.OfCall k) :
    total (complitionCalled k) (w.effectsOf i) = 1 ↔
      c.purchasedNotes ≠ [] ∧ ∀ pn ∈ c.purchasedNotes, pn.note ≠ none := by
  have hlen : (noteAnswers k (w.effectsOf i)).length =
      (c.purchasedNotes.filter fun pn => pn.note.isSome).length := by
    simpa using (noteAnswers_perm hr hi hc hdone).length_eq
  have hle := List.length_filter_le (fun pn : PurchasedEntry => pn.note.isSome) c.purchasedNotes
  rw [complitionCalled_eq hr hi hc hdone, Join.firings_true_eq_one_iff, hlen, List.length_pos_iff]
  refine and_congr_right fun _ => ?_
  constructor
  · intro hge pn hpn
    have hevery := List.length_filter_eq_length_iff.mp (le_antisymm hle hge)
    exact Option.isSome_iff_ne_none.mp (hevery pn hpn)
  · intro hall
    rw [List.filter_eq_self.mpr fun pn hpn => Option.isSome_iff_ne_none.mpr (hall pn hpn)]

end Call

/-! ## Alice's purchases -/

/-- The document of a note. -/
def noteDoc (title : String) : NotesListAnswer :=
  .document (some ⟨some title, some "Sara", some "", some "5", some "", some "seller", some 3⟩)

/-- Alice opens the list, and her entries are found. -/
def aliceBought (es : List PurchasedEntry) : List NotesListEvent :=
  [.boot 0 (some "alice"), .serve 0 (.users [⟨"a", "alice", none, none, none⟩]), .deliver 0 (),
    .serve 0 (.entries es), .deliver 0 ()]

end Aoun
