import Aoun.Lib.Async

/-!
# Tables that show a list

A table of a client shows as many rows as its list had when the table was reloaded last. The list
changes when a load is issued and when it is answered; the table follows when it is answered. A tap
on a row looks up the list, so that it finds something if no load of the table is in flight.

## Main definitions

* `Table` — the loads of a table, its rows and the length of its list.
* `Table.Loading` — a load of a client's table is in flight.
* `TableRules` — what there is to show of the tables of a system.

## Main results

* `Table.settled` — in a run in which no row is tapped while its table is being loaded, every table
  that is not being loaded shows its list.
-/

set_option relaxedAutoImplicit false
set_option autoImplicit false

open AsyncSystem AsyncSystem.World StepSystem

/-- A table of a client. -/
structure Table (C Q : Type) where
  /-- The request loads the list. -/
  loads : Q → Prop
  /-- The rows that the table shows. -/
  rows : C → ℕ
  /-- The length of the list. -/
  count : C → ℕ

namespace Table

variable {S C I U Q E A X O : Type} (T : Table C Q)

/-- A load of the table of client `i` is in flight. -/
def Loading (w : World S C Q A O) (i : ℕ) : Prop :=
  ∃ f ∈ w.flights, f.owner = i ∧ T.loads f.request

/-- The reaction loads the list, or reloads the table. -/
def Follows (r : Reaction C Q O) : Prop :=
  (∃ q ∈ r.requests, T.loads q) ∨ T.rows r.client = T.count r.client

/-- The reaction leaves the table and the length of the list as they are. -/
def Leaves (c : C) (r : Reaction C Q O) : Prop :=
  T.rows r.client = T.rows c ∧ T.count r.client = T.count c

/-- The table shows the list, unless it is being loaded. -/
def Shows (w : World S C Q A O) (i : ℕ) (c : C) : Prop :=
  ¬ T.Loading w i → T.rows c = T.count c

variable {T} {w : World S C Q A O} {i j k root : ℕ} {r : Reaction C Q O} {f : Flight Q A}

/-- A reaction adds its loads. -/
lemma loading_react : T.Loading (w.react i root r) j ↔
    T.Loading w j ∨ (j = i ∧ ∃ q ∈ r.requests, T.loads q) := by
  simp only [Loading, react_flights, List.mem_append, List.mem_map]
  constructor
  · rintro ⟨f, hf | ⟨q, hq, rfl⟩, hj, hload⟩
    · exact Or.inl ⟨f, hf, hj, hload⟩
    · exact Or.inr ⟨hj.symm, q, hq, hload⟩
  · rintro (⟨f, hf, hj, hload⟩ | ⟨rfl, q, hq, hload⟩)
    · exact ⟨f, Or.inl hf, hj, hload⟩
    · exact ⟨_, Or.inr ⟨q, hq, rfl⟩, rfl, hload⟩

/-- The server only answers loads. -/
lemma loading_handle (hf : w.flights[k]? = some f) (v : Served S A O) :
    T.Loading (w.handle k f v) j ↔ T.Loading w j := by
  simp only [Loading, handle_flights, List.mem_append, List.mem_singleton]
  constructor
  · rintro ⟨g, hg | rfl, hj, hload⟩
    · exact ⟨g, List.mem_of_mem_eraseIdx hg, hj, hload⟩
    · exact ⟨f, mem_of_flight hf, hj, hload⟩
  · rintro ⟨g, hg, hj, hload⟩
    rcases eq_or_mem_eraseIdx hf hg with rfl | hg
    · exact ⟨_, Or.inr rfl, hj, hload⟩
    · exact ⟨g, Or.inl hg, hj, hload⟩

/-- Taking a flight out of flight. -/
lemma loading_land (hf : w.flights[k]? = some f) :
    T.Loading w j ↔ T.Loading (w.land k) j ∨ (j = f.owner ∧ T.loads f.request) := by
  simp only [Loading, land_flights]
  constructor
  · rintro ⟨g, hg, rfl, hload⟩
    rcases eq_or_mem_eraseIdx hf hg with rfl | hg
    · exact Or.inr ⟨rfl, hload⟩
    · exact Or.inl ⟨g, hg, rfl, hload⟩
  · rintro (⟨g, hg, hj, hload⟩ | ⟨rfl, hload⟩)
    · exact ⟨g, List.mem_of_mem_eraseIdx hg, hj, hload⟩
    · exact ⟨f, mem_of_flight hf, rfl, hload⟩

/-- A table that is loaded or reloaded by a reaction shows its list. -/
lemma Follows.shows (root : ℕ) (h : T.Follows r) : T.Shows (w.react i root r) i r.client := by
  intro hno
  rcases h with hloads | hrows
  · exact absurd (loading_react.mpr (Or.inr ⟨rfl, hloads⟩)) hno
  · exact hrows

/-- A table that a reaction leaves as it is shows its list if it has shown it. -/
lemma Leaves.shows {c : C} (root : ℕ) (h : T.Leaves c r) (hc : T.Shows w i c) :
    T.Shows (w.react i root r) i r.client := by
  intro hno
  rw [h.1, h.2]
  exact hc fun hloading => hno (loading_react.mpr (Or.inl hloading))

/-- The reaction of a client is nothing to the tables of the others. -/
lemma Shows.react {c : C} (root : ℕ) (hc : T.Shows w j c) : T.Shows (w.react i root r) j c := by
  intro hno
  exact hc fun hloading => hno (loading_react.mpr (Or.inl hloading))

end Table

/-! ## Systems with tables -/

section

variable {S C I U Q E A X O ι : Type} (sys : AsyncSystem S C I U Q E A X O) (T : ι → Table C Q)
  (Taps : U → ι → Prop) (J Known : C → Prop) (Good : C → Q → A → Prop)

/-- What there is to show of the tables `T` of a system: the clients keep `J` if no event of the
user taps a row that is not in the list, and a table is loaded or reloaded, or left as it is, but
not if a load of it is answered. `Known` holds of every client, and `Good` of what it is
answered. -/
structure TableRules : Prop where
  boot : ∀ a, J (sys.boot a).client ∧ ∀ n, (T n).Follows (sys.boot a)
  ui : ∀ c u r, J c → Known c → (∀ n, Taps u n → (T n).rows c = (T n).count c) →
    sys.ui c u = some r → J r.client ∧ ∀ n, (T n).Follows r ∨ (T n).Leaves c r
  recv : ∀ c q a x, J c → Known c → Good c q a → J (sys.recv c q a x).client ∧
    ∀ n, (T n).Follows (sys.recv c q a x) ∨
      (¬ (T n).loads q ∧ (T n).Leaves c (sys.recv c q a x))

/-- `Known` and `Good` hold in a state. -/
structure TablesKnown (w : World S C Q A O) : Prop where
  client : ∀ i c, w.clients i = some c → Known c
  answer : ∀ f ∈ w.flights, ∀ c a, w.clients f.owner = some c → f.answer = some a →
    Good c f.request a

/-- No row is tapped while its table is being loaded. -/
def TapsSettled (w : World S C Q A O) (e : Event I U E X) : Prop :=
  ∀ i u n, e = .ui i u → Taps u n → ¬ (T n).Loading w i

variable {sys T Taps J Known Good}

/-- A step in which no row is tapped while its table is being loaded. -/
lemma Table.shows_step (hT : TableRules sys T Taps J Known Good) {w w' : World S C Q A O}
    {e : Event I U E X} (hk : TablesKnown Known Good w)
    (hw : ∀ i c, w.clients i = some c → J c ∧ ∀ n, (T n).Shows w i c)
    (hg : TapsSettled T Taps w e) (hs : sys.step w e = some w') :
    ∀ i c, w'.clients i = some c → J c ∧ ∀ n, (T n).Shows w' i c := by
  intro j c hj
  cases took_of_step hs with
  | @boot i a free =>
    by_cases hij : j = i
    · subst hij
      obtain rfl : (sys.boot a).client = c := by simpa using hj
      exact ⟨(hT.boot a).1, fun n => ((hT.boot a).2 n).shows w.next⟩
    · obtain ⟨hJ, hshows⟩ := hw j c (by simpa [hij] using hj)
      exact ⟨hJ, fun n => (hshows n).react w.next⟩
  | @ui i u c' r client reacts =>
    by_cases hij : j = i
    · subst hij
      obtain rfl : r.client = c := by simpa using hj
      obtain ⟨hJ, hshows⟩ := hw j c' client
      obtain ⟨hJ', htables⟩ := hT.ui c' u r hJ (hk.client j c' client)
        (fun n htap => hshows n (hg j u n rfl htap)) reacts
      refine ⟨hJ', fun n => ?_⟩
      rcases htables n with hfollows | hleaves
      · exact hfollows.shows w.next
      · exact hleaves.shows w.next (hshows n)
    · obtain ⟨hJ, hshows⟩ := hw j c (by simpa [hij] using hj)
      exact ⟨hJ, fun n => (hshows n).react w.next⟩
  | @serve k o f flight unanswered =>
    obtain ⟨hJ, hshows⟩ := hw j c hj
    exact ⟨hJ, fun n hno => hshows n fun hloading =>
      hno ((Table.loading_handle flight _).mpr hloading)⟩
  | @deliver k x f a c' flight answered client =>
    by_cases hij : j = f.owner
    · subst hij
      obtain rfl : (sys.recv c' f.request a x).client = c := by simpa using hj
      obtain ⟨hJ, hshows⟩ := hw _ c' client
      obtain ⟨hJ', htables⟩ := hT.recv c' f.request a x hJ (hk.client _ c' client)
        (hk.answer f (mem_of_flight flight) c' a client answered)
      refine ⟨hJ', fun n => ?_⟩
      rcases htables n with hfollows | ⟨hload, hleaves⟩
      · exact hfollows.shows f.root
      · refine hleaves.shows f.root fun hno => hshows n fun hloading => ?_
        rcases (Table.loading_land flight).mp hloading with hloading | ⟨-, hload'⟩
        · exact hno hloading
        · exact hload hload'
    · obtain ⟨hJ, hshows⟩ := hw j c (by simpa [hij] using hj)
      refine ⟨hJ, fun n => Table.Shows.react (w := w.land k) f.root fun hno =>
        hshows n fun hloading => ?_⟩
      rcases (Table.loading_land flight).mp hloading with hloading | ⟨hij', -⟩
      · exact hno hloading
      · exact hij hij'

/-- **Tables that are not being loaded show their lists.** If no row is tapped in a run while its
table is being loaded, every client keeps `J`, and every table that is not being loaded shows as
many rows as its list has.

**Proof sketch.** A load in flight keeps its table from being settled; when it is answered, the
table follows (`Table.shows_step`). -/
theorem Table.settled (hT : TableRules sys T Taps J Known Good) {s : S}
    {h : List (World S C Q A O × Event I U E X)} {w : World S C Q A O}
    (hk : ∀ h w, sys.RunFrom s h w → TablesKnown Known Good w) (hr : sys.RunFrom s h w)
    (hg : EveryStep (TapsSettled T Taps) h) :
    ∀ i c, w.clients i = some c → J c ∧ ∀ n, (T n).Shows w i c := by
  induction hr with
  | nil => intro i c hi; cases hi
  | @snoc h w e w' hr hs ih =>
    obtain ⟨hg, hlast⟩ := (everyStep_snoc _ _ _ _).mp hg
    exact Table.shows_step hT (hk h w hr) (ih hg) hlast hs

end
