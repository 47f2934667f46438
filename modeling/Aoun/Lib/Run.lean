import Mathlib.Data.List.Pairwise
import Mathlib.Logic.Basic

/-!
# Runs of a partial step function

A system is given by a partial step function `step : σ → ε → Option σ`: the state after an
event, or `none` where the event is not possible. A run is recorded together with its
history, the list of the states it left and the events that happened there, so that a
statement can speak about every state a run passes through and about every step it takes.

## Main definitions

* `StepSystem.Run` — the runs from a state, with their histories.
* `StepSystem.Throughout` — a property of every state of a run.
* `StepSystem.EveryStep`, `StepSystem.SomeStep` — a property of every step, of some step.
* `StepSystem.EveryStepAfter`, `StepSystem.ThroughoutAfter` — a property of every step, of every
  state, and of the history before it.
* `StepSystem.Preceded` — in a list of occurrences, some come only after others.
* `StepSystem.exec` — performing a list of events.

## Main results

* `StepSystem.Run.invariant` — the induction rule for invariants.
* `StepSystem.Run.invariant_of_everyStep`, `StepSystem.Run.invariant_of_everyStepAfter` — the same
  under a condition on the steps, and for an invariant of the history and the state.
* `StepSystem.Run.throughout_iff_everyStep` — if a condition on a step decides whether the
  step keeps a property, then a run keeps the property throughout if and only if all of its
  steps meet the condition.
* `StepSystem.Run.iff_everyStep` — the same for a property of the last state that, once lost,
  is lost for good.
* `StepSystem.Run.throughout_iff_everyStepAfter`,
  `StepSystem.Run.throughoutAfter_iff_everyStepAfter` — the same where the condition on a step, or
  the property too, looks at the history.
* `StepSystem.Run.everyStepAfter_of_everyStepAfter` — an invariant of the history and the state,
  under a condition on the steps, gives another property of them.
* `StepSystem.Run.appended` — what a run has appended to a list since one of its steps.
* `StepSystem.Run.simulated` — a run is mapped to a run where each of its steps is.
* `StepSystem.Run.simulated_of_everyStepAfter` — a run is followed by another system if each of its
  steps is, under a condition on the steps.
* `StepSystem.run_of_exec` — a list of events that can be performed is a run.
-/

set_option relaxedAutoImplicit false
set_option autoImplicit false

namespace StepSystem

variable {σ ε : Type*}

/-- `Run step s₀ h s`: from `s₀` the system can reach `s`, and `h` lists, oldest first, the
states it left on the way with the events that happened in them. -/
inductive Run (step : σ → ε → Option σ) (s₀ : σ) : List (σ × ε) → σ → Prop
  | nil : Run step s₀ [] s₀
  | snoc {h : List (σ × ε)} {s : σ} {e : ε} {s' : σ} :
      Run step s₀ h s → step s e = some s' → Run step s₀ (h ++ [(s, e)]) s'

/-- Every state of a run, the last one included, has property `P`. -/
def Throughout (P : σ → Prop) (h : List (σ × ε)) (s : σ) : Prop :=
  (∀ p ∈ h, P p.1) ∧ P s

/-- Every step of a run meets the condition `G` on the state before it and its event. -/
def EveryStep (G : σ → ε → Prop) (h : List (σ × ε)) : Prop :=
  ∀ p ∈ h, G p.1 p.2

/-- Every step of a run meets the condition `G` on the history before it, the state before it
and its event. -/
def EveryStepAfter (G : List (σ × ε) → σ → ε → Prop) (h : List (σ × ε)) : Prop :=
  ∀ h₁ p h₂, h = h₁ ++ p :: h₂ → G h₁ p.1 p.2

/-- Wherever a run comes, `P` holds of the history so far and the state. -/
def ThroughoutAfter (P : List (σ × ε) → σ → Prop) (h : List (σ × ε)) (s : σ) : Prop :=
  EveryStepAfter (fun h s _ => P h s) h ∧ P h s

/-- Some step of a run meets the condition `G` on the state before it and its event. -/
def SomeStep (G : σ → ε → Prop) (h : List (σ × ε)) : Prop :=
  ∃ p ∈ h, G p.1 p.2

/-- The state after performing the events `es` one after another, if all of them are
possible. -/
def exec (step : σ → ε → Option σ) : σ → List ε → Option σ
  | s, [] => some s
  | s, e :: es => (step s e).bind fun s' => exec step s' es

/-! ## Histories -/

@[simp] lemma everyStep_nil (G : σ → ε → Prop) : EveryStep G [] := by simp [EveryStep]

@[simp] lemma everyStep_snoc (G : σ → ε → Prop) (h : List (σ × ε)) (s : σ) (e : ε) :
    EveryStep G (h ++ [(s, e)]) ↔ EveryStep G h ∧ G s e := by
  simp [EveryStep, or_imp, forall_and]

@[simp] lemma everyStepAfter_nil (G : List (σ × ε) → σ → ε → Prop) : EveryStepAfter G [] := by
  intro h₁ p h₂ h
  simp at h

@[simp] lemma everyStepAfter_snoc (G : List (σ × ε) → σ → ε → Prop) (h : List (σ × ε)) (s : σ)
    (e : ε) : EveryStepAfter G (h ++ [(s, e)]) ↔ EveryStepAfter G h ∧ G h s e := by
  constructor
  · intro hG
    exact ⟨fun h₁ p h₂ hp => hG h₁ p (h₂ ++ [(s, e)]) (by simp [hp]), hG h (s, e) [] rfl⟩
  · rintro ⟨hG, hg⟩ h₁ p h₂ hp
    rcases List.eq_nil_or_concat h₂ with rfl | ⟨h₃, p', rfl⟩
    · obtain ⟨rfl, hpe⟩ := List.append_inj' hp rfl
      obtain rfl := (List.singleton_inj.mp hpe).symm
      exact hg
    · rw [List.concat_eq_append, ← List.cons_append, ← List.append_assoc] at hp
      exact hG h₁ p h₃ (List.append_inj' hp rfl).1

@[simp] lemma throughout_nil (P : σ → Prop) (s : σ) :
    Throughout P ([] : List (σ × ε)) s ↔ P s := by simp [Throughout]

@[simp] lemma throughout_snoc (P : σ → Prop) (h : List (σ × ε)) (s s' : σ) (e : ε) :
    Throughout P (h ++ [(s, e)]) s' ↔ Throughout P h s ∧ P s' := by
  simp [Throughout, or_imp, forall_and]

@[simp] lemma throughoutAfter_nil (P : List (σ × ε) → σ → Prop) (s : σ) :
    ThroughoutAfter P [] s ↔ P [] s := by simp [ThroughoutAfter]

@[simp] lemma throughoutAfter_snoc (P : List (σ × ε) → σ → Prop) (h : List (σ × ε)) (s s' : σ)
    (e : ε) : ThroughoutAfter P (h ++ [(s, e)]) s' ↔
      ThroughoutAfter P h s ∧ P (h ++ [(s, e)]) s' := by
  simp [ThroughoutAfter]

/-- A property that does not look at the history. -/
lemma throughoutAfter_const (P : σ → Prop) (h : List (σ × ε)) (s : σ) :
    ThroughoutAfter (fun _ => P) h s ↔ Throughout P h s := by
  constructor
  · rintro ⟨hh, hs⟩
    refine ⟨fun p hp => ?_, hs⟩
    obtain ⟨h₁, h₂, rfl⟩ := List.append_of_mem hp
    exact hh h₁ p h₂ rfl
  · rintro ⟨hh, hs⟩
    exact ⟨fun h₁ p h₂ hp => hh p (by simp [hp]), hs⟩

/-- Every step of a run was taken where an initial part of the run ends. -/
lemma Run.reached {step : σ → ε → Option σ} {s₀ s : σ} {h : List (σ × ε)}
    (hr : Run step s₀ h s) {p : σ × ε} (hp : p ∈ h) :
    ∃ h', Run step s₀ h' p.1 ∧ ∃ s', step p.1 p.2 = some s' := by
  induction hr with
  | nil => simp at hp
  | @snoc h s e s' hr he ih =>
    rcases List.mem_append.mp hp with hp | hp
    · exact ih hp
    · obtain rfl := List.mem_singleton.mp hp
      exact ⟨h, hr, s', he⟩

/-- The part of a run before one of its steps. -/
lemma Run.before {step : σ → ε → Option σ} {s₀ s : σ} {h h₁ h₂ : List (σ × ε)} {p : σ × ε}
    (hr : Run step s₀ h s) (hp : h = h₁ ++ p :: h₂) : Run step s₀ h₁ p.1 := by
  induction hr generalizing h₂ with
  | nil => simp at hp
  | @snoc h s e s' hr he ih =>
    rcases List.eq_nil_or_concat h₂ with rfl | ⟨h₃, p', rfl⟩
    · obtain ⟨rfl, hpe⟩ := List.append_inj' hp rfl
      obtain rfl := List.singleton_inj.mp hpe
      exact hr
    · rw [List.concat_eq_append, ← List.cons_append, ← List.append_assoc] at hp
      exact ih (List.append_inj' hp rfl).1

/-- A run from where a run ends continues it. -/
lemma Run.append {step : σ → ε → Option σ} {s₀ s s' : σ} {h h' : List (σ × ε)}
    (hr : Run step s₀ h s) (hr' : Run step s h' s') : Run step s₀ (h ++ h') s' := by
  induction hr' with
  | nil => simpa using hr
  | snoc _ he ih => simpa using ih.snoc he

/-! ## The order of occurrences -/

/-- In the list `l`, oldest first, whatever satisfies `A` comes after something that
satisfies `B`. -/
def Preceded {α : Type*} (A B : α → Prop) (l : List α) : Prop :=
  ∀ l₁ x l₂, l = l₁ ++ x :: l₂ → A x → ∃ y ∈ l₁, B y

section Preceded

variable {α : Type*} {A B : α → Prop} {l r : List α}

lemma preceded_nil : Preceded A B ([] : List α) := by
  intro l₁ x l₂ h
  simp at h

/-- An element of an appended list comes from the first part or from the second. -/
lemma append_eq_append_cons {x : α} {l₁ l₂ : List α} (h : l ++ r = l₁ ++ x :: l₂) :
    (∃ l₃, l = l₁ ++ x :: l₃ ∧ l₂ = l₃ ++ r) ∨ ∃ l₃, l₁ = l ++ l₃ ∧ r = l₃ ++ x :: l₂ := by
  rcases List.append_eq_append_iff.mp h with ⟨a, rfl, hra⟩ | ⟨a, rfl, ha⟩
  · exact Or.inr ⟨a, rfl, hra⟩
  · cases a with
    | nil => exact Or.inr ⟨[], by simp, by simpa using ha.symm⟩
    | cons z a =>
      obtain ⟨rfl, rfl⟩ : x = z ∧ l₂ = a ++ r := by simpa using ha
      exact Or.inl ⟨a, rfl, rfl⟩

/-- New occurrences keep the order if none of them satisfies `A`, or if `B` has occurred. -/
lemma Preceded.append (hl : Preceded A B l) (hr : (∀ x ∈ r, ¬ A x) ∨ ∃ y ∈ l, B y) :
    Preceded A B (l ++ r) := by
  intro l₁ x l₂ h hx
  rcases append_eq_append_cons h with ⟨l₃, rfl, -⟩ | ⟨l₃, rfl, rfl⟩
  · exact hl l₁ x l₃ rfl hx
  · -- `x` is one of the new occurrences
    rcases hr with hr | ⟨y, hy, hB⟩
    · exact absurd hx (hr x (by simp))
    · exact ⟨y, List.mem_append_left _ hy, hB⟩

end Preceded

/-- Where no two elements are given the same, an element is determined by what it is given. -/
lemma eq_of_nodup_filterMap {α β : Type*} {f : α → Option β} {l : List α}
    (hl : (l.filterMap f).Nodup) {a a' : α} (ha : a ∈ l) (ha' : a' ∈ l) {b : β}
    (hb : f a = some b) (hb' : f a' = some b) : a = a' := by
  by_contra hne
  have hsymm : Std.Symm fun a a' : α => ∀ b, f a = some b → ∀ b', f a' = some b' → b ≠ b' :=
    ⟨fun _ _ h b' hb' b hb => (h b hb b' hb').symm⟩
  exact (List.pairwise_filterMap.mp hl).forall ha ha' hne b hb b hb' rfl

/-! ## Induction rules -/

variable {step : σ → ε → Option σ} {s₀ s : σ} {h : List (σ × ε)}

/-- **The invariant rule.** What holds at the start and is kept by every step holds in every
state a run reaches. -/
theorem Run.invariant {I : σ → Prop} (hr : Run step s₀ h s) (h0 : I s₀)
    (hs : ∀ s e s', I s → step s e = some s' → I s') : I s := by
  induction hr with
  | nil => exact h0
  | snoc _ he ih => exact hs _ _ _ ih he

/-- **The invariant rule under a condition.** What holds at the start and is kept by every
step that meets `G` holds in every state reached by a run whose steps all meet `G`. -/
theorem Run.invariant_of_everyStep {I : σ → Prop} {G : σ → ε → Prop}
    (hr : Run step s₀ h s) (h0 : I s₀)
    (hs : ∀ s e s', I s → G s e → step s e = some s' → I s') (hG : EveryStep G h) :
    I s := by
  induction hr with
  | nil => exact h0
  | snoc _ he ih =>
    obtain ⟨hG, hg⟩ := (everyStep_snoc _ _ _ _).mp hG
    exact hs _ _ _ (ih hG) hg he

/-- Under the same conditions it holds throughout the run. -/
theorem Run.throughout_of_everyStep {I : σ → Prop} {G : σ → ε → Prop}
    (hr : Run step s₀ h s) (h0 : I s₀)
    (hs : ∀ s e s', I s → G s e → step s e = some s' → I s') (hG : EveryStep G h) :
    Throughout I h s := by
  induction hr with
  | nil => exact (throughout_nil ..).mpr h0
  | snoc hr he ih =>
    have hlast := (hr.snoc he).invariant_of_everyStep h0 hs hG
    exact (throughout_snoc ..).mpr ⟨ih ((everyStep_snoc _ _ _ _).mp hG).1, hlast⟩

/-- **Exact conditions.** Suppose that, in the states that can be reached, a step from a state
with `P` keeps `P` exactly when it meets `G`. Then a run has `P` throughout if and only if it
starts in `P` and all of its steps meet `G`.

**Proof sketch.** Induction on the run. The last state has `P` exactly when the last step
meets `G`, since by the induction hypothesis the state before it has `P`. -/
theorem Run.throughout_iff_everyStep {P : σ → Prop} {G : σ → ε → Prop}
    (hr : Run step s₀ h s)
    (exact : ∀ h s e s', Run step s₀ h s → P s → step s e = some s' → (P s' ↔ G s e)) :
    Throughout P h s ↔ P s₀ ∧ EveryStep G h := by
  induction hr with
  | nil => simp
  | @snoc h s e s' hr he ih =>
    rw [throughout_snoc, everyStep_snoc, ih]
    constructor
    · rintro ⟨⟨hP0, hG⟩, hP'⟩
      have hP : P s := (ih.mpr ⟨hP0, hG⟩).2
      exact ⟨hP0, hG, (exact h s e s' hr hP he).mp hP'⟩
    · rintro ⟨hP0, hG, hg⟩
      have hP : P s := (ih.mpr ⟨hP0, hG⟩).2
      exact ⟨⟨hP0, hG⟩, (exact h s e s' hr hP he).mpr hg⟩

/-- **Exact conditions for the last state.** Suppose that, in the states satisfying an
invariant, an allowed step gives a state with `P` exactly when it starts in one and meets
`G`. Then a run of allowed steps ends with `P` if and only if it starts in `P` and all of its
steps meet `G`. -/
theorem Run.iff_everyStep {I P : σ → Prop} {C G : σ → ε → Prop}
    (hr : Run step s₀ h s) (h0 : I s₀)
    (hs : ∀ s e s', I s → C s e → step s e = some s' → I s')
    (exact : ∀ s e s', I s → C s e → step s e = some s' → (P s' ↔ P s ∧ G s e))
    (hC : EveryStep C h) : P s ↔ P s₀ ∧ EveryStep G h := by
  induction hr with
  | nil => simp
  | @snoc h s e s' hr he ih =>
    obtain ⟨hC, hc⟩ := (everyStep_snoc _ _ _ _).mp hC
    have hinv := hr.invariant_of_everyStep h0 hs hC
    rw [exact s e s' hinv hc he, ih hC, everyStep_snoc, and_assoc]

/-- **The invariant rule for the past.** What holds of the history and the state at the start, and
is kept by every step that meets `G`, holds at the end of a run whose steps all meet `G`. -/
theorem Run.invariant_of_everyStepAfter {J : List (σ × ε) → σ → Prop}
    {G : List (σ × ε) → σ → ε → Prop} (hr : Run step s₀ h s) (h0 : J [] s₀)
    (hs : ∀ h s e s', Run step s₀ h s → J h s → G h s e → step s e = some s' →
      J (h ++ [(s, e)]) s') (hG : EveryStepAfter G h) : J h s := by
  induction hr with
  | nil => exact h0
  | @snoc h s e s' hr he ih =>
    obtain ⟨hG, hg⟩ := (everyStepAfter_snoc ..).mp hG
    exact hs h s e s' hr (ih hG) hg he

/-- **Exact conditions on steps and their past.** Suppose that `J` strengthens `P`, that a step
from where `J` holds leads to where `P` holds exactly when it meets `G`, and that it then keeps
`J`. Then a run that starts in `J` has `P` throughout if and only if all of its steps meet
`G`. -/
theorem Run.throughoutAfter_iff_everyStepAfter {J P : List (σ × ε) → σ → Prop}
    {G : List (σ × ε) → σ → ε → Prop} (hr : Run step s₀ h s) (h0 : J [] s₀)
    (strong : ∀ h s, J h s → P h s)
    (exact : ∀ h s e s', Run step s₀ h s → J h s → step s e = some s' →
      (P (h ++ [(s, e)]) s' ↔ G h s e))
    (keeps : ∀ h s e s', Run step s₀ h s → J h s → G h s e → step s e = some s' →
      J (h ++ [(s, e)]) s') :
    ThroughoutAfter P h s ↔ EveryStepAfter G h := by
  induction hr with
  | nil => simp [strong _ _ h0]
  | @snoc h s e s' hr he ih =>
    rw [throughoutAfter_snoc, everyStepAfter_snoc, ih]
    refine and_congr_right fun hG => ?_
    have hJ : J h s := hr.invariant_of_everyStepAfter h0 keeps hG
    exact exact h s e s' hr hJ he

/-- The same for a property of the states. -/
theorem Run.throughout_iff_everyStepAfter {J P : σ → Prop}
    {G : List (σ × ε) → σ → ε → Prop} (hr : Run step s₀ h s) (h0 : J s₀)
    (strong : ∀ s, J s → P s)
    (exact : ∀ h s e s', Run step s₀ h s → J s → step s e = some s' → (P s' ↔ G h s e))
    (keeps : ∀ h s e s', Run step s₀ h s → J s → step s e = some s' → G h s e → J s') :
    Throughout P h s ↔ EveryStepAfter G h := by
  rw [← throughoutAfter_const]
  exact hr.throughoutAfter_iff_everyStepAfter (J := fun _ => J) h0 (fun _ => strong) exact
    fun h s e s' hr hJ hg he => keeps h s e s' hr hJ he hg

/-- **The rule for steps and their past.** Suppose that `J` holds at the start, and that a step
that meets `G` where `J` holds meets `Q` and keeps `J`. Then all steps of a run meet `Q` if they
all meet `G`. -/
theorem Run.everyStepAfter_of_everyStepAfter {J : List (σ × ε) → σ → Prop}
    {G Q : List (σ × ε) → σ → ε → Prop} (hr : Run step s₀ h s) (h0 : J [] s₀)
    (keeps : ∀ h s e s', Run step s₀ h s → J h s → G h s e → step s e = some s' →
      Q h s e ∧ J (h ++ [(s, e)]) s') (hG : EveryStepAfter G h) : EveryStepAfter Q h := by
  induction hr with
  | nil => exact everyStepAfter_nil Q
  | @snoc h s e s' hr he ih =>
    obtain ⟨hG, hg⟩ := (everyStepAfter_snoc ..).mp hG
    have hJ : J h s := hr.invariant_of_everyStepAfter h0
      (fun h s e s' hr hJ hg he => (keeps h s e s' hr hJ hg he).2) hG
    exact (everyStepAfter_snoc ..).mpr ⟨ih hG, (keeps h s e s' hr hJ hg he).1⟩

/-- Two conditions that agree on every step of every run agree on the steps of a run. -/
lemma Run.everyStepAfter_congr {G Q : List (σ × ε) → σ → ε → Prop} (hr : Run step s₀ h s)
    (hs : ∀ h s e s', Run step s₀ h s → step s e = some s' → (Q h s e ↔ G h s e)) :
    EveryStepAfter Q h ↔ EveryStepAfter G h := by
  induction hr with
  | nil => simp
  | @snoc h s e s' hr he ih =>
    rw [everyStepAfter_snoc, everyStepAfter_snoc, ih, hs h s e s' hr he]

/-- Two properties that agree wherever a run comes hold throughout the same runs. -/
lemma Run.throughoutAfter_congr {P Q : List (σ × ε) → σ → Prop} (hr : Run step s₀ h s)
    (hs : ∀ h s, Run step s₀ h s → (Q h s ↔ P h s)) :
    ThroughoutAfter Q h s ↔ ThroughoutAfter P h s := by
  unfold ThroughoutAfter
  rw [hs h s hr, hr.everyStepAfter_congr fun h s _ _ hr _ => hs h s hr]

/-- What is related by every step of a run is related along it: the states left to the last
one. -/
lemma Run.related {R : σ → σ → Prop} (hr : Run step s₀ h s)
    (trans : ∀ s₁ s₂ s₃, R s₁ s₂ → R s₂ s₃ → R s₁ s₃)
    (hs : ∀ h s e s', Run step s₀ h s → step s e = some s' → R s s') : ∀ p ∈ h, R p.1 s := by
  induction hr with
  | nil => simp
  | @snoc h s e s' hr he ih =>
    intro p hp
    rcases List.mem_append.mp hp with hp | hp
    · exact trans _ _ _ (ih p hp) (hs h s e s' hr he)
    · obtain rfl := List.mem_singleton.mp hp
      exact hs h s e s' hr he

/-- What lasts from a state of a run on, and did not hold in another one, did not hold before. -/
lemma Run.mem_of_lasts {P : σ → Prop} {h₁ h₂ : List (σ × ε)} {p q : σ × ε} (hr : Run step s₀ h s)
    (lasts : ∀ s e s', step s e = some s' → P s → P s') (hq : h = h₁ ++ q :: h₂) (hp : p ∈ h)
    (hnot : ¬ P p.1) (hP : P q.1) : p ∈ h₁ := by
  rw [hq] at hp
  rcases List.mem_append.mp hp with hp | hp
  · exact hp
  · exfalso
    rcases List.mem_cons.mp hp with rfl | hp
    · exact hnot hP
    · -- `p` comes after `q`, where the property still holds
      obtain ⟨h₃, h₄, rfl⟩ := List.append_of_mem hp
      have hbefore := hr.before (show h = (h₁ ++ q :: h₃) ++ p :: h₄ by simp [hq])
      refine hnot (hbefore.related (R := fun s s' => P s → P s')
        (fun _ _ _ h₁₂ h₂₃ hs => h₂₃ (h₁₂ hs)) (fun _ _ _ _ _ he => lasts _ _ _ he) q ?_ hP)
      exact List.mem_append_right _ List.mem_cons_self

/-- **What a run appends.** If every step appends to a list what `new` says, then from any of its
steps on a run has appended what `new` says of the step and of all after it. -/
theorem Run.appended {α : Type*} (obs : σ → List α) (new : σ × ε → List α)
    (hr : Run step s₀ h s)
    (hs : ∀ s e s', step s e = some s' → obs s' = obs s ++ new (s, e))
    {h₁ h₂ : List (σ × ε)} {p : σ × ε} (hp : h = h₁ ++ p :: h₂) :
    obs s = obs p.1 ++ (p :: h₂).flatMap new := by
  induction hr generalizing h₂ with
  | nil => simp at hp
  | @snoc h s e s' hr he ih =>
    rw [hs s e s' he]
    rcases List.eq_nil_or_concat h₂ with rfl | ⟨h₃, p', rfl⟩
    · obtain ⟨-, hpe⟩ := List.append_inj' hp rfl
      obtain rfl := List.singleton_inj.mp hpe
      simp
    · rw [List.concat_eq_append, ← List.cons_append, ← List.append_assoc] at hp
      obtain ⟨hh, hpe⟩ := List.append_inj' hp rfl
      rw [ih hh, List.singleton_inj.mp hpe]
      simp

/-- **The simulation rule.** If every step between two states is one, in another system, between
the states they are mapped to, then a run is mapped to a run. -/
theorem Run.simulated {σ' ε' : Type*} {step' : σ' → ε' → Option σ'} {f : σ → σ'}
    (hr : Run step s₀ h s)
    (hs : ∀ s e s', step s e = some s' → ∃ e', step' (f s) e' = some (f s')) :
    ∃ h', Run step' (f s₀) h' (f s) := by
  induction hr with
  | nil => exact ⟨[], .nil⟩
  | snoc _ he ih =>
    obtain ⟨h', hr'⟩ := ih
    obtain ⟨e', he'⟩ := hs _ _ _ he
    exact ⟨_, hr'.snoc he'⟩

/-- A condition on events is met by the steps of a run if it is met by its events. -/
lemma everyStep_of_events {es : List ε} {G : ε → Prop} (hes : h.map Prod.snd = es)
    (hG : ∀ e ∈ es, G e) : EveryStep (fun _ e => G e) h := by
  intro p hp
  exact hG p.2 (hes ▸ List.mem_map_of_mem hp)

/-! ## Performing a list of events -/

/-- Performing events and then others. -/
lemma exec_append (s : σ) (es es' : List ε) :
    exec step s (es ++ es') = (exec step s es).bind fun s' => exec step s' es' := by
  induction es generalizing s with
  | nil => rfl
  | cons e es ih =>
    simp only [List.cons_append, exec, Option.bind_assoc]
    congr 1
    funext s'
    exact ih s'

/-- Performing events continues a run. -/
lemma Run.exec {es : List ε} {s' : σ} (hr : Run step s₀ h s)
    (he : StepSystem.exec step s es = some s') :
    ∃ h', Run step s₀ (h ++ h') s' ∧ h'.map Prod.snd = es := by
  induction es generalizing h s with
  | nil =>
    obtain rfl : s = s' := by simpa [StepSystem.exec] using he
    exact ⟨[], by simpa using hr, rfl⟩
  | cons e es ih =>
    obtain ⟨s₁, h₁, h₂⟩ := Option.bind_eq_some_iff.mp he
    obtain ⟨h', hr', hes⟩ := ih (hr.snoc h₁) h₂
    exact ⟨(s, e) :: h', by simpa using hr', by simp [hes]⟩

/-- A list of events that can be performed from `s₀` is the list of events of a run. -/
theorem run_of_exec {es : List ε} (he : exec step s₀ es = some s) :
    ∃ h, Run step s₀ h s ∧ h.map Prod.snd = es := by
  simpa using Run.nil.exec he

/-- What is observed after performing a list of events is observed at the end of a run. -/
lemma run_of_observed {α : Type*} {es : List ε} {f : σ → α} {a : α}
    (he : (exec step s₀ es).map f = some a) :
    ∃ h s, Run step s₀ h s ∧ h.map Prod.snd = es ∧ f s = a := by
  obtain ⟨s, hs, hf⟩ := Option.map_eq_some_iff.mp he
  obtain ⟨h, hr, hes⟩ := run_of_exec hs
  exact ⟨h, s, hr, hes, hf⟩

/-- **The rule for simulations under a condition.** Suppose that the starting states of two systems
are related, and that an event of the first, where it meets `G` in a related state of the second,
is one of the second and leads to related states. Then the events of a run of the first that all
meet `G` can be performed in the second, and lead to related states. -/
theorem Run.simulated_of_everyStepAfter {σ' : Type*} {step' : σ' → ε → Option σ'} {t₀ : σ'}
    {R : σ → σ' → Prop} {G : σ' → ε → Prop} (hr : Run step s₀ h s) (h0 : R s₀ t₀)
    (hs : ∀ s t e s', R s t → G t e → step s e = some s' → ∃ t', step' t e = some t' ∧ R s' t')
    (hG : EveryStepAfter
      (fun h _ e => ∀ t, StepSystem.exec step' t₀ (h.map Prod.snd) = some t → G t e) h) :
    ∃ t, StepSystem.exec step' t₀ (h.map Prod.snd) = some t ∧ R s t := by
  refine hr.invariant_of_everyStepAfter
    (J := fun h s => ∃ t, StepSystem.exec step' t₀ (h.map Prod.snd) = some t ∧ R s t)
    ⟨t₀, rfl, h0⟩ ?_ hG
  rintro h s e s' - ⟨t, ht, hR⟩ hg he
  obtain ⟨t', ht', hR'⟩ := hs s t e s' hR (hg t ht) he
  refine ⟨t', ?_, hR'⟩
  simp [exec_append, ht, StepSystem.exec, ht']

/-- The system with its history. -/
def recorded (step : σ → ε → Option σ) (p : List (σ × ε) × σ) (e : ε) :
    Option (List (σ × ε) × σ) :=
  (step p.2 e).map fun s' => (p.1 ++ [(p.2, e)], s')

/-- What is observed of the history and the state after performing a list of events is observed
at the end of a run. -/
lemma run_of_recorded {α : Type*} {es : List ε} {f : List (σ × ε) → σ → α} {a : α}
    (he : (exec (recorded step) ([], s₀) es).map (fun p => f p.1 p.2) = some a) :
    ∃ h s, Run step s₀ h s ∧ f h s = a := by
  obtain ⟨_, ⟨h, s⟩, hr, -, hf⟩ := run_of_observed he
  refine ⟨h, s, hr.invariant (I := fun p => Run step s₀ p.1 p.2) .nil ?_, hf⟩
  rintro p e p' hrun hs
  obtain ⟨s', hs', rfl⟩ := Option.map_eq_some_iff.mp hs
  exact hrun.snoc hs'

/-- The system with only the steps that pass a test. -/
def guarded (g : σ → ε → Bool) (step : σ → ε → Option σ) (s : σ) (e : ε) : Option σ :=
  if g s e then step s e else none

/-- What is observed after performing a list of events, all of which pass a test, is observed
at the end of a run whose steps pass it. -/
lemma run_of_guarded {α : Type*} {g : σ → ε → Bool} {es : List ε} {f : σ → α} {a : α}
    (he : (exec (guarded g step) s₀ es).map f = some a) :
    ∃ h s, Run step s₀ h s ∧ EveryStep (fun s e => g s e = true) h ∧ f s = a := by
  obtain ⟨h, s, hr, -, hf⟩ := run_of_observed he
  suffices hrun : Run step s₀ h s ∧ EveryStep (fun s e => g s e = true) h from
    ⟨h, s, hrun.1, hrun.2, hf⟩
  clear hf he
  induction hr with
  | nil => exact ⟨.nil, by simp⟩
  | snoc _ hs ih =>
    simp only [guarded, Option.ite_none_right_eq_some] at hs
    exact ⟨ih.1.snoc hs.2, (everyStep_snoc _ _ _ _).mpr ⟨ih.2, hs.1⟩⟩

/-- What is observed of the history and the state after performing a list of events, all of which
pass a test on the history, is observed at the end of a run whose steps pass it. -/
lemma run_of_recorded_guarded {α : Type*} {g : List (σ × ε) → σ → ε → Bool} {es : List ε}
    {f : List (σ × ε) → σ → α} {a : α}
    (he : (exec (guarded (fun p e => g p.1 p.2 e) (recorded step)) ([], s₀) es).map
      (fun p => f p.1 p.2) = some a) :
    ∃ h s, Run step s₀ h s ∧ EveryStepAfter (fun h s e => g h s e = true) h ∧ f h s = a := by
  obtain ⟨_, ⟨h, s⟩, hr, hpass, hf⟩ := run_of_guarded he
  have hrun : Run step s₀ h s ∧ EveryStepAfter (fun h s e => g h s e = true) h := by
    refine hr.invariant_of_everyStep (I := fun p => Run step s₀ p.1 p.2 ∧
      EveryStepAfter (fun h s e => g h s e = true) p.1) ⟨.nil, by simp⟩ ?_ hpass
    rintro p e p' ⟨hrun, hG⟩ hg hs
    obtain ⟨s', hs', rfl⟩ := Option.map_eq_some_iff.mp hs
    exact ⟨hrun.snoc hs', (everyStepAfter_snoc ..).mpr ⟨hG, hg⟩⟩
  exact ⟨h, s, hrun.1, hrun.2, hf⟩

end StepSystem
