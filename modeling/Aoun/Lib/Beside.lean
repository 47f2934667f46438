import Aoun.Lib.Run

/-!
# Systems side by side

Two systems run side by side. What an event is to the second one may depend on the states of both,
and the first one does not see the second. What the two have done together is a run of each of
them.

## Main definitions

* `StepSystem.beside` — the two systems.
* `StepSystem.fstStep`, `StepSystem.sndStep` — a step, as the first or the second one has taken it.

## Main results

* `StepSystem.Run.fst`, `StepSystem.Run.snd` — a run of both is a run of each.
* `StepSystem.Run.related_fst` — what is related along the runs of the first one is related along
  those of both.
-/

set_option relaxedAutoImplicit false
set_option autoImplicit false

namespace StepSystem

variable {σ₁ σ₂ ε₁ ε₂ ε : Type*}

/-- One step of the two systems. An event of the second one is what `view` makes of it in the
states of both. -/
def beside (step₁ : σ₁ → ε₁ → Option σ₁) (step₂ : σ₂ → ε₂ → Option σ₂) (view : σ₁ × σ₂ → ε → ε₂)
    (s : σ₁ × σ₂) : ε₁ ⊕ ε → Option (σ₁ × σ₂)
  | .inl e => (step₁ s.1 e).map fun s₁ => (s₁, s.2)
  | .inr e => (step₂ s.2 (view s e)).map fun s₂ => (s.1, s₂)

/-- A step of the first system. -/
def fstStep (p : (σ₁ × σ₂) × (ε₁ ⊕ ε)) : Option (σ₁ × ε₁) :=
  p.2.getLeft?.map fun e => (p.1.1, e)

/-- A step of the second system. -/
def sndStep (view : σ₁ × σ₂ → ε → ε₂) (p : (σ₁ × σ₂) × (ε₁ ⊕ ε)) : Option (σ₂ × ε₂) :=
  p.2.getRight?.map fun e => (p.1.2, view p.1 e)

/-- A step of the second system was taken beside some state of the first one. -/
lemma exists_of_mem_sndStep {view : σ₁ × σ₂ → ε → ε₂} {h : List ((σ₁ × σ₂) × (ε₁ ⊕ ε))}
    {s₂ : σ₂} {e₂ : ε₂} (hp : (s₂, e₂) ∈ h.filterMap (sndStep view)) :
    ∃ s₁ e, ((s₁, s₂), .inr e) ∈ h ∧ view (s₁, s₂) e = e₂ := by
  obtain ⟨⟨⟨s₁, s₂'⟩, e | e⟩, hmem, hstep⟩ := List.mem_filterMap.mp hp
  · cases hstep
  · obtain ⟨rfl, rfl⟩ := Prod.mk.inj (Option.some.inj hstep)
    exact ⟨s₁, e, hmem, rfl⟩

variable {step₁ : σ₁ → ε₁ → Option σ₁} {step₂ : σ₂ → ε₂ → Option σ₂}
  {view : σ₁ × σ₂ → ε → ε₂} {s₀ s : σ₁ × σ₂} {h : List ((σ₁ × σ₂) × (ε₁ ⊕ ε))}

/-- **The first system.** What it has done beside the second one is a run of it. -/
theorem Run.fst (hr : Run (beside step₁ step₂ view) s₀ h s) :
    Run step₁ s₀.1 (h.filterMap fstStep) s.1 := by
  induction hr with
  | nil => exact .nil
  | @snoc h s e s' hr he ih =>
    rw [List.filterMap_append]
    cases e with
    | inl e =>
      obtain ⟨s₁, hs₁, rfl⟩ := Option.map_eq_some_iff.mp he
      exact ih.snoc hs₁
    | inr e =>
      obtain ⟨s₂, -, rfl⟩ := Option.map_eq_some_iff.mp he
      show Run step₁ s₀.1 (h.filterMap fstStep ++ []) s.1
      rw [List.append_nil]
      exact ih

/-- **The second system.** What it has done beside the first one is a run of it. -/
theorem Run.snd (hr : Run (beside step₁ step₂ view) s₀ h s) :
    Run step₂ s₀.2 (h.filterMap (sndStep view)) s.2 := by
  induction hr with
  | nil => exact .nil
  | @snoc h s e s' hr he ih =>
    rw [List.filterMap_append]
    cases e with
    | inl e =>
      obtain ⟨s₁, -, rfl⟩ := Option.map_eq_some_iff.mp he
      show Run step₂ s₀.2 (h.filterMap (sndStep view) ++ []) s.2
      rw [List.append_nil]
      exact ih
    | inr e =>
      obtain ⟨s₂, hs₂, rfl⟩ := Option.map_eq_some_iff.mp he
      exact ih.snoc hs₂

/-- What is related by every step of the first system is related along a run of both. -/
lemma Run.related_fst {R : σ₁ → σ₁ → Prop} (hr : Run (beside step₁ step₂ view) s₀ h s)
    (refl : ∀ s₁, R s₁ s₁) (trans : ∀ s₁ s₂ s₃, R s₁ s₂ → R s₂ s₃ → R s₁ s₃)
    (hs : ∀ h s₁ e s₁', Run step₁ s₀.1 h s₁ → step₁ s₁ e = some s₁' → R s₁ s₁') :
    ∀ p ∈ h, R p.1.1 s.1 := by
  refine hr.related (R := fun s s' => R s.1 s'.1) (fun _ _ _ => trans _ _ _) ?_
  intro h s e s' hr he
  cases e with
  | inl e =>
    obtain ⟨s₁, hs₁, rfl⟩ := Option.map_eq_some_iff.mp he
    exact hs _ _ _ _ hr.fst hs₁
  | inr e =>
    obtain ⟨s₂, -, rfl⟩ := Option.map_eq_some_iff.mp he
    exact refl _

/-- What lasts in the second system lasts in both. -/
lemma lasts_snd {P : σ₂ → Prop} (lasts : ∀ s e s', step₂ s e = some s' → P s → P s')
    {s s' : σ₁ × σ₂} {e : ε₁ ⊕ ε} (he : beside step₁ step₂ view s e = some s') (hs : P s.2) :
    P s'.2 := by
  cases e with
  | inl e =>
    obtain ⟨s₁, -, rfl⟩ := Option.map_eq_some_iff.mp he
    exact hs
  | inr e =>
    obtain ⟨s₂, hs₂, rfl⟩ := Option.map_eq_some_iff.mp he
    exact lasts _ _ _ hs₂ hs

end StepSystem
