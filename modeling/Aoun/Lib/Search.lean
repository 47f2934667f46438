import Mathlib.Data.List.Basic
import Aoun.Lib.Run

/-!
# Lists with a search bar

A screen shows the items of a list that match the text in its search bar. What it shows is kept
beside the list: it is computed anew when the text changes, and when the list changes it is set
to the whole list.

## Main definitions

* `SearchList.shown` — the items to be shown for a text.
* `SearchList.Fits` — a new list comes when the whole of it is to be shown.
* `SearchList.SearchRules` — every step shows the whole list, or what is to be shown, or
  leaves it alone.

## Main results

* `SearchList.shown_eq_self_iff` — when the whole list is to be shown.
* `SearchList.shown_throughout_iff` — when a run shows what is to be shown at all times.
-/

set_option relaxedAutoImplicit false
set_option autoImplicit false

namespace SearchList

open StepSystem

section Shown

variable {α : Type*} (hits : String → α → Bool) (text : String) (items : List α)

/-- The items to be shown for a text: those that it hits, all if it is empty. -/
def shown : List α := if text = "" then items else items.filter (hits text)

@[simp] lemma shown_nil : shown hits text [] = [] := by simp [shown]

@[simp] lemma shown_empty : shown hits "" items = items := by simp [shown]

lemma shown_of_length : shown hits text items =
    if text.length > 0 then items.filter (hits text) else items := by
  have hlen : text.length > 0 ↔ ¬ text = "" := by
    rw [gt_iff_lt, Nat.pos_iff_ne_zero, Ne, String.length_eq_zero_iff]
  simp only [shown, hlen, ite_not]

/-- The whole list is to be shown if the text is empty or hits all items. -/
lemma shown_eq_self_iff : items = shown hits text items ↔
    text = "" ∨ ∀ x ∈ items, hits text x = true := by
  unfold shown
  by_cases ht : text = ""
  · simp [ht]
  · rw [if_neg ht, eq_comm, List.filter_eq_self]
    simp [ht]

end Shown

section Rules

variable {σ ε α : Type*} (step : σ → ε → Option σ) (hits : String → α → Bool)
  (s₀ : σ) (text : σ → String) (items filtered : σ → List α) (reset : σ → ε → Option (List α))

/-- If the step gives a new list, then the text is empty or hits all of its items. -/
def Fits (s : σ) (e : ε) : Prop :=
  ∀ l, reset s e = some l → text s = "" ∨ ∀ x ∈ l, hits (text s) x = true

/-- What a step of a run does to what is shown: if `reset` gives a new list for it, this is shown
as a whole; else what is to be shown is shown, or nothing is changed. -/
def SearchRules : Prop :=
  ∀ h s e s', Run step s₀ h s → step s e = some s' →
    match reset s e with
    | some l => text s' = text s ∧ items s' = l ∧ filtered s' = l
    | none => filtered s' = shown hits (text s') (items s') ∨
        text s' = text s ∧ items s' = items s ∧ filtered s' = filtered s

variable {step hits s₀ text items filtered reset} {s : σ} {h : List (σ × ε)}

/-- **When what is to be shown is shown.** Along a run the items shown are those to be shown for
the text, if and only if they are at the start and every new list comes while the text is empty
or hits all of its items. -/
theorem shown_throughout_iff (hR : SearchRules step hits s₀ text items filtered reset)
    (hr : Run step s₀ h s) :
    Throughout (fun s => filtered s = shown hits (text s) (items s)) h s ↔
      filtered s₀ = shown hits (text s₀) (items s₀) ∧
        EveryStep (Fits hits text reset) h := by
  refine hr.throughout_iff_everyStep fun h s e s' hr hP hs => ?_
  have hrule := hR h s e s' hr hs
  cases hreset : reset s e with
  | some l =>
    rw [hreset] at hrule
    obtain ⟨htext, hitems, hfiltered⟩ := hrule
    rw [htext, hitems, hfiltered, shown_eq_self_iff, Fits, hreset]
    simp
  | none =>
    rw [hreset] at hrule
    refine iff_of_true ?_ fun l hl => by rw [hreset] at hl; cases hl
    rcases hrule with hshown | ⟨htext, hitems, hfiltered⟩
    · exact hshown
    · rw [htext, hitems, hfiltered]
      exact hP

end Rules

end SearchList
