import Mathlib.Data.List.Basic
import Mathlib.Order.Nat

/-!
# Counting the answers of a fork

A program forks a number of tasks. Every answer advances a counter, and the callback that then
finds the counter at the number of tasks goes on, if the answer passes a gate.

The program keeps its forks in a list, in which a fork has the number of those before it.

## Main definitions

* `Join.firings` — how often the program goes on.

## Main results

* `Join.firings_snoc` — what one more answer adds.
* `Join.firings_eq_one_iff` — the program goes on exactly when all tasks have answered and the
  last answer passes the gate.
* `Join.firings_true_eq_one_iff` — the same without a gate.
-/

set_option relaxedAutoImplicit false
set_option autoImplicit false

namespace Join

variable {α : Type*}

/-- How often the counter has been found at `total` after an answer that passes the gate: once,
if the answer with that number does. -/
def firings (total : ℕ) (gate : α → Bool) (answers : List α) : ℕ :=
  match total with
  | 0 => 0
  | n + 1 => if (answers[n]?).any gate then 1 else 0

variable {total : ℕ} {gate : α → Bool} {answers : List α}

@[simp] lemma firings_nil : firings total gate [] = 0 := by cases total <;> rfl

/-- One more answer makes the program go on if it completes the number and passes the gate. -/
lemma firings_snoc (a : α) : firings total gate (answers ++ [a]) =
    firings total gate answers +
      if answers.length + 1 = total ∧ gate a = true then 1 else 0 := by
  cases total with
  | zero => simp [firings]
  | succ n =>
    rcases lt_trichotomy n answers.length with hlt | rfl | hgt
    · have hne : answers.length ≠ n := by omega
      simp [firings, List.getElem?_append_left hlt, hne]
    · simp [firings]
    · have hne : answers.length ≠ n := by omega
      have hnone : answers[n]? = none := List.getElem?_eq_none (by omega)
      have hnone' : (answers ++ [a])[n]? = none :=
        List.getElem?_eq_none (by simp only [List.length_append, List.length_singleton]; omega)
      simp [firings, hnone, hnone', hne]

lemma firings_le_one : firings total gate answers ≤ 1 := by
  unfold firings
  split
  · omega
  · split_ifs <;> omega

/-- Going on means that all tasks have answered. -/
lemma le_length_of_firings (h : firings total gate answers ≠ 0) :
    0 < total ∧ total ≤ answers.length := by
  unfold firings at h
  split at h
  · exact absurd rfl h
  · next n =>
    refine ⟨Nat.succ_pos n, ?_⟩
    by_contra hlt
    have hnone : answers[n]? = none := List.getElem?_eq_none (by omega)
    simp [hnone] at h

/-- **When the program goes on.** With no more answers than tasks, it goes on exactly when all
tasks have answered, at least one, and the last answer passes the gate. -/
theorem firings_eq_one_iff (hle : answers.length ≤ total) :
    firings total gate answers = 1 ↔
      answers.length = total ∧ ∃ a, answers.getLast? = some a ∧ gate a = true := by
  constructor
  · intro h
    have hne : firings total gate answers ≠ 0 := by omega
    obtain ⟨hpos, hall⟩ := le_length_of_firings hne
    have hlen : answers.length = total := le_antisymm hle hall
    refine ⟨hlen, ?_⟩
    obtain ⟨n, rfl⟩ : ∃ n, total = n + 1 := ⟨total - 1, by omega⟩
    have hlast : answers.getLast? = answers[n]? := by
      rw [List.getLast?_eq_getElem?, hlen, Nat.add_sub_cancel]
    rw [hlast]
    cases ha : answers[n]? with
    | none => simp [firings, ha] at h
    | some a => exact ⟨a, rfl, by simpa [firings, ha] using h⟩
  · rintro ⟨hlen, a, hlast, hgate⟩
    cases total with
    | zero => rw [List.length_eq_zero_iff.mp hlen] at hlast; cases hlast
    | succ n =>
      rw [List.getLast?_eq_getElem?, hlen, Nat.add_sub_cancel] at hlast
      simp [firings, hlast, hgate]

/-- **Without a gate** the program goes on exactly when there are tasks, and as many answers. -/
theorem firings_true_eq_one_iff :
    firings total (fun _ => true) answers = 1 ↔ 0 < total ∧ total ≤ answers.length := by
  constructor
  · intro h
    have hne : firings total (fun _ => true) answers ≠ 0 := by omega
    exact le_length_of_firings hne
  · rintro ⟨hpos, hle⟩
    obtain ⟨n, rfl⟩ : ∃ n, total = n + 1 := ⟨total - 1, by omega⟩
    have hn : n < answers.length := hle
    simp [firings, List.getElem?_eq_getElem hn]

/-! ## The list of forks -/

section Forks

variable {forks : List α} {new fork : α} {k : ℕ}

/-- The forks after a new one: those before it, and the new one. -/
lemma getElem?_concat_cases (h : (forks ++ [new])[k]? = some fork) :
    forks[k]? = some fork ∨ k = forks.length ∧ fork = new := by
  rcases lt_trichotomy k forks.length with hlt | rfl | hgt
  · rw [List.getElem?_append_left hlt] at h
    exact Or.inl h
  · rw [List.getElem?_concat_length] at h
    exact Or.inr ⟨rfl, (Option.some.inj h).symm⟩
  · have hnone : (forks ++ [new])[k]? = none :=
      List.getElem?_eq_none (by simp only [List.length_append, List.length_singleton]; omega)
    rw [hnone] at h
    cases h

/-- A fork stays when there is another. -/
lemma getElem?_concat_of_some (h : forks[k]? = some fork) : (forks ++ [new])[k]? = some fork := by
  obtain ⟨hlt, -⟩ := List.getElem?_eq_some_iff.mp h
  rw [List.getElem?_append_left hlt]
  exact h

/-- A new fork leaves the others. -/
lemma getElem?_concat_of_ne (hk : k ≠ forks.length) : (forks ++ [new])[k]? = forks[k]? := by
  rcases lt_or_gt_of_ne hk with hlt | hgt
  · exact List.getElem?_append_left hlt
  · have hlen : (forks ++ [new]).length = forks.length + 1 := List.length_append
    rw [List.getElem?_eq_none (by omega), List.getElem?_eq_none (by omega)]

/-- What happens to one fork. -/
lemma getElem?_modify_eq (f : α → α) (forks : List α) (j k : ℕ) :
    (forks.modify j f)[k]? = (forks[k]?).map fun fork => if j = k then f fork else fork := by
  rw [List.getElem?_modify]
  by_cases hk : j = k <;> simp [hk]

end Forks

end Join
