import Mathlib.Data.List.Perm.Basic
import Aoun.Lib.Run

/-!
# Loaders that share a list

A loader clears a list when it is called, and extends it when its query is answered. Calls may
overlap: a query that was issued before the list was cleared still extends it. All queries are
answered alike, so that it does not matter which of them is.

## Main definitions

* `Loader` — the call, the answer and the list of a loader.
* `Loader.step` — calls and answers, with the number of queries that are pending.
* `Loader.lastPending` — the number of queries that were pending at the last call.

## Main results

* `Loader.list_eq` — what the list holds.
* `Loader.loaded_once_iff` — when the list holds the same as after a single call.
-/

set_option relaxedAutoImplicit false
set_option autoImplicit false

open StepSystem

/-- A loader of a list, on a screen with state `σ`. -/
structure Loader (σ α : Type*) where
  /-- What a call does at once. -/
  call : σ → σ
  /-- What the answer to its query does. -/
  answer : σ → σ
  /-- The program has stopped. -/
  stopped : σ → Bool
  /-- The list. -/
  list : σ → List α

namespace Loader

/-- A screen, and the number of its queries that are pending. -/
structure Loading (σ : Type*) where
  screen : σ
  pending : ℕ

/-- What can happen. -/
inductive Event
  | call
  | answer
  deriving DecidableEq

variable {σ α : Type*} (L : Loader σ α)

/-- One step, `none` where the event is not possible. -/
def step (s : Loading σ) (e : Event) : Option (Loading σ) :=
  if L.stopped s.screen then none
  else
    match e with
    | .call => some ⟨L.call s.screen, s.pending + 1⟩
    | .answer => if s.pending = 0 then none else some ⟨L.answer s.screen, s.pending - 1⟩

/-- A single call, answered. -/
def once (s : σ) : σ := L.answer (L.call s)

/-- A call clears the list, and runs on; an answer extends the list by `added`. -/
structure Extends (added : List α) : Prop where
  call : ∀ s, L.list (L.call s) = []
  runs : ∀ s, L.stopped s = false → L.stopped (L.call s) = false
  answer : ∀ s, L.stopped s = false → L.list (L.answer s) = L.list s ++ added

/-- The number of queries that were pending at the last call, if there was one. -/
def lastPending (h : List (Loading σ × Event)) : Option ℕ :=
  (h.filter fun p => p.2 = .call).getLast?.map (·.1.pending)

@[simp] lemma lastPending_call (h : List (Loading σ × Event)) (s : Loading σ) :
    lastPending (h ++ [(s, .call)]) = some s.pending := by simp [lastPending]

@[simp] lemma lastPending_answer (h : List (Loading σ × Event)) (s : Loading σ) :
    lastPending (h ++ [(s, .answer)]) = lastPending h := by simp [lastPending]

/-- There was a last call if there was any. -/
lemma lastPending_ne_none {h : List (Loading σ × Event)} (hcall : .call ∈ h.map Prod.snd) :
    lastPending h ≠ none := by
  obtain ⟨p, hp, he⟩ := List.mem_map.mp hcall
  have hmem : p ∈ h.filter fun p => p.2 = .call := List.mem_filter.mpr ⟨hp, decide_eq_true he⟩
  intro hnone
  rw [lastPending, Option.map_eq_none_iff, List.getLast?_eq_none_iff] at hnone
  rw [hnone] at hmem
  cases hmem

variable {L} {added : List α} {s₀ : σ} {h : List (Loading σ × Event)} {s : Loading σ}

/-- What a step does. -/
lemma step_cases {s' : Loading σ} {e : Event} (hs : L.step s e = some s') :
    L.stopped s.screen = false ∧
      (e = .call ∧ s' = ⟨L.call s.screen, s.pending + 1⟩ ∨
        e = .answer ∧ 0 < s.pending ∧ s' = ⟨L.answer s.screen, s.pending - 1⟩) := by
  unfold step at hs
  rw [Option.ite_none_left_eq_some] at hs
  obtain ⟨hrun, hs⟩ := hs
  refine ⟨by simpa using hrun, ?_⟩
  cases e with
  | call => exact Or.inl ⟨rfl, (Option.some.inj hs).symm⟩
  | answer =>
    rw [Option.ite_none_left_eq_some] at hs
    exact Or.inr ⟨rfl, Nat.pos_of_ne_zero hs.1, (Option.some.inj hs.2).symm⟩

/-- **What the list holds.** Since its last call the list has been extended once for each query
that has been answered, of those that were pending and the one of the call.

**Proof sketch.** Induction on the run. A call starts anew, an answer adds its elements and is one
query less to come. -/
lemma list_eq (hL : L.Extends added) (hr : Run L.step ⟨s₀, 0⟩ h s) :
    (lastPending h = none → s.pending = 0) ∧ ∀ p, lastPending h = some p →
      ∃ n, n + s.pending = p + 1 ∧ L.list s.screen = (List.replicate n added).flatten := by
  induction hr with
  | nil => exact ⟨fun _ => rfl, fun p hp => absurd hp (Option.some_ne_none p).symm⟩
  | @snoc h s e s' hr hs ih =>
    obtain ⟨hrun, ⟨rfl, rfl⟩ | ⟨rfl, hpos, rfl⟩⟩ := step_cases hs
    · rw [lastPending_call]
      refine ⟨fun hnone => absurd hnone (Option.some_ne_none _), fun p hp => ⟨0, ?_, ?_⟩⟩
      · obtain rfl := Option.some.inj hp
        exact Nat.zero_add _
      · exact hL.call s.screen
    · rw [lastPending_answer]
      refine ⟨fun hnone => ?_, fun p hp => ?_⟩
      · have hzero := ih.1 hnone
        omega
      · obtain ⟨n, hn, hlist⟩ := ih.2 p hp
        refine ⟨n + 1, ?_, ?_⟩
        · show n + 1 + (s.pending - 1) = p + 1
          omega
        · rw [hL.answer s.screen hrun, hlist, List.replicate_succ', List.flatten_append]
          simp

/-- Repeating a list gives the same elements only if it is not repeated, or empty. -/
lemma replicate_perm_iff (p : ℕ) (l : List α) :
    (List.replicate (p + 1) l).flatten.Perm l ↔ p = 0 ∨ l = [] := by
  constructor
  · intro hperm
    have hlength := hperm.length_eq
    rw [List.length_flatten, List.map_replicate, List.sum_replicate_nat, Nat.succ_mul] at hlength
    have hzero : p * l.length = 0 := by omega
    exact (Nat.mul_eq_zero.mp hzero).imp_right List.length_eq_zero_iff.mp
  · rintro (rfl | rfl)
    · simp
    · simp

/-- **When overlapping calls load once.** When all queries of a run have been answered, the list
holds the same elements as after a single call, if and only if no query was pending at the last
call, or there are no elements. -/
theorem loaded_once_iff (hL : L.Extends added) (hs₀ : L.stopped s₀ = false)
    (hr : Run L.step ⟨s₀, 0⟩ h s) (hcalled : lastPending h ≠ none) (hdone : s.pending = 0) :
    (L.list s.screen).Perm (L.list (L.once s₀)) ↔ lastPending h = some 0 ∨ added = [] := by
  obtain ⟨p, hp⟩ := Option.ne_none_iff_exists'.mp hcalled
  obtain ⟨n, hn, hlist⟩ := (list_eq hL hr).2 p hp
  obtain rfl : n = p + 1 := by omega
  have honce : L.list (L.once s₀) = added := by
    rw [once, hL.answer _ (hL.runs s₀ hs₀), hL.call, List.nil_append]
  rw [hlist, honce, hp, replicate_perm_iff, Option.some_inj]

end Loader
