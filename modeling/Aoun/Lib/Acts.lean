import Aoun.Lib.Async

/-!
# What a client owes to its user

Part of a client's state may be changed by its user only. In every run that part is then a
function of what the user has done: the fold of the changes over the user events of the client.

## Main definitions

* `AsyncSystem.acts` — the user events of a client in a history, oldest first.

## Main results

* `AsyncSystem.folded` — the part of the state that only the user changes.
-/

set_option relaxedAutoImplicit false
set_option autoImplicit false

namespace AsyncSystem

open World

variable {S C I U Q E A X O : Type}

/-- The user event of client `i`, if the event is one. -/
def Event.actOf (i : ℕ) : Event I U E X → Option U
  | .ui j u => if j = i then some u else none
  | _ => none

/-- The user events of client `i` in the history `h`, oldest first. -/
def acts (i : ℕ) (h : List (World S C Q A O × Event I U E X)) : List U :=
  h.filterMap fun p => p.2.actOf i

section

variable (i : ℕ) (h : List (World S C Q A O × Event I U E X)) (w : World S C Q A O)

@[simp] lemma acts_nil : acts i ([] : List (World S C Q A O × Event I U E X)) = [] := rfl

@[simp] lemma acts_snoc_self (u : U) : acts i (h ++ [(w, .ui i u)]) = acts i h ++ [u] := by
  simp [acts, Event.actOf]

/-- The history matters only by its events. -/
lemma acts_eq_filterMap : acts i h = (h.map Prod.snd).filterMap (Event.actOf i) := by
  rw [acts, List.filterMap_map]
  rfl

/-- The events of others add nothing. -/
lemma acts_snoc_of_ne {j : ℕ} (hj : j ≠ i) (u : U) :
    acts i (h ++ [(w, .ui j u)]) = acts i h := by
  simp [acts, Event.actOf, hj]

@[simp] lemma acts_snoc_boot (j : ℕ) (a : I) : acts i (h ++ [(w, .boot j a)]) = acts i h := by
  simp [acts, Event.actOf]

@[simp] lemma acts_snoc_serve (k : ℕ) (e : E) : acts i (h ++ [(w, .serve k e)]) = acts i h := by
  simp [acts, Event.actOf]

@[simp] lemma acts_snoc_deliver (k : ℕ) (x : X) :
    acts i (h ++ [(w, .deliver k x)]) = acts i h := by
  simp [acts, Event.actOf]

end

variable {sys : AsyncSystem S C I U Q E A X O} {s : S}
  {h : List (World S C Q A O × Event I U E X)} {w : World S C Q A O}

/-- Before its launch a client has no user. -/
lemma acts_fresh (hr : sys.RunFrom s h w) {i : ℕ} (hi : w.clients i = none) : acts i h = [] := by
  induction hr with
  | nil => rfl
  | @snoc h w e w' hr hs ih =>
    cases took_of_step hs with
    | @boot j a free =>
      by_cases hj : i = j
      · subst hj
        simp at hi
      · rw [tick_clients, react_clients_of_ne _ _ _ hj] at hi
        simpa using ih hi
    | @ui j u c r client reacts =>
      by_cases hj : i = j
      · subst hj
        simp at hi
      · rw [tick_clients, react_clients_of_ne _ _ _ hj] at hi
        rw [acts_snoc_of_ne _ _ _ (Ne.symm hj)]
        exact ih hi
    | serve flight unanswered => simpa using ih hi
    | @deliver k x f a c flight answered client =>
      by_cases hj : i = f.owner
      · subst hj
        simp at hi
      · rw [react_clients_of_ne _ _ _ hj, land_clients] at hi
        simpa using ih hi

/-- **The rule for what only the user changes.** If the launch leaves `z` in a part of the
client's state, the user changes it by `upd` and no callback changes it, then in every state of
every run the part is the fold of `upd` over the user events of the client. -/
theorem folded {α : Type*} {part : C → α} {z : α} {upd : α → U → α}
    (hboot : ∀ a, part (sys.boot a).client = z)
    (hui : ∀ c u r, sys.ui c u = some r → part r.client = upd (part c) u)
    (hrecv : ∀ c q a x, part (sys.recv c q a x).client = part c) (hr : sys.RunFrom s h w)
    {i : ℕ} {c : C} (hc : w.clients i = some c) : part c = (acts i h).foldl upd z := by
  induction hr generalizing c with
  | nil => cases hc
  | @snoc h w e w' hr hs ih =>
    cases took_of_step hs with
    | @boot j a free =>
      by_cases hj : i = j
      · subst hj
        obtain rfl : (sys.boot a).client = c := by simpa using hc
        rw [acts_snoc_boot, acts_fresh hr free]
        exact hboot a
      · rw [tick_clients, react_clients_of_ne _ _ _ hj] at hc
        rw [acts_snoc_boot]
        exact ih hc
    | @ui j u c' r client reacts =>
      by_cases hj : i = j
      · subst hj
        obtain rfl : r.client = c := by simpa using hc
        rw [acts_snoc_self, List.foldl_append, ← ih client]
        exact hui c' u r reacts
      · rw [tick_clients, react_clients_of_ne _ _ _ hj] at hc
        rw [acts_snoc_of_ne _ _ _ (Ne.symm hj)]
        exact ih hc
    | serve flight unanswered =>
      rw [acts_snoc_serve]
      exact ih hc
    | @deliver k x f a c' flight answered client =>
      rw [acts_snoc_deliver]
      by_cases hj : i = f.owner
      · subst hj
        obtain rfl : (sys.recv c' f.request a x).client = c := by simpa using hc
        rw [hrecv]
        exact ih client
      · rw [react_clients_of_ne _ _ _ hj, land_clients] at hc
        exact ih hc

end AsyncSystem
