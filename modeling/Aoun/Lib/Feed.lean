import Mathlib.Algebra.Order.Group.Multiset
import Aoun.Lib.Async

/-!
# Lists that are read once and added to

Clients read a list that the server keeps, and add elements to it themselves. What a client has
read, and what it has added, reaches it later; it shows each when it does. An element that was
added before the list was read is read along with the others, and would be shown twice.

Elements are counted with their multiplicity. The effects of a client make `due` what it has read
and added, `paid` is what has reached it, and `held` what is on its way. A client without a `key`
is not one that reads and adds to one list, and nothing is said of it.

## Main definitions

* `FeedRules` — what there is to show of a system whose clients read and add to lists.
* `ReadsFirst` — a client reads its list before it has added to it.
* `DueListed` — what the clients have read and added is in their lists.

## Main results

* `FeedRules.due_le` — what a client has read and added is in the list.
* `FeedRules.paid_le` — so is what has reached it.
-/

set_option relaxedAutoImplicit false
set_option autoImplicit false

open AsyncSystem AsyncSystem.World StepSystem

variable {S C I U Q E A X O κ R : Type}

section

variable (sys : AsyncSystem S C I U Q E A X O) (K : C → Q → Prop) (feed : S → κ → Multiset R)
  (key : C → Option κ) (loads : Q → Prop) (due paid : O → Multiset R)
  (held : Q → Option A → Multiset R)

/-- What there is to show of a system whose clients read and add to the lists `feed`, each the one
of its `key`: the lists only grow, and what the server makes due for a client is the list, or part
of it, if it reads it, and else part of what the list grows by. -/
structure FeedRules : Prop where
  balance : ClientBalanceRules sys K due paid held
  boot : ∀ a, total due (sys.boot a).effects = 0
  ui : ∀ c u r, sys.ui c u = some r → key r.client = key c ∧ total due r.effects = 0
  grows : ∀ s q e k, feed s k ≤ feed (sys.serve s q e).server k
  serve : ∀ s q e c k, K c q → key c = some k →
    (loads q ∧ total due (sys.serve s q e).effects ≤ feed (sys.serve s q e).server k) ∨
      feed s k + total due (sys.serve s q e).effects ≤ feed (sys.serve s q e).server k
  recv : ∀ c q a x, K c q →
    key (sys.recv c q a x).client = key c ∧ total due (sys.recv c q a x).effects = 0

/-- The list of a client is read before the client has added to it. -/
def ReadsFirst (w : World S C Q A O) (e : Event I U E X) : Prop :=
  ∀ k x f, e = .serve k x → w.flights[k]? = some f → loads f.request →
    total due (w.effectsOf f.owner) = 0

end

variable {sys : AsyncSystem S C I U Q E A X O} {K : C → Q → Prop} {feed : S → κ → Multiset R}
  {key : C → Option κ} {loads : Q → Prop} {due paid : O → Multiset R}
  {held : Q → Option A → Multiset R} {s : S} {h : List (World S C Q A O × Event I U E X)}
  {w w' : World S C Q A O} {e : Event I U E X}

/-- What the clients have read and added is in their lists. -/
def DueListed (feed : S → κ → Multiset R) (key : C → Option κ) (due : O → Multiset R)
    (w : World S C Q A O) : Prop :=
  ∀ i c k, w.clients i = some c → key c = some k → total due (w.effectsOf i) ≤ feed w.server k

/-- A step in which the list of a client is read only before the client has added to it. -/
lemma FeedRules.due_le_step (hF : FeedRules sys K feed key loads due paid held)
    (hK : ∀ f ∈ w.flights, ∀ c, w.clients f.owner = some c → K c f.request)
    (hfresh : ∀ i, w.clients i = none → w.effectsOf i = []) (hw : DueListed feed key due w)
    (hg : ReadsFirst loads due w e) (hs : sys.step w e = some w') :
    DueListed feed key due w' := by
  intro j c l hj hl
  cases took_of_step hs with
  | @boot i a free =>
    by_cases hij : j = i
    · subst hij
      simp [hfresh j free, hF.boot a]
    · simpa [hij] using hw j c l (by simpa [hij] using hj) hl
  | @ui i u c' r client reacts =>
    by_cases hij : j = i
    · subst hij
      obtain rfl : r.client = c := by simpa using hj
      obtain ⟨hkey, hdue⟩ := hF.ui c' u r reacts
      simpa [hdue] using hw j c' l client (hkey ▸ hl)
    · simpa [hij] using hw j c l (by simpa [hij] using hj) hl
  | @serve k x f flight unanswered =>
    have hbefore := hw j c l hj hl
    have hgrows := hF.grows w.server f.request x l
    by_cases hij : j = f.owner
    · subst hij
      rw [effectsOf_handle_self, total_append, handle_server]
      rcases hF.serve w.server f.request x c l (hK f (mem_of_flight flight) c hj) hl with
        ⟨hload, hread⟩ | hadds
      · rw [hg k x f rfl flight hload, zero_add]
        exact hread
      · calc total due (w.effectsOf f.owner) + total due (sys.serve w.server f.request x).effects
            ≤ feed w.server l + total due (sys.serve w.server f.request x).effects :=
              add_le_add_left hbefore _
          _ ≤ feed (sys.serve w.server f.request x).server l := hadds
    · rw [effectsOf_handle_of_ne _ _ _ _ _ hij]
      exact hbefore.trans hgrows
  | @deliver k x f a c' flight answered client =>
    obtain ⟨hkey, hdue⟩ := hF.recv c' f.request a x (hK f (mem_of_flight flight) c' client)
    by_cases hij : j = f.owner
    · subst hij
      obtain rfl : (sys.recv c' f.request a x).client = c := by simpa using hj
      simpa [hdue] using hw _ c' l client (hkey ▸ hl)
    · simpa [hij] using hw j c l (by simpa [hij] using hj) hl

/-- **What a client has read and added is in its list**, if the list is read before the client has
added to it: each element as often as it is due.

**Proof sketch.** The list grows by what is added, and a client that reads it has nothing due
before. -/
theorem FeedRules.due_le (hF : FeedRules sys K feed key loads due paid held)
    (hK : ∀ h w, sys.RunFrom s h w → ∀ f ∈ w.flights, ∀ c, w.clients f.owner = some c →
      K c f.request)
    (hr : sys.RunFrom s h w) (hg : EveryStep (ReadsFirst loads due) h) :
    DueListed feed key due w := by
  induction hr with
  | nil => intro i c k hi; cases hi
  | @snoc h w e w' hr hs ih =>
    obtain ⟨hg, hlast⟩ := (everyStep_snoc _ _ _ _).mp hg
    exact hF.due_le_step (hK h w hr) (fun i => effectsOf_fresh hr) (ih hg) hlast hs

/-- **What has reached a client is in its list**, and so is what is on its way. -/
theorem FeedRules.paid_le (hF : FeedRules sys K feed key loads due paid held)
    (hK : ∀ h w, sys.RunFrom s h w → ∀ f ∈ w.flights, ∀ c, w.clients f.owner = some c →
      K c f.request)
    (hr : sys.RunFrom s h w) (hg : EveryStep (ReadsFirst loads due) h) {i : ℕ} {c : C} {k : κ}
    (hi : w.clients i = some c) (hk : key c = some k) :
    total (flightOf i held) w.flights + total paid (w.effectsOf i) ≤ feed w.server k := by
  rw [← client_balance hF.balance hK hr i]
  exact hF.due_le hK hr hg i c k hi hk
