import Aoun.Lib.Async

/-!
# Where requests come from

A request in flight was issued by the launch of its client, by a reaction to its user, or by a
callback, for an answer that the server has given. Followed back, this gives the chain of answers
and user events that has led to a request.

## Main definitions

* `AsyncSystem.Acted` — what the user of a client has done in a run, and where.
* `AsyncSystem.IssuedBy` — what has issued a request.
* `AsyncSystem.FlightRules` — what there is to show for an invariant of the server and the
  requests in flight.

## Main results

* `AsyncSystem.issuedBy_of_flight` — every request in flight was issued in one of the three ways.
* `AsyncSystem.flight_invariant` — an invariant that relates the server and the requests in flight
  holds in every run.
-/

set_option relaxedAutoImplicit false
set_option autoImplicit false

namespace AsyncSystem

open World StepSystem

variable {S C I U Q E A X O : Type} {sys : AsyncSystem S C I U Q E A X O} {s : S}
  {h h₁ h₂ : List (World S C Q A O × Event I U E X)} {w w' : World S C Q A O}
  {e : Event I U E X}

/-! ## What has issued a request -/

/-- In the run the user of client `i` has done `u` where the client was in the state `c`. -/
def Acted (h : List (World S C Q A O × Event I U E X)) (i : ℕ) (c : C) (u : U) : Prop :=
  ∃ w, (w, .ui i u) ∈ h ∧ w.clients i = some c

/-- What a user has done stays done. -/
lemma Acted.append {i : ℕ} {c : C} {u : U} (ha : Acted h₁ i c u) : Acted (h₁ ++ h₂) i c u := by
  obtain ⟨w, hmem, hc⟩ := ha
  exact ⟨w, List.mem_append_left _ hmem, hc⟩

/-- What was answered stays answered. -/
lemma Answered.append {i : ℕ} {q : Q} {a : A} (ha : sys.Answered h₁ i q a) :
    sys.Answered (h₁ ++ h₂) i q a := by
  obtain ⟨w, k, e, f, hmem, hf⟩ := ha
  exact ⟨w, k, e, f, List.mem_append_left _ hmem, hf⟩

variable (sys) in
/-- What has issued the request `q` of client `i` in the run. -/
inductive IssuedBy (h : List (World S C Q A O × Event I U E X)) (i : ℕ) (q : Q) : Prop
  | boot {w : World S C Q A O} {a : I} (booted : (w, .boot i a) ∈ h)
      (asks : q ∈ (sys.boot a).requests)
  | ui {c : C} {u : U} {r : Reaction C Q O} (acted : Acted h i c u) (reacts : sys.ui c u = some r)
      (asks : q ∈ r.requests)
  | recv {c : C} {q' : Q} {a : A} {x : X} (answered : sys.Answered h i q' a)
      (asks : q ∈ (sys.recv c q' a x).requests)

/-- What was issued stays issued. -/
lemma IssuedBy.append {i : ℕ} {q : Q} (hq : sys.IssuedBy h₁ i q) :
    sys.IssuedBy (h₁ ++ h₂) i q := by
  cases hq with
  | boot booted asks => exact .boot (List.mem_append_left _ booted) asks
  | ui acted reacts asks => exact .ui acted.append reacts asks
  | recv answered asks => exact .recv answered.append asks

/-- **Where a request comes from.** Every request in flight was issued by the launch of its client,
by a reaction to its user, or by a callback for an answer of the server.

**Proof sketch.** Induction on the run: an event puts in flight the requests of one reaction, and
the answer that is delivered was given before (`answered_of_flight`). -/
theorem issuedBy_of_flight (hr : sys.RunFrom s h w) {f : Flight Q A} (hf : f ∈ w.flights) :
    sys.IssuedBy h f.owner f.request := by
  induction hr generalizing f with
  | nil => cases hf
  | @snoc h w e w' hr hs ih =>
    have hreact : ∀ (v : World S C Q A O) (i root : ℕ) (r : Reaction C Q O),
        (∀ g ∈ v.flights, g ∈ w.flights) →
        (∀ q ∈ r.requests, sys.IssuedBy (h ++ [(w, e)]) i q) →
        f ∈ (v.react i root r).flights → sys.IssuedBy (h ++ [(w, e)]) f.owner f.request := by
      intro v i root r hsub hasks hf
      rcases List.mem_append.mp hf with hf | hf
      · exact (ih (hsub f hf)).append
      · obtain ⟨q, hq, rfl⟩ := List.mem_map.mp hf
        exact hasks q hq
    cases took_of_step hs with
    | @boot i a free =>
      have hbooted : (w, .boot i a) ∈ h ++ [(w, .boot i a)] :=
        List.mem_append_right _ (List.mem_singleton_self _)
      exact hreact w _ _ _ (fun _ hg => hg) (fun _ hq => .boot hbooted hq) hf
    | @ui i u c r client reacts =>
      have hacted : Acted (h ++ [(w, .ui i u)]) i c u :=
        ⟨w, List.mem_append_right _ (List.mem_singleton_self _), client⟩
      exact hreact w _ _ _ (fun _ hg => hg) (fun _ hq => .ui hacted reacts hq) hf
    | serve flight unanswered =>
      rcases List.mem_append.mp hf with hf | hf
      · exact (ih (List.mem_of_mem_eraseIdx hf)).append
      · rw [List.mem_singleton.mp hf]
        exact (ih (mem_of_flight flight)).append
    | deliver flight answered client =>
      have hanswered := answered_of_flight hr (mem_of_flight flight) answered
      exact hreact (w.land _) _ _ _ (fun _ hg => List.mem_of_mem_eraseIdx hg)
        (fun _ hq => .recv (hanswered.snoc _) hq) hf

/-- The request that a step of the run has handled was issued before it. -/
lemma issuedBy_of_handled (hr : sys.RunFrom s h w) {k : ℕ} {x : E} {v : World S C Q A O}
    (hp : h = h₁ ++ (v, .serve k x) :: h₂) {f : Flight Q A} (hf : v.flights[k]? = some f) :
    sys.IssuedBy h₁ f.owner f.request :=
  issuedBy_of_flight (hr.before hp) (mem_of_flight hf)

/-- What was answered was issued before. -/
lemma Answered.issuedBy (hr : sys.RunFrom s h w) {i : ℕ} {q : Q} {a : A}
    (ha : sys.Answered h i q a) : sys.IssuedBy h i q := by
  obtain ⟨v, k, x, f, hmem, hf, rfl, rfl, -⟩ := ha
  obtain ⟨h₁, h₂, rfl⟩ := List.append_of_mem hmem
  exact (issuedBy_of_handled hr rfl hf).append

/-! ## What steps keep -/

/-- What has been recorded stays recorded. -/
lemma trace_subset_step (hs : sys.step w e = some w') : w.trace ⊆ w'.trace := by
  cases took_of_step hs with
  | boot free => exact List.subset_append_left _ _
  | ui client reacts => exact List.subset_append_left _ _
  | serve flight unanswered => exact List.subset_append_left _ _
  | deliver flight answered client => exact List.subset_append_left _ _

/-- A client that has been launched stays launched. -/
lemma clients_ne_none_step (hs : sys.step w e = some w') {i : ℕ} (hi : w.clients i ≠ none) :
    w'.clients i ≠ none := by
  have hreact : ∀ (v : World S C Q A O) (j root : ℕ) (r : Reaction C Q O),
      v.clients = w.clients → (v.react j root r).clients i ≠ none := by
    intro v j root r hv
    by_cases hij : i = j
    · rw [hij, react_clients_self]
      exact Option.some_ne_none _
    · rw [react_clients_of_ne _ _ _ hij, hv]
      exact hi
  cases took_of_step hs with
  | boot free => exact hreact w _ w.next _ rfl
  | ui client reacts => exact hreact w _ w.next _ rfl
  | serve flight unanswered => exact hi
  | @deliver k x f a c flight answered client => exact hreact (w.land k) _ f.root _ rfl

/-! ## Invariants of the requests in flight -/

variable (sys) (V : S → Prop) (R : S → Q → Option A → Prop)

/-- What there is to show for an invariant `V` of the server, and one, `R`, that relates it to a
request and its answer, if it has one. -/
structure FlightRules : Prop where
  /-- The launch issues requests within `R`. -/
  boot : ∀ s a, V s → ∀ q ∈ (sys.boot a).requests, R s q none
  /-- So do the reactions to the user. -/
  ui : ∀ s c u r, V s → sys.ui c u = some r → ∀ q ∈ r.requests, R s q none
  /-- The server keeps `V`, and answers within `R`. -/
  serve : ∀ s q e, V s → R s q none → V (sys.serve s q e).server ∧
    R (sys.serve s q e).server q (some (sys.serve s q e).answer)
  /-- It keeps `R` for the others. -/
  others : ∀ s q e q' a, V s → R s q none → R s q' a → R (sys.serve s q e).server q' a
  /-- The callbacks issue requests within `R`. -/
  recv : ∀ s c q a x, V s → R s q (some a) → ∀ q' ∈ (sys.recv c q a x).requests, R s q' none

variable {sys V R}

/-- **The rule for requests in flight.** What there is to show for `V` and `R` gives that, in every
state of every run, the server satisfies `V`, and every request in flight `R`. -/
theorem flight_invariant (hR : FlightRules sys V R) (hs : V s) (hr : sys.RunFrom s h w) :
    V w.server ∧ ∀ f ∈ w.flights, R w.server f.request f.answer := by
  refine hr.invariant (I := fun w => V w.server ∧ ∀ f ∈ w.flights, R w.server f.request f.answer)
    ⟨hs, by simp⟩ fun w e w' ⟨hV, hflights⟩ hstep => ?_
  have hreact : ∀ (v : World S C Q A O) (i root : ℕ) (r : Reaction C Q O),
      v.server = w.server → (∀ g ∈ v.flights, g ∈ w.flights) →
      (∀ q ∈ r.requests, R w.server q none) →
      V (v.react i root r).server ∧
        ∀ f ∈ (v.react i root r).flights, R (v.react i root r).server f.request f.answer := by
    intro v i root r hv hsub hasks
    rw [react_server, hv]
    refine ⟨hV, fun f hf => ?_⟩
    rcases List.mem_append.mp hf with hf | hf
    · exact hflights f (hsub f hf)
    · obtain ⟨q, hq, rfl⟩ := List.mem_map.mp hf
      exact hasks q hq
  cases took_of_step hstep with
  | boot free => exact hreact w.tick _ _ _ rfl (fun _ hg => hg) (hR.boot _ _ hV)
  | ui client reacts => exact hreact w.tick _ _ _ rfl (fun _ hg => hg) (hR.ui _ _ _ _ hV reacts)
  | @serve k x f flight unanswered =>
    have hasked : R w.server f.request none := by
      have := hflights f (mem_of_flight flight)
      rwa [unanswered] at this
    obtain ⟨hV', hanswer⟩ := hR.serve w.server f.request x hV hasked
    refine ⟨hV', fun g hg => ?_⟩
    rcases List.mem_append.mp hg with hg | hg
    · exact hR.others _ _ _ _ _ hV hasked (hflights g (List.mem_of_mem_eraseIdx hg))
    · rw [List.mem_singleton.mp hg]
      exact hanswer
  | @deliver k x f a c flight answered client =>
    have hanswered : R w.server f.request (some a) := by
      have := hflights f (mem_of_flight flight)
      rwa [answered] at this
    exact hreact (w.land k) _ _ _ rfl (fun _ hg => List.mem_of_mem_eraseIdx hg)
      (hR.recv _ _ _ _ _ hV hanswered)

end AsyncSystem
