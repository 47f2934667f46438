import Aoun.Lib.Async

/-!
# A baton that is handed on

The server makes a baton once. From then on the baton is in the answer that carries it, in the
request by which the callback hands it on, or with the server, which keeps it; on the way it may
be dropped. As it is made only once, there is at most one of it at any time of any run, and once
it is dropped there is none.

## Main definitions

* `AsyncSystem.batons` — the batons in flight and with the server.
* `AsyncSystem.BatonRules` — what there is to show for the rules of the baton.

## Main results

* `AsyncSystem.issued_or_answered` — a request that was issued is in flight, or was answered.
* `AsyncSystem.batons_le_one` — there is at most one baton.
* `AsyncSystem.batons_eq_zero_of_drop` — a baton that was dropped does not come back.
-/

set_option relaxedAutoImplicit false
set_option autoImplicit false

namespace AsyncSystem

open World StepSystem

variable {S C I U Q E A X O : Type} {sys : AsyncSystem S C I U Q E A X O} {s : S}
  {h : List (World S C Q A O × Event I U E X)} {w w' : World S C Q A O} {e : Event I U E X}

/-! ## Requests that were issued -/

/-- A request that is in flight before a step stays in flight, or has been answered before. -/
lemma flight_stays (hs : sys.step w e = some w') {f : Flight Q A} (hf : f ∈ w.flights) :
    (∃ g ∈ w'.flights, g.owner = f.owner ∧ g.request = f.request) ∨ ∃ a, f.answer = some a := by
  cases took_of_step hs with
  | boot free => exact Or.inl ⟨f, List.mem_append_left _ hf, rfl, rfl⟩
  | ui client reacts => exact Or.inl ⟨f, List.mem_append_left _ hf, rfl, rfl⟩
  | @serve k e g flight unanswered =>
    rcases eq_or_mem_eraseIdx flight hf with rfl | hf
    · exact Or.inl ⟨_, List.mem_append_right _ (List.mem_singleton_self _), rfl, rfl⟩
    · exact Or.inl ⟨f, List.mem_append_left _ hf, rfl, rfl⟩
  | @deliver k x g a c flight answered client =>
    rcases eq_or_mem_eraseIdx flight hf with rfl | hf
    · exact Or.inr ⟨a, answered⟩
    · exact Or.inl ⟨f, List.mem_append_left _ hf, rfl, rfl⟩

/-- A request that a step issues is in flight after it. -/
lemma flight_of_issued (hs : sys.step w e = some w') {i : ℕ} {q : Q}
    (hq : (i, q) ∈ sys.issues w e) : ∃ f ∈ w'.flights, f.owner = i ∧ f.request = q := by
  have hreact : ∀ (v : World S C Q A O) (j root : ℕ) (r : Reaction C Q O),
      (i, q) ∈ r.requests.map (j, ·) →
      ∃ f ∈ (v.react j root r).flights, f.owner = i ∧ f.request = q := by
    intro v j root r hmem
    obtain ⟨q', hq', heq⟩ := List.mem_map.mp hmem
    obtain ⟨rfl, rfl⟩ := Prod.mk.inj heq
    exact ⟨_, List.mem_append_right _ (List.mem_map_of_mem hq'), rfl, rfl⟩
  cases took_of_step hs with
  | boot free => exact hreact _ _ _ _ hq
  | ui client reacts =>
    simp only [issues, client, Option.bind_some, reacts, Option.elim_some] at hq
    exact hreact _ _ _ _ hq
  | serve flight unanswered => cases hq
  | deliver flight answered client =>
    simp only [issues, flight, Option.bind_some, answered, client, Option.map_some,
      Option.getD_some] at hq
    exact hreact _ _ _ _ hq

/-- **What was issued** in a run is still in flight, or the server has answered it.

**Proof sketch.** Induction on the run: only a delivery takes a request out of flight, and what
is delivered was answered (`answered_of_flight`). -/
theorem issued_or_answered (hr : sys.RunFrom s h w) {p : World S C Q A O × Event I U E X}
    (hp : p ∈ h) {i : ℕ} {q : Q} (hq : (i, q) ∈ sys.issues p.1 p.2) :
    (∃ f ∈ w.flights, f.owner = i ∧ f.request = q) ∨ ∃ a, sys.Answered h i q a := by
  induction hr with
  | nil => cases hp
  | @snoc h w e w' hr hs ih =>
    rcases List.mem_append.mp hp with hp | hp
    · rcases ih hp with ⟨f, hf, rfl, rfl⟩ | ⟨a, ha⟩
      · rcases flight_stays hs hf with hstays | ⟨a, ha⟩
        · exact Or.inl hstays
        · exact Or.inr ⟨a, (answered_of_flight hr hf ha).snoc _⟩
      · exact Or.inr ⟨a, ha.snoc _⟩
    · obtain rfl := List.mem_singleton.mp hp
      exact Or.inl (flight_of_issued hs hq)

/-! ## The baton -/

variable (carries : Q → Option A → ℕ) (keeps : S → ℕ) (Made : S → Prop)

/-- The batons that the flights carry and that the server keeps. -/
def batons (w : World S C Q A O) : ℕ :=
  total (fun f => carries f.request f.answer) w.flights + keeps w.server

variable (sys) in
/-- What there is to show for the baton: only the server makes it, where it was not made before,
and the callbacks hand on what they are given. -/
structure BatonRules : Prop where
  boot : ∀ a, ∀ q ∈ (sys.boot a).requests, carries q none = 0
  ui : ∀ c u r, sys.ui c u = some r → ∀ q ∈ r.requests, carries q none = 0
  recv : ∀ c q a x,
    total (fun q' => carries q' none) (sys.recv c q a x).requests ≤ carries q (some a)
  serve : ∀ s q e,
    carries q (some (sys.serve s q e).answer) + keeps (sys.serve s q e).server ≤
        carries q none + keeps s ∨
      ¬ Made s ∧ Made (sys.serve s q e).server ∧
        carries q (some (sys.serve s q e).answer) + keeps (sys.serve s q e).server ≤
          carries q none + keeps s + 1
  made : ∀ s q e, Made s → Made (sys.serve s q e).server

/-- What the handling of a request does to the batons. -/
lemma batons_handle {k : ℕ} {f : Flight Q A} (flight : w.flights[k]? = some f)
    (unanswered : f.answer = none) (v : Served S A O) :
    batons carries keeps (w.handle k f v) + (carries f.request none + keeps w.server) =
      batons carries keeps w + (carries f.request (some v.answer) + keeps v.server) := by
  have hout := total_eraseIdx (fun f => carries f.request f.answer) flight
  rw [unanswered] at hout
  simp only [batons, handle_flights, handle_server, total_append, total_cons, total_nil, hout]
  omega

variable {carries keeps Made}

/-- What a step does to the batons: there are no more of them after it, or it makes one.

**Proof sketch.** A reaction puts in flight no more than what its answer has carried, and the
handling of a request changes what its flight carries as the server's rule says
(`batons_handle`). -/
lemma batons_step (hR : BatonRules sys carries keeps Made) (hs : sys.step w e = some w') :
    (batons carries keeps w' ≤ batons carries keeps w ∨
        ¬ Made w.server ∧ Made w'.server ∧
          batons carries keeps w' ≤ batons carries keeps w + 1) ∧
      (Made w.server → Made w'.server) := by
  have hreact : ∀ (v : World S C Q A O) (i root : ℕ) (r : Reaction C Q O),
      batons carries keeps (v.react i root r) =
        batons carries keeps v + total (fun q => carries q none) r.requests := by
    intro v i root r
    simp only [batons, react_flights, react_server, total_append, total_map]
    omega
  cases took_of_step hs with
  | @boot i a free =>
    have hnone := total_eq_zero (fun q => carries q none) (hR.boot a)
    refine ⟨Or.inl (le_of_eq ?_), id⟩
    calc batons carries keeps (w.react i w.next (sys.boot a)).tick
        = batons carries keeps (w.react i w.next (sys.boot a)) := rfl
      _ = batons carries keeps w := by rw [hreact, hnone, add_zero]
  | @ui i u c r client reacts =>
    have hnone := total_eq_zero (fun q => carries q none) (hR.ui c u r reacts)
    refine ⟨Or.inl (le_of_eq ?_), id⟩
    calc batons carries keeps (w.react i w.next r).tick
        = batons carries keeps (w.react i w.next r) := rfl
      _ = batons carries keeps w := by rw [hreact, hnone, add_zero]
  | @serve k x f flight unanswered =>
    have hhandle := batons_handle carries keeps flight unanswered
      (sys.serve w.server f.request x)
    refine ⟨?_, hR.made w.server f.request x⟩
    rcases hR.serve w.server f.request x with hle | ⟨hnot, hmade, hle⟩
    · exact Or.inl (by omega)
    · exact Or.inr ⟨hnot, hmade, by omega⟩
  | @deliver k x f a c flight answered client =>
    have hout := total_eraseIdx (fun f => carries f.request f.answer) flight
    rw [answered] at hout
    have hle := hR.recv c f.request a x
    refine ⟨Or.inl ?_, id⟩
    rw [hreact]
    simp only [batons, land_flights, land_server, hout]
    omega

/-- **The rule of the baton.** In a run that starts where the server keeps none there is at most one
baton, and none before it is made. -/
theorem batons_le_one (hR : BatonRules sys carries keeps Made) (hr : sys.RunFrom s h w)
    (hkeeps : keeps s = 0) :
    batons carries keeps w ≤ 1 ∧ (¬ Made w.server → batons carries keeps w = 0) := by
  induction hr with
  | nil => simp [batons, hkeeps]
  | snoc hr hs ih =>
    obtain ⟨hone, hnone⟩ := ih
    obtain ⟨hle | ⟨hnot, hmade', hle⟩, hkept⟩ := batons_step hR hs
    · refine ⟨by omega, fun hnot => ?_⟩
      have hzero := hnone fun hm => hnot (hkept hm)
      omega
    · have hzero := hnone hnot
      exact ⟨by omega, fun hnot' => absurd hmade' hnot'⟩

/-- **The baton that was dropped.** If some step of the run has left fewer batons, there are none
at its end.

**Proof sketch.** Induction on the run. There was a baton before the step, so that it had been
made, and it is not made again. -/
theorem batons_eq_zero_of_drop (hR : BatonRules sys carries keeps Made)
    (hr : sys.RunFrom s h w) (hkeeps : keeps s = 0)
    {p : World S C Q A O × Event I U E X} (hp : p ∈ h)
    (hdrop : ∀ w', sys.step p.1 p.2 = some w' →
      batons carries keeps w' < batons carries keeps p.1) : batons carries keeps w = 0 := by
  suffices hboth : batons carries keeps w = 0 ∧ Made w.server from hboth.1
  induction hr with
  | nil => cases hp
  | @snoc h w e w' hr hs ih =>
    obtain ⟨hle, hkept⟩ := batons_step hR hs
    rcases List.mem_append.mp hp with hp | hp
    · obtain ⟨hzero, hm⟩ := ih hp
      rcases hle with hle | ⟨hnot, -⟩
      · exact ⟨by omega, hkept hm⟩
      · exact absurd hm hnot
    · obtain rfl := List.mem_singleton.mp hp
      obtain ⟨hone, hnone⟩ := batons_le_one hR hr hkeeps
      have hlt : batons carries keeps w' < batons carries keeps w := hdrop w' hs
      have hm : Made w.server := by
        by_contra hnot
        have hzero := hnone hnot
        omega
      exact ⟨by omega, hkept hm⟩

end AsyncSystem
