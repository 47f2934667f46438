import Mathlib.Algebra.BigOperators.Group.List.Basic
import Mathlib.Data.List.Perm.Basic
import Mathlib.Data.Multiset.OrderedMonoid
import Mathlib.Logic.Function.Basic
import Mathlib.Tactic.Abel
import Aoun.Lib.Run

/-!
# Clients that call a server asynchronously

A server is shared by any number of clients. A client reacts to its user and to answers; a
reaction gives its new state, the requests it issues and the effects it has, which a history
records. A request stays in flight until the server has handled it, atomically, and its
answer has been delivered to the callback of the client that issued it. The server handles
the requests in flight, and the answers arrive, in any order.

Every flight and every recorded effect carries the client it belongs to and its *root*: the
number of the user event that issued the request, inherited by the requests and effects of
the callbacks that follow.

## Main definitions

* `AsyncSystem` — the server and the client program.
* `AsyncSystem.World`, `AsyncSystem.Event`, `AsyncSystem.step` — the system they form.
* `AsyncSystem.World.effectsOf` — the effects recorded for one client, oldest first.

## Main results

* `AsyncSystem.took_of_step` — what a step can do, one case for each kind of event.
* `AsyncSystem.exclusive` — where only the callback of a request issues the next one, a client
  has at most one in flight.
* `AsyncSystem.answered_of_effect` — what a callback has done followed an answer of the server.
* `AsyncSystem.client_invariant` — an invariant that relates the server, a client, its effects
  and its requests holds of every client in every run.
* `AsyncSystem.balance` — a quantity that effects create is, at any time of any run, in
  flight, settled by effects, or lost in steps that have been taken.
* `AsyncSystem.client_balance` — the same for one client, where nothing is lost.
-/

set_option relaxedAutoImplicit false
set_option autoImplicit false

/-- What a client does in reaction to an event: its new state, the requests it issues and the
effects it has, both in the order of the program. -/
structure Reaction (C Q O : Type) where
  /-- The state after the reaction. -/
  client : C
  /-- The requests issued. -/
  requests : List Q
  /-- The effects, for the history. -/
  effects : List O

namespace Reaction

variable {C Q O : Type}

/-- No reaction. -/
def skip (c : C) : Reaction C Q O := ⟨c, [], []⟩

/-- A reaction followed by what the program does in the state it leaves. -/
def next (r : Reaction C Q O) (f : C → Reaction C Q O) : Reaction C Q O :=
  ⟨(f r.client).client, r.requests ++ (f r.client).requests,
    r.effects ++ (f r.client).effects⟩

@[simp] lemma skip_client (c : C) : (skip c : Reaction C Q O).client = c := rfl
@[simp] lemma skip_requests (c : C) : (skip c : Reaction C Q O).requests = [] := rfl
@[simp] lemma skip_effects (c : C) : (skip c : Reaction C Q O).effects = [] := rfl

section

variable (r : Reaction C Q O) (f : C → Reaction C Q O)

@[simp] lemma next_client : (r.next f).client = (f r.client).client := rfl
@[simp] lemma next_requests :
    (r.next f).requests = r.requests ++ (f r.client).requests := rfl
@[simp] lemma next_effects : (r.next f).effects = r.effects ++ (f r.client).effects := rfl

end

end Reaction

/-- What the server does with a request: its new state, the answer, and the effects for the
history. -/
structure Served (S A O : Type) where
  /-- The state after the request. -/
  server : S
  /-- The answer to the request. -/
  answer : A
  /-- The effects, for the history. -/
  effects : List O

/-- A server with state `S` and a client program with state `C`. Clients are launched with
parameters `I`, receive user events `U`, issue requests `Q` and receive answers `A`; the
outcome of a request may depend on a choice `E` of the environment, a callback on an input
`X` (the time, say). Effects `O` are only recorded. -/
structure AsyncSystem (S C I U Q E A X O : Type) where
  /-- The launch of a client. -/
  boot : I → Reaction C Q O
  /-- The reaction to a user event, `none` where the user cannot cause it. -/
  ui : C → U → Option (Reaction C Q O)
  /-- The server's atomic handling of a request. -/
  serve : S → Q → E → Served S A O
  /-- The callback that receives the answer to a request. -/
  recv : C → Q → A → X → Reaction C Q O

namespace AsyncSystem

/-- A request in flight, with its answer once the server has handled it. -/
structure Flight (Q A : Type) where
  /-- The client that issued the request. -/
  owner : ℕ
  /-- The number of the user event the request goes back to. -/
  root : ℕ
  /-- The request. -/
  request : Q
  /-- The answer, if the server has handled the request. -/
  answer : Option A

/-- A recorded effect. -/
structure Entry (O : Type) where
  /-- The client whose reaction or request had the effect. -/
  owner : ℕ
  /-- The number of the user event the effect goes back to. -/
  root : ℕ
  /-- The effect. -/
  effect : O

/-- The state of the whole system. -/
structure World (S C Q A O : Type) where
  /-- The state of the server. -/
  server : S
  /-- The clients launched so far. -/
  clients : ℕ → Option C
  /-- The requests in flight. -/
  flights : List (Flight Q A)
  /-- The effects so far, oldest first. -/
  trace : List (Entry O)
  /-- The number of launches and user events so far. -/
  next : ℕ

/-- What can happen: client `i` is launched, its user acts, the server handles the `k`-th
request in flight, the answer of the `k`-th request in flight is delivered. -/
inductive Event (I U E X : Type)
  | boot (i : ℕ) (a : I)
  | ui (i : ℕ) (u : U)
  | serve (k : ℕ) (e : E)
  | deliver (k : ℕ) (x : X)

variable {S C I U Q E A X O : Type}

namespace World

/-- The system before any launch. -/
def start (s : S) : World S C Q A O := ⟨s, fun _ => none, [], [], 0⟩

/-- The world after client `i` reacts by `r` to an event that goes back to the user event
number `root`. -/
def react (w : World S C Q A O) (i root : ℕ) (r : Reaction C Q O) : World S C Q A O :=
  { w with
    clients := Function.update w.clients i (some r.client)
    flights := w.flights ++ r.requests.map fun q => ⟨i, root, q, none⟩
    trace := w.trace ++ r.effects.map fun o => ⟨i, root, o⟩ }

/-- The world with the `k`-th flight taken out. -/
def land (w : World S C Q A O) (k : ℕ) : World S C Q A O :=
  { w with flights := w.flights.eraseIdx k }

/-- One more user event has happened. -/
def tick (w : World S C Q A O) : World S C Q A O := { w with next := w.next + 1 }

/-- The world after the server has handled the request of `f`, the `k`-th flight. -/
def handle (w : World S C Q A O) (k : ℕ) (f : Flight Q A) (v : Served S A O) :
    World S C Q A O :=
  { w with
    server := v.server
    flights := w.flights.eraseIdx k ++ [{ f with answer := some v.answer }]
    trace := w.trace ++ v.effects.map fun o => ⟨f.owner, f.root, o⟩ }

/-- The effects recorded for client `i`, oldest first. -/
def effectsOf (w : World S C Q A O) (i : ℕ) : List O :=
  (w.trace.filter fun t => t.owner = i).map (·.effect)

/-- The effects recorded for client `i` that go back to the user event number `r`, oldest
first. -/
def effectsAt (w : World S C Q A O) (i r : ℕ) : List O :=
  (w.trace.filter fun t => t.owner = i ∧ t.root = r).map (·.effect)

lemma mem_effectsOf {w : World S C Q A O} {i : ℕ} {o : O} :
    o ∈ w.effectsOf i ↔ ∃ t ∈ w.trace, t.owner = i ∧ t.effect = o := by
  simp [effectsOf, and_assoc]

lemma mem_effectsAt {w : World S C Q A O} {i r : ℕ} {o : O} :
    o ∈ w.effectsAt i r ↔ ∃ t ∈ w.trace, (t.owner = i ∧ t.root = r) ∧ t.effect = o := by
  simp [effectsAt, and_assoc]

lemma mem_effectsOf_of_mem_effectsAt {w : World S C Q A O} {i r : ℕ} {o : O}
    (h : o ∈ w.effectsAt i r) : o ∈ w.effectsOf i := by
  obtain ⟨t, ht, ⟨hi, -⟩, ho⟩ := mem_effectsAt.mp h
  exact mem_effectsOf.mpr ⟨t, ht, hi, ho⟩

/-! ### What the operations change -/

section

variable (w : World S C Q A O) (i j k root : ℕ) (r : Reaction C Q O) (f : Flight Q A)
  (v : Served S A O)

@[simp] lemma start_server (s : S) : (start s : World S C Q A O).server = s := rfl
@[simp] lemma start_clients (s : S) : (start s : World S C Q A O).clients i = none := rfl
@[simp] lemma start_flights (s : S) : (start s : World S C Q A O).flights = [] := rfl
@[simp] lemma start_trace (s : S) : (start s : World S C Q A O).trace = [] := rfl
@[simp] lemma start_next (s : S) : (start s : World S C Q A O).next = 0 := rfl

@[simp] lemma react_server : (w.react i root r).server = w.server := rfl
@[simp] lemma react_next : (w.react i root r).next = w.next := rfl
@[simp] lemma react_flights : (w.react i root r).flights =
    w.flights ++ r.requests.map fun q => ⟨i, root, q, none⟩ := rfl
@[simp] lemma react_trace : (w.react i root r).trace =
    w.trace ++ r.effects.map fun o => ⟨i, root, o⟩ := rfl

@[simp] lemma react_clients_self : (w.react i root r).clients i = some r.client := by
  simp [react]

@[simp] lemma react_clients_of_ne {i j : ℕ} (h : j ≠ i) :
    (w.react i root r).clients j = w.clients j := by simp [react, h]

@[simp] lemma tick_server : w.tick.server = w.server := rfl
@[simp] lemma tick_clients : w.tick.clients = w.clients := rfl
@[simp] lemma tick_flights : w.tick.flights = w.flights := rfl
@[simp] lemma tick_trace : w.tick.trace = w.trace := rfl
@[simp] lemma tick_next : w.tick.next = w.next + 1 := rfl

@[simp] lemma land_server : (w.land k).server = w.server := rfl
@[simp] lemma land_clients : (w.land k).clients = w.clients := rfl
@[simp] lemma land_flights : (w.land k).flights = w.flights.eraseIdx k := rfl
@[simp] lemma land_trace : (w.land k).trace = w.trace := rfl
@[simp] lemma land_next : (w.land k).next = w.next := rfl

@[simp] lemma handle_server : (w.handle k f v).server = v.server := rfl
@[simp] lemma handle_clients : (w.handle k f v).clients = w.clients := rfl
@[simp] lemma handle_flights : (w.handle k f v).flights =
    w.flights.eraseIdx k ++ [{ f with answer := some v.answer }] := rfl
@[simp] lemma handle_trace : (w.handle k f v).trace =
    w.trace ++ v.effects.map fun o => ⟨f.owner, f.root, o⟩ := rfl
@[simp] lemma handle_next : (w.handle k f v).next = w.next := rfl

@[simp] lemma effectsOf_start (s : S) : (start s : World S C Q A O).effectsOf i = [] := rfl

@[simp] lemma effectsOf_tick : w.tick.effectsOf i = w.effectsOf i := rfl

@[simp] lemma effectsOf_land : (w.land k).effectsOf i = w.effectsOf i := rfl

/-- Appending to a filtered list the entries of one reaction. -/
private lemma filter_entries_eq (p : Entry O → Bool) (b : Bool) (os : List O)
    (h : ∀ o, p ⟨i, root, o⟩ = b) :
    ((os.map fun o => (⟨i, root, o⟩ : Entry O)).filter p).map (·.effect) =
      if b then os else [] := by
  induction os with
  | nil => cases b <;> rfl
  | cons o os ih => cases b <;> simp_all

@[simp] lemma effectsOf_react_self :
    (w.react i root r).effectsOf i = w.effectsOf i ++ r.effects := by
  simp only [effectsOf, react_trace, List.filter_append, List.map_append]
  rw [filter_entries_eq i root _ true r.effects (by simp), if_pos rfl]

@[simp] lemma effectsOf_react_of_ne {i j : ℕ} (h : j ≠ i) :
    (w.react i root r).effectsOf j = w.effectsOf j := by
  simp only [effectsOf, react_trace, List.filter_append, List.map_append]
  rw [filter_entries_eq i root _ false r.effects (by simp [h.symm])]
  simp

@[simp] lemma effectsOf_handle_self :
    (w.handle k f v).effectsOf f.owner = w.effectsOf f.owner ++ v.effects := by
  simp only [effectsOf, handle_trace, List.filter_append, List.map_append]
  rw [filter_entries_eq f.owner f.root _ true v.effects (by simp), if_pos rfl]

@[simp] lemma effectsOf_handle_of_ne (h : i ≠ f.owner) :
    (w.handle k f v).effectsOf i = w.effectsOf i := by
  simp only [effectsOf, handle_trace, List.filter_append, List.map_append]
  rw [filter_entries_eq f.owner f.root _ false v.effects (by simp [h.symm])]
  simp

end

end World

open World

variable (sys : AsyncSystem S C I U Q E A X O)

/-- One step of the system, `none` where the event is not possible. -/
def step (w : World S C Q A O) : Event I U E X → Option (World S C Q A O)
  | .boot i a =>
    match w.clients i with
    | some _ => none
    | none => some (w.react i w.next (sys.boot a)).tick
  | .ui i u => do
    let c ← w.clients i
    let r ← sys.ui c u
    some (w.react i w.next r).tick
  | .serve k e => do
    let f ← w.flights[k]?
    match f.answer with
    | some _ => none
    | none => some (w.handle k f (sys.serve w.server f.request e))
  | .deliver k x => do
    let f ← w.flights[k]?
    let a ← f.answer
    let c ← w.clients f.owner
    some ((w.land k).react f.owner f.root (sys.recv c f.request a x))

/-- The requests that an event issues, each with its client. -/
def issues (w : World S C Q A O) : Event I U E X → List (ℕ × Q)
  | .boot i a => (sys.boot a).requests.map (i, ·)
  | .ui i u => ((w.clients i).bind fun c => sys.ui c u).elim [] fun r => r.requests.map (i, ·)
  | .serve _ _ => []
  | .deliver k x =>
    (w.flights[k]?.bind fun f => f.answer.bind fun a => (w.clients f.owner).map fun c =>
      (sys.recv c f.request a x).requests.map (f.owner, ·)).getD []

/-- The runs of the system from the server state `s`, before any launch. -/
abbrev RunFrom (s : S) (h : List (World S C Q A O × Event I U E X)) (w : World S C Q A O) :
    Prop :=
  StepSystem.Run sys.step (start s) h w

/-- What a step does, one case for each kind of event. -/
inductive Took (w : World S C Q A O) : Event I U E X → World S C Q A O → Prop
  | boot {i : ℕ} {a : I} (free : w.clients i = none) :
      Took w (.boot i a) (w.react i w.next (sys.boot a)).tick
  | ui {i : ℕ} {u : U} {c : C} {r : Reaction C Q O} (client : w.clients i = some c)
      (reacts : sys.ui c u = some r) : Took w (.ui i u) (w.react i w.next r).tick
  | serve {k : ℕ} {e : E} {f : Flight Q A} (flight : w.flights[k]? = some f)
      (unanswered : f.answer = none) :
      Took w (.serve k e) (w.handle k f (sys.serve w.server f.request e))
  | deliver {k : ℕ} {x : X} {f : Flight Q A} {a : A} {c : C}
      (flight : w.flights[k]? = some f) (answered : f.answer = some a)
      (client : w.clients f.owner = some c) :
      Took w (.deliver k x) ((w.land k).react f.owner f.root (sys.recv c f.request a x))

variable {sys}

/-- The inversion lemma of the step function. -/
theorem took_of_step {w w' : World S C Q A O} {e : Event I U E X}
    (h : sys.step w e = some w') : Took sys w e w' := by
  cases e with
  | boot i a =>
    cases hc : w.clients i with
    | some c => simp [step, hc] at h
    | none =>
      simp only [step, hc, Option.some.injEq] at h
      exact h ▸ .boot hc
  | ui i u =>
    obtain ⟨c, hc, h⟩ := Option.bind_eq_some_iff.mp h
    obtain ⟨r, hr, h⟩ := Option.bind_eq_some_iff.mp h
    exact Option.some.inj h ▸ .ui hc hr
  | serve k e =>
    obtain ⟨f, hf, h⟩ := Option.bind_eq_some_iff.mp h
    cases ha : f.answer with
    | some a => simp [ha] at h
    | none =>
      simp only [ha, Option.some.injEq] at h
      exact h ▸ .serve hf ha
  | deliver k x =>
    obtain ⟨f, hf, h⟩ := Option.bind_eq_some_iff.mp h
    obtain ⟨a, ha, h⟩ := Option.bind_eq_some_iff.mp h
    obtain ⟨c, hc, h⟩ := Option.bind_eq_some_iff.mp h
    exact Option.some.inj h ▸ .deliver hf ha hc

/-- What the handling of every request keeps of the server is kept by every step. -/
lemma server_keeps {P : S → Prop} (hserve : ∀ s q e, P s → P (sys.serve s q e).server)
    {w w' : World S C Q A O} {e : Event I U E X} (h : sys.step w e = some w')
    (hw : P w.server) : P w'.server := by
  cases took_of_step h with
  | serve flight unanswered => exact hserve _ _ _ hw
  | _ => exact hw

/-- A reaction to the user is a step. -/
lemma step_ui {w : World S C Q A O} {i : ℕ} {u : U} {c : C} {r : Reaction C Q O}
    (client : w.clients i = some c) (reacts : sys.ui c u = some r) :
    sys.step w (.ui i u) = some (w.react i w.next r).tick := by
  simp [step, client, reacts]

/-! ## Flights -/

/-- Taking out the `k`-th flight leaves the others. -/
lemma perm_eraseIdx {α : Type*} {l : List α} {k : ℕ} {x : α} (h : l[k]? = some x) :
    l.Perm (x :: l.eraseIdx k) := by
  obtain ⟨hk, rfl⟩ := List.getElem?_eq_some_iff.mp h
  exact (List.getElem_cons_eraseIdx_perm hk).symm

/-- A flight is the `k`-th one, or stays when that one is taken out. -/
lemma eq_or_mem_eraseIdx {α : Type*} {l : List α} {k : ℕ} {x y : α} (h : l[k]? = some x)
    (hy : y ∈ l) : y = x ∨ y ∈ l.eraseIdx k :=
  List.mem_cons.mp ((perm_eraseIdx h).subset hy)

lemma mem_of_flight {α : Type*} {l : List α} {k : ℕ} {x : α} (h : l[k]? = some x) : x ∈ l :=
  List.mem_of_getElem? h

/-! ## Roots -/

/-- Every flight and every recorded effect goes back to an event that has happened. -/
structure RootsBelow (w : World S C Q A O) : Prop where
  flight : ∀ f ∈ w.flights, f.root < w.next
  trace : ∀ t ∈ w.trace, t.root < w.next

/-- A reaction to an event that has happened keeps the roots below. -/
lemma RootsBelow.react {w : World S C Q A O} (hw : RootsBelow w) (i : ℕ) {root : ℕ}
    (hroot : root < w.next) (r : Reaction C Q O) : RootsBelow (w.react i root r) := by
  refine ⟨fun f hf => ?_, fun t ht => ?_⟩
  · rcases List.mem_append.mp hf with hf | hf
    · exact hw.flight f hf
    · obtain ⟨q, -, rfl⟩ := List.mem_map.mp hf
      exact hroot
  · rcases List.mem_append.mp ht with ht | ht
    · exact hw.trace t ht
    · obtain ⟨o, -, rfl⟩ := List.mem_map.mp ht
      exact hroot

lemma RootsBelow.tick {w : World S C Q A O} (hw : RootsBelow w) : RootsBelow w.tick :=
  ⟨fun f hf => (hw.flight f hf).trans (Nat.lt_succ_self _),
    fun t ht => (hw.trace t ht).trans (Nat.lt_succ_self _)⟩

lemma RootsBelow.land {w : World S C Q A O} (hw : RootsBelow w) (k : ℕ) :
    RootsBelow (w.land k) :=
  ⟨fun f hf => hw.flight f (List.mem_of_mem_eraseIdx hf), hw.trace⟩

/-- The server's handling of a request keeps the roots below. -/
lemma RootsBelow.handle {w : World S C Q A O} (hw : RootsBelow w) {k : ℕ} {f : Flight Q A}
    (hf : f ∈ w.flights) (v : Served S A O) : RootsBelow (w.handle k f v) := by
  refine ⟨fun g hg => ?_, fun t ht => ?_⟩
  · rcases List.mem_append.mp hg with hg | hg
    · exact hw.flight g (List.mem_of_mem_eraseIdx hg)
    · obtain rfl := List.mem_singleton.mp hg
      exact hw.flight f hf
  · rcases List.mem_append.mp ht with ht | ht
    · exact hw.trace t ht
    · obtain ⟨o, -, rfl⟩ := List.mem_map.mp ht
      exact hw.flight f hf

/-- In every state of every run the roots are below the number of events so far. -/
theorem rootsBelow {s : S} {h : List (World S C Q A O × Event I U E X)}
    {w : World S C Q A O} (hr : sys.RunFrom s h w) : RootsBelow w := by
  refine hr.invariant ⟨by simp, by simp⟩ fun w e w' hw hs => ?_
  cases took_of_step hs with
  | boot free => exact hw.tick.react _ (Nat.lt_succ_self _) _
  | ui client reacts => exact hw.tick.react _ (Nat.lt_succ_self _) _
  | serve flight unanswered => exact hw.handle (mem_of_flight flight) _
  | deliver flight answered client =>
    exact (hw.land _).react _ (hw.flight _ (mem_of_flight flight)) _

/-! ## Answers -/

section Answers

variable {s : S} {h : List (World S C Q A O × Event I U E X)} {w : World S C Q A O}

variable (sys) in
/-- In the run the server has answered the request `q` of client `i` with `a`. -/
def Answered (h : List (World S C Q A O × Event I U E X)) (i : ℕ) (q : Q) (a : A) : Prop :=
  ∃ w k e f, (w, .serve k e) ∈ h ∧ w.flights[k]? = some f ∧ f.owner = i ∧ f.request = q ∧
    (sys.serve w.server q e).answer = a

/-- What was answered stays answered. -/
lemma Answered.snoc {i : ℕ} {q : Q} {a : A} (ha : sys.Answered h i q a)
    (p : World S C Q A O × Event I U E X) : sys.Answered (h ++ [p]) i q a := by
  obtain ⟨w, k, e, f, hmem, hf⟩ := ha
  exact ⟨w, k, e, f, List.mem_append_left _ hmem, hf⟩

/-- **The answers in flight** are the ones that the server has given. -/
theorem answered_of_flight (hr : sys.RunFrom s h w) {f : Flight Q A} (hf : f ∈ w.flights) {a : A}
    (ha : f.answer = some a) : sys.Answered h f.owner f.request a := by
  induction hr generalizing f a with
  | nil => cases hf
  | @snoc h w e w' hr hs ih =>
    have hreact : ∀ (v : World S C Q A O) (i root : ℕ) (r : Reaction C Q O),
        (∀ g ∈ v.flights, g ∈ w.flights) → f ∈ (v.react i root r).flights →
        sys.Answered (h ++ [(w, e)]) f.owner f.request a := by
      intro v i root r hsub hf
      rcases List.mem_append.mp hf with hf | hf
      · exact (ih (hsub f hf) ha).snoc _
      · -- a request that was just issued has no answer
        obtain ⟨q, -, rfl⟩ := List.mem_map.mp hf
        cases ha
    cases took_of_step hs with
    | boot free => exact hreact w _ _ _ (fun _ hg => hg) hf
    | ui client reacts => exact hreact w _ _ _ (fun _ hg => hg) hf
    | @serve k e g flight unanswered =>
      rcases List.mem_append.mp hf with hf | hf
      · exact (ih (List.mem_of_mem_eraseIdx hf) ha).snoc _
      · rw [List.mem_singleton.mp hf] at ha ⊢
        exact ⟨w, k, e, g, List.mem_append_right _ (List.mem_singleton_self _), flight, rfl, rfl,
          Option.some.inj ha⟩
    | deliver flight answered client =>
      exact hreact (w.land _) _ _ _ (fun _ hg => List.mem_of_mem_eraseIdx hg) hf

/-- **Effects of answers.** An effect of a kind that neither the launch nor a reaction to the user
nor the server has is one of a callback, and the server has given the answer to it. -/
theorem answered_of_effect {P : O → Prop} (hboot : ∀ a, ∀ o ∈ (sys.boot a).effects, ¬ P o)
    (hui : ∀ c u r, sys.ui c u = some r → ∀ o ∈ r.effects, ¬ P o)
    (hserve : ∀ s q e, ∀ o ∈ (sys.serve s q e).effects, ¬ P o) (hr : sys.RunFrom s h w) {i : ℕ}
    {o : O} (ho : o ∈ w.effectsOf i) (hP : P o) :
    ∃ c q a x, sys.Answered h i q a ∧ o ∈ (sys.recv c q a x).effects := by
  induction hr with
  | nil => cases ho
  | @snoc h w e w' hr hs ih =>
    have hold : o ∈ w.effectsOf i → ∃ c q a x, sys.Answered (h ++ [(w, e)]) i q a ∧
        o ∈ (sys.recv c q a x).effects := by
      intro ho
      obtain ⟨c, q, a, x, ha, hmem⟩ := ih ho
      exact ⟨c, q, a, x, ha.snoc _, hmem⟩
    have hreact : ∀ (v : World S C Q A O) (j root : ℕ) (r : Reaction C Q O),
        v.effectsOf i = w.effectsOf i → o ∈ (v.react j root r).effectsOf i →
        o ∈ w.effectsOf i ∨ i = j ∧ o ∈ r.effects := by
      intro v j root r hv ho
      by_cases hj : i = j
      · rw [← hj, effectsOf_react_self, hv] at ho
        exact (List.mem_append.mp ho).imp_right fun ho => ⟨hj, ho⟩
      · rw [effectsOf_react_of_ne _ _ _ hj, hv] at ho
        exact Or.inl ho
    cases took_of_step hs with
    | boot free =>
      rcases hreact w _ _ _ rfl ho with ho | ⟨-, ho⟩
      · exact hold ho
      · exact absurd hP (hboot _ _ ho)
    | ui client reacts =>
      rcases hreact w _ _ _ rfl ho with ho | ⟨-, ho⟩
      · exact hold ho
      · exact absurd hP (hui _ _ _ reacts _ ho)
    | @serve k e f flight unanswered =>
      by_cases hi : i = f.owner
      · rw [hi, effectsOf_handle_self, ← hi] at ho
        rcases List.mem_append.mp ho with ho | ho
        · exact hold ho
        · exact absurd hP (hserve _ _ _ _ ho)
      · rw [effectsOf_handle_of_ne _ _ _ _ _ hi] at ho
        exact hold ho
    | deliver flight answered client =>
      rcases hreact (w.land _) _ _ _ rfl ho with ho | ⟨rfl, hrecv⟩
      · exact hold ho
      · exact ⟨_, _, _, _, (answered_of_flight hr (mem_of_flight flight) answered).snoc _, hrecv⟩

end Answers

/-! ## Exclusive requests -/

section Exclusive

/-- Of the requests in `Single` there is at most one. -/
def AtMostOne (Single : Q → Prop) (qs : List Q) : Prop :=
  qs.Pairwise fun q q' => Single q → ¬ Single q'

/-- Of the requests in `Single` every client has at most one in flight. -/
def Exclusive (Single : Q → Prop) (fs : List (Flight Q A)) : Prop :=
  fs.Pairwise fun f g => f.owner = g.owner → Single f.request → ¬ Single g.request

variable (sys) (Single : Q → Prop)

/-- What there is to show for exclusive requests: the launch issues at most one, the user
none, and only the callback of one may issue another. -/
structure ExclusiveRules : Prop where
  boot : ∀ a, AtMostOne Single (sys.boot a).requests
  ui : ∀ c u r, sys.ui c u = some r → ∀ q ∈ r.requests, ¬ Single q
  recv : ∀ c q a x, AtMostOne Single (sys.recv c q a x).requests ∧
    ∀ q' ∈ (sys.recv c q a x).requests, Single q' → Single q

variable {sys Single}

/-- Nothing keeps the flights exclusive if no requests are. -/
lemma exclusive_false (fs : List (Flight Q A)) : Exclusive (fun _ => False) fs :=
  List.pairwise_of_forall_mem_list fun _ _ _ _ _ h => h.elim

/-- No requests are exclusive. -/
lemma exclusiveRules_false : ExclusiveRules sys fun _ => False where
  boot := fun _ => List.pairwise_of_forall_mem_list fun _ _ _ _ h => h.elim
  ui := fun _ _ _ _ _ _ h => h
  recv := fun _ _ _ _ =>
    ⟨List.pairwise_of_forall_mem_list fun _ _ _ _ h => h.elim, fun _ _ h => h⟩

lemma exclusive_symm {f g : Flight Q A}
    (h : f.owner = g.owner → Single f.request → ¬ Single g.request) :
    g.owner = f.owner → Single g.request → ¬ Single f.request :=
  fun hi hg hf => h hi.symm hf hg

/-- While an exclusive request is in flight, the client has no other one. -/
lemma Exclusive.others {fs : List (Flight Q A)} (h : Exclusive Single fs) {k : ℕ}
    {f : Flight Q A} (hf : fs[k]? = some f) :
    Exclusive Single (fs.eraseIdx k) ∧
      ∀ g ∈ fs.eraseIdx k, f.owner = g.owner → Single f.request → ¬ Single g.request := by
  have hp := ((perm_eraseIdx hf).pairwise_iff exclusive_symm).mp h
  rw [List.pairwise_cons] at hp
  exact ⟨hp.2, hp.1⟩

/-- A client with no exclusive request in flight may issue one. -/
lemma Exclusive.append {fs : List (Flight Q A)} (h : Exclusive Single fs) {i root : ℕ}
    {qs : List Q} (hqs : AtMostOne Single qs)
    (hfs : ∀ g ∈ fs, g.owner = i → ∀ q ∈ qs, Single q → ¬ Single g.request) :
    Exclusive Single (fs ++ qs.map fun q => ⟨i, root, q, none⟩) := by
  refine List.pairwise_append.mpr ⟨h, ?_, fun g hg f hf => ?_⟩
  · rw [List.pairwise_map]
    refine hqs.imp ?_
    intro q q' hqq _
    exact hqq
  · obtain ⟨q, hq, rfl⟩ := List.mem_map.mp hf
    exact fun hi hXg hXq => hfs g hg hi q hq hXq hXg

/-- Every flight belongs to a client that was launched. -/
def Launched (w : World S C Q A O) : Prop := ∀ f ∈ w.flights, w.clients f.owner ≠ none

/-- In every state of every run the flights belong to clients that were launched. -/
theorem launched {s : S} {h : List (World S C Q A O × Event I U E X)} {w : World S C Q A O}
    (hr : sys.RunFrom s h w) : Launched w := by
  refine hr.invariant (by intro f hf; cases hf) fun w e w' hw hs => ?_
  have hreact : ∀ (v : World S C Q A O) (i root : ℕ) (r : Reaction C Q O),
      Launched v → Launched (v.react i root r) := by
    intro v i root r hv f hf
    by_cases hi : f.owner = i
    · rw [hi, react_clients_self]; simp
    · rw [react_clients_of_ne _ _ _ hi]
      rcases List.mem_append.mp hf with hf | hf
      · exact hv f hf
      · obtain ⟨q, -, rfl⟩ := List.mem_map.mp hf
        exact absurd rfl hi
  cases took_of_step hs with
  | boot free => exact hreact w.tick _ _ _ hw
  | ui client reacts => exact hreact w.tick _ _ _ hw
  | @serve k e f flight unanswered =>
    intro g hg
    rcases List.mem_append.mp hg with hg | hg
    · exact hw g (List.mem_of_mem_eraseIdx hg)
    · rw [List.mem_singleton.mp hg]
      exact hw f (mem_of_flight flight)
  | deliver flight answered client =>
    exact hreact (w.land _) _ _ _ fun f hf => hw f (List.mem_of_mem_eraseIdx hf)

/-- **Exclusive requests** are exclusive in every state of every run.

**Proof sketch.** Induction on the run. A client that is launched has no flights, and the
callback that issues an exclusive request has taken the only one out of flight. -/
theorem exclusive (hX : ExclusiveRules sys Single) {s : S}
    {h : List (World S C Q A O × Event I U E X)} {w : World S C Q A O}
    (hr : sys.RunFrom s h w) : Exclusive Single w.flights := by
  induction hr with
  | nil => exact List.Pairwise.nil
  | @snoc h w e w' hr hs ih =>
    cases took_of_step hs with
    | @boot i a free =>
      refine ih.append (hX.boot a) fun g hg hi => ?_
      exact absurd (hi ▸ free) (launched hr g hg)
    | @ui i u c r client reacts =>
      have hno := hX.ui c u r reacts
      refine ih.append ?_ fun _ _ _ q hq hXq => absurd hXq (hno q hq)
      exact List.pairwise_of_forall_mem_list fun q hq _ _ hXq => absurd hXq (hno q hq)
    | @serve k e f flight unanswered =>
      obtain ⟨hrest, hothers⟩ := ih.others flight
      refine List.pairwise_append.mpr ⟨hrest, List.pairwise_singleton _ _, fun g hg f' hf' => ?_⟩
      rw [List.mem_singleton.mp hf']
      exact exclusive_symm (hothers g hg)
    | @deliver k x f a c flight answered client =>
      obtain ⟨hrest, hothers⟩ := ih.others flight
      obtain ⟨hone, honly⟩ := hX.recv c f.request a x
      refine hrest.append hone fun g hg hi q hq hXq => ?_
      exact hothers g hg hi.symm (honly q hq hXq)

end Exclusive

/-! ## The client rule -/

section ClientRule

/-- A reaction `r` of a client with the effects `t` so far keeps `J`, and it issues only
requests within `K`. -/
def Keeps (J : C → List O → Prop) (K : C → Q → Prop) (r : Reaction C Q O) (t : List O) : Prop :=
  J r.client (t ++ r.effects) ∧ ∀ q ∈ r.requests, K r.client q

/-- A reaction made of two parts keeps `J` and `K` if both parts do. -/
lemma Keeps.next {J : C → List O → Prop} {K : C → Q → Prop} {r : Reaction C Q O}
    {f : C → Reaction C Q O} {t : List O} (hr : Keeps J K r t)
    (hf : Keeps J K (f r.client) (t ++ r.effects))
    (hK : ∀ q, K r.client q → K (f r.client).client q) : Keeps J K (r.next f) t := by
  refine ⟨by simpa using hf.1, fun q hq => ?_⟩
  rcases List.mem_append.mp hq with hq | hq
  · exact hK q (hr.2 q hq)
  · exact hf.2 q hq

variable (sys) (Single : Q → Prop) (V : S → Prop) (J : S → C → List O → Prop)
  (K : C → Q → Prop) (Ok : S → Q → A → Prop)

/-- What there is to show for the client rule: `V` is an invariant of the server, `J` relates
the server and a client with the effects recorded for it, `K` a client and its requests in
flight, and `Ok` the server and a request with its answer. Of the requests in `Single` a
client has at most one in flight. -/
structure ClientRules : Prop where
  /-- The launch establishes `J` and `K`. -/
  boot : ∀ s a, V s → Keeps (J s) K (sys.boot a) []
  /-- A reaction to the user keeps `J` and `K`. -/
  ui : ∀ s c t u r, V s → J s c t → sys.ui c u = some r →
    Keeps (J s) K r t ∧ ∀ q, K c q → K r.client q
  /-- The server keeps `V`, answers within `Ok`, and its effects keep `J`. -/
  serve : ∀ s q e c, V s → K c q → V (sys.serve s q e).server ∧
    Ok (sys.serve s q e).server q (sys.serve s q e).answer ∧
    ∀ t, J s c t → J (sys.serve s q e).server c (t ++ (sys.serve s q e).effects)
  /-- What the server does for others keeps `J` and `Ok`. -/
  others : ∀ s q e c, V s → K c q → (∀ c' t, J s c' t → J (sys.serve s q e).server c' t) ∧
    ∀ q' a, Ok s q' a → Ok (sys.serve s q e).server q' a
  /-- A callback keeps `J` and `K`. -/
  recv : ∀ s c t q a x, V s → J s c t → K c q → Ok s q a → Keeps (J s) K (sys.recv c q a x) t ∧
    ∀ q', K c q' → (Single q → ¬ Single q') → K (sys.recv c q a x).client q'

/-- The server satisfies `V`, every client `J`, its flights `K` and their answers `Ok`. -/
structure ClientInv (w : World S C Q A O) : Prop where
  /-- The server satisfies `V`. -/
  server : V w.server
  /-- Every client satisfies `J`. -/
  client : ∀ i c, w.clients i = some c → J w.server c (w.effectsOf i)
  /-- Before its launch a client has no effects. -/
  fresh : ∀ i, w.clients i = none → w.effectsOf i = []
  /-- Every flight belongs to a client, and satisfies `K` and `Ok`. -/
  flight : ∀ f ∈ w.flights, ∃ c, w.clients f.owner = some c ∧ K c f.request ∧
    ∀ a, f.answer = some a → Ok w.server f.request a

variable {sys Single V J K Ok}

/-- Taking out a flight keeps the clients' invariant. -/
lemma ClientInv.land {w : World S C Q A O} (hw : ClientInv V J K Ok w) (k : ℕ) :
    ClientInv V J K Ok (w.land k) :=
  ⟨hw.server, hw.client, hw.fresh, fun f hf => hw.flight f (List.mem_of_mem_eraseIdx hf)⟩

lemma ClientInv.tick {w : World S C Q A O} (hw : ClientInv V J K Ok w) :
    ClientInv V J K Ok w.tick :=
  ⟨hw.server, hw.client, hw.fresh, hw.flight⟩

/-- A reaction of client `i` that keeps `J`, and `K` for its flights, keeps the clients'
invariant. -/
lemma ClientInv.react {w : World S C Q A O} (hw : ClientInv V J K Ok w) {i : ℕ} (root : ℕ)
    {r : Reaction C Q O} (hr : Keeps (J w.server) K r (w.effectsOf i))
    (hK : ∀ c, w.clients i = some c → ∀ f ∈ w.flights, f.owner = i → K c f.request →
      K r.client f.request) :
    ClientInv V J K Ok (w.react i root r) := by
  refine ⟨hw.server, fun j c hc => ?_, fun j hn => ?_, fun f hf => ?_⟩
  · by_cases hj : j = i
    · subst hj
      obtain rfl : r.client = c := by simpa using hc
      simpa using hr.1
    · rw [react_clients_of_ne _ _ _ hj] at hc
      rw [effectsOf_react_of_ne _ _ _ hj]
      exact hw.client j c hc
  · by_cases hj : j = i
    · subst hj; simp at hn
    · rw [react_clients_of_ne _ _ _ hj] at hn
      rw [effectsOf_react_of_ne _ _ _ hj]
      exact hw.fresh j hn
  · rcases List.mem_append.mp hf with hf | hf
    · obtain ⟨c, hc, hq, hOk⟩ := hw.flight f hf
      by_cases hj : f.owner = i
      · exact ⟨r.client, by rw [hj]; simp, hK c (hj ▸ hc) f hf hj hq, hOk⟩
      · exact ⟨c, by rw [react_clients_of_ne _ _ _ hj]; exact hc, hq, hOk⟩
    · obtain ⟨q, hq, rfl⟩ := List.mem_map.mp hf
      exact ⟨r.client, by simp, hr.2 q hq, by simp⟩

/-- The server's handling of a request keeps the clients' invariant. -/
lemma ClientInv.handle {w : World S C Q A O} (hw : ClientInv V J K Ok w)
    (hR : ClientRules sys Single V J K Ok) {k : ℕ} {f : Flight Q A} {e : E}
    (flight : w.flights[k]? = some f) :
    ClientInv V J K Ok (w.handle k f (sys.serve w.server f.request e)) := by
  obtain ⟨c, hc, hK, -⟩ := hw.flight f (mem_of_flight flight)
  obtain ⟨hV, hOk, hJ⟩ := hR.serve w.server f.request e c hw.server hK
  obtain ⟨hJ', hOk'⟩ := hR.others w.server f.request e c hw.server hK
  refine ⟨hV, fun j c' hc' => ?_, fun j hn => ?_, fun g hg => ?_⟩
  · rw [handle_clients] at hc'
    by_cases hj : j = f.owner
    · obtain rfl : c = c' := by rw [hj, hc] at hc'; exact Option.some.inj hc'
      rw [hj, effectsOf_handle_self]
      exact hJ _ (hw.client _ _ hc)
    · rw [effectsOf_handle_of_ne _ _ _ _ _ hj]
      exact hJ' c' _ (hw.client j c' hc')
  · rw [handle_clients] at hn
    have hj : j ≠ f.owner := by rintro rfl; rw [hc] at hn; cases hn
    rw [effectsOf_handle_of_ne _ _ _ _ _ hj]
    exact hw.fresh j hn
  · rcases List.mem_append.mp hg with hg | hg
    · obtain ⟨c', hc', hK', hOk''⟩ := hw.flight g (List.mem_of_mem_eraseIdx hg)
      exact ⟨c', hc', hK', fun a ha => hOk' _ a (hOk'' a ha)⟩
    · obtain rfl := List.mem_singleton.mp hg
      refine ⟨c, hc, hK, fun a ha => ?_⟩
      obtain rfl := Option.some.inj ha
      exact hOk

/-- One step keeps the clients' invariant.

**Proof sketch.** An event of client `i` changes only the state, the effects and the flights
of client `i` (`ClientInv.react`); the server's handling of a request adds an answer within
`Ok` to one flight and effects to its owner (`ClientInv.handle`). -/
lemma ClientInv.step (hR : ClientRules sys Single V J K Ok) {w w' : World S C Q A O}
    {e : Event I U E X} (hw : ClientInv V J K Ok w) (hX : Exclusive Single w.flights)
    (h : sys.step w e = some w') : ClientInv V J K Ok w' := by
  cases took_of_step h with
  | @boot i a free =>
    have hk : Keeps (J w.server) K (sys.boot a) (w.effectsOf i) := by
      rw [hw.fresh i free]; exact hR.boot _ a hw.server
    exact (hw.react w.next hk fun c hc => by rw [free] at hc; cases hc).tick
  | @ui i u c r client reacts =>
    obtain ⟨hk, hK⟩ := hR.ui _ c _ u r hw.server (hw.client i c client) reacts
    refine (hw.react w.next hk fun c' hc' f _ _ => ?_).tick
    obtain rfl : c = c' := by rw [client] at hc'; exact Option.some.inj hc'
    exact hK _
  | serve flight unanswered => exact hw.handle hR flight
  | @deliver k x f a c flight answered client =>
    obtain ⟨c', hc', hq, hOk⟩ := hw.flight f (mem_of_flight flight)
    obtain rfl : c = c' := by rw [client] at hc'; exact Option.some.inj hc'
    obtain ⟨hk, hK⟩ := hR.recv _ c _ f.request a x hw.server (hw.client _ _ client) hq
      (hOk a answered)
    refine (hw.land k).react f.root hk fun c'' hc'' g hg hgi hKg => ?_
    obtain rfl : c = c'' := by
      rw [land_clients, client] at hc''; exact Option.some.inj hc''
    exact hK _ hKg ((hX.others flight).2 g hg hgi.symm)

/-- **The client rule.** If the launch establishes `J` and `K`, the server keeps `V`, answers
within `Ok` and keeps what it has answered and what `J` says, and the client's reactions keep
`J` and `K`, then in every state of every run every client satisfies `J`, and its flights `K`
and `Ok`. -/
theorem client_invariant (hX : ExclusiveRules sys Single)
    (hR : ClientRules sys Single V J K Ok) {s : S} (hs : V s)
    {h : List (World S C Q A O × Event I U E X)} {w : World S C Q A O}
    (hr : sys.RunFrom s h w) : ClientInv V J K Ok w := by
  induction hr with
  | nil => exact ⟨hs, by simp, by simp, by simp⟩
  | snoc hr hs ih => exact ih.step hR (exclusive hX hr) hs

/-- Before its launch a client has no effects. -/
lemma effectsOf_fresh {s : S} {h : List (World S C Q A O × Event I U E X)}
    {w : World S C Q A O} (hr : sys.RunFrom s h w) {i : ℕ} (hi : w.clients i = none) :
    w.effectsOf i = [] := by
  have hR : ClientRules sys (fun _ => False) (fun _ => True) (fun _ _ _ => True)
      (fun _ _ => True) (fun _ _ _ => True) := by
    constructor <;> intros <;> simp [Keeps]
  exact (client_invariant exclusiveRules_false hR trivial hr).fresh i hi

end ClientRule

/-! ## The balance rule -/

section Balance

variable {M : Type*} [AddCommMonoid M]

/-- The sum of a quantity over a list. -/
def total {α : Type*} (q : α → M) (l : List α) : M := (l.map q).sum

section total

variable {α β : Type*} (q : α → M) (l l' : List α)

@[simp] lemma total_nil : total q [] = 0 := rfl

@[simp] lemma total_cons (a : α) : total q (a :: l) = q a + total q l := by simp [total]

@[simp] lemma total_append : total q (l ++ l') = total q l + total q l' := by simp [total]

@[simp] lemma total_map (g : β → α) (l : List β) :
    total q (l.map g) = total (fun b => q (g b)) l := by simp [total, Function.comp_def]

/-- Counting: the sum is `0` exactly when nothing is counted. -/
lemma total_ite_eq_zero_iff {p : α → Prop} [DecidablePred p] {l : List α} :
    total (fun a => if p a then 1 else 0) l = 0 ↔ ∀ a ∈ l, ¬ p a := by
  induction l with
  | nil => simp
  | cons a l ih => by_cases h : p a <;> simp [h, ih]

lemma total_eq_zero {l : List α} (h : ∀ a ∈ l, q a = 0) : total q l = 0 :=
  List.sum_eq_zero fun x hx => by
    obtain ⟨a, ha, rfl⟩ := List.mem_map.mp hx
    exact h a ha

/-- What is appended does not count if none of it does. -/
lemma total_append_map {g : β → α} {l : List α} {l' : List β} (h : ∀ b ∈ l', q (g b) = 0) :
    total q (l ++ l'.map g) = total q l := by
  rw [total_append, total_map, total_eq_zero (fun b => q (g b)) h, add_zero]

/-- The sum over the selected elements. -/
lemma total_filterMap {β : Type*} (g : β → Option α) (l : List β) :
    total q (l.filterMap g) = total (fun b => (g b).elim 0 q) l := by
  induction l with
  | nil => rfl
  | cons b l ih => cases hb : g b <;> simp [hb, ih]

/-- Collecting: the sum of the elements themselves. -/
lemma total_singleton {β : Type*} (g : β → α) (l : List β) :
    total (fun b => ({g b} : Multiset α)) l = (l.map g : Multiset α) := by
  induction l with
  | nil => rfl
  | cons b l ih => rw [total_cons, ih, List.map_cons, ← Multiset.cons_coe,
      Multiset.singleton_add]

/-- Collecting: the selected elements themselves. -/
lemma total_toMultiset {β : Type*} (g : β → Option α) (l : List β) :
    total (fun b => (g b).elim (0 : Multiset α) fun a => {a}) l =
      (l.filterMap g : Multiset α) := by
  rw [← total_filterMap, total_singleton, List.map_id']

/-- Counting: the sum of the occurrences. -/
lemma total_eq_count [DecidableEq α] (a : α) (l : List α) :
    total (fun b => if b = a then 1 else 0) l = l.count a := by
  induction l with
  | nil => rfl
  | cons b l ih =>
    rw [total_cons, ih, List.count_cons, add_comm]
    simp

/-- Taking the `k`-th element out of a list takes its quantity out of the sum. -/
lemma total_eraseIdx {l : List α} {k : ℕ} {a : α} (h : l[k]? = some a) :
    total q l = q a + total q (l.eraseIdx k) := by
  rw [← total_cons]
  exact ((perm_eraseIdx h).map q).sum_eq

end total

/-- The quantity `q`, only of the effects of client `i` that go back to the user event number
`r`. -/
def entryAt (i r : ℕ) (q : O → M) (t : Entry O) : M :=
  if t.owner = i ∧ t.root = r then q t.effect else 0

/-- The quantity `q`, only of the flights of client `i` that go back to the user event number
`r`. -/
def flightAt (i r : ℕ) (q : Q → Option A → M) (f : Flight Q A) : M :=
  if f.owner = i ∧ f.root = r then q f.request f.answer else 0

lemma total_entryAt (w : World S C Q A O) (i r : ℕ) (q : O → M) :
    total (entryAt i r q) w.trace = total q (w.effectsAt i r) := by
  unfold effectsAt
  induction w.trace with
  | nil => rfl
  | cons t l ih =>
    rw [total_cons, ih, List.filter_cons]
    by_cases ht : t.owner = i ∧ t.root = r <;> simp [entryAt, ht]

/-- The entries of one reaction. -/
lemma total_entryAt_mk (i r owner root : ℕ) (q : O → M) (os : List O) :
    total (fun o => entryAt i r q ⟨owner, root, o⟩) os =
      if owner = i ∧ root = r then total q os else 0 := by
  by_cases h : owner = i ∧ root = r
  · simp [entryAt, h]
  · simp only [entryAt, h, if_false]
    exact total_eq_zero _ fun _ _ => rfl

/-- The requests of one reaction. -/
lemma total_flightAt_mk (i r owner root : ℕ) (q : Q → Option A → M) (qs : List Q) :
    total (fun x => flightAt i r q ⟨owner, root, x, none⟩) qs =
      if owner = i ∧ root = r then total (fun x => q x none) qs else 0 := by
  by_cases h : owner = i ∧ root = r
  · simp [flightAt, h]
  · simp only [flightAt, h, if_false]
    exact total_eq_zero _ fun _ _ => rfl

variable (sys) (Inv : World S C Q A O → Prop) (due paid : Entry O → M)
  (held : Flight Q A → M) (lost : World S C Q A O → Event I U E X → M)

/-- A reaction of client `i` that takes `x` out of flight: with what its effects make due,
this is what its requests hold, what its effects pay, and the loss `y`. -/
def Settles (i root : ℕ) (r : Reaction C Q O) (x y : M) : Prop :=
  x + total (fun o => due ⟨i, root, o⟩) r.effects =
    total (fun q => held ⟨i, root, q, none⟩) r.requests +
      total (fun o => paid ⟨i, root, o⟩) r.effects + y

/-- What there is to show for the balance rule: every kind of step, taken where the invariant
holds, accounts for what it takes out of flight and for what its effects make due. -/
structure BalanceRules : Prop where
  boot : ∀ w i a, Inv w → w.clients i = none →
    Settles due paid held i w.next (sys.boot a) 0 (lost w (.boot i a))
  ui : ∀ w i u c r, Inv w → w.clients i = some c → sys.ui c u = some r →
    Settles due paid held i w.next r 0 (lost w (.ui i u))
  serve : ∀ w k e f, Inv w → w.flights[k]? = some f → f.answer = none →
    held f + total (fun o => due ⟨f.owner, f.root, o⟩)
        (sys.serve w.server f.request e).effects =
      held { f with answer := some (sys.serve w.server f.request e).answer } +
        total (fun o => paid ⟨f.owner, f.root, o⟩)
          (sys.serve w.server f.request e).effects + lost w (.serve k e)
  recv : ∀ w k x f a c, Inv w → w.flights[k]? = some f → f.answer = some a →
    w.clients f.owner = some c →
    Settles due paid held f.owner f.root (sys.recv c f.request a x) (held f)
      (lost w (.deliver k x))

variable {sys Inv due paid held lost}

/-- **The balance rule.** If every step accounts for what it takes out of flight and for what
its effects make due, then at any time of any run all that has been due is in flight, has
been paid, or was lost in a step of the run.

**Proof sketch.** Induction on the run; a step takes at most one flight out, and what it
accounts for is added on both sides. -/
theorem balance (hR : BalanceRules sys Inv due paid held lost) {s : S}
    (hInv : ∀ h w, sys.RunFrom s h w → Inv w)
    {h : List (World S C Q A O × Event I U E X)} {w : World S C Q A O}
    (hr : sys.RunFrom s h w) :
    total due w.trace = total held w.flights + total paid w.trace +
      total (fun p => lost p.1 p.2) h := by
  induction hr with
  | nil => simp
  | @snoc h w e w' hr hs ih =>
    have hw := hInv h w hr
    cases took_of_step hs with
    | @boot i a free =>
      have hb := hR.boot w i a hw free
      simp only [Settles, zero_add] at hb
      simp only [tick_trace, tick_flights, react_trace, react_flights, total_append,
        total_map, total_cons, total_nil, ih, hb]
      abel
    | @ui i u c r client reacts =>
      have hb := hR.ui w i u c r hw client reacts
      simp only [Settles, zero_add] at hb
      simp only [tick_trace, tick_flights, react_trace, react_flights, total_append,
        total_map, total_cons, total_nil, ih, hb]
      abel
    | @serve k e f flight unanswered =>
      have hb := hR.serve w k e f hw flight unanswered
      rw [total_eraseIdx held flight] at ih
      simp only [handle_trace, handle_flights, total_append, total_map, total_cons,
        total_nil, ih]
      calc _ = (held f + total (fun o => due ⟨f.owner, f.root, o⟩)
                (sys.serve w.server f.request e).effects) +
              (total held (w.flights.eraseIdx k) + total paid w.trace +
                total (fun p => lost p.1 p.2) h) := by abel
        _ = _ := by rw [hb]; abel
    | @deliver k x f a c flight answered client =>
      have hb := hR.recv w k x f a c hw flight answered client
      simp only [Settles] at hb
      rw [total_eraseIdx held flight] at ih
      simp only [react_trace, react_flights, land_trace, land_flights, total_append,
        total_map, total_cons, total_nil, ih]
      calc _ = (held f + total (fun o => due ⟨f.owner, f.root, o⟩)
                (sys.recv c f.request a x).effects) +
              (total held (w.flights.eraseIdx k) + total paid w.trace +
                total (fun p => lost p.1 p.2) h) := by abel
        _ = _ := by rw [hb]; abel

/-! ### The balance of one client -/

/-- The quantity `q`, only of the effects of client `i`. -/
def entryOf (i : ℕ) (q : O → M) (t : Entry O) : M := if t.owner = i then q t.effect else 0

/-- The quantity `q`, only of the flights of client `i`. -/
def flightOf (i : ℕ) (q : Q → Option A → M) (f : Flight Q A) : M :=
  if f.owner = i then q f.request f.answer else 0

lemma total_entryOf (w : World S C Q A O) (i : ℕ) (q : O → M) :
    total (entryOf i q) w.trace = total q (w.effectsOf i) := by
  unfold effectsOf
  induction w.trace with
  | nil => rfl
  | cons t l ih =>
    rw [total_cons, ih, List.filter_cons]
    by_cases ht : t.owner = i <;> simp [entryOf, ht]

/-- The entries of one reaction. -/
lemma total_entryOf_mk (i owner root : ℕ) (q : O → M) (os : List O) :
    total (fun o => entryOf i q ⟨owner, root, o⟩) os = if owner = i then total q os else 0 := by
  by_cases h : owner = i
  · simp [entryOf, h]
  · simp only [entryOf, h, if_false]
    exact total_eq_zero _ fun _ _ => rfl

/-- The flights of a client that hold nothing. -/
lemma total_flightOf_eq_zero {i : ℕ} {q : Q → Option A → M} {fs : List (Flight Q A)}
    (h : ∀ f ∈ fs, f.owner = i → q f.request f.answer = 0) : total (flightOf i q) fs = 0 := by
  refine total_eq_zero _ fun f hf => ?_
  by_cases hi : f.owner = i
  · rw [flightOf, if_pos hi, h f hf hi]
  · rw [flightOf, if_neg hi]

/-- The requests of one reaction. -/
lemma total_flightOf_mk (i owner root : ℕ) (q : Q → Option A → M) (qs : List Q) :
    total (fun x => flightOf i q ⟨owner, root, x, none⟩) qs =
      if owner = i then total (fun x => q x none) qs else 0 := by
  by_cases h : owner = i
  · simp [flightOf, h]
  · simp only [flightOf, h, if_false]
    exact total_eq_zero _ fun _ _ => rfl

variable (sys) (K : C → Q → Prop) (dueBy paidBy : O → M) (heldBy : Q → Option A → M)

/-- A reaction that takes `x` out of flight accounts for it, with what its effects make due, by
its requests and by what its effects pay. -/
def Accounts (r : Reaction C Q O) (x : M) : Prop :=
  x + total dueBy r.effects = total (fun q => heldBy q none) r.requests + total paidBy r.effects

/-- A reaction without effects whose requests hold nothing accounts for nothing. -/
lemma accounts_rest {dueBy paidBy : O → M} {heldBy : Q → Option A → M} {r : Reaction C Q O}
    (hq : ∀ q ∈ r.requests, heldBy q none = 0)
    (he : r.effects = []) : Accounts dueBy paidBy heldBy r 0 := by
  rw [Accounts, he, total_eq_zero (fun q => heldBy q none) hq]
  simp

/-- What there is to show for the balance of a client: every reaction, and the server, accounts
for what it takes out of flight. -/
structure ClientBalanceRules : Prop where
  boot : ∀ a, Accounts dueBy paidBy heldBy (sys.boot a) 0
  ui : ∀ c u r, sys.ui c u = some r → Accounts dueBy paidBy heldBy r 0
  serve : ∀ s q e, heldBy q none + total dueBy (sys.serve s q e).effects =
    heldBy q (some (sys.serve s q e).answer) + total paidBy (sys.serve s q e).effects
  recv : ∀ c q a x, K c q → Accounts dueBy paidBy heldBy (sys.recv c q a x) (heldBy q (some a))

variable {sys K dueBy paidBy heldBy}

/-- **The balance of a client.** If every reaction and the server account for what they take out
of flight, then at any time of any run all that has been due for a client is in flight or has
been paid. -/
theorem client_balance (hR : ClientBalanceRules sys K dueBy paidBy heldBy) {s : S}
    (hK : ∀ h w, sys.RunFrom s h w → ∀ f ∈ w.flights, ∀ c, w.clients f.owner = some c →
      K c f.request)
    {h : List (World S C Q A O × Event I U E X)} {w : World S C Q A O}
    (hr : sys.RunFrom s h w) (i : ℕ) :
    total dueBy (w.effectsOf i) =
      total (flightOf i heldBy) w.flights + total paidBy (w.effectsOf i) := by
  have hrules : BalanceRules sys
      (fun w => ∀ f ∈ w.flights, ∀ c, w.clients f.owner = some c → K c f.request)
      (entryOf i dueBy) (entryOf i paidBy) (flightOf i heldBy) (fun _ _ => 0) := by
    refine ⟨fun w j a _ _ => ?_, fun w j u c r _ _ hr => ?_, fun w k e f _ _ hnone => ?_,
      fun w k x f a c hw hf ha hc => ?_⟩
    · have hb := hR.boot a
      simp only [Accounts, zero_add] at hb
      rw [Settles, total_entryOf_mk, total_entryOf_mk, total_flightOf_mk]
      by_cases hj : j = i <;> simp [hj, hb]
    · have hb := hR.ui c u r hr
      simp only [Accounts, zero_add] at hb
      rw [Settles, total_entryOf_mk, total_entryOf_mk, total_flightOf_mk]
      by_cases hj : j = i <;> simp [hj, hb]
    · have hb := hR.serve w.server f.request e
      rw [total_entryOf_mk, total_entryOf_mk]
      by_cases hj : f.owner = i <;> simp [flightOf, hj, hnone, hb]
    · have hb := hR.recv c f.request a x (hw f (mem_of_flight hf) c hc)
      rw [Accounts] at hb
      rw [Settles, total_entryOf_mk, total_entryOf_mk, total_flightOf_mk]
      by_cases hj : f.owner = i <;> simp [flightOf, hj, ha, hb]
  have hb := balance hrules hK hr
  rw [total_entryOf, total_entryOf, total_eq_zero (fun p => 0) fun _ _ => rfl, add_zero] at hb
  exact hb

end Balance

end AsyncSystem
