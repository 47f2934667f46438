import Aoun.Community.Dashboard

/-!
# Requests that are resolved

An accepted request becomes a community once if no other screen, whose list may be old, has
accepted it, and if both writes are carried out: each accept creates a community of its own, and
a failed write is not noticed.

## Main definitions

* `Aoun.ResolvedOnce` — the property of a request.
* `Aoun.HandledOnce` — the condition on the steps that handle it.

## Main results

* `Aoun.creates_balance` — what becomes of the accepts of a request.
* `Aoun.resolved_once` — requests that are handled once are resolved once.
-/

set_option relaxedAutoImplicit false
set_option autoImplicit false

namespace Aoun

open AsyncSystem AsyncSystem.World StepSystem AdminDashboard

/-! ## The property and its condition -/

/-- A request was accepted. -/
def Accepted (w : RequestWorld) (doc : String) : Prop :=
  ∃ t ∈ w.trace, t.effect = .accepted doc

/-- Some delete of a request waits for the server. -/
def DeletePending (doc : String) (fs : List (Flight AdminRequest AdminAnswer)) : Prop :=
  ∃ f ∈ fs, f.answer = none ∧ f.request = .delete doc

/-- No write waits for the server. -/
def NoWritePending (w : RequestWorld) : Prop :=
  ∀ f ∈ w.flights, f.answer = none → f.request = .loadCommunities

/-- A request is still there, with no community created from it, or it is gone, with exactly one
community if it was accepted, and none if not. -/
def ResolvedOnce (w : RequestWorld) (doc : String) : Prop :=
  (w.server.Stored doc ∧ w.server.createdFrom doc = []) ∨
    (¬ w.server.Stored doc ∧ (Accepted w doc → (w.server.createdFrom doc).length = 1) ∧
      (¬ Accepted w doc → w.server.createdFrom doc = []))

/-- The request is accepted only if it was not accepted before. -/
def AcceptsFirst (doc : String) (w : RequestWorld) (e : RequestEvent) : Prop :=
  ∀ i vc d, e = .ui i .accept → w.clients i = some vc → vc.details = some d → d.doc = doc →
    ¬ Accepted w doc

/-- The creation of its community succeeds. -/
def CreateSucceeds (doc : String) (w : RequestWorld) (e : RequestEvent) : Prop :=
  ∀ k choice f TitleName desc, e = .serve k choice → w.flights[k]? = some f →
    f.request = .setData TitleName desc doc → ∃ deleted, choice = .success deleted

/-- A delete of the request fails only if it was not accepted, is gone already, or another
delete of it is pending. -/
def DeleteSucceeds (doc : String) (w : RequestWorld) (e : RequestEvent) : Prop :=
  ∀ k choice f, e = .serve k choice → w.flights[k]? = some f → f.request = .delete doc →
    (∃ deleted, choice = .success deleted) ∨ ¬ Accepted w doc ∨ ¬ w.server.Stored doc ∨
      DeletePending doc (w.flights.eraseIdx k)

/-- The step handles the request as it should. -/
def HandledOnce (doc : String) (w : RequestWorld) (e : RequestEvent) : Prop :=
  AcceptsFirst doc w e ∧ CreateSucceeds doc w e ∧ DeleteSucceeds doc w e

/-! ## The creates -/

section Creates

variable (doc : String)

/-- The request was accepted. -/
def acceptOf (t : Entry AdminEffect) : ℕ := if t.effect = .accepted doc then 1 else 0

/-- Its community was created. -/
def createOf (t : Entry AdminEffect) : ℕ := if t.effect = .created doc then 1 else 0

/-- A flight waits to create its community. -/
def pendingCreate (f : Flight AdminRequest AdminAnswer) : ℕ :=
  match f.request, f.answer with
  | .setData _ _ d, none => if d = doc then 1 else 0
  | _, _ => 0

/-- The creation of its community fails. -/
def failedCreate (w : RequestWorld) : RequestEvent → ℕ
  | .serve _ (.success _) => 0
  | .serve k _ => ((w.flights[k]?).map (pendingCreate doc)).getD 0
  | _ => 0

variable {s : RequestsServer} {h : List (RequestWorld × RequestEvent)} {w : RequestWorld}

/-- A create that is answered is not pending. -/
lemma pendingCreate_of_answer {f : Flight AdminRequest AdminAnswer} {a : AdminAnswer}
    (ha : f.answer = some a) : pendingCreate doc f = 0 := by
  unfold pendingCreate
  split
  · next hnone =>
    rw [ha] at hnone
    cases hnone
  · rfl

/-- The queries after a decision create nothing. -/
lemma pendingCreate_queries {qs : List AdminRequest} (hqs : ∀ q ∈ qs, q = .loadCommunities)
    (i r : ℕ) : total (fun q => pendingCreate doc ⟨i, r, q, none⟩) qs = 0 :=
  total_eq_zero _ fun q hq => by rw [hqs q hq]; rfl

/-- **What becomes of the accepts** of a request: a create is pending, has created a community,
or has failed. -/
theorem creates_balance (hr : requestSystem.RunFrom s h w) :
    total (acceptOf doc) w.trace = total (pendingCreate doc) w.flights +
      total (createOf doc) w.trace + total (fun p => failedCreate doc p.1 p.2) h := by
  have hrules : BalanceRules requestSystem (fun _ => True) (acceptOf doc) (createOf doc)
      (pendingCreate doc) (failedCreate doc) := by
    refine ⟨fun w i a _ _ => ?_, fun w i u vc r _ _ hr => ?_, fun w k e f _ hf hnone => ?_,
      fun w k x f a vc _ hf ha hc => ?_⟩
    · simp [Settles, requestSystem, viewDidLoad, loadCommunities, pendingCreate, failedCreate]
    · rcases ui_cases hr with ⟨d, qs, -, -, heff, hreq, hqs⟩ | ⟨d, qs, -, -, heff, hreq, hqs⟩ |
        ⟨-, heff, hreq⟩
      · rw [Settles, heff, hreq]
        simp only [total_cons, total_nil, pendingCreate_queries doc hqs]
        simp [acceptOf, createOf, pendingCreate, failedCreate]
      · rw [Settles, heff, hreq]
        simp only [total_cons, total_nil, pendingCreate_queries doc hqs]
        simp [acceptOf, createOf, pendingCreate, failedCreate]
      · rw [Settles, heff, hreq]
        simp [failedCreate]
    · show pendingCreate doc f + total _ (w.server.serve f.request e).effects =
        pendingCreate doc { f with answer := some (w.server.serve f.request e).answer } +
          total _ (w.server.serve f.request e).effects + failedCreate doc w (.serve k e)
      have hzero : pendingCreate doc
          { f with answer := some (w.server.serve f.request e).answer } = 0 :=
        pendingCreate_of_answer doc rfl
      rw [hzero, zero_add]
      rcases w.server.serve_cases f.request e with
        ⟨TitleName, desc, d, deleted, hq, rfl, hv⟩ | ⟨d, deleted, hq, rfl, hv⟩ | ⟨hno, -, heff⟩
      · rw [hv]
        by_cases hd : d = doc <;>
          simp [pendingCreate, hq, hnone, hd, acceptOf, createOf, failedCreate]
      · rw [hv]
        simp [pendingCreate, hq, failedCreate]
      · rw [heff]
        rcases hno with hq | hfails
        · have hnone : pendingCreate doc f = 0 := by simp [pendingCreate, hq]
          cases e <;> simp [failedCreate, hf, hnone]
        · cases e with
          | success deleted => exact absurd rfl (hfails deleted)
          | error => simp [failedCreate, hf]
          | neither => simp [failedCreate, hf]
    · obtain ⟨hreq, heff⟩ := vc.recv_rest f.request a
      have hzero : pendingCreate doc f = 0 := pendingCreate_of_answer doc ha
      show Settles _ _ _ f.owner f.root (vc.recv f.request a) _ _
      rw [Settles, hreq, heff, hzero]
      simp [failedCreate]
  exact balance hrules (fun _ _ _ => trivial) hr

/-- The communities created from a request are those that its creates have created. -/
lemma createdFrom_length (hr : requestSystem.RunFrom s h w) (hs : s.createdFrom doc = []) :
    (w.server.createdFrom doc).length = total (createOf doc) w.trace := by
  have hrest : ∀ (tr : List (Entry AdminEffect)) (i r : ℕ) (os : List AdminEffect),
      (∀ o ∈ os, o ≠ .created doc) → total (createOf doc) (tr ++ os.map fun o => ⟨i, r, o⟩) =
        total (createOf doc) tr := by
    intro tr i r os hos
    exact total_append_map _ fun o ho => if_neg (hos o ho)
  have hstart : ((start s : RequestWorld).server.createdFrom doc).length =
      total (createOf doc) (start s : RequestWorld).trace := by simp [hs]
  refine hr.invariant (I := fun w : RequestWorld => (w.server.createdFrom doc).length =
    total (createOf doc) w.trace) hstart fun w e w' hw hs => ?_
  cases took_of_step hs with
  | boot free => exact hw.trans (hrest w.trace _ _ _ (by simp [requestSystem, viewDidLoad,
      loadCommunities])).symm
  | @ui i u vc r client reacts =>
    refine hw.trans (hrest w.trace _ _ _ fun o ho => ?_).symm
    rcases ui_cases reacts with ⟨d, qs, -, -, heff, -⟩ | ⟨d, qs, -, -, heff, -⟩ | ⟨-, heff, -⟩
    · rw [heff, List.mem_singleton] at ho
      rw [ho]
      simp
    · rw [heff, List.mem_singleton] at ho
      rw [ho]
      simp
    · rw [heff] at ho
      cases ho
  | @serve k e f flight unanswered =>
    show ((w.server.serve f.request e).server.createdFrom doc).length =
      total (createOf doc) (w.trace ++
        (w.server.serve f.request e).effects.map fun o => ⟨f.owner, f.root, o⟩)
    rcases w.server.serve_cases f.request e with
      ⟨TitleName, desc, d, deleted, hq, -, hv⟩ | ⟨d, deleted, hq, -, hv⟩ | ⟨-, hserver, heff⟩
    · rw [hv, total_append, ← hw]
      by_cases hd : d = doc <;> simp [RequestsServer.createdFrom, createOf, hd]
    · rw [hv]
      simpa using hw
    · rw [hserver, heff]
      simpa using hw
  | @deliver k x f a vc flight answered client =>
    refine hw.trans (hrest w.trace _ _ _ fun o ho => ?_).symm
    have ho' : o ∈ (vc.recv f.request a).effects := ho
    rw [(vc.recv_rest f.request a).2] at ho'
    cases ho'

/-- A creation that succeeds does not fail. -/
lemma failedCreate_eq_zero {e : RequestEvent} (hcreate : CreateSucceeds doc w e) :
    failedCreate doc w e = 0 := by
  cases e with
  | serve k choice =>
    cases choice with
    | success deleted => rfl
    | _ =>
      cases hf : w.flights[k]? with
      | none => simp [failedCreate, hf]
      | some f =>
        cases hq : f.request with
        | setData TitleName desc d =>
          by_cases hd : d = doc
          · subst hd
            obtain ⟨deleted, hsuccess⟩ := hcreate k _ f TitleName desc rfl hf hq
            cases hsuccess
          · cases ha : f.answer <;> simp [failedCreate, hf, pendingCreate, hq, ha, hd]
        | _ => simp [failedCreate, hf, pendingCreate, hq]
  | _ => rfl

end Creates

/-! ## The deletes -/

section Deletes

variable {doc : String} {s : RequestsServer} {h : List (RequestWorld × RequestEvent)}
  {w : RequestWorld}

/-- Counting the accepts. -/
lemma total_acceptOf_eq_zero_iff : total (acceptOf doc) w.trace = 0 ↔ ¬ Accepted w doc := by
  rw [show acceptOf doc = fun t => if t.effect = .accepted doc then 1 else 0 from rfl,
    total_ite_eq_zero_iff, Accepted]
  push Not
  rfl

/-- The server accepts no request, and stores none that was not there. -/
lemma stored_of_serve {q : AdminRequest} {e : AdminChoice}
    (hst : (s.serve q e).server.Stored doc) : s.Stored doc := by
  rcases s.serve_cases q e with ⟨TitleName, desc, d, deleted, -, -, hv⟩ |
    ⟨d, deleted, -, -, hv⟩ | ⟨-, hserver, -⟩
  · rw [hv] at hst
    exact hst
  · rw [hv] at hst
    exact (RequestsServer.stored_delete.mp hst).1
  · rwa [hserver] at hst

lemma DeletePending.append {fs : List (Flight AdminRequest AdminAnswer)}
    (hp : DeletePending doc fs) (gs : List (Flight AdminRequest AdminAnswer)) :
    DeletePending doc (fs ++ gs) := by
  obtain ⟨f, hf, hrest⟩ := hp
  exact ⟨f, List.mem_append_left _ hf, hrest⟩

/-- A pending delete stays pending when another flight is taken out. -/
lemma DeletePending.eraseIdx {fs : List (Flight AdminRequest AdminAnswer)}
    (hp : DeletePending doc fs) {k : ℕ} {f : Flight AdminRequest AdminAnswer}
    (hf : fs[k]? = some f) (hne : f.answer = none → f.request ≠ .delete doc) :
    DeletePending doc (fs.eraseIdx k) := by
  obtain ⟨g, hg, hnone, hq⟩ := hp
  rcases eq_or_mem_eraseIdx hf hg with rfl | hg
  · exact absurd hq (hne hnone)
  · exact ⟨g, hg, hnone, hq⟩

/-- **What a step does to the accepts** of a request: it accepts the request that the details of
a screen show, and asks for its deletion, or it accepts nothing, and stores no request. -/
lemma accept_step {w w' : RequestWorld} {e : RequestEvent}
    (hs : requestSystem.step w e = some w') :
    (∃ i vc d, e = .ui i .accept ∧ w.clients i = some vc ∧ vc.details = some d ∧ d.doc = doc ∧
      total (acceptOf doc) w'.trace = total (acceptOf doc) w.trace + 1 ∧
        DeletePending doc w'.flights) ∨
    (total (acceptOf doc) w'.trace = total (acceptOf doc) w.trace ∧
      (w'.server.Stored doc → w.server.Stored doc)) := by
  have hrest : ∀ (i r : ℕ) (os : List AdminEffect), (∀ o ∈ os, o ≠ .accepted doc) →
      total (acceptOf doc) (w.trace ++ os.map fun o => ⟨i, r, o⟩) =
        total (acceptOf doc) w.trace := by
    intro i r os hos
    exact total_append_map _ fun o ho => if_neg (hos o ho)
  cases took_of_step hs with
  | boot free => exact Or.inr ⟨hrest _ _ [] (by simp), id⟩
  | @ui i u vc r client reacts =>
    rcases ui_cases reacts with ⟨d, qs, rfl, hd, heff, hreq, -⟩ | ⟨d, qs, -, -, heff, -⟩ |
      ⟨-, heff, -⟩
    · by_cases hdoc : d.doc = doc
      · refine Or.inl ⟨i, vc, d, rfl, client, hd, hdoc, ?_, ?_⟩
        · rw [tick_trace, react_trace, heff, total_append]
          simp [acceptOf, hdoc]
        · exact ⟨⟨i, w.next, .delete d.doc, none⟩, List.mem_append_right _ (by simp [hreq]), rfl,
            by rw [hdoc]⟩
      · exact Or.inr ⟨hrest _ _ r.effects (by simp [heff, hdoc]), id⟩
    · exact Or.inr ⟨hrest _ _ r.effects (by simp [heff]), id⟩
    · exact Or.inr ⟨hrest _ _ r.effects (by simp [heff]), id⟩
  | @serve k choice f flight unanswered =>
    refine Or.inr ⟨hrest _ _ (w.server.serve f.request choice).effects fun o ho => ?_,
      stored_of_serve⟩
    rcases w.server.serve_cases f.request choice with ⟨TitleName, desc, d, deleted, -, -, hv⟩ |
      ⟨d, deleted, -, -, hv⟩ | ⟨-, -, heff⟩
    · rw [hv, List.mem_singleton] at ho
      rw [ho]
      simp
    · rw [hv] at ho
      cases ho
    · rw [heff] at ho
      cases ho
  | @deliver k x f a vc flight answered client =>
    exact Or.inr ⟨hrest _ _ (vc.recv f.request a).effects (by simp [(vc.recv_rest f.request a).2]),
      id⟩

/-- A request that was accepted, and is still there, keeps a pending delete: the one that the
server carries out removes it, and fails only if there is another. -/
lemma delete_step {w w' : RequestWorld} {e : RequestEvent} (hs : requestSystem.step w e = some w')
    (hdelete : DeleteSucceeds doc w e) (haccepted : Accepted w doc) (hst : w'.server.Stored doc)
    (hp : DeletePending doc w.flights) : DeletePending doc w'.flights := by
  cases took_of_step hs with
  | boot free => exact hp.append _
  | ui client reacts => exact hp.append _
  | @serve k choice f flight unanswered =>
    by_cases hq : f.request = .delete doc
    · rcases hdelete k choice f rfl flight hq with ⟨deleted, rfl⟩ | hno | hgone | hanother
      · have hserved : (w.server.serve f.request (.success deleted)).server.Stored doc := hst
        rw [hq] at hserved
        exact absurd rfl (RequestsServer.stored_delete.mp hserved).2
      · exact absurd haccepted hno
      · exact absurd (stored_of_serve hst) hgone
      · exact hanother.append _
    · exact (hp.eraseIdx flight fun _ => hq).append _
  | deliver flight answered client =>
    refine (hp.eraseIdx flight fun hnone => ?_).append _
    rw [answered] at hnone
    cases hnone

/-- **What an accept leaves**: as long as the request is there, a delete of it is pending. And
there is at most one accept. -/
lemma accepted_deletes (hr : requestSystem.RunFrom s h w) (hG : EveryStep (HandledOnce doc) h) :
    (Accepted w doc → w.server.Stored doc → DeletePending doc w.flights) ∧
      total (acceptOf doc) w.trace ≤ 1 := by
  induction hr with
  | nil =>
    refine ⟨?_, by simp⟩
    rintro ⟨t, ht, -⟩
    cases ht
  | @snoc h w e w' hr hs ih =>
    obtain ⟨hG, hfirst, -, hdelete⟩ := (everyStep_snoc _ _ _ _).mp hG
    obtain ⟨hpending, hone⟩ := ih hG
    rcases accept_step hs with ⟨i, vc, d, rfl, hc, hd, hdoc, hmore, hdelete'⟩ | ⟨hsame, hstored⟩
    · -- the first accept of the request
      have hnone := total_acceptOf_eq_zero_iff.mpr (hfirst i vc d rfl hc hd hdoc)
      exact ⟨fun _ _ => hdelete', by omega⟩
    · refine ⟨fun haccepted hst => ?_, hsame.le.trans hone⟩
      have haccepted' : Accepted w doc := by
        by_contra hno
        exact total_acceptOf_eq_zero_iff.mp (hsame.trans (total_acceptOf_eq_zero_iff.mpr hno))
          haccepted
      exact delete_step hs hdelete haccepted' hst (hpending haccepted' (hstored hst))

/-- **Requests that are handled once are resolved once.** In every run whose steps handle a
request as they should, once no write is pending, the request is still there, with no community
created from it, or it is gone, with exactly one community if it was accepted, and none if not.

**Proof sketch.** No create of its community has failed, and none is pending, so that there are
as many communities as accepts (`creates_balance`), at most one. If there is one, the request is
gone, since no delete of it is pending (`accepted_deletes`). -/
theorem resolved_once (hr : requestSystem.RunFrom s h w) (hs : s.createdFrom doc = [])
    (hG : EveryStep (HandledOnce doc) h) (hdone : NoWritePending w) : ResolvedOnce w doc := by
  obtain ⟨hpending, hone⟩ := accepted_deletes hr hG
  have hcreated : total (acceptOf doc) w.trace = (w.server.createdFrom doc).length := by
    have hflights : total (pendingCreate doc) w.flights = 0 := by
      refine total_eq_zero _ fun f hf => ?_
      cases ha : f.answer with
      | some a => cases hq : f.request <;> simp [pendingCreate, ha, hq]
      | none => simp [pendingCreate, hdone f hf ha]
    have hfailed : total (fun p => failedCreate doc p.1 p.2) h = 0 :=
      total_eq_zero _ fun p hp => failedCreate_eq_zero doc (hG p hp).2.1
    rw [creates_balance doc hr, hflights, hfailed, zero_add, add_zero, createdFrom_length doc hr hs]
  by_cases haccepted : Accepted w doc
  · have hgone : ¬ w.server.Stored doc := by
      intro hst
      obtain ⟨f, hf, hnone, hq⟩ := hpending haccepted hst
      rw [hdone f hf hnone] at hq
      cases hq
    have hsome : total (acceptOf doc) w.trace ≠ 0 := fun hzero =>
      total_acceptOf_eq_zero_iff.mp hzero haccepted
    exact Or.inr ⟨hgone, fun _ => by omega, fun hno => absurd haccepted hno⟩
  · have hnone : w.server.createdFrom doc = [] := by
      rw [total_acceptOf_eq_zero_iff.mpr haccepted] at hcreated
      exact List.eq_nil_of_length_eq_zero hcreated.symm
    by_cases hst : w.server.Stored doc
    · exact Or.inl ⟨hst, hnone⟩
    · exact Or.inr ⟨hst, fun hyes => absurd hyes haccepted, fun _ => hnone⟩

end Deletes

/-! ## Runs -/

/-- A single request. -/
def oneRequest : RequestsServer := ⟨[⟨"r", some "Robotics", some "Robots"⟩], [], by simp⟩

/-- What is observed of a run: the requests, the communities, and the number of flights. -/
def settled (w : RequestWorld) : List String × List CommunityDoc × ℕ :=
  (w.server.Request.map (·.documentID), w.server.Communities, w.flights.length)

/-- An administrator accepts the request, and both writes are carried out. -/
theorem resolved_once_accepted : ∃ h w, requestSystem.RunFrom oneRequest h w ∧
    w.server.Communities = [⟨"Robotics", "Robots", "r"⟩] ∧ ResolvedOnce w "r" := by
  let steady : RequestWorld → RequestEvent → Bool := fun w e =>
    match e with
    | .ui _ .accept => w.trace.all fun t => t.effect ≠ .accepted "r"
    | .serve _ (.success _) => true
    | .serve _ _ => false
    | _ => true
  have he : (exec (guarded steady requestSystem.step) (start oneRequest)
      [.boot 0 (), .serve 0 (.success []), .deliver 0 (), .ui 0 (.didSelectRowAt 0), .ui 0 .accept,
        .serve 0 (.success []), .serve 0 (.success []), .serve 0 (.success []), .deliver 0 (),
        .deliver 0 (), .deliver 0 ()]).map settled =
      some ([], [⟨"Robotics", "Robots", "r"⟩], 0) := by decide +kernel
  obtain ⟨h, w, hr, hG, hw⟩ := run_of_guarded he
  obtain ⟨-, hcommunities, hflights⟩ : _ ∧ _ ∧ _ := by simpa only [settled, Prod.mk.injEq] using hw
  have hdone : NoWritePending w := by simp [NoWritePending, List.length_eq_zero_iff.mp hflights]
  have hhandled : EveryStep (HandledOnce "r") h := by
    intro p hp
    have hg : steady p.1 p.2 = true := hG p hp
    refine ⟨?_, ?_, ?_⟩
    · rintro i vc d he - - - ⟨t, ht, heff⟩
      rw [he] at hg
      have hfresh := List.all_eq_true.mp hg t ht
      simp [heff] at hfresh
    · intro k choice f TitleName desc he _ _
      rw [he] at hg
      cases choice with
      | success deleted => exact ⟨deleted, rfl⟩
      | _ => cases hg
    · intro k choice f he _ _
      rw [he] at hg
      cases choice with
      | success deleted => exact Or.inl ⟨deleted, rfl⟩
      | _ => cases hg
  exact ⟨h, w, hr, hcommunities, resolved_once hr rfl hhandled hdone⟩

/-- Two administrators find the request, and both accept it: all the writes are carried out, and
there are two communities. -/
theorem accepted_twice : ∃ h w, requestSystem.RunFrom oneRequest h w ∧ NoWritePending w ∧
    ¬ w.server.Stored "r" ∧ (w.server.createdFrom "r").length = 2 ∧ ¬ ResolvedOnce w "r" := by
  have he : (exec requestSystem.step (start oneRequest)
      [.boot 0 (), .serve 0 (.success []), .deliver 0 (), .boot 1 (), .serve 0 (.success []),
        .deliver 0 (), .ui 0 (.didSelectRowAt 0), .ui 0 .accept, .ui 1 (.didSelectRowAt 0),
        .ui 1 .accept, .serve 0 (.success []), .serve 0 (.success []), .serve 0 (.success []),
        .serve 0 (.success []), .serve 0 (.success []), .serve 0 (.success []), .deliver 0 (),
        .deliver 0 (), .deliver 0 (), .deliver 0 (), .deliver 0 (), .deliver 0 ()]).map settled =
      some ([], [⟨"Robotics", "Robots", "r"⟩, ⟨"Robotics", "Robots", "r"⟩], 0) := by
    decide +kernel
  obtain ⟨h, w, hr, -, hw⟩ := run_of_observed he
  obtain ⟨hrequests, hcommunities, hflights⟩ : _ ∧ _ ∧ _ := by
    simpa only [settled, Prod.mk.injEq] using hw
  have hdone : NoWritePending w := by simp [NoWritePending, List.length_eq_zero_iff.mp hflights]
  have hgone : ¬ w.server.Stored "r" := by
    rintro ⟨d, hd, -⟩
    rw [List.map_eq_nil_iff.mp hrequests] at hd
    cases hd
  have htwo : (w.server.createdFrom "r").length = 2 := by
    simp [RequestsServer.createdFrom, hcommunities]
  refine ⟨h, w, hr, hdone, hgone, htwo, ?_⟩
  rintro (⟨hst, -⟩ | ⟨-, hyes, hno⟩)
  · exact hgone hst
  · by_cases haccepted : Accepted w "r"
    · rw [hyes haccepted] at htwo
      cases htwo
    · rw [hno haccepted] at htwo
      cases htwo

end Aoun
