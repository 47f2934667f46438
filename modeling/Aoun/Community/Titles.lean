import Aoun.Community.Questions

/-!
# The titles of questions

Any number of `AskQuestion` forms over the questions of one store. A question is stored without
another look at the store when the query for its title has found none; the same title may have
been posted in the meantime, from another form or by a second tap on the same one.

## Main definitions

* `Aoun.askSystem` — any number of forms over one store.
* `Aoun.TitlesUnique` — the questions of a community have different titles.
* `Aoun.NotOvertaken` — no question of the same title was stored since the query.

## Main results

* `Aoun.askSystem_checked` — a question about to be stored was looked up before.
* `Aoun.titles_unique_iff` — when the titles of a run are unique.
-/

set_option relaxedAutoImplicit false
set_option autoImplicit false

namespace Aoun

open AsyncSystem AsyncSystem.World StepSystem

/-! ## The store -/

/-- The collection `Questions`. A new document has an id of its own, which is left out. -/
structure QuestionsServer where
  Questions : List Dictionary

/-- How the server handles a request. -/
def QuestionsServer.serve (s : QuestionsServer) :
    QuestionRequest → Outcome → Served QuestionsServer QuestionAnswer Empty
  | _, .failure _ => ⟨s, .error, []⟩
  | _, .neither => ⟨s, .neither, []⟩
  | .getDocuments ID Title _, .success =>
    ⟨s, .documents (s.Questions.filter fun d =>
      d.value "ID" = some (.string ID) ∧ d.value "Title" = some Title), []⟩
  | .setData question, .success =>
    ⟨{ s with Questions := s.Questions ++ [question] }, .written, []⟩

/-- Any number of forms, each for a community, by its id and its name, and for a user. -/
def askSystem : AsyncSystem QuestionsServer AskQuestion (String × String × Option String)
    QuestionTap QuestionRequest Outcome QuestionAnswer Unit Empty where
  boot := fun a => .skip
    { ID := a.1, ComName := a.2.1, currentUser := a.2.2, titleText := "",
      description := AskQuestion.placeHolder, descError := none, alert := false,
      dismissed := false, trapped := false }
  ui := AskQuestion.ui
  serve := QuestionsServer.serve
  recv := fun vc q a _ => vc.recv q a

/-- The states of the system of forms. -/
abbrev AskWorld :=
  AsyncSystem.World QuestionsServer AskQuestion QuestionRequest QuestionAnswer Empty

/-- What can happen in it. -/
abbrev AskEvent := AsyncSystem.Event (String × String × Option String) QuestionTap Outcome Unit

/-- Two questions are of the same community and have the same title. -/
def SameTitle (d d' : Dictionary) : Prop :=
  d.value "ID" = d'.value "ID" ∧ d.value "Title" = d'.value "Title"

/-- No two questions of a community have the same title. -/
def TitlesUnique (w : AskWorld) : Prop :=
  w.server.Questions.Pairwise fun d d' => ¬ SameTitle d d'

/-! ## What is stored -/

/-- The question that a step stores. -/
def storedAt (p : AskWorld × AskEvent) : Option Dictionary :=
  match p.2 with
  | .serve k .success => p.1.flights[k]?.bind fun f => f.request.stored
  | _ => none

/-- A step that stores a question handles its request. -/
lemma storedAt_eq_some {w : AskWorld} {e : AskEvent} {question : Dictionary}
    (hs : storedAt (w, e) = some question) : ∃ k f, e = .serve k .success ∧
      w.flights[k]? = some f ∧ f.request = .setData question := by
  unfold storedAt at hs
  split at hs
  case h_1 k he =>
    obtain ⟨f, hf, hq⟩ := Option.bind_eq_some_iff.mp hs
    refine ⟨k, f, he, hf, ?_⟩
    cases hreq : f.request with
    | getDocuments ID Title question' =>
      rw [hreq] at hq
      cases hq
    | setData question' =>
      rw [hreq] at hq
      exact congrArg _ (Option.some.inj hq)
  case h_2 => cases hs

/-- The server stores what the request says. -/
lemma QuestionsServer.serve_questions (s : QuestionsServer) (q : QuestionRequest) (o : Outcome) :
    (s.serve q o).server.Questions =
      s.Questions ++ if o = .success then q.stored.toList else [] := by
  cases o <;> cases q <;> simp [serve, QuestionRequest.stored]

/-- Every step adds to the store what it stores. -/
lemma questions_of_step {w w' : AskWorld} {e : AskEvent} (hs : askSystem.step w e = some w') :
    w'.server.Questions = w.server.Questions ++ (storedAt (w, e)).toList := by
  cases took_of_step hs with
  | boot free => simp [storedAt]
  | ui client reacts => simp [storedAt]
  | @serve k o f flight unanswered =>
    show (w.server.serve f.request o).server.Questions = _
    rw [QuestionsServer.serve_questions]
    cases o <;> simp [storedAt, flight]
  | deliver flight answered client => simp [storedAt]

variable {s : QuestionsServer} {h : List (AskWorld × AskEvent)} {w : AskWorld}

/-- The store after a run is the one at any of its steps, with what was stored from then on. -/
lemma questions_since (hr : askSystem.RunFrom s h w) {h₁ h₂ : List (AskWorld × AskEvent)}
    {p : AskWorld × AskEvent} (hp : h = h₁ ++ p :: h₂) :
    w.server.Questions =
      p.1.server.Questions ++ (p :: h₂).flatMap fun p => (storedAt p).toList :=
  hr.appended (fun w => w.server.Questions) (fun p => (storedAt p).toList)
    (fun _ _ _ => questions_of_step) hp

/-! ## What was looked up -/

/-- In this step the server answers the query of the post `root` for the title of `question`. -/
def LookedUpAt (root : ℕ) (question : Dictionary) (p : AskWorld × AskEvent) : Prop :=
  ∃ k f ID Title, p.2 = .serve k .success ∧ p.1.flights[k]? = some f ∧ f.root = root ∧
    f.request = .getDocuments ID Title question

/-- The title of `question` was looked up for the post `root` when the store did not have it. -/
def LookedUp (h : List (AskWorld × AskEvent)) (root : ℕ) (question : Dictionary) : Prop :=
  ∃ h₁ p h₂, h = h₁ ++ p :: h₂ ∧ LookedUpAt root question p ∧
    ∀ d ∈ p.1.server.Questions, ¬ SameTitle d question

/-- A query stores nothing. -/
lemma LookedUpAt.stores_none {root : ℕ} {question : Dictionary} {p : AskWorld × AskEvent}
    (hl : LookedUpAt root question p) : storedAt p = none := by
  obtain ⟨k, f, ID, Title, he, hf, -, hq⟩ := hl
  simp [storedAt, he, hf, hq, QuestionRequest.stored]

/-- What was looked up, was looked up. -/
lemma LookedUp.snoc {root : ℕ} {question : Dictionary} (hl : LookedUp h root question)
    (p : AskWorld × AskEvent) : LookedUp (h ++ [p]) root question := by
  obtain ⟨h₁, q, h₂, rfl, hq⟩ := hl
  exact ⟨h₁, q, h₂ ++ [p], by simp, hq⟩

/-- A query is for the community and the title of its question, and if it has found none, then
the question was looked up; so it was if it is about to be stored. -/
def FlightChecked (h : List (AskWorld × AskEvent)) (f : Flight QuestionRequest QuestionAnswer) :
    Prop :=
  match f.request with
  | .getDocuments ID Title question =>
    (question.value "ID" = some (.string ID) ∧ question.value "Title" = some Title) ∧
      (f.answer = some (.documents []) → LookedUp h f.root question)
  | .setData question => LookedUp h f.root question

lemma FlightChecked.snoc {f : Flight QuestionRequest QuestionAnswer} (hf : FlightChecked h f)
    (p : AskWorld × AskEvent) : FlightChecked (h ++ [p]) f := by
  unfold FlightChecked at hf ⊢
  cases hq : f.request with
  | getDocuments ID Title question =>
    rw [hq] at hf
    exact ⟨hf.1, fun ha => (hf.2 ha).snoc p⟩
  | setData question =>
    rw [hq] at hf
    exact LookedUp.snoc hf p

/-- The answer to a query says whether the store has the title. -/
lemma FlightChecked.served {k : ℕ} {g : Flight QuestionRequest QuestionAnswer}
    (hg : FlightChecked h g) (flight : w.flights[k]? = some g) (o : Outcome) :
    FlightChecked (h ++ [(w, .serve k o)])
      { g with answer := some (askSystem.serve w.server g.request o).answer } := by
  have hg := hg.snoc (w, .serve k o)
  unfold FlightChecked at hg ⊢
  cases hq : g.request with
  | setData question =>
    rw [hq] at hg
    exact hg
  | getDocuments ID Title question =>
    rw [hq] at hg
    refine ⟨hg.1, fun ha => ?_⟩
    cases o with
    | success =>
      -- the query finds none: the store does not have the title
      refine ⟨h, _, [], rfl, ⟨k, g, ID, Title, rfl, flight, rfl, hq⟩, fun d hd hsame => ?_⟩
      have hfound := QuestionAnswer.documents.inj (Option.some.inj ha)
      refine List.filter_eq_nil_iff.mp hfound d hd ?_
      simpa [hsame.1, hsame.2] using hg.1
    | failure _ => cases ha
    | neither => cases ha

/-- The form asks for the community and the title of the question that it is to store. -/
lemma AskQuestion.ui_requests {vc : AskQuestion} {u : QuestionTap} {r : QuestionReaction}
    (hu : vc.ui u = some r) {q : QuestionRequest} (hq : q ∈ r.requests) :
    ∃ ID Title question, q = .getDocuments ID Title question ∧
      question.value "ID" = some (.string ID) ∧ question.value "Title" = some Title := by
  cases u with
  | post now =>
    simp only [ui, Option.ite_none_right_eq_some, Option.some.injEq] at hu
    rw [← hu.2] at hq
    by_cases ht : vc.HasTitle
    · obtain ⟨question, descError, rfl, hpost⟩ := vc.post_of_title now ht
      rw [hpost, List.mem_singleton] at hq
      refine ⟨_, _, _, hq, ?_, vc.value_title now _⟩
      simp [Dictionary.value, baseData]
    · obtain ⟨descError, hpost⟩ := vc.post_without_title now ht
      rw [hpost] at hq
      cases hq
  | _ =>
    simp only [ui, Option.ite_none_right_eq_some, Option.some.injEq] at hu
    rw [← hu.2] at hq
    cases hq

/-- A completion stores the question of a query that has found none, or nothing. -/
lemma AskQuestion.recv_requests {vc : AskQuestion} {q q' : QuestionRequest} {a : QuestionAnswer}
    (hq' : q' ∈ (vc.recv q a).requests) :
    ∃ ID Title question, q = .getDocuments ID Title question ∧ a = .documents [] ∧
      q' = .setData question := by
  unfold recv at hq'
  split_ifs at hq'
  · cases hq'
  · cases q with
    | getDocuments ID Title question =>
      cases a with
      | documents questions =>
        cases questions with
        | nil => exact ⟨ID, Title, question, rfl, rfl, by simpa [callback, addData] using hq'⟩
        | cons d ds => simp [callback] at hq'
      | _ => cases hq'
    | setData question => cases a <;> cases hq'

/-- **What is stored was looked up.** In every state of every run a question about to be stored
was looked up when the store did not have its title.

**Proof sketch.** Induction on the run. The question of a query enters with the answer that
there is none, and from then on stays with the post. -/
theorem askSystem_checked (hr : askSystem.RunFrom s h w) : ∀ f ∈ w.flights, FlightChecked h f := by
  induction hr with
  | nil => simp
  | @snoc h w e w' hr hs ih =>
    intro f hf
    cases took_of_step hs with
    | boot free =>
      rcases List.mem_append.mp hf with hf | hf
      · exact (ih f hf).snoc _
      · cases hf
    | @ui i u c r client reacts =>
      rcases List.mem_append.mp hf with hf | hf
      · exact (ih f hf).snoc _
      · obtain ⟨q, hq, rfl⟩ := List.mem_map.mp hf
        obtain ⟨ID, Title, question, rfl, hvalues⟩ := AskQuestion.ui_requests reacts hq
        exact ⟨hvalues, fun ha => by cases ha⟩
    | @serve k o g flight unanswered =>
      rcases List.mem_append.mp hf with hf | hf
      · exact (ih f (List.mem_of_mem_eraseIdx hf)).snoc _
      · rw [List.mem_singleton.mp hf]
        exact (ih g (mem_of_flight flight)).served flight o
    | @deliver k x g a c flight answered client =>
      rcases List.mem_append.mp hf with hf | hf
      · exact (ih f (List.mem_of_mem_eraseIdx hf)).snoc _
      · obtain ⟨q, hq, rfl⟩ := List.mem_map.mp hf
        obtain ⟨ID, Title, question, hreq, rfl, rfl⟩ := AskQuestion.recv_requests hq
        have hg := (ih g (mem_of_flight flight)).snoc (w, .deliver k x)
        unfold FlightChecked at hg
        rw [hreq] at hg
        exact hg.2 answered

/-! ## The condition -/

/-- If the step stores a question, then since the query of its post was answered no question of
the same community and title has been stored. -/
def NotOvertaken (h : List (AskWorld × AskEvent)) (w : AskWorld) (e : AskEvent) : Prop :=
  ∀ k f question, e = .serve k .success → w.flights[k]? = some f →
    f.request = .setData question →
    ∀ h₁ p h₂, h = h₁ ++ p :: h₂ → LookedUpAt f.root question p →
      ∀ p' ∈ h₂, ∀ question', storedAt p' = some question' → ¬ SameTitle question' question

/-- When a step keeps the titles unique. -/
lemma titles_unique_step_iff (hr : askSystem.RunFrom s h w) (hu : TitlesUnique w) {e : AskEvent}
    {w' : AskWorld} (hs : askSystem.step w e = some w') :
    TitlesUnique w' ↔ NotOvertaken h w e := by
  rw [TitlesUnique, questions_of_step hs]
  constructor
  · rintro hu' k f question rfl hf hq h₁ p h₂ rfl - p' hp' question' hstored'
    -- what was stored since is in the store
    have hmem : question' ∈ w.server.Questions := by
      rw [questions_since hr rfl]
      exact List.mem_append_right _ (List.mem_flatMap.mpr
        ⟨p', List.mem_cons_of_mem _ hp', by simp [hstored']⟩)
    have hnew : storedAt (w, .serve k .success) = some question := by
      simp [storedAt, hf, hq, QuestionRequest.stored]
    rw [hnew] at hu'
    exact (List.pairwise_append.mp hu').2.2 question' hmem question (by simp)
  · intro hn
    refine List.pairwise_append.mpr ⟨hu, ?_, fun d hd question hq => ?_⟩
    · cases storedAt (w, e) <;> simp
    · obtain ⟨k, f, rfl, hf, hreq⟩ := storedAt_eq_some (by simpa using hq)
      have hchecked := askSystem_checked hr f (mem_of_flight hf)
      unfold FlightChecked at hchecked
      rw [hreq] at hchecked
      obtain ⟨h₁, p, h₂, rfl, hlook, hnone⟩ := hchecked
      -- the store is that at the query, with what was stored since
      rw [questions_since hr rfl, List.flatMap_cons, hlook.stores_none, Option.toList_none,
        List.nil_append] at hd
      rcases List.mem_append.mp hd with hd | hd
      · exact hnone d hd
      · obtain ⟨p', hp', hstored⟩ := List.mem_flatMap.mp hd
        exact hn k f question rfl hf hreq h₁ p h₂ rfl hlook p' hp' d (by simpa using hstored)

/-- **When the titles are unique.** In a run of any number of forms over a store with unique
titles, the questions of a community have different titles at all times, if and only if no
question is stored after another of the same title that was stored since its query.

**Proof sketch.** A step keeps the titles unique exactly when it meets the condition
(`titles_unique_step_iff`): the store at the time of the query has no question of the title
(`askSystem_checked`), and what is there besides was stored since. -/
theorem titles_unique_iff (hu : TitlesUnique (start s)) (hr : askSystem.RunFrom s h w) :
    Throughout TitlesUnique h w ↔ EveryStepAfter NotOvertaken h :=
  hr.throughout_iff_everyStepAfter hu (fun _ hu => hu)
    (fun _ _ _ _ hr hu hs => titles_unique_step_iff hr hu hs)
    (fun _ _ _ _ hr hu hs hn => (titles_unique_step_iff hr hu hs).mpr hn)

/-- Sara posts a question by two taps. -/
def askingTwice : List AskEvent :=
  [.boot 0 ("c", "Algebra", some "sara"), .ui 0 (.edit "Rings?" "Why?"), .ui 0 (.post 0),
    .ui 0 (.post 1), .serve 0 .success, .serve 0 .success, .deliver 0 (), .deliver 0 (),
    .serve 0 .success, .serve 0 .success]

/-- Sara posts a question once. -/
theorem titles_unique_sara : ∃ h w, askSystem.RunFrom ⟨[]⟩ h w ∧ w.server.Questions.length = 1 ∧
    (Throughout TitlesUnique h w ↔ EveryStepAfter NotOvertaken h) := by
  have he : (exec askSystem.step (start ⟨[]⟩) [.boot 0 ("c", "Algebra", some "sara"),
      .ui 0 (.edit "Rings?" "Why?"), .ui 0 (.post 0), .serve 0 .success, .deliver 0 (),
      .serve 0 .success]).map (fun w => w.server.Questions.length) = some 1 := by decide +kernel
  obtain ⟨h, w, hr, -, hw⟩ := run_of_observed he
  exact ⟨h, w, hr, hw, titles_unique_iff List.Pairwise.nil hr⟩

/-- Sara taps twice, and the question is stored twice. -/
theorem question_stored_twice : ∃ h w, askSystem.RunFrom ⟨[]⟩ h w ∧ ¬ TitlesUnique w := by
  have he : (exec askSystem.step (start ⟨[]⟩) askingTwice).map (fun w =>
      w.server.Questions.map fun d => (d.value "ID", d.value "Title")) =
      some [(some (.string "c"), some (.string "Rings?")),
        (some (.string "c"), some (.string "Rings?"))] := by decide +kernel
  obtain ⟨h, w, hr, -, hw⟩ := run_of_observed he
  refine ⟨h, w, hr, fun hu => ?_⟩
  have hpair : (w.server.Questions.map fun d => (d.value "ID", d.value "Title")).Pairwise
      (· ≠ ·) := by
    rw [List.pairwise_map]
    exact hu.imp fun hne heq => hne ⟨(Prod.mk.inj heq).1, (Prod.mk.inj heq).2⟩
  rw [hw] at hpair
  exact absurd hpair (by decide)

end Aoun
