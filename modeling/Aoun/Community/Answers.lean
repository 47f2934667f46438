import Mathlib.Logic.Function.Basic
import Aoun.Community.Questions
import Aoun.Lib.Search
import Aoun.Text

/-!
# The questions of a community

`Community` lists the questions of a community. A row opens `QuestionDetail`, which reads the
answers of the question it is given, and from there `AnswerQuestion`, which stores an answer under
the document that the list has found by the title in the row. The titles are looked up in `ids`,
which every load fills and nothing clears.

The answer to a query may be any documents, so that a load finds any list of questions. The
search, `range(of:options: .caseInsensitive)`, is a parameter. What runs on the main queue later
runs in the order in which it was put there.

## Main definitions

* `Aoun.Community`, `Aoun.QuestionDetail`, `Aoun.AnswerQuestion` — the screens, with their
  methods.
* `Aoun.CommunityState.step` — the list, its pending loads and the main queue.
* `Aoun.StoresUnder` — an answer goes where the answers of the tapped question are read.
* `Aoun.FoundLast` — the tapped question was found last among those of its title.

## Main results

* `Aoun.community_inv` — what the dictionary of titles holds.
* `Aoun.stores_under_iff` — when the answers of a run are stored under the tapped questions.
* `Aoun.foundLast_of_titles` — they are if different questions have different titles.
-/

set_option relaxedAutoImplicit false
set_option autoImplicit false

namespace Aoun

open StepSystem

/-! ## The screens -/

/-- `AnswerQuestion`, for the user `me`. -/
structure AnswerQuestion where
  ID : String
  bd : String
  question : Question
  me : User
  /-- The text of `desc`, which shows its placeholder as a text. -/
  desc : String

namespace AnswerQuestion

/-- `desc.placeHolder`. -/
def placeHolder : String := "*Description"

variable (vc : AnswerQuestion) (createDate : Timestamp)

/-- `displayName` of a user. -/
def displayName (u : User) : String :=
  trimmed (u.FirstName ++ " " ++ u.LastName)

/-- `validatedData()`: the text of the label `descError`, and the answer. A value that is `nil`
is not entered. -/
def validatedData : Option String × Option Dictionary :=
  if vc.desc ≠ placeHolder ∧ vc.desc.length ≠ 0 then
    (none, some ([("answer", .string vc.desc), ("createDate", .timestamp createDate)] ++
      (vc.me.docID.map fun id => ("user", FieldValue.string id)).toList ++
      [("username", .string (displayName vc.me))]))
  else (some "Please add in answer.", none)

/-- `post(_:)`: the document of `Questions` whose answers the answer is added to, and the
answer. -/
def post : Option (String × Dictionary) :=
  (vc.validatedData createDate).2.map fun answersDictionary => (vc.ID, answersDictionary)

end AnswerQuestion

/-- `QuestionDetail`. -/
structure QuestionDetail where
  docID : String
  comID : String
  QV : String
  BV : String
  question : Question

namespace QuestionDetail

variable (vc : QuestionDetail)

/-- `loadAnswers()`: the document of `Questions` whose answers are read. -/
def loadAnswers : String := vc.question.documentId

/-- `answer(_:)`, for the user `me`, who fills in the text `desc`. -/
def answer (me : User) (desc : String) : AnswerQuestion :=
  { ID := vc.docID, bd := vc.BV, question := vc.question, me, desc }

end QuestionDetail

/-- `Community`. -/
structure Community where
  ID : String
  name : String
  /-- `ids`, with the titles as keys. -/
  ids : String → Option String
  questions : List Question
  filtered : List Question
  /-- The text of `searchBarQ`. -/
  searchText : String
  /-- The text of the label `empty`. -/
  empty : Option String
  /-- The program has stopped at a forced cast or unwrapping. -/
  trapped : Bool

namespace Community

variable (vc : Community)

/-- `questions = qs`, with its observer. -/
def setQuestions (qs : List Question) : Community := { vc with questions := qs, filtered := qs }

/-- The start of `loadQuestions()`. -/
def loadQuestions : Community := { vc.setQuestions [] with empty := some "Loading.." }

/-- The entries of `ids` after the loop of `loadQuestions()` has found `qs`. -/
def addIds (ids : String → Option String) (qs : List Question) : String → Option String :=
  qs.foldl (fun ids q => Function.update ids q.title (some q.documentId)) ids

/-- The completion of the query of `loadQuestions()`, up to the block for the main queue, which
assigns the questions found. -/
def questionsFound (snapshotDocuments : List QuestionDocument) :
    Community × Option (List Question) :=
  match loadedQuestions vc.ID snapshotDocuments with
  | none => ({ vc with trapped := true }, none)
  | some qs => ({ vc with ids := addIds vc.ids qs }, some qs)

/-- The block of `loadQuestions()`. -/
def assignQuestions (qs : List Question) : Community :=
  { vc.setQuestions qs with
    empty := if qs.length = 0 then some "No questions have been asked yet" else none }

/-- `searchBar(_:textDidChange:)`, where `range text s` tells whether `s` has `text` in it. -/
def filter (range : String → String → Bool) (searchText : String) : Community :=
  let filtered :=
    if searchText.length > 0 then
      vc.questions.filter fun q => range searchText q.title || range searchText q.body
    else vc.questions
  { vc with
    searchText, filtered
    empty := if filtered.length = 0 then some "No results." else none }

/-- `tableView(_:didSelectRowAt:)`: the screen that is presented. The title in the cell is that of
the question in its row. -/
def didSelectRowAt (selectedRow : ℕ) : Option QuestionDetail :=
  vc.filtered[selectedRow]?.map fun question =>
    let titleX := question.title
    { docID := (vc.ids titleX).getD "NIL", comID := vc.ID, QV := question.title,
      BV := question.body, question }

end Community

/-! ## The system -/

/-- The list, the number of its queries that are not answered yet, and the blocks it has put on
the main queue, oldest first. -/
structure CommunityState where
  vc : Community
  pending : ℕ
  main : List (List Question)

/-- What can happen. -/
inductive CommunityEvent
  /-- `loadQuestions()` is called: when the list is opened, for a question that is posted, and by
  the screen of a question. -/
  | loadQuestions
  /-- A query is answered, with the documents it finds, or fails. -/
  | answer (snapshotDocuments : Option (List QuestionDocument))
  /-- The oldest block runs. -/
  | main
  /-- The text in the search bar changes. -/
  | textDidChange (searchText : String)
  /-- A row is tapped. -/
  | didSelectRowAt (selectedRow : ℕ)

namespace CommunityState

/-- The list before its first load. -/
def start (ID name : String) : CommunityState :=
  { vc := { ID, name, ids := fun _ => none, questions := [], filtered := [], searchText := "",
            empty := none, trapped := false }
    pending := 0, main := [] }

/-- One step of the list, `none` where the event is not possible. -/
def step (range : String → String → Bool) (s : CommunityState) (e : CommunityEvent) :
    Option CommunityState :=
  if s.vc.trapped then none
  else
    match e with
    | .loadQuestions => some { s with vc := s.vc.loadQuestions, pending := s.pending + 1 }
    | .answer snapshotDocuments =>
      if s.pending = 0 then none
      else
        match snapshotDocuments with
        | none => some { s with pending := s.pending - 1 }
        | some documents =>
          let (vc, block) := s.vc.questionsFound documents
          some ⟨vc, s.pending - 1, s.main ++ block.toList⟩
    | .main =>
      match s.main with
      | [] => none
      | qs :: main => some { s with vc := s.vc.assignQuestions qs, main }
    | .textDidChange searchText => some { s with vc := s.vc.filter range searchText }
    | .didSelectRowAt selectedRow =>
      match s.vc.didSelectRowAt selectedRow with
      | none => none
      | some _ => some s

/-- What a step does. -/
inductive Took (range : String → String → Bool) (s : CommunityState) :
    CommunityEvent → CommunityState → Prop
  | load : Took range s .loadQuestions
      { s with vc := s.vc.loadQuestions, pending := s.pending + 1 }
  | failed : Took range s (.answer none) { s with pending := s.pending - 1 }
  | stopped {documents : List QuestionDocument}
      (stops : Community.loadedQuestions s.vc.ID documents = none) :
      Took range s (.answer (some documents))
        { s with vc := { s.vc with trapped := true }, pending := s.pending - 1 }
  | found {documents : List QuestionDocument} {qs : List Question}
      (loads : Community.loadedQuestions s.vc.ID documents = some qs) :
      Took range s (.answer (some documents))
        ⟨{ s.vc with ids := Community.addIds s.vc.ids qs }, s.pending - 1, s.main ++ [qs]⟩
  | main {qs : List Question} {main : List (List Question)} (block : s.main = qs :: main) :
      Took range s .main { s with vc := s.vc.assignQuestions qs, main }
  | search {searchText : String} :
      Took range s (.textDidChange searchText) { s with vc := s.vc.filter range searchText }
  | tap {selectedRow : ℕ} {q : Question} (row : s.vc.filtered[selectedRow]? = some q) :
      Took range s (.didSelectRowAt selectedRow) s

/-- The inversion lemma of the step function. -/
lemma took_of_step {range : String → String → Bool} {s s' : CommunityState} {e : CommunityEvent}
    (h : s.step range e = some s') : Took range s e s' := by
  unfold step at h
  rw [Option.ite_none_left_eq_some] at h
  obtain ⟨-, h⟩ := h
  cases e with
  | loadQuestions => exact Option.some.inj h ▸ .load
  | answer snapshotDocuments =>
    rw [Option.ite_none_left_eq_some] at h
    obtain ⟨-, h⟩ := h
    cases snapshotDocuments with
    | none => exact Option.some.inj h ▸ .failed
    | some documents =>
      cases hl : Community.loadedQuestions s.vc.ID documents with
      | none =>
        simp only [Community.questionsFound, hl, Option.some.injEq] at h
        rw [← h]
        simpa using Took.stopped hl
      | some qs =>
        simp only [Community.questionsFound, hl, Option.some.injEq] at h
        exact h ▸ .found hl
  | main =>
    cases hm : s.main with
    | nil => simp [hm] at h
    | cons qs main =>
      simp only [hm, Option.some.injEq] at h
      exact h ▸ .main hm
  | textDidChange searchText => exact Option.some.inj h ▸ .search
  | didSelectRowAt selectedRow =>
    simp only [Community.didSelectRowAt] at h
    cases hq : s.vc.filtered[selectedRow]? with
    | none => simp [hq] at h
    | some q =>
      simp only [hq, Option.map_some, Option.some.injEq] at h
      exact h ▸ .tap hq

end CommunityState

/-! ## What the loads have found -/

/-- The questions that a step finds. -/
def foundAt (p : CommunityState × CommunityEvent) : List Question :=
  match p.2 with
  | .answer (some documents) => (Community.loadedQuestions p.1.vc.ID documents).getD []
  | _ => []

/-- The questions that the loads of a history have found, in the order in which they were
entered into `ids`. -/
def foundIn (h : List (CommunityState × CommunityEvent)) : List Question := h.flatMap foundAt

/-- The document of the last question of a title. -/
def lastOf (title : String) (qs : List Question) : Option String :=
  (qs.filter fun q => q.title = title).getLast?.map (·.documentId)

lemma foundIn_snoc (h : List (CommunityState × CommunityEvent))
    (p : CommunityState × CommunityEvent) : foundIn (h ++ [p]) = foundIn h ++ foundAt p := by
  simp [foundIn]

/-- The last question of a title among those that follow, or else among those before. -/
lemma lastOf_append (title : String) (qs qs' : List Question) :
    lastOf title (qs ++ qs') = (lastOf title qs').or (lastOf title qs) := by
  unfold lastOf
  rw [List.filter_append, List.getLast?_append]
  cases (qs'.filter fun q => q.title = title).getLast? <;> simp

/-- The loop of `loadQuestions()` enters the last document of every title. -/
lemma addIds_apply (ids : String → Option String) (qs : List Question) (title : String) :
    Community.addIds ids qs title = (lastOf title qs).or (ids title) := by
  unfold Community.addIds
  induction qs generalizing ids with
  | nil => rfl
  | cons q qs ih =>
    rw [List.foldl_cons, ih, ← List.singleton_append, lastOf_append]
    by_cases hq : q.title = title
    · subst hq
      cases lastOf q.title qs <;> simp [lastOf]
    · cases lastOf title qs <;> simp [lastOf, hq, Function.update_of_ne (Ne.symm hq)]

/-- Of the questions `found` the dictionary holds the last document of every title; the questions
listed, and those about to be, are among them. -/
structure CommunityInv (found : List Question) (s : CommunityState) : Prop where
  ids : ∀ title, s.vc.ids title = lastOf title found
  main : ∀ qs ∈ s.main, qs ⊆ found
  questions : s.vc.questions ⊆ found
  filtered : s.vc.filtered ⊆ s.vc.questions

/-- What the search shows is among the questions. -/
lemma Community.filter_subset (vc : Community) (range : String → String → Bool)
    (searchText : String) : (vc.filter range searchText).filtered ⊆ vc.questions := by
  simp only [filter]
  split_ifs
  · exact List.filter_sublist.subset
  · exact List.Subset.refl _

/-- One step keeps the dictionary. -/
lemma CommunityInv.step {range : String → String → Bool} {found : List Question}
    {s s' : CommunityState} {e : CommunityEvent} (hi : CommunityInv found s)
    (hs : CommunityState.Took range s e s') : CommunityInv (found ++ foundAt (s, e)) s' := by
  cases hs with
  | load =>
    rw [show foundAt (s, .loadQuestions) = [] from rfl, List.append_nil]
    exact ⟨hi.ids, hi.main, List.nil_subset _, List.nil_subset _⟩
  | failed =>
    rw [show foundAt (s, .answer none) = [] from rfl, List.append_nil]
    exact ⟨hi.ids, hi.main, hi.questions, hi.filtered⟩
  | @stopped documents stops =>
    rw [show foundAt (s, .answer (some documents)) = [] by simp [foundAt, stops], List.append_nil]
    exact ⟨hi.ids, hi.main, hi.questions, hi.filtered⟩
  | @found documents qs loads =>
    rw [show foundAt (s, .answer (some documents)) = qs by simp [foundAt, loads]]
    have hold : found ⊆ found ++ qs := List.subset_append_left _ _
    refine ⟨fun title => ?_, fun qs' hqs' => ?_, List.Subset.trans hi.questions hold, hi.filtered⟩
    · rw [lastOf_append, ← hi.ids]
      exact addIds_apply _ _ _
    · rcases List.mem_append.mp hqs' with hqs' | hqs'
      · exact List.Subset.trans (hi.main qs' hqs') hold
      · rw [List.mem_singleton.mp hqs']
        exact List.subset_append_right _ _
  | @main qs main block =>
    rw [show foundAt (s, .main) = [] from rfl, List.append_nil]
    exact ⟨hi.ids, fun qs' hqs' => hi.main qs' (by simp [block, hqs']),
      hi.main qs (by simp [block]), List.Subset.refl _⟩
  | @search searchText =>
    rw [show foundAt (s, .textDidChange searchText) = [] from rfl, List.append_nil]
    exact ⟨hi.ids, hi.main, hi.questions, s.vc.filter_subset range searchText⟩
  | @tap selectedRow q row =>
    rw [show foundAt (s, .didSelectRowAt selectedRow) = [] from rfl, List.append_nil]
    exact hi

variable {range : String → String → Bool} {ID name : String}
  {h : List (CommunityState × CommunityEvent)} {s : CommunityState}

/-- **What the dictionary holds.** In every state of every run the dictionary holds the document
found last for each title, and the questions listed were found. -/
theorem community_inv (hr : Run (CommunityState.step range) (.start ID name) h s) :
    CommunityInv (foundIn h) s := by
  induction hr with
  | nil =>
    exact ⟨fun _ => rfl, fun _ hqs => absurd hqs List.not_mem_nil, List.nil_subset _,
      List.nil_subset _⟩
  | snoc hr hs ih =>
    rw [foundIn_snoc]
    exact ih.step (CommunityState.took_of_step hs)

/-! ## The answers -/

/-- If the step taps a question, then its screen reads the answers of that question, and whatever
is answered there is stored under it. -/
def StoresUnder (s : CommunityState) (e : CommunityEvent) : Prop :=
  ∀ row q, e = .didSelectRowAt row → s.vc.filtered[row]? = some q →
    ∃ vc, s.vc.didSelectRowAt row = some vc ∧ vc.loadAnswers = q.documentId ∧
      ∀ me desc createDate id answer, (vc.answer me desc).post createDate = some (id, answer) →
        id = q.documentId

/-- If the step taps a question, then of all questions of its title that the loads have found it
was found last. -/
def FoundLast (h : List (CommunityState × CommunityEvent)) (s : CommunityState)
    (e : CommunityEvent) : Prop :=
  ∀ row q, e = .didSelectRowAt row → s.vc.filtered[row]? = some q →
    lastOf q.title (foundIn h) = some q.documentId

/-- What is answered is stored under the document that the dictionary holds. -/
lemma QuestionDetail.answer_post {vc : QuestionDetail} {me : User} {desc : String}
    {createDate : Timestamp} {p : String × Dictionary}
    (hp : (vc.answer me desc).post createDate = some p) : p.1 = vc.docID := by
  obtain ⟨answersDictionary, -, rfl⟩ := Option.map_eq_some_iff.mp hp
  rfl

/-- Something can be answered. -/
lemma QuestionDetail.exists_answer (vc : QuestionDetail) :
    ∃ me desc createDate answer,
      (vc.answer me desc).post createDate = some (vc.docID, answer) := by
  refine ⟨⟨"", "", "", none⟩, "a", 0, ?_⟩
  simp [answer, AnswerQuestion.post, AnswerQuestion.validatedData, AnswerQuestion.placeHolder]

/-- A question that was found has a last one of its title. -/
lemma lastOf_ne_none {q : Question} {qs : List Question} (hq : q ∈ qs) :
    lastOf q.title qs ≠ none := by
  intro hnone
  have hfilter : q ∈ qs.filter fun q' => q'.title = q.title := List.mem_filter.mpr ⟨hq, by simp⟩
  rw [lastOf, Option.map_eq_none_iff, List.getLast?_eq_none_iff] at hnone
  rw [hnone] at hfilter
  cases hfilter

/-- When the answers to a tapped question are stored under it. -/
lemma stores_under_step_iff (hr : Run (CommunityState.step range) (.start ID name) h s)
    (e : CommunityEvent) : StoresUnder s e ↔ FoundLast h s e := by
  have hi := community_inv hr
  refine forall_congr' fun row => forall_congr' fun q => forall_congr' fun he =>
    forall_congr' fun hq => ?_
  have hmem : q ∈ foundIn h := hi.questions (hi.filtered (List.mem_of_getElem? hq))
  obtain ⟨id, hid⟩ := Option.ne_none_iff_exists'.mp (lastOf_ne_none hmem)
  have hrow : s.vc.didSelectRowAt row = some
      { docID := id, comID := s.vc.ID, QV := q.title, BV := q.body, question := q } := by
    simp [Community.didSelectRowAt, hq, hi.ids, hid]
  rw [hid]
  constructor
  · rintro ⟨vc, hvc, -, hstored⟩
    obtain rfl := Option.some.inj (hrow.symm.trans hvc)
    obtain ⟨me, desc, createDate, answer, hpost⟩ := QuestionDetail.exists_answer _
    rw [← hstored me desc createDate _ answer hpost]
  · intro hlast
    refine ⟨_, hrow, rfl, fun me desc createDate id' answer hpost => ?_⟩
    exact (QuestionDetail.answer_post hpost).trans (Option.some.inj hlast)

/-- The condition is met if the questions found under different documents have different
titles. -/
theorem foundLast_of_titles (hr : Run (CommunityState.step range) (.start ID name) h s)
    (htitles : ∀ q ∈ foundIn h, ∀ q' ∈ foundIn h, q.title = q'.title →
      q.documentId = q'.documentId) (e : CommunityEvent) : FoundLast h s e := by
  intro row q _ hq
  have hi := community_inv hr
  have hmem : q ∈ foundIn h := hi.questions (hi.filtered (List.mem_of_getElem? hq))
  obtain ⟨id, hid⟩ := Option.ne_none_iff_exists'.mp (lastOf_ne_none hmem)
  obtain ⟨q', hq', rfl⟩ := Option.map_eq_some_iff.mp hid
  obtain ⟨hmem', htitle⟩ := List.mem_filter.mp (List.mem_of_getLast? hq')
  rw [hid, htitles q hmem q' hmem' (of_decide_eq_true htitle).symm]

/-- The document `id` of a question of the community "c" about rings. -/
def ringsDocument (id : String) : QuestionDocument :=
  ⟨id, [("ID", .string "c"), ("Title", .string "Rings?"), ("createDate", .timestamp 0)]⟩

/-- The list is loaded from the documents `ids`, and the first row is tapped. -/
def tapFirst (ids : List String) : List CommunityEvent :=
  [.loadQuestions, .answer (some (ids.map ringsDocument)), .main, .didSelectRowAt 0]

end Aoun
