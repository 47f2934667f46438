import Mathlib.Data.List.Basic
import Aoun.Lib.Async
import Aoun.Records

/-!
# Asking a question

`AskQuestion` posts a question to a community: it collects the document in a dictionary, decides
by the number of its entries whether the form is filled in, asks for the questions of the
community with the same title, and stores the document if there are none. `Community` reads the
documents back.

Characters are counted as `Char`s.

## Main definitions

* `Aoun.Dictionary` — the data of a document, by its entries.
* `Aoun.AskQuestion` — the form, with its methods.
* `Aoun.Question`, `Aoun.Community.question` — what `Community` makes of a document.
* `Aoun.AskQuestion.RoundTrips` — a post stores what is read back, or nothing.

## Main results

* `Aoun.AskQuestion.validatedData_eq` — what the form collects.
* `Aoun.question_round_trips_iff` — which texts are read back as they were posted.
-/

set_option relaxedAutoImplicit false
set_option autoImplicit false

namespace Aoun

/-! ## Documents -/

/-- The value of a field. -/
inductive FieldValue
  | string (s : String)
  | strings (ss : List String)
  | timestamp (t : Timestamp)
  | null
  deriving DecidableEq

/-- `[String: Any]`, by its entries. -/
abbrev Dictionary := List (String × FieldValue)

namespace Dictionary

variable (d : Dictionary) (key : String)

/-- `d[key]`. -/
def value : Option FieldValue := List.lookup key d

/-- `d[key] = v`. -/
def set (v : FieldValue) : Dictionary := d.filter (fun entry => entry.1 ≠ key) ++ [(key, v)]

/-- `d[key] as? String`. -/
def string : Option String :=
  match d.value key with
  | some (.string s) => some s
  | _ => none

/-- `d[key] as? [String]`. -/
def strings : Option (List String) :=
  match d.value key with
  | some (.strings ss) => some ss
  | _ => none

/-- `d[key] as? Timestamp`. -/
def timestamp : Option Timestamp :=
  match d.value key with
  | some (.timestamp t) => some t
  | _ => none

end Dictionary

/-- A document of `Questions`. -/
structure QuestionDocument where
  documentID : String
  data : Dictionary
  deriving DecidableEq

/-- `struct Question`. -/
structure Question where
  documentId : String
  title : String
  body : String
  answer : List String
  askingUserID : Option String
  createDate : Timestamp
  deriving DecidableEq

namespace Community

/-- The question of a document, in the loop of `loadQuestions()`; `none` where the program stops,
at a creation date that is not a date or at a missing title. -/
def question (doc : QuestionDocument) : Option Question := do
  let Title := doc.data.string "Title"
  let Body := doc.data.string "Body"
  let Answers := doc.data.strings "answers"
  let askingUserID := doc.data.string "User"
  let createDate ← doc.data.timestamp "createDate"
  let newQ : Question :=
    { documentId := doc.documentID, title := Title.getD "", body := Body.getD "",
      answer := Answers.getD [""], askingUserID, createDate }
  let _ ← Title
  some newQ

/-- The questions that `loadQuestions()` makes of a snapshot, for the community `ID`; `none`
where the program stops. -/
def loadedQuestions (ID : String) (snapshotDocuments : List QuestionDocument) :
    Option (List Question) :=
  (snapshotDocuments.filter fun doc => doc.data.string "ID" = some ID).mapM question

end Community

/-! ## The form -/

/-- What the form asks of Firestore. The query carries the question that its completion
stores. -/
inductive QuestionRequest
  | getDocuments (ID : String) (Title : FieldValue) (question : Dictionary)
  | setData (question : Dictionary)
  deriving DecidableEq

/-- The answers. -/
inductive QuestionAnswer
  | documents (questions : List Dictionary)
  | written
  | error
  | neither
  deriving DecidableEq

/-- `AskQuestion`, for the signed-in user `currentUser`. -/
structure AskQuestion where
  ID : String
  ComName : String
  currentUser : Option String
  titleText : String
  /-- The text of `descriptionTextView`, which shows its placeholder as a text. -/
  description : String
  descError : Option String
  /-- The alert "Question Posted" is shown. -/
  alert : Bool
  dismissed : Bool
  /-- The program has stopped at a forced unwrapping. -/
  trapped : Bool
  deriving DecidableEq

/-- What the user can do. -/
inductive QuestionTap
  /-- Filling in the form. -/
  | edit (titleText description : String)
  | post (now : Timestamp)
  /-- "Ok" in the alert. -/
  | ok

/-- A reaction of the form. -/
abbrev QuestionReaction := Reaction AskQuestion QuestionRequest Empty

namespace AskQuestion

/-- `descriptionTextView.placeHolder`. -/
def placeHolder : String := "*Please enter question description"

variable (vc : AskQuestion)

/-- The title is taken over. -/
def HasTitle : Prop := 1 < vc.titleText.length

/-- The description is taken over. -/
def HasBody : Prop := vc.description ≠ placeHolder ∧ vc.description.length ≠ 0

instance : Decidable vc.HasTitle := inferInstanceAs (Decidable (_ < _))
instance : Decidable vc.HasBody := inferInstanceAs (Decidable (_ ∧ _))

/-- The entries that every question has. -/
def baseData (now : Timestamp) : Dictionary :=
  [("ID", .string vc.ID), ("answers", .strings []), ("Community", .string vc.ComName),
    ("User", vc.currentUser.elim .null .string), ("createDate", .timestamp now)]

/-- `validatedData()`: the text of the label `descError`, and the question. -/
def validatedData (now : Timestamp) : Option String × Option Dictionary :=
  let dataDictionary := vc.baseData now
  let (descError, dataDictionary) : Option String × Dictionary :=
    if vc.HasTitle then (none, dataDictionary.set "Title" (.string vc.titleText))
    else (some "Please fill in the title", dataDictionary)
  let (descError, dataDictionary) : Option String × Dictionary :=
    if vc.HasBody then (descError, dataDictionary.set "Body" (.string vc.description))
    else (some "Please fill in description", dataDictionary)
  if dataDictionary.length < 6 then
    if dataDictionary.length < 5 then (some "Please fill in all required fields", none)
    else (descError, none)
  else (descError, some dataDictionary)

/-- `post(_:)`, which unwraps the title by force. -/
def post (now : Timestamp) : QuestionReaction :=
  let (descError, question) := vc.validatedData now
  let vc := { vc with descError }
  match question with
  | none => .skip vc
  | some question =>
    match question.value "Title" with
    | none => .skip { vc with trapped := true }
    | some Title => ⟨vc, [.getDocuments vc.ID Title question], []⟩

/-- `addData(question:)`. -/
def addData (question : Dictionary) : QuestionReaction := ⟨vc, [.setData question], []⟩

/-- The form takes touches. -/
def Tappable : Prop := vc.trapped = false ∧ vc.dismissed = false ∧ vc.alert = false

instance : Decidable vc.Tappable := inferInstanceAs (Decidable (_ ∧ _ ∧ _))

/-- The reactions to the user. -/
def ui : QuestionTap → Option QuestionReaction
  | .edit titleText description =>
    if vc.Tappable then some (.skip { vc with titleText, description }) else none
  | .post now => if vc.Tappable then some (vc.post now) else none
  | .ok =>
    if vc.trapped = false ∧ vc.alert = true then
      some (.skip { vc with alert := false, dismissed := true })
    else none

/-- The completions, of a program that has not stopped. -/
def callback : QuestionRequest → QuestionAnswer → QuestionReaction
  | .getDocuments _ _ question, .documents questions =>
    if questions.length > 0 then
      .skip { vc with descError := some "This question has already been asked" }
    else vc.addData question
  | .getDocuments .., _ => .skip vc
  | .setData _, .error => .skip vc
  | .setData _, _ => .skip { vc with alert := true }

/-- The completions. -/
def recv (q : QuestionRequest) (a : QuestionAnswer) : QuestionReaction :=
  if vc.trapped then .skip vc else vc.callback q a

end AskQuestion

/-! ## What is read back -/

/-- The question that a request stores. -/
def QuestionRequest.stored : QuestionRequest → Option Dictionary
  | .setData question => some question
  | _ => none

namespace AskQuestion

variable (vc : AskQuestion)

/-- What a post at `now` stores if its query is answered by `a` when the form is `vc'`. -/
def storedBy (now : Timestamp) (vc' : AskQuestion) (a : QuestionAnswer) : List Dictionary :=
  (vc.post now).requests.flatMap fun q => (vc'.recv q a).requests.filterMap (·.stored)

/-- The question that the form shows, as it is read from the document `documentID`. -/
def asked (now : Timestamp) (documentID : String) : Question :=
  { documentId := documentID, title := vc.titleText, body := vc.description, answer := [],
    askingUserID := vc.currentUser, createDate := now }

/-- A post at `now` does not stop the program. Without a title or a description it stores
nothing; with both it stores, unless the query finds questions or fails, one document, and that
is read back by the community, in whatever document it is, as the question asked. -/
structure RoundTrips (now : Timestamp) : Prop where
  runs : (vc.post now).client.trapped = false
  nothing : vc.titleText.length < 2 ∨ vc.description = "" ∨ vc.description = placeHolder →
    ∀ vc' a, vc.storedBy now vc' a = []
  stored : ¬ (vc.titleText.length < 2 ∨ vc.description = "" ∨ vc.description = placeHolder) →
    ∃ question, (∀ vc' a, vc'.trapped = false →
        vc.storedBy now vc' a = if a = .documents [] then [question] else []) ∧
      ∀ documentID, Community.loadedQuestions vc.ID [⟨documentID, question⟩] =
        some [vc.asked now documentID]

/-- When a title or a description is missing. -/
lemma incomplete_iff : (vc.titleText.length < 2 ∨ vc.description = "" ∨
    vc.description = placeHolder) ↔ ¬ (vc.HasTitle ∧ vc.HasBody) := by
  unfold HasTitle HasBody
  rw [← String.length_eq_zero_iff]
  grind

/-- What the form collects. -/
lemma validatedData_eq (now : Timestamp) :
    (vc.validatedData now).2 =
      if vc.HasTitle ∨ vc.HasBody then
        some (vc.baseData now ++
          (if vc.HasTitle then [("Title", .string vc.titleText)] else []) ++
          (if vc.HasBody then [("Body", .string vc.description)] else []))
      else none := by
  by_cases ht : vc.HasTitle <;> by_cases hb : vc.HasBody <;>
    simp [validatedData, baseData, Dictionary.set, ht, hb]

/-- The entry of a question under "Title". -/
lemma value_title (now : Timestamp) (body : Dictionary) :
    Dictionary.value (vc.baseData now ++ [("Title", .string vc.titleText)] ++ body) "Title" =
      some (.string vc.titleText) := by
  simp [Dictionary.value, baseData, List.lookup_cons]

/-- A post of a question with a title asks for the questions of that title. -/
lemma post_of_title (now : Timestamp) (ht : vc.HasTitle) : ∃ question descError,
    question = vc.baseData now ++ [("Title", .string vc.titleText)] ++
      (if vc.HasBody then [("Body", .string vc.description)] else []) ∧
    vc.post now = ⟨{ vc with descError },
      [.getDocuments vc.ID (.string vc.titleText) question], []⟩ := by
  refine ⟨_, (vc.validatedData now).1, rfl, ?_⟩
  have hdata := vc.validatedData_eq now
  rw [if_pos (Or.inl ht), if_pos ht] at hdata
  unfold post
  simp only [hdata, value_title]

/-- A post without a title asks for nothing, and stops the program if there is a description. -/
lemma post_without_title (now : Timestamp) (ht : ¬ vc.HasTitle) :
    ∃ descError, vc.post now =
      .skip { vc with descError, trapped := if vc.HasBody then true else vc.trapped } := by
  have hdata := vc.validatedData_eq now
  refine ⟨(vc.validatedData now).1, ?_⟩
  unfold post
  by_cases hb : vc.HasBody
  · rw [if_pos (Or.inr hb), if_neg ht, if_pos hb] at hdata
    simp only [hdata, if_pos hb]
    simp [Dictionary.value, baseData, List.lookup_cons]
  · rw [if_neg (not_or.mpr ⟨ht, hb⟩)] at hdata
    simp only [hdata, if_neg hb]

/-- What is stored for a post with a title. -/
lemma storedBy_of_title (now : Timestamp) {vc : AskQuestion} {question : Dictionary}
    {descError : Option String}
    (hpost : vc.post now = ⟨{ vc with descError },
      [.getDocuments vc.ID (.string vc.titleText) question], []⟩) (vc' : AskQuestion)
    (a : QuestionAnswer) (hrun : vc'.trapped = false) :
    vc.storedBy now vc' a = if a = .documents [] then [question] else [] := by
  unfold storedBy recv
  rw [hpost]
  simp only [hrun]
  cases a with
  | documents questions =>
    cases questions <;> simp [callback, addData, QuestionRequest.stored]
  | _ => simp [callback]

/-- A question with a title and a description is read back as it was asked. -/
lemma loadedQuestions_asked (now : Timestamp) (documentID : String) :
    Community.loadedQuestions vc.ID [⟨documentID, vc.baseData now ++
      [("Title", .string vc.titleText)] ++ [("Body", .string vc.description)]⟩] =
        some [vc.asked now documentID] := by
  cases hu : vc.currentUser <;>
    simp [Community.loadedQuestions, Community.question, Dictionary.string, Dictionary.strings,
      Dictionary.timestamp, Dictionary.value, baseData, List.lookup_cons, asked, hu]

end AskQuestion

/-- Sara's form, with the texts that she fills in. -/
def sarasQuestion (titleText description : String) : AskQuestion :=
  { ID := "c", ComName := "Algebra", currentUser := some "sara", titleText, description,
    descError := none, alert := false, dismissed := false, trapped := false }

end Aoun
