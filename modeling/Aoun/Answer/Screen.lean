import Mathlib.Data.List.Sort
import Aoun.Lib.Async
import Aoun.Community.Answers
import Aoun.TextView

/-!
# The answers to a question

`QuestionDetail` loads the answers to its question once, when it is opened, and presents
`AnswerQuestion`, which stores an answer and hands it to the list. What is loaded is assigned in a
block of the main queue, which runs later than the completion that makes it, and takes the place of
what is listed by then. The answers are loaded under the id of the question, and stored under the
one that `Aoun.Community` has found for its title.

The notification of the user who asked is the matter of `Aoun.Session.Addressee`; the list of
questions, which the screen asks to load again, of `Aoun.Community.Answers`. The order of answers
of the same time is that of their ids, which are random, so that a new one gets any place in it.

## Main definitions

* `Aoun.Answer` — an answer, with its dictionary.
* `Aoun.AnswerForm` — `AnswerQuestion`, with its text view.
* `Aoun.AnswerScreen` — `QuestionDetail` with its answers and the form that it has presented.
* `Aoun.answerSystem` — any number of screens over one server.
-/

set_option relaxedAutoImplicit false
set_option autoImplicit false

namespace Aoun

/-! ## Answers -/

/-- `struct Answer`, without `documentID`, which is never set. -/
structure Answer where
  answer : String
  createDate : Timestamp
  user : String
  username : String
  deriving DecidableEq

namespace Answer

/-- `dictionary`. -/
def dictionary (a : Answer) : Dictionary :=
  [("answer", .string a.answer), ("createDate", .timestamp a.createDate),
    ("user", .string a.user), ("username", .string a.username)]

/-- `init?(dictionary:)`. -/
def ofDictionary (d : Dictionary) : Option Answer := do
  let answer ← d.string "answer"
  let createDate ← d.timestamp "createDate"
  let user ← d.string "user"
  let username ← d.string "username"
  some { answer, createDate, user, username }

end Answer

/-! ## The form -/

/-- `AnswerQuestion`, as far as the user fills it in, for the user that the app has loaded when it
is opened. -/
structure AnswerForm where
  me : Option User
  desc : RPTTextView UIColor
  descError : Option String
  /-- The alert "Answer Posted" is presented. -/
  alert : Bool

namespace AnswerForm

/-- `viewDidLoad()`. -/
def viewDidLoad (thisUser : Option User) : AnswerForm :=
  let view : RPTTextView UIColor :=
    { text := "", textColor := some .labelColor, localTextColor := none, placeHolder := none,
      placeHolderColor := some .lightGray, characotrLimit := 240, isFirstResponder := false }
  let view := view.configure.setPlaceHolder (some AnswerQuestion.placeHolder)
  { me := thisUser, desc := view.setPlaceHolderColor (some .colorLiteral), descError := none,
    alert := false }

variable (form : AnswerForm)

/-- The answer is filled in. -/
def HasAnswer : Prop :=
  some form.desc.text ≠ form.desc.placeHolder ∧ form.desc.text.length ≠ 0

instance : Decidable form.HasAnswer := inferInstanceAs (Decidable (_ ∧ _))

/-- The answer is not filled in: `validatedData()` says so. -/
def missing : AnswerForm :=
  { form with
    desc := form.desc.setPlaceHolderColor (some .red), descError := some "Please add in answer." }

end AnswerForm

/-! ## The server -/

/-- The answers to each question, in the order of their ids. -/
structure AnswerServer where
  answers : String → List Dictionary

/-- What the screens ask of Firestore. -/
inductive AnswerRequest
  /-- The query of `loadAnswers()`. -/
  | loadAnswers (documentId : String)
  /-- The `addDocument` of `post(_:)`, by the form with the number `form`. -/
  | addDocument (ID : String) (answersDictionary : Dictionary) (form : ℕ)
  deriving DecidableEq

/-- What Firestore answers. -/
inductive AnswerReply
  | answers (documents : List Dictionary)
  | written
  | error
  | neither
  deriving DecidableEq

/-- The history records what is stored and read, what has arrived at a screen, and what it has put
into its list when it was stored. -/
inductive AnswerEffect
  | stored (answersDictionary : Dictionary)
  | read (documents : List Dictionary)
  | arrived (answers : List Answer)
  | inserted (answer : Answer)
  deriving DecidableEq

/-- The environment's choice: a request succeeds, and a new answer gets a place in the order of the
ids; or it fails, or ends with neither a result nor an error. -/
inductive AnswerChoice
  | success (place : ℕ)
  | error
  | neither
  deriving DecidableEq

/-- `order(by: "createDate", descending: true)`, which leaves out documents without the date. -/
def newestFirst (documents : List Dictionary) : List Dictionary :=
  (documents.filter fun d => d.timestamp "createDate" ≠ none).insertionSort
    fun d d' => (d'.timestamp "createDate").getD 0 ≤ (d.timestamp "createDate").getD 0

namespace AnswerServer

variable (s : AnswerServer)

/-- A new document of the answers to the question `ID`. -/
def addDocument (ID : String) (data : Dictionary) (place : ℕ) : AnswerServer where
  answers := Function.update s.answers ID
    ((s.answers ID).insertIdx (min place (s.answers ID).length) data)

@[simp] lemma addDocument_answers_self (ID : String) (data : Dictionary) (place : ℕ) :
    (s.addDocument ID data place).answers ID =
      (s.answers ID).insertIdx (min place (s.answers ID).length) data :=
  Function.update_self _ _ _

@[simp] lemma addDocument_answers_of_ne {ID id : String} (h : id ≠ ID) (data : Dictionary)
    (place : ℕ) : (s.addDocument ID data place).answers id = s.answers id :=
  Function.update_of_ne h _ _

/-- How the server handles a request. -/
def serve : AnswerRequest → AnswerChoice → Served AnswerServer AnswerReply AnswerEffect
  | .loadAnswers documentId, .success _ =>
    let documents := newestFirst (s.answers documentId)
    ⟨s, .answers documents, [.read documents]⟩
  | .addDocument ID answersDictionary _, .success place =>
    ⟨s.addDocument ID answersDictionary place, .written, [.stored answersDictionary]⟩
  | _, .error => ⟨s, .error, []⟩
  | _, .neither => ⟨s, .neither, []⟩

end AnswerServer

/-! ## The screens -/

/-- `QuestionDetail`, with its answers. -/
structure AnswerScreen where
  detail : QuestionDetail
  answers : List Answer
  /-- The text of the label `empty`. -/
  empty : String
  /-- The label has been taken away. -/
  emptyRemoved : Bool
  /-- The blocks of `loadAnswers()` on the main queue, oldest first. -/
  main : List (List Answer)
  /-- The form that is presented. -/
  form : Option AnswerForm
  /-- The number of forms presented so far. -/
  forms : ℕ
  /-- The program has stopped. -/
  trapped : Bool

/-- What can happen at a screen. -/
inductive AnswerTap
  /-- The oldest block of the main queue runs. -/
  | main
  /-- `answer(_:)`, where the app has loaded `thisUser`. -/
  | answer (thisUser : Option User)
  /-- Something happens to the text. -/
  | desc (e : TextViewEvent UIColor)
  | post (now : Timestamp)
  /-- "Ok" in the alert. -/
  | ok
  /-- The form is pulled down. -/
  | dismiss
  deriving DecidableEq

/-- A reaction of a screen. -/
abbrev AnswerReaction := Reaction AnswerScreen AnswerRequest AnswerEffect

namespace AnswerScreen

variable (vc : AnswerScreen)

/-- `check()`, up to the list of questions. -/
def check : AnswerScreen :=
  if vc.answers.length = 0 then { vc with empty := "Hasn't been answered yet" }
  else { vc with empty := "", emptyRemoved := true }

/-- `loadAnswers()`. Firestore stops the program when the id of a document is empty. -/
def loadAnswers : AnswerReaction :=
  if vc.detail.loadAnswers = "" then .skip { vc with trapped := true }
  else ⟨vc, [.loadAnswers vc.detail.loadAnswers], []⟩

/-- `viewDidLoad()`, up to the query of `loadUserData(_:)`, which forces the user who asked. -/
def viewDidLoad (detail : QuestionDetail) : AnswerReaction :=
  (loadAnswers { detail := detail, answers := [], empty := "", emptyRemoved := false, main := [],
                 form := none, forms := 0, trapped := false }).next fun vc =>
    .skip (if vc.trapped then vc
      else { vc.check with trapped := decide (vc.detail.question.askingUserID = none) })

/-- `post(_:)` of the form. The user is forced when the answer is filled in. -/
def post (form : AnswerForm) (now : Timestamp) : AnswerReaction :=
  if form.HasAnswer then
    match form.me with
    | none => .skip { vc with trapped := true }
    | some me =>
      let vc := { vc with form := some { form with descError := none } }
      match (vc.detail.answer me form.desc.text).post now with
      | none => .skip vc
      | some (ID, answersDictionary) =>
        if ID = "" then .skip { vc with trapped := true }
        else ⟨vc, [.addDocument ID answersDictionary vc.forms], []⟩
  else .skip { vc with form := some form.missing }

/-- `answer(_:added:successfully:)` of the delegate, for an answer that is stored. -/
def insertAnswer : Option Answer → AnswerScreen
  | none => vc
  | some a => { vc with answers := a :: vc.answers }.check

/-- The reactions to the user and to the main queue. -/
def ui (u : AnswerTap) : Option AnswerReaction :=
  if vc.trapped then none
  else
    match u, vc.form with
    | .main, _ =>
      match vc.main with
      | [] => none
      | answers :: main => some (.skip { vc with answers := answers, main := main }.check)
    | .answer thisUser, none =>
      some (.skip { vc with form := some (.viewDidLoad thisUser), forms := vc.forms + 1 })
    | .ok, some form => if form.alert then some (.skip { vc with form := none }) else none
    | u, some form =>
      if form.alert then none
      else
        match u with
        | .desc (.placeHolderColor _) => none
        | .desc e => (form.desc.step e).map fun view =>
          .skip { vc with form := some { form with desc := view } }
        | .post now => some (vc.post form now)
        | .dismiss => some (.skip { vc with form := none })
        | _ => none
    | _, none => none

/-- The completion of `addDocument`, of an answer that is stored. The alert is presented on the
form that has posted it, unless that is gone or presents an alert already. -/
def answerPosted (answersDictionary : Dictionary) (number : ℕ) : AnswerScreen :=
  let vc := vc.insertAnswer (Answer.ofDictionary answersDictionary)
  match vc.form with
  | some form =>
    if vc.forms = number ∧ form.alert = false then
      { vc with form := some { form with alert := true } }
    else vc
  | none => vc

/-- The completions of a program that has not stopped. -/
def callback : AnswerRequest → AnswerReply → AnswerReaction
  | .loadAnswers _, .answers documents =>
    .skip { vc with main := vc.main ++ [documents.filterMap Answer.ofDictionary] }
  | .addDocument _ answersDictionary number, .written =>
    ⟨vc.answerPosted answersDictionary number, [],
      (Answer.ofDictionary answersDictionary).toList.map .inserted⟩
  | _, _ => .skip vc

/-- The answers that a reply brings to the screen. -/
def arrived : AnswerRequest → AnswerReply → List Answer
  | .loadAnswers _, .answers documents => documents.filterMap Answer.ofDictionary
  | .addDocument _ answersDictionary _, .written =>
    (Answer.ofDictionary answersDictionary).toList
  | _, _ => []

/-- The completions. -/
def recv (q : AnswerRequest) (a : AnswerReply) : AnswerReaction :=
  (⟨vc, [], [.arrived (arrived q a)]⟩ : AnswerReaction).next fun vc =>
    if vc.trapped then .skip vc else vc.callback q a

end AnswerScreen

/-- Any number of screens over one server. -/
def answerSystem : AsyncSystem AnswerServer AnswerScreen QuestionDetail AnswerTap AnswerRequest
    AnswerChoice AnswerReply Unit AnswerEffect where
  boot := AnswerScreen.viewDidLoad
  ui := AnswerScreen.ui
  serve := AnswerServer.serve
  recv := fun vc q a _ => vc.recv q a

/-- The states of the system of answers. -/
abbrev AnswerWorld :=
  AsyncSystem.World AnswerServer AnswerScreen AnswerRequest AnswerReply AnswerEffect

/-- What can happen in it. -/
abbrev AnswerEvent := AsyncSystem.Event QuestionDetail AnswerTap AnswerChoice Unit

end Aoun
