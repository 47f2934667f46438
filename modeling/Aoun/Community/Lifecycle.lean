import Aoun.Community.Dashboard
import Aoun.TextView

/-!
# From a request to a community

`RequestCommunityController`, the form that asks for a community, the administrator's screens of
`Aoun.Community.Dashboard`, and `CommunityViewController`, which lists the communities, over one
server. No screen looks at a text again that another one has taken over: that every community has
the title and the description of a form that was filled in is a fact about all of them.

A new document gets an id that no other has. The order in which queries list documents is left
out, as are the colors of the title field and what the screens only show.

## Main definitions

* `Aoun.RequestCommunityController` — the form, with its methods.
* `Aoun.CommunityViewController` — the list of the communities.
* `Aoun.communitySystem` — any number of the three kinds of screens over one server.
* `Aoun.FilledIn` — a title and a description that the form accepts.

## Main results

* `Aoun.dashboards_steady` — no decision of an administrator stops the program or is for another
  request than the row that was opened.
* `Aoun.communities_filled_in` — every community comes from a form that was filled in.
-/

set_option relaxedAutoImplicit false
set_option autoImplicit false

namespace Aoun

open AsyncSystem AsyncSystem.World StepSystem

/-- The limit of `nameTextField`. -/
def K_TitleLimit : ℕ := 24

/-! ## The form -/

/-- `RequestCommunityController`. -/
structure RequestCommunityController where
  nameTextField : String
  descriptionTextView : RPTTextView UIColor
  inputError : Option String
  /-- The alert "Request sent" is shown. -/
  alert : Bool
  dismissed : Bool

/-- What the user can do. -/
inductive RequestCommunityTap
  /-- An edit of the title is proposed: `length` characters at `location` are replaced. -/
  | changeTitle (location length : ℕ) (string : String)
  /-- Something happens to the description. -/
  | description (e : TextViewEvent UIColor)
  | submit
  /-- "Ok" in the alert. -/
  | ok

namespace RequestCommunityController

/-- `descriptionTextView.placeHolder`. -/
def placeHolder : String := "*Description"

variable (vc : RequestCommunityController)

/-- `viewDidLoad()` of the form, as the storyboard has it. -/
def viewDidLoad : RequestCommunityController :=
  let view : RPTTextView UIColor :=
    { text := "", textColor := some .labelColor, localTextColor := none, placeHolder := none,
      placeHolderColor := some .lightGray, characotrLimit := 0, isFirstResponder := false }
  let view := { view.configure with characotrLimit := K_DescriptionLimit }
  let view := (view.setPlaceHolderColor (some .colorLiteral)).setPlaceHolder (some placeHolder)
  { nameTextField := "", descriptionTextView := view, inputError := none, alert := false,
    dismissed := false }

/-- `textField(_:shouldChangeCharactersIn:replacementString:)`. -/
def shouldChangeCharactersIn (location length : ℕ) (string : String) : Bool :=
  (replacingCharacters vc.nameTextField location length string).length < K_TitleLimit

/-- The title is taken over. -/
def HasTitle : Prop := 1 < vc.nameTextField.length

/-- The description is taken over. -/
def HasDescription : Prop :=
  vc.descriptionTextView.text ≠ placeHolder ∧ vc.descriptionTextView.text.length ≠ 0

instance : Decidable vc.HasTitle := inferInstanceAs (Decidable (_ < _))
instance : Decidable vc.HasDescription := inferInstanceAs (Decidable (_ ∧ _))

/-- `validatedData()`. -/
def validatedData : RequestCommunityController × Option Dictionary :=
  let vc := { vc with inputError := none }
  let (vc, dataDictionary) : RequestCommunityController × Dictionary :=
    if vc.HasTitle then (vc, Dictionary.set [] "Title" (.string vc.nameTextField))
    else ({ vc with inputError := some "Please fill in title field" }, [])
  let (vc, dataDictionary) : RequestCommunityController × Dictionary :=
    if vc.HasDescription then
      (vc, dataDictionary.set "Description" (.string vc.descriptionTextView.text))
    else
      ({ vc with
        descriptionTextView := vc.descriptionTextView.setPlaceHolderColor (some .red)
        inputError := some "Please fill in description field" }, dataDictionary)
  if dataDictionary.length < 2 then
    if dataDictionary.length = 0 then
      ({ vc with inputError := some "Please fill in all required fields" }, none)
    else (vc, none)
  else (vc, some dataDictionary)

/-- The form takes touches. -/
def Tappable : Prop := vc.alert = false ∧ vc.dismissed = false

instance : Decidable vc.Tappable := inferInstanceAs (Decidable (_ ∧ _))

/-- What the form finds in its fields, as the user has filled them in. -/
def filled : Dictionary :=
  [("Title", .string vc.nameTextField), ("Description", .string vc.descriptionTextView.text)]

/-- **What the form makes of its fields.** It takes over both or neither, and keeps them; the error
names the field that is missing, or all of them. -/
lemma validatedData_cases :
    (vc.HasTitle ∧ vc.HasDescription ∧
      vc.validatedData = ({ vc with inputError := none }, some vc.filled)) ∨
    (¬ (vc.HasTitle ∧ vc.HasDescription) ∧ vc.validatedData.2 = none ∧
      vc.validatedData.1.nameTextField = vc.nameTextField ∧
      (vc.validatedData.1.descriptionTextView = vc.descriptionTextView ∨
        vc.validatedData.1.descriptionTextView =
          vc.descriptionTextView.setPlaceHolderColor (some .red)) ∧
      vc.validatedData.1.inputError =
        if vc.HasTitle then some "Please fill in description field"
        else if vc.HasDescription then some "Please fill in title field"
        else some "Please fill in all required fields") := by
  have htitle : ({ vc with inputError := none } : RequestCommunityController).HasTitle ↔
      vc.HasTitle := Iff.rfl
  have hdesc : ∀ error, ({ vc with inputError := error } :
      RequestCommunityController).HasDescription ↔ vc.HasDescription := fun _ => Iff.rfl
  unfold validatedData
  by_cases ht : vc.HasTitle <;> by_cases hd : vc.HasDescription
  · exact Or.inl ⟨ht, hd, by simp [htitle, hdesc, ht, hd, Dictionary.set, filled]⟩
  · exact Or.inr ⟨by simp [hd], by simp [htitle, hdesc, ht, hd, Dictionary.set]⟩
  · exact Or.inr ⟨by simp [ht], by simp [htitle, hdesc, ht, hd, Dictionary.set]⟩
  · exact Or.inr ⟨by simp [ht], by simp [htitle, hdesc, ht, hd]⟩

/-- `submit(_:)`. -/
def submit : RequestCommunityController × Option Dictionary :=
  match vc.validatedData with
  | (vc, none) => (vc, none)
  | (vc, some data) => ({ vc with inputError := some "" }, some data)

/-- The form and what it stores after what the user does; `none` where that is not possible. -/
def ui : RequestCommunityTap → Option (RequestCommunityController × Option Dictionary)
  | .changeTitle location length string =>
    if vc.Tappable ∧ location + length ≤ vc.nameTextField.length then
      some (if vc.shouldChangeCharactersIn location length string then
        { vc with nameTextField := replacingCharacters vc.nameTextField location length string }
        else vc, none)
    else none
  | .description (.placeHolderColor _) => none
  | .description e =>
    if vc.Tappable then
      (vc.descriptionTextView.step e).map fun view =>
        ({ vc with descriptionTextView := view }, none)
    else none
  | .submit => if vc.Tappable then some vc.submit else none
  | .ok =>
    if vc.alert = true ∧ vc.dismissed = false then
      some ({ vc with alert := false, dismissed := true }, none)
    else none

/-- The completion of `setData`, which has an error or not. -/
def requestSent (error : Bool) : RequestCommunityController :=
  if error then vc else { vc with alert := true }

end RequestCommunityController

/-- The form accepts the title and the description. -/
structure FilledIn (Title Description : String) : Prop where
  title : 1 < Title.length ∧ Title.length < K_TitleLimit
  description : 0 < Description.length ∧ (Description.length : ℤ) < K_DescriptionLimit
  written : Description ≠ RequestCommunityController.placeHolder

namespace RequestCommunityController

variable (vc : RequestCommunityController)

/-- The title and the description are within their limits. -/
structure Fits : Prop where
  title : vc.nameTextField.length < K_TitleLimit
  description : vc.descriptionTextView.Fits K_DescriptionLimit

variable {vc}

lemma viewDidLoad_fits : viewDidLoad.Fits := by
  refine ⟨by decide, rfl, by decide, fun p hp => ?_⟩
  obtain rfl := Option.some.inj hp
  decide

/-- What is submitted is filled in, and the form keeps its fields. -/
lemma submit_cases (h : vc.Fits) : vc.submit.1.Fits ∧
    ∀ data, vc.submit.2 = some data → ∃ Title Description, FilledIn Title Description ∧
      data.string "Title" = some Title ∧ data.string "Description" = some Description := by
  unfold submit
  rcases vc.validatedData_cases with ⟨htitle, hdesc, hdata⟩ | ⟨-, hnone, htitle, hview, -⟩
  · rw [hdata]
    refine ⟨⟨h.title, h.description⟩, fun data hd => ?_⟩
    obtain rfl := Option.some.inj hd
    refine ⟨vc.nameTextField, vc.descriptionTextView.text, ⟨⟨htitle, h.title⟩,
      ⟨Nat.pos_of_ne_zero hdesc.2, h.description.text⟩, hdesc.1⟩, rfl, rfl⟩
  · cases hval : vc.validatedData with
    | mk vc' data =>
      simp only [hval] at hnone htitle hview
      rw [hnone]
      refine ⟨⟨htitle ▸ h.title, ?_⟩, by simp⟩
      rcases hview with hview | hview
      · exact hview ▸ h.description
      · exact hview ▸
          ⟨h.description.characotrLimit, h.description.text, h.description.placeHolder⟩

/-- Whatever the user does, the form stays within its limits, and what is submitted is filled
in. -/
lemma ui_cases (h : vc.Fits) {u : RequestCommunityTap}
    {r : RequestCommunityController × Option Dictionary} (hr : vc.ui u = some r) : r.1.Fits ∧
    ∀ data, r.2 = some data → ∃ Title Description, FilledIn Title Description ∧
      data.string "Title" = some Title ∧ data.string "Description" = some Description := by
  unfold ui at hr
  split at hr
  case h_1 location length string =>
    simp only [Option.ite_none_right_eq_some, Option.some.injEq] at hr
    obtain ⟨-, rfl⟩ := hr
    refine ⟨?_, by simp⟩
    dsimp only
    split_ifs with hchange
    · exact ⟨of_decide_eq_true hchange, h.description⟩
    · exact h
  case h_2 => cases hr
  case h_3 e _ =>
    simp only [Option.ite_none_right_eq_some, Option.map_eq_some_iff] at hr
    obtain ⟨-, view, hview, rfl⟩ := hr
    exact ⟨⟨h.title, h.description.step hview⟩, by simp⟩
  case h_4 =>
    simp only [Option.ite_none_right_eq_some, Option.some.injEq] at hr
    obtain ⟨-, rfl⟩ := hr
    exact submit_cases h
  case h_5 =>
    simp only [Option.ite_none_right_eq_some, Option.some.injEq] at hr
    obtain ⟨-, rfl⟩ := hr
    exact ⟨⟨h.title, h.description⟩, by simp⟩

end RequestCommunityController

/-! ## The server -/

/-- A document of `Communities`, with its id. -/
structure CommunityRecord where
  documentID : String
  Title : String
  Description : String
  deriving DecidableEq

/-- The collections. -/
structure CommunityServer where
  Request : List RequestDoc
  Communities : List CommunityRecord

/-- What the screens ask of Firestore. -/
inductive CommunityAsk
  /-- The `setData` of a new document of `Request`. -/
  | submit (data : Dictionary)
  /-- What the administrator's screens ask for. -/
  | admin (q : AdminRequest)
  /-- The query of `loadCommunities()` of the list. -/
  | loadCommunities
  deriving DecidableEq

/-- The answers. -/
inductive CommunityAnswer
  | written
  | admin (a : AdminAnswer)
  | communities (documents : List CommunityRecord)
  | error
  | neither
  deriving DecidableEq

/-- The environment's choice: what is asked for succeeds, fails, or ends with neither a result nor
an error. A new document gets the id `documentID`; a query of requests leaves out the documents
`deleted`, whose deletion by the same device is still pending. -/
inductive CommunityChoice
  | success (documentID : String) (deleted : List String)
  | error
  | neither
  deriving DecidableEq

/-- How the server handles what is asked for. -/
def CommunityServer.serve (s : CommunityServer) :
    CommunityAsk → CommunityChoice → Served CommunityServer CommunityAnswer AdminEffect
  | .submit data, .success documentID _ =>
    ⟨{ s with Request := s.Request ++
        [⟨documentID, data.string "Title", data.string "Description"⟩] }, .written, []⟩
  | .admin .loadCommunities, .success _ deleted =>
    ⟨s, .admin (.requests (s.Request.filter fun d => d.documentID ∉ deleted)), []⟩
  | .admin (.setData TitleName desc doc), .success documentID _ =>
    ⟨{ s with Communities := s.Communities ++ [⟨documentID, TitleName, desc⟩] }, .admin .written,
      [.created doc]⟩
  | .admin (.delete doc), .success _ _ =>
    ⟨{ s with Request := s.Request.filter fun d => d.documentID ≠ doc }, .admin .written, []⟩
  | .loadCommunities, .success _ _ => ⟨s, .communities s.Communities, []⟩
  | .admin _, .error => ⟨s, .admin .error, []⟩
  | .admin _, .neither => ⟨s, .admin .neither, []⟩
  | _, .error => ⟨s, .error, []⟩
  | _, .neither => ⟨s, .neither, []⟩

/-! ## The screens -/

/-- `class CommunityObject`, apart from its questions, which are never set. -/
structure CommunityObject where
  description : String
  title : String
  ID : String
  deriving DecidableEq

/-- `CommunityViewController`. -/
structure CommunityViewController where
  communities : List CommunityObject
  deriving DecidableEq

/-- The completion of the query of `loadCommunities()`. -/
def CommunityViewController.communitiesFound (vc : CommunityViewController)
    (documents : List CommunityRecord) : CommunityViewController :=
  { vc with communities :=
      vc.communities ++ documents.map fun d => ⟨d.Description, d.Title, d.documentID⟩ }

/-- A screen. -/
inductive CommunityScreen
  | form (vc : RequestCommunityController)
  | dashboard (vc : AdminDashboard)
  | list (vc : CommunityViewController)

/-- The screens that can be opened. -/
inductive CommunityScreenKind
  | form
  | dashboard
  | list
  deriving DecidableEq

/-- What can be done on a screen. -/
inductive CommunityTap
  | form (u : RequestCommunityTap)
  | dashboard (u : AdminTap)

/-- A reaction of a screen. -/
abbrev CommunityReaction := Reaction CommunityScreen CommunityAsk AdminEffect

namespace CommunityScreen

/-- A reaction of the administrator's screens. -/
def ofDashboard (r : AdminReaction) : CommunityReaction :=
  ⟨.dashboard r.client, r.requests.map .admin, r.effects⟩

/-- `viewDidLoad()` of a screen. -/
def boot : CommunityScreenKind → CommunityReaction
  | .form => .skip (.form RequestCommunityController.viewDidLoad)
  | .dashboard => ofDashboard AdminDashboard.viewDidLoad
  | .list => ⟨.list ⟨[]⟩, [.loadCommunities], []⟩

/-- The reactions to the user. -/
def ui : CommunityScreen → CommunityTap → Option CommunityReaction
  | .form vc, .form u =>
    (vc.ui u).map fun r => ⟨.form r.1, (r.2.map CommunityAsk.submit).toList, []⟩
  | .dashboard vc, .dashboard u => (vc.ui u).map ofDashboard
  | _, _ => none

/-- The callbacks. -/
def recv : CommunityScreen → CommunityAsk → CommunityAnswer → CommunityReaction
  | .form vc, .submit _, .written => .skip (.form (vc.requestSent false))
  | .form vc, .submit _, .error => .skip (.form (vc.requestSent true))
  | .form vc, .submit _, _ => .skip (.form (vc.requestSent false))
  | .dashboard vc, .admin q, .admin a => ofDashboard (vc.recv q a)
  | .list vc, .loadCommunities, .communities documents =>
    .skip (.list (vc.communitiesFound documents))
  | screen, _, _ => .skip screen

end CommunityScreen

/-- Any number of the screens over one server. -/
def communitySystem : AsyncSystem CommunityServer CommunityScreen CommunityScreenKind CommunityTap
    CommunityAsk CommunityChoice CommunityAnswer Unit AdminEffect where
  boot := CommunityScreen.boot
  ui := CommunityScreen.ui
  serve := CommunityServer.serve
  recv := fun screen q a _ => screen.recv q a

/-- The states of the system. -/
abbrev LifecycleWorld :=
  AsyncSystem.World CommunityServer CommunityScreen CommunityAsk CommunityAnswer AdminEffect

/-- What can happen in it. -/
abbrev LifecycleEvent :=
  AsyncSystem.Event CommunityScreenKind CommunityTap CommunityChoice Unit

/-! ## The administrator's rows -/

namespace AdminDashboard

/-- The program goes on, and the details are those of the request in their row. -/
structure Steady (vc : AdminDashboard) : Prop where
  runs : vc.trapped = false
  listed : ∀ d, vc.details = some d → vc.requests[d.index]? = some ⟨d.TitleName, d.desc, d.doc⟩

variable {vc : AdminDashboard}

/-- A decision on the details finds their row. -/
lemma Steady.decide (h : vc.Steady) {d : CommunityDetailsViewController}
    (hd : vc.details = some d) :
    vc.delAt d.index = { vc with requests := vc.requests.eraseIdx d.index }.loadCommunities := by
  obtain ⟨hrow, -⟩ := List.getElem?_eq_some_iff.mp (h.listed d hd)
  rw [delAt, if_pos hrow]

/-- A touch keeps the details in their row. -/
lemma Steady.ui (h : vc.Steady) {u : AdminTap} {r : AdminReaction} (hr : vc.ui u = some r) :
    r.client.Steady := by
  simp only [AdminDashboard.ui, h.runs, Bool.false_eq_true, if_false] at hr
  split at hr
  case h_1 row _ =>
    split_ifs at hr with hrow
    obtain rfl := Option.some.inj hr
    have hget : vc.requests[row]? = some vc.requests[row] := List.getElem?_eq_getElem hrow
    simp only [Reaction.skip_client, didSelectRowAt, hget]
    exact ⟨h.runs, fun d hd => by obtain rfl := Option.some.inj hd; exact hget⟩
  case h_2 d hd =>
    split_ifs at hr
    obtain rfl := Option.some.inj hr
    refine ⟨?_, by simp [accept, dismiss]⟩
    simp [accept, h.decide hd, loadCommunities, dismiss, h.runs]
  case h_3 d hd =>
    split_ifs at hr
    obtain rfl := Option.some.inj hr
    refine ⟨rfl, fun d' hd' => ?_⟩
    obtain rfl := Option.some.inj hd'
    exact h.listed d hd
  case h_4 yes d hd =>
    split_ifs at hr
    · obtain rfl := Option.some.inj hr
      refine ⟨?_, by simp [confirmReject, dismiss]⟩
      simp [confirmReject, h.decide hd, loadCommunities, dismiss, h.runs]
    · obtain rfl := Option.some.inj hr
      refine ⟨rfl, fun d' hd' => ?_⟩
      obtain rfl := Option.some.inj hd'
      exact h.listed d hd
  case h_5 d hd =>
    split_ifs at hr
    obtain rfl := Option.some.inj hr
    exact ⟨h.runs, by simp [dismiss]⟩
  case h_6 => cases hr

/-- A touch keeps the rows, or empties the list to load it again. -/
lemma ui_rows {u : AdminTap} {r : AdminReaction} (hr : vc.ui u = some r) :
    r.client.requests = vc.requests ∨ r.client.requests = [] := by
  have hdel : ∀ index, (vc.delAt index).client.requests = vc.requests ∨
      (vc.delAt index).client.requests = [] := by
    intro index
    unfold delAt
    split_ifs
    · exact Or.inr rfl
    · exact Or.inl rfl
  unfold AdminDashboard.ui at hr
  split_ifs at hr
  split at hr
  · split_ifs at hr with hrow
    obtain rfl := Option.some.inj hr
    left
    unfold didSelectRowAt
    split <;> rfl
  · next d _ =>
    split_ifs at hr
    obtain rfl := Option.some.inj hr
    exact hdel d.index
  · split_ifs at hr
    obtain rfl := Option.some.inj hr
    exact Or.inl rfl
  · next d _ =>
    split_ifs at hr <;> obtain rfl := Option.some.inj hr
    · exact hdel d.index
    · exact Or.inl rfl
  · split_ifs at hr
    obtain rfl := Option.some.inj hr
    exact Or.inl rfl
  · cases hr

/-- A list that arrives comes after the rows. -/
lemma Steady.recv (h : vc.Steady) (q : AdminRequest) (a : AdminAnswer) :
    (vc.recv q a).client.Steady := by
  unfold AdminDashboard.recv
  split
  case h_1 documents =>
    rw [h.runs, if_neg (by simp)]
    refine ⟨h.runs, fun d hd => ?_⟩
    have hrow := h.listed d hd
    obtain ⟨hlt, -⟩ := List.getElem?_eq_some_iff.mp hrow
    show (vc.requests ++ _)[d.index]? = _
    rw [List.getElem?_append_left hlt, hrow]
  case h_2 => exact h

end AdminDashboard

/-! ## Where the communities come from -/

section

variable (s₀ : CommunityServer)

/-- A form has been filled in with the title and the description, or a request of the start has
them. -/
def AskedFor (Title Description : String) : Prop :=
  FilledIn Title Description ∨
    ∃ d ∈ s₀.Request, d.Title = some Title ∧ d.Description = some Description

/-- The community was there at the start, or was asked for. -/
def Wanted (c : CommunityRecord) : Prop :=
  c ∈ s₀.Communities ∨ AskedFor s₀ c.Title c.Description

/-- What a document of `Request` asks for was asked for. -/
def Valid (d : RequestDoc) : Prop :=
  ∀ Title Description, d.Title = some Title → d.Description = some Description →
    AskedFor s₀ Title Description

/-- The requests and the communities of the server. -/
structure CommunityServer.Grown (s₀ s : CommunityServer) : Prop where
  requests : ∀ d ∈ s.Request, Valid s₀ d
  communities : ∀ c ∈ s.Communities, Wanted s₀ c

/-- What a screen has. -/
def CommunityScreen.Sound : CommunityScreen → Prop
  | .form vc => vc.Fits
  | .dashboard vc => vc.Steady ∧ ∀ r ∈ vc.requests, AskedFor s₀ r.title r.description
  | .list vc => ∀ o ∈ vc.communities, Wanted s₀ ⟨o.ID, o.title, o.description⟩

/-- What a screen asks for. -/
def CommunityAsk.Sound : CommunityAsk → Prop
  | .submit data => ∃ Title Description, FilledIn Title Description ∧
      data.string "Title" = some Title ∧ data.string "Description" = some Description
  | .admin (.setData TitleName desc _) => AskedFor s₀ TitleName desc
  | _ => True

/-- What it is answered. -/
def CommunityAnswer.Sound : CommunityAnswer → Prop
  | .admin (.requests documents) => ∀ d ∈ documents, Valid s₀ d
  | .communities documents => ∀ c ∈ documents, Wanted s₀ c
  | _ => True

variable {s₀}

/-- The server stores what it is asked to. -/
lemma CommunityServer.Grown.serve {s : CommunityServer} (h : s₀.Grown s) {q : CommunityAsk}
    (hq : q.Sound s₀) (e : CommunityChoice) :
    s₀.Grown (s.serve q e).server ∧ (s.serve q e).answer.Sound s₀ := by
  cases e with
  | success documentID deleted =>
    cases q with
    | submit data =>
      refine ⟨⟨fun d hd => ?_, h.communities⟩, trivial⟩
      rcases List.mem_append.mp hd with hd | hd
      · exact h.requests d hd
      · obtain rfl := List.mem_singleton.mp hd
        obtain ⟨Title, Description, hfilled, htitle, hdesc⟩ := hq
        intro Title' Description' ht' hd'
        obtain rfl : Title' = Title := Option.some.inj (ht'.symm.trans htitle)
        obtain rfl : Description' = Description := Option.some.inj (hd'.symm.trans hdesc)
        exact Or.inl hfilled
    | admin q =>
      cases q with
      | loadCommunities => exact ⟨h, fun d hd => h.requests d (List.mem_of_mem_filter hd)⟩
      | setData TitleName desc doc =>
        refine ⟨⟨h.requests, fun c hc => ?_⟩, trivial⟩
        rcases List.mem_append.mp hc with hc | hc
        · exact h.communities c hc
        · obtain rfl := List.mem_singleton.mp hc
          exact Or.inr hq
      | delete doc =>
        exact ⟨⟨fun d hd => h.requests d (List.mem_of_mem_filter hd), h.communities⟩, trivial⟩
    | loadCommunities => exact ⟨h, h.communities⟩
  | error => rcases q with _ | (_ | _ | _) | _ <;> exact ⟨h, trivial⟩
  | neither => rcases q with _ | (_ | _ | _) | _ <;> exact ⟨h, trivial⟩

/-- The list of an administrator after a callback has the requests it had, and those of the
answer. -/
lemma askedFor_recv {vc : AdminDashboard} {q : AdminRequest} {a : AdminAnswer}
    (h : ∀ r ∈ vc.requests, AskedFor s₀ r.title r.description)
    (ha : (CommunityAnswer.admin a).Sound s₀) :
    ∀ r ∈ (vc.recv q a).client.requests, AskedFor s₀ r.title r.description := by
  unfold AdminDashboard.recv
  split
  case h_1 documents =>
    split_ifs
    · exact h
    · intro r hr
      rcases List.mem_append.mp hr with hr | hr
      · exact h r hr
      · obtain ⟨d, hd, hreq⟩ := List.mem_filterMap.mp hr
        obtain ⟨name, hname, hreq⟩ := Option.bind_eq_some_iff.mp hreq
        obtain ⟨des, hdes, hreq⟩ := Option.bind_eq_some_iff.mp hreq
        obtain rfl := Option.some.inj hreq
        exact ha d hd name des hname hdes
  case h_2 => exact h

/-- What an administrator does is for a request of the list. -/
lemma askedFor_ui {vc : AdminDashboard} (hsteady : vc.Steady)
    (h : ∀ r ∈ vc.requests, AskedFor s₀ r.title r.description) {u : AdminTap} {r : AdminReaction}
    (hr : vc.ui u = some r) : (∀ r' ∈ r.client.requests, AskedFor s₀ r'.title r'.description) ∧
      ∀ q ∈ r.requests, (CommunityAsk.admin q).Sound s₀ := by
  constructor
  · rcases AdminDashboard.ui_rows hr with hrows | hrows
    · exact hrows ▸ h
    · simp [hrows]
  · rcases AdminDashboard.ui_cases hr with ⟨d, qs, -, hd, -, hreq, hqs⟩ |
      ⟨d, qs, -, -, -, hreq, hqs⟩ | ⟨-, -, hreq⟩
    · have hd := h _ (List.mem_of_getElem? (hsteady.listed d hd))
      intro q hq
      rw [hreq, List.mem_cons, List.mem_cons] at hq
      rcases hq with rfl | rfl | hq
      · exact hd
      · trivial
      · rw [hqs q hq]; trivial
    · intro q hq
      rw [hreq, List.mem_cons] at hq
      rcases hq with rfl | hq
      · trivial
      · rw [hqs q hq]; trivial
    · simp [hreq]

/-- The callbacks keep what a screen has, and ask for nothing. -/
lemma recv_sound {screen : CommunityScreen} (h : screen.Sound s₀) (q : CommunityAsk)
    {a : CommunityAnswer} (ha : a.Sound s₀) :
    (screen.recv q a).client.Sound s₀ ∧ (screen.recv q a).requests = [] := by
  unfold CommunityScreen.recv
  split
  case h_1 => exact ⟨⟨h.title, h.description⟩, rfl⟩
  case h_2 => exact ⟨⟨h.title, h.description⟩, rfl⟩
  case h_3 => exact ⟨⟨h.title, h.description⟩, rfl⟩
  case h_4 vc q a =>
    refine ⟨⟨h.1.recv q a, askedFor_recv h.2 ha⟩, ?_⟩
    simp [CommunityScreen.ofDashboard, (vc.recv_rest q a).1]
  case h_5 vc documents =>
    refine ⟨fun o ho => ?_, rfl⟩
    rcases List.mem_append.mp ho with ho | ho
    · exact h o ho
    · obtain ⟨d, hd, rfl⟩ := List.mem_map.mp ho
      exact ha d hd
  case h_6 => exact ⟨h, rfl⟩

/-- The screens satisfy the conditions of the client rule. -/
lemma communitySystem_rules : ClientRules communitySystem (fun _ => False)
    (fun s => s₀.Grown s) (fun _ screen _ => screen.Sound s₀) (fun _ q => q.Sound s₀)
    (fun _ _ a => a.Sound s₀) where
  boot := by
    rintro s kind -
    cases kind with
    | form => exact ⟨RequestCommunityController.viewDidLoad_fits, fun q hq => by cases hq⟩
    | dashboard =>
      refine ⟨⟨⟨rfl, fun d hd => by cases hd⟩, fun r hr => by cases hr⟩, fun q hq => ?_⟩
      obtain rfl := List.mem_singleton.mp hq
      trivial
    | list =>
      have hnone : (CommunityScreen.list ⟨[]⟩).Sound s₀ := fun o ho => by cases ho
      refine ⟨hnone, fun q hq => ?_⟩
      obtain rfl := List.mem_singleton.mp hq
      trivial
  ui := by
    intro s screen t u r _ h hr
    refine ⟨?_, fun _ hq => hq⟩
    simp only [communitySystem, CommunityScreen.ui] at hr
    split at hr
    case h_1 vc u =>
      obtain ⟨r', hr', rfl⟩ := Option.map_eq_some_iff.mp hr
      obtain ⟨hfits, hdata⟩ := RequestCommunityController.ui_cases h hr'
      refine ⟨hfits, fun q hq => ?_⟩
      obtain ⟨data, hd, rfl⟩ := Option.map_eq_some_iff.mp (Option.mem_toList.mp hq)
      exact hdata data hd
    case h_2 vc u =>
      obtain ⟨r', hr', rfl⟩ := Option.map_eq_some_iff.mp hr
      obtain ⟨hrows, hreq⟩ := askedFor_ui h.1 h.2 hr'
      refine ⟨⟨h.1.ui hr', hrows⟩, fun q hq => ?_⟩
      obtain ⟨q', hq', rfl⟩ := List.mem_map.mp hq
      exact hreq q' hq'
    case h_3 => cases hr
  serve := fun s q e _ hs hq => ⟨(hs.serve hq e).1, (hs.serve hq e).2, fun _ h => h⟩
  others := fun s q e _ _ _ => ⟨fun _ _ h => h, fun _ _ h => h⟩
  recv := by
    intro s screen t q a _ _ h _ ha
    obtain ⟨hscreen, hreq⟩ := recv_sound h q ha
    exact ⟨⟨hscreen, by simp [communitySystem, hreq]⟩, fun _ hq _ => hq⟩

end

/-! ## A community -/

/-- A form for a community is filled in and submitted. -/
def filing : List LifecycleEvent :=
  [.boot 0 .form, .ui 0 (.form (.changeTitle 0 0 "Art")),
    .ui 0 (.form (.description .textViewDidBeginEditing)),
    .ui 0 (.form (.description (.change 0 0 "Paintings"))),
    .ui 0 (.form (.description .textViewDidEndEditing)), .ui 0 (.form .submit),
    .serve 0 (.success "r" []), .deliver 0 ()]

/-- An administrator opens the request. -/
def reviewing : List LifecycleEvent :=
  [.boot 1 .dashboard, .serve 0 (.success "" []), .deliver 0 (),
    .ui 1 (.dashboard (.didSelectRowAt 0))]

/-- An administrator accepts it, and the list is opened. -/
def listing : List LifecycleEvent :=
  [.ui 1 (.dashboard .accept), .serve 0 (.success "c" []), .boot 2 .list, .serve 3 (.success "" []),
    .deliver 3 ()]

/-! ## Runs -/

variable {s : CommunityServer} {h : List (LifecycleWorld × LifecycleEvent)} {w : LifecycleWorld}

/-- What holds of the server and the screens in every state of every run. -/
lemma communitySystem_sound (hr : communitySystem.RunFrom s h w) :
    ClientInv (fun s' => s.Grown s') (fun _ screen _ => screen.Sound s) (fun _ q => q.Sound s)
      (fun _ _ a => a.Sound s) w := by
  refine client_invariant exclusiveRules_false communitySystem_rules ?_ hr
  exact ⟨fun d hd Title Description ht hd' => Or.inr ⟨d, hd, ht, hd'⟩, fun c hc => Or.inl hc⟩

/-- **No decision goes astray.** In every state of every run, however the lists of the
administrators have been loaded, no administrator's screen has stopped, and the details that it
shows are those of the request in the row that a decision removes.

**Proof sketch.** A list is emptied only by a decision, which closes the details, and a list that
arrives comes after the rows that are there (`AdminDashboard.Steady.recv`). -/
theorem dashboards_steady (hr : communitySystem.RunFrom s h w) {i : ℕ} {vc : AdminDashboard}
    (hi : w.clients i = some (.dashboard vc)) : vc.trapped = false ∧
      ∀ d, vc.details = some d → vc.requests[d.index]? = some ⟨d.TitleName, d.desc, d.doc⟩ := by
  obtain ⟨hsteady, -⟩ := (communitySystem_sound hr).client i _ hi
  exact ⟨hsteady.runs, hsteady.listed⟩

/-- An administrator has opened the request that the form has submitted. -/
theorem dashboards_steady_art : ∃ h w vc, communitySystem.RunFrom ⟨[], []⟩ h w ∧
    w.clients 1 = some (.dashboard vc) ∧ vc.details.map (·.TitleName) = some "Art" ∧
    vc.trapped = false ∧
      ∀ d, vc.details = some d → vc.requests[d.index]? = some ⟨d.TitleName, d.desc, d.doc⟩ := by
  have he : (exec communitySystem.step (start ⟨[], []⟩) (filing ++ reviewing)).map
      (fun w => (w.clients 1).map fun screen => match screen with
        | .dashboard vc => vc.details.map (·.TitleName)
        | _ => none) = some (some (some "Art")) := by decide +kernel
  obtain ⟨h, w, hr, -, hw⟩ := run_of_observed he
  obtain ⟨screen, hi, hscreen⟩ := Option.map_eq_some_iff.mp hw
  cases screen with
  | dashboard vc => exact ⟨h, w, vc, hr, hi, hscreen, dashboards_steady hr hi⟩
  | _ => cases hscreen

end Aoun
