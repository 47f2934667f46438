import Mathlib.Data.List.Nodup
import Aoun.Lib.Async
import Aoun.Records

/-!
# The requests for communities

A user asks for a community by a document of `Request`. `AdminDashboard` lists these documents,
as it found them when it was loaded, or after its last decision. A row opens
`CommunityDetailsViewController`, where the administrator accepts the request, which creates a
document of `Communities` and deletes the request, or rejects it, which only deletes it. Neither
looks at the request again, and nobody waits for the writes.

The place of a new community among the ids is left out, as is what the screens only show.
Signing out ends a screen, which then does nothing more.

## Main definitions

* `Aoun.RequestsServer` — the collections `Request` and `Communities`.
* `Aoun.AdminDashboard`, `Aoun.CommunityDetailsViewController` — the screens.
* `Aoun.requestSystem` — any number of administrators over one server.

## Main results

* `Aoun.RequestsServer.serve_cases` — what the server does.
* `Aoun.AdminDashboard.ui_cases` — what the administrator can do.
-/

set_option relaxedAutoImplicit false
set_option autoImplicit false

namespace Aoun

/-! ## The server -/

/-- A document of `Request`. -/
structure RequestDoc where
  documentID : String
  Title : Option String
  Description : Option String
  deriving DecidableEq

/-- A document of `Communities`. -/
structure CommunityDoc where
  Title : String
  Description : String
  /-- The request that was accepted; the document has no such field. -/
  request : String
  deriving DecidableEq

/-- The collections, of which no two requests have the same id. -/
structure RequestsServer where
  Request : List RequestDoc
  Communities : List CommunityDoc
  nodup : (Request.map (·.documentID)).Nodup

/-- What the screens ask of Firestore. -/
inductive AdminRequest
  /-- The query of `loadCommunities()`. -/
  | loadCommunities
  /-- The `setData` of a new document of `Communities`, for an accepted request. -/
  | setData (TitleName desc doc : String)
  /-- The `delete()` of a document of `Request`. -/
  | delete (doc : String)
  deriving DecidableEq

/-- The answers. -/
inductive AdminAnswer
  | requests (documents : List RequestDoc)
  | written
  | error
  | neither
  deriving DecidableEq

/-- The environment's choice: a request succeeds, or fails, or ends with neither a result nor an
error. A query leaves out the documents whose deletion by the same device is still pending. -/
inductive AdminChoice
  | success (deleted : List String)
  | error
  | neither
  deriving DecidableEq

/-- What the history records. -/
inductive AdminEffect
  /-- An administrator accepted a request. -/
  | accepted (doc : String)
  /-- An administrator rejected a request. -/
  | rejected (doc : String)
  /-- The community of a request was created. -/
  | created (doc : String)
  deriving DecidableEq

namespace RequestsServer

variable (s : RequestsServer)

/-- A request is there. -/
def Stored (doc : String) : Prop := ∃ d ∈ s.Request, d.documentID = doc

instance (doc : String) : Decidable (s.Stored doc) :=
  inferInstanceAs (Decidable (∃ d ∈ s.Request, d.documentID = doc))

/-- The communities created from a request. -/
def createdFrom (doc : String) : List CommunityDoc :=
  s.Communities.filter fun c => c.request = doc

/-- `delete()` of the request `doc`. -/
def delete (doc : String) : RequestsServer where
  Request := s.Request.filter fun d => d.documentID ≠ doc
  Communities := s.Communities
  nodup := s.nodup.sublist (List.filter_sublist.map _)

/-- How the server handles a request. -/
def serve (q : AdminRequest) (e : AdminChoice) : Served RequestsServer AdminAnswer AdminEffect :=
  match q, e with
  | .loadCommunities, .success deleted =>
    ⟨s, .requests (s.Request.filter fun d => d.documentID ∉ deleted), []⟩
  | .setData TitleName desc doc, .success _ =>
    ⟨{ s with Communities := s.Communities ++ [⟨TitleName, desc, doc⟩] }, .written,
      [.created doc]⟩
  | .delete doc, .success _ => ⟨s.delete doc, .written, []⟩
  | _, .error => ⟨s, .error, []⟩
  | _, .neither => ⟨s, .neither, []⟩

variable {s}

@[simp] lemma stored_delete {doc doc' : String} :
    (s.delete doc).Stored doc' ↔ s.Stored doc' ∧ doc' ≠ doc := by
  constructor
  · rintro ⟨d, hd, rfl⟩
    obtain ⟨hmem, hne⟩ := List.mem_filter.mp hd
    exact ⟨⟨d, hmem, rfl⟩, by simpa using hne⟩
  · rintro ⟨⟨d, hd, rfl⟩, hne⟩
    exact ⟨d, List.mem_filter.mpr ⟨hd, by simpa using hne⟩, rfl⟩

@[simp] lemma createdFrom_delete (doc doc' : String) :
    (s.delete doc).createdFrom doc' = s.createdFrom doc' := rfl

/-- **What the server does**: it creates a community, deletes a request, or leaves the
collections as they are, either for a query or because the request fails. -/
lemma serve_cases (s : RequestsServer) (q : AdminRequest) (e : AdminChoice) :
    (∃ TitleName desc doc deleted, q = .setData TitleName desc doc ∧ e = .success deleted ∧
      s.serve q e = ⟨{ s with Communities := s.Communities ++ [⟨TitleName, desc, doc⟩] },
        .written, [.created doc]⟩) ∨
    (∃ doc deleted, q = .delete doc ∧ e = .success deleted ∧
      s.serve q e = ⟨s.delete doc, .written, []⟩) ∨
    ((q = .loadCommunities ∨ ∀ deleted, e ≠ .success deleted) ∧ (s.serve q e).server = s ∧
      (s.serve q e).effects = []) := by
  cases e with
  | success deleted =>
    cases q with
    | loadCommunities => exact Or.inr (Or.inr ⟨Or.inl rfl, rfl, rfl⟩)
    | setData TitleName desc doc =>
      exact Or.inl ⟨TitleName, desc, doc, deleted, rfl, rfl, rfl⟩
    | delete doc => exact Or.inr (Or.inl ⟨doc, deleted, rfl, rfl, rfl⟩)
  | error => right; right; cases q <;> simp [serve]
  | neither => right; right; cases q <;> simp [serve]

end RequestsServer

/-! ## The screens -/

/-- `struct Request`. -/
structure Request where
  title : String
  description : String
  doc : String
  deriving DecidableEq

/-- `CommunityDetailsViewController`. -/
structure CommunityDetailsViewController where
  TitleName : String
  desc : String
  doc : String
  index : ℕ
  /-- The alert of `reject(_:)` is presented. -/
  alert : Bool
  deriving DecidableEq

/-- `AdminDashboard`. -/
structure AdminDashboard where
  requests : List Request
  /-- The details it presents. -/
  details : Option CommunityDetailsViewController
  /-- The program has stopped at an index out of range. -/
  trapped : Bool
  deriving DecidableEq

/-- What the administrator can do. -/
inductive AdminTap
  /-- `tableView(_:didSelectRowAt:)`. -/
  | didSelectRowAt (row : ℕ)
  /-- `accept(_:)`. -/
  | accept
  /-- `reject(_:)`. -/
  | reject
  /-- "Yes" or "Cancel" in the alert. -/
  | answerAlert (yes : Bool)
  /-- The administrator closes the details. -/
  | close
  deriving DecidableEq

/-- A reaction of the screens. -/
abbrev AdminReaction := Reaction AdminDashboard AdminRequest AdminEffect

namespace AdminDashboard

variable (vc : AdminDashboard)

/-- `loadCommunities()`. -/
def loadCommunities : AdminReaction :=
  ⟨{ vc with requests := [] }, [.loadCommunities], []⟩

/-- The request of a document, if it has a title and a description. -/
def request (doc : RequestDoc) : Option Request := do
  let name ← doc.Title
  let des ← doc.Description
  some ⟨name, des, doc.documentID⟩

/-- The completion of the query of `loadCommunities()`. -/
def requestsFound (documents : List RequestDoc) : AdminDashboard :=
  { vc with requests := vc.requests ++ documents.filterMap request }

/-- `tableView(_:didSelectRowAt:)`. -/
def didSelectRowAt (row : ℕ) : AdminDashboard :=
  match vc.requests[row]? with
  | none => { vc with trapped := true }
  | some r => { vc with details := some ⟨r.title, r.description, r.doc, row, false⟩ }

/-- `delAt(index:)`. -/
def delAt (index : ℕ) : AdminReaction :=
  if index < vc.requests.length then
    { vc with requests := vc.requests.eraseIdx index }.loadCommunities
  else .skip { vc with trapped := true }

/-- The details are dismissed. -/
def dismiss : AdminDashboard := { vc with details := none }

/-- `accept(_:)` of the details `d`. -/
def accept (d : CommunityDetailsViewController) : AdminReaction :=
  ((⟨vc, [.setData d.TitleName d.desc d.doc, .delete d.doc], [.accepted d.doc]⟩ :
    AdminReaction).next fun vc => vc.delAt d.index).next fun vc => .skip vc.dismiss

/-- "Yes" in the alert of `reject(_:)` of the details `d`. -/
def confirmReject (d : CommunityDetailsViewController) : AdminReaction :=
  ((⟨vc, [.delete d.doc], [.rejected d.doc]⟩ : AdminReaction).next
    fun vc => vc.delAt d.index).next fun vc => .skip vc.dismiss

/-- `viewDidLoad()`. -/
def viewDidLoad : AdminReaction :=
  ({ requests := [], details := none, trapped := false } : AdminDashboard).loadCommunities

/-- The reactions to the administrator; `reject(_:)` presents its alert. -/
def ui (u : AdminTap) : Option AdminReaction :=
  if vc.trapped then none
  else
    match u, vc.details with
    | .didSelectRowAt row, none =>
      if row < vc.requests.length then some (.skip (vc.didSelectRowAt row)) else none
    | .accept, some d => if d.alert then none else some (vc.accept d)
    | .reject, some d =>
      if d.alert then none
      else some (.skip { vc with details := some { d with alert := true } })
    | .answerAlert yes, some d =>
      if d.alert then
        if yes then some (vc.confirmReject d)
        else some (.skip { vc with details := some { d with alert := false } })
      else none
    | .close, some d => if d.alert then none else some (.skip vc.dismiss)
    | _, _ => none

/-- The callbacks. -/
def recv : AdminRequest → AdminAnswer → AdminReaction
  | .loadCommunities, .requests documents =>
    if vc.trapped then .skip vc else .skip (vc.requestsFound documents)
  | _, _ => .skip vc

variable {vc}

/-- A decision asks for its writes, and for the requests at most. -/
lemma delAt_cases (vc : AdminDashboard) (index : ℕ) : (vc.delAt index).effects = [] ∧
    ∀ q ∈ (vc.delAt index).requests, q = .loadCommunities := by
  unfold delAt
  split_ifs
  · exact ⟨rfl, by simp [loadCommunities]⟩
  · exact ⟨rfl, by simp⟩

/-- **What the administrator can do**: accept or reject the request that the details show, or
neither write nor decide anything. -/
lemma ui_cases {u : AdminTap} {r : AdminReaction} (h : vc.ui u = some r) :
    (∃ d qs, u = .accept ∧ vc.details = some d ∧ r.effects = [.accepted d.doc] ∧
      r.requests = .setData d.TitleName d.desc d.doc :: .delete d.doc :: qs ∧
        ∀ q ∈ qs, q = .loadCommunities) ∨
    (∃ d qs, u ≠ .accept ∧ vc.details = some d ∧ r.effects = [.rejected d.doc] ∧
      r.requests = .delete d.doc :: qs ∧ ∀ q ∈ qs, q = .loadCommunities) ∨
    (u ≠ .accept ∧ r.effects = [] ∧ r.requests = []) := by
  unfold ui at h
  split_ifs at h
  split at h
  · split_ifs at h
    obtain rfl := Option.some.inj h
    exact Or.inr (Or.inr ⟨by simp, rfl, rfl⟩)
  · next d hd =>
    split_ifs at h
    obtain rfl := Option.some.inj h
    obtain ⟨heff, hreq⟩ := vc.delAt_cases d.index
    exact Or.inl ⟨d, (vc.delAt d.index).requests, rfl, hd, by simp [accept, heff],
      by simp [accept], hreq⟩
  · split_ifs at h
    obtain rfl := Option.some.inj h
    exact Or.inr (Or.inr ⟨by simp, rfl, rfl⟩)
  · next yes d hd =>
    split_ifs at h
    · obtain rfl := Option.some.inj h
      obtain ⟨heff, hreq⟩ := vc.delAt_cases d.index
      exact Or.inr (Or.inl ⟨d, (vc.delAt d.index).requests, by simp, hd,
        by simp [confirmReject, heff], by simp [confirmReject], hreq⟩)
    · obtain rfl := Option.some.inj h
      exact Or.inr (Or.inr ⟨by simp, rfl, rfl⟩)
  · split_ifs at h
    obtain rfl := Option.some.inj h
    exact Or.inr (Or.inr ⟨by simp, rfl, rfl⟩)
  · cases h

/-- The callbacks neither write nor decide anything. -/
lemma recv_rest (vc : AdminDashboard) (q : AdminRequest) (a : AdminAnswer) :
    (vc.recv q a).requests = [] ∧ (vc.recv q a).effects = [] := by
  unfold recv
  split
  · split_ifs <;> exact ⟨rfl, rfl⟩
  · exact ⟨rfl, rfl⟩

end AdminDashboard

/-- Any number of administrators over one server. -/
def requestSystem : AsyncSystem RequestsServer AdminDashboard Unit AdminTap AdminRequest
    AdminChoice AdminAnswer Unit AdminEffect where
  boot := fun _ => AdminDashboard.viewDidLoad
  ui := AdminDashboard.ui
  serve := RequestsServer.serve
  recv := fun vc q a _ => vc.recv q a

/-- The states of the system. -/
abbrev RequestWorld :=
  AsyncSystem.World RequestsServer AdminDashboard AdminRequest AdminAnswer AdminEffect

/-- What can happen in it. -/
abbrev RequestEvent := AsyncSystem.Event Unit AdminTap AdminChoice Unit

end Aoun
