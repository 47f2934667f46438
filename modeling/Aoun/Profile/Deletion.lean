import Aoun.Profile.Screen

/-!
# Who deletes

The details that delete a note open from one's own profile only, so that a note is deleted by its
author. The details that delete a resource open from every profile, with the same buttons: whoever
looks at a profile can delete what its user has posted. The server does not ask who deletes.

## Main definitions

* `Aoun.ProfileScreen.uid` — the user whose profile a screen shows.
* `Aoun.NoteOf`, `Aoun.ResOf` — a document of a user.
* `Aoun.DeletesOwn` — nobody has asked to delete what is not theirs.

## Main results

* `Aoun.notes_deleted_by_author` — a note that is gone was deleted by its author.
* `Aoun.deletes_own_iff` — when nobody asks to delete what is not theirs.
-/

set_option relaxedAutoImplicit false
set_option autoImplicit false

namespace Aoun

open AsyncSystem AsyncSystem.World StepSystem

/-! ## Whose documents -/

section

variable (s₀ : ProfileServer) (uid : Option String) (documentId : String)

/-- The note `documentId` is by the user `uid`. -/
def NoteOf : Prop := ∃ d ∈ s₀.Notes, d.documentID = documentId ∧ d.data.uid = uid

/-- The resource `documentId` is by the user `uid`. -/
def ResOf : Prop := ∃ d ∈ s₀.Resources, d.documentID = documentId ∧ some d.uid = uid

end

variable {s₀ : ProfileServer}

/-- A note is by one user. -/
lemma NoteOf.unique {uid uid' : Option String} {documentId : String}
    (h : NoteOf s₀ uid documentId) (h' : NoteOf s₀ uid' documentId) : uid = uid' := by
  obtain ⟨d, hd, rfl, rfl⟩ := h
  obtain ⟨d', hd', hid, rfl⟩ := h'
  rw [List.inj_on_of_nodup_map s₀.notes_nodup hd' hd hid]

/-- A resource is by one user. -/
lemma ResOf.unique {uid uid' : Option String} {documentId : String}
    (h : ResOf s₀ uid documentId) (h' : ResOf s₀ uid' documentId) : uid = uid' := by
  obtain ⟨d, hd, rfl, rfl⟩ := h
  obtain ⟨d', hd', hid, rfl⟩ := h'
  rw [List.inj_on_of_nodup_map s₀.resources_nodup hd' hd hid]

/-- A note of a profile has the id of its document. -/
lemma documentId_of_note {data : NoteData} {documentID : String} {n : NoteFile}
    (h : ProfileDetailViewController.note data documentID = some n) :
    n.documentId = some documentID := by
  unfold ProfileDetailViewController.note at h
  obtain ⟨_, -, h⟩ := Option.bind_eq_some_iff.mp h
  obtain ⟨_, -, h⟩ := Option.bind_eq_some_iff.mp h
  obtain ⟨_, -, h⟩ := Option.bind_eq_some_iff.mp h
  obtain ⟨_, -, h⟩ := Option.bind_eq_some_iff.mp h
  obtain ⟨_, -, h⟩ := Option.bind_eq_some_iff.mp h
  obtain ⟨_, -, h⟩ := Option.bind_eq_some_iff.mp h
  rw [← Option.some.inj h]

/-- A resource of a profile has the id of its document. -/
lemma documentId_of_resource {data : ResourceData} {documentID : String} {r : resFile}
    (h : ProfileDetailViewController.resource data documentID = some r) :
    r.documentId = some documentID := by
  obtain ⟨newRes, -, rfl⟩ := Option.map_eq_some_iff.mp h
  rfl

/-! ## The invariant -/

namespace ProfileScreen

/-- The user whose profile the screen shows. -/
def uid (vc : ProfileScreen) : Option String :=
  if vc.other then vc.user.map (·.uid) else vc.currentUser

/-- A screen and a later state of it. -/
structure Later (vc vc' : ProfileScreen) : Prop where
  other : vc'.other = vc.other
  currentUser : vc'.currentUser = vc.currentUser
  uid : vc'.uid = vc.uid
  user : vc.user ≠ none → vc'.user ≠ none

variable (s₀ : ProfileServer) (vc : ProfileScreen)

/-- The note is a document of the user. -/
def HasNote (n : NoteFile) : Prop :=
  vc.user ≠ none ∧ ∃ id, n.documentId = some id ∧ NoteOf s₀ vc.uid id

/-- The resource is a document of the user. -/
def HasRes (r : resFile) : Prop :=
  vc.user ≠ none ∧ ∃ id, r.documentId = some id ∧ ResOf s₀ vc.uid id

/-- The rows and the details are of the user, and the details of `deleteNote` are on one's own
profile. -/
structure Sound : Prop where
  user : ∀ u, vc.user = some u → some u.uid = vc.uid
  other : vc.other = true → vc.user ≠ none
  notes : ∀ n ∈ vc.lists.notes, HasNote s₀ vc n
  resources : ∀ r ∈ vc.lists.resources, HasRes s₀ vc r
  deleteNote : ∀ n alert, vc.presented = some (.deleteNote n alert) →
    vc.other = false ∧ HasNote s₀ vc n
  deleteRes : ∀ r alert, vc.presented = some (.deleteRes r alert) → HasRes s₀ vc r

/-- The requests are for the user of the profile. -/
def Asked : ProfileRequest → Prop
  | .getName thisUserId => vc.other = false ∧ vc.currentUser = some thisUserId
  | .loadNotes uid _ => vc.user ≠ none ∧ vc.uid = some uid
  | .loadResources uid _ => vc.user ≠ none ∧ vc.uid = some uid
  | .deleteNote documentId _ => vc.user ≠ none ∧ vc.other = false ∧ NoteOf s₀ vc.uid documentId
  | .deleteRes documentId _ => vc.user ≠ none ∧ ResOf s₀ vc.uid documentId

/-- The deletions are of documents of the user, those of notes on one's own profile. -/
def Owns : ProfileEffect → Prop
  | .deletesNote id => vc.other = false ∧ NoteOf s₀ vc.uid id
  | .deletedNote id => vc.other = false ∧ NoteOf s₀ vc.uid id
  | .deletesRes id => ResOf s₀ vc.uid id
  | .deletedRes id => ResOf s₀ vc.uid id

/-- The answers are documents of the user. -/
def AnswerOf : ProfileRequest → ProfileAnswer → Prop
  | .loadNotes uid _, .notes documents => ∀ doc ∈ documents, NoteOf s₀ (some uid) doc.1
  | .loadResources uid _, .resources documents => ∀ doc ∈ documents, ResOf s₀ (some uid) doc.1
  | _, _ => True

/-- A reaction of a screen keeps the invariant. -/
structure Reacts (r : ProfileReaction) : Prop where
  sound : Sound s₀ r.client
  later : vc.Later r.client
  requests : ∀ q ∈ r.requests, Asked s₀ r.client q
  effects : ∀ o ∈ r.effects, Owns s₀ r.client o

variable {s₀ vc} {vc' : ProfileScreen}

lemma later_refl (vc : ProfileScreen) : vc.Later vc := ⟨rfl, rfl, rfl, id⟩

lemma Later.trans {vc'' : ProfileScreen} (h : vc.Later vc') (h' : vc'.Later vc'') :
    vc.Later vc'' :=
  ⟨h'.other.trans h.other, h'.currentUser.trans h.currentUser, h'.uid.trans h.uid,
    fun hu => h'.user (h.user hu)⟩

lemma HasNote.later {n : NoteFile} (hn : HasNote s₀ vc n) (h : vc.Later vc') :
    HasNote s₀ vc' n := ⟨h.user hn.1, h.uid.symm ▸ hn.2⟩

lemma HasRes.later {r : resFile} (hr : HasRes s₀ vc r) (h : vc.Later vc') :
    HasRes s₀ vc' r := ⟨h.user hr.1, h.uid.symm ▸ hr.2⟩

lemma Asked.later {q : ProfileRequest} (hq : Asked s₀ vc q) (h : vc.Later vc') :
    Asked s₀ vc' q := by
  cases q with
  | getName thisUserId => exact ⟨h.other ▸ hq.1, h.currentUser ▸ hq.2⟩
  | loadNotes uid _ => exact ⟨h.user hq.1, h.uid ▸ hq.2⟩
  | loadResources uid _ => exact ⟨h.user hq.1, h.uid ▸ hq.2⟩
  | deleteNote documentId _ =>
    exact ⟨h.user hq.1, h.other ▸ hq.2.1, h.uid.symm ▸ hq.2.2⟩
  | deleteRes documentId _ => exact ⟨h.user hq.1, h.uid.symm ▸ hq.2⟩

lemma Owns.later {o : ProfileEffect} (ho : Owns s₀ vc o) (h : vc.Later vc') :
    Owns s₀ vc' o := by
  cases o with
  | deletesNote id => exact ⟨h.other ▸ ho.1, h.uid.symm ▸ ho.2⟩
  | deletedNote id => exact ⟨h.other ▸ ho.1, h.uid.symm ▸ ho.2⟩
  | deletesRes id => simpa only [Owns, h.uid] using ho
  | deletedRes id => simpa only [Owns, h.uid] using ho

/-! ### The reactions -/

/-- A reaction that only changes the screen. -/
lemma Sound.skip (h : Sound s₀ vc') (hl : vc.Later vc') : Reacts s₀ vc (.skip vc') :=
  ⟨h, hl, by simp, by simp⟩

/-- A reaction of a later state. -/
lemma Reacts.after {r : ProfileReaction} (hr : Reacts s₀ vc' r) (hl : vc.Later vc') :
    Reacts s₀ vc r :=
  ⟨hr.sound, hl.trans hr.later, hr.requests, hr.effects⟩

/-- A reaction followed by another. -/
lemma Reacts.next {r : ProfileReaction} {f : ProfileScreen → ProfileReaction}
    (hr : Reacts s₀ vc r) (hf : Reacts s₀ r.client (f r.client)) : Reacts s₀ vc (r.next f) := by
  refine ⟨hf.sound, hr.later.trans hf.later, fun q hq => ?_, fun o ho => ?_⟩
  · exact (List.mem_append.mp hq).elim (fun hq => (hr.requests q hq).later hf.later) (hf.requests q)
  · exact (List.mem_append.mp ho).elim (fun ho => (hr.effects o ho).later hf.later) (hf.effects o)

/-- What is presented on a sound screen may change to details of its rows. -/
lemma Sound.present (h : Sound s₀ vc) {p : Option ProfilePresented} {details : ℕ} {b : Bool}
    (hnote : ∀ n alert, p = some (.deleteNote n alert) → vc.other = false ∧ HasNote s₀ vc n)
    (hres : ∀ r alert, p = some (.deleteRes r alert) → HasRes s₀ vc r) :
    Sound s₀ { vc with presented := p, details := details, trapped := b } :=
  ⟨h.user, h.other, h.notes, h.resources, hnote, hres⟩

/-- The program stops. -/
lemma Sound.trap (h : Sound s₀ vc) : Reacts s₀ vc vc.trap :=
  (h.present h.deleteNote h.deleteRes).skip ⟨rfl, rfl, rfl, id⟩

/-- A list is loaded again. -/
lemma loadNotes_reacts (h : Sound s₀ vc) {user : User} (hu : vc.user = some user)
    (noDataMessage : String) : Reacts s₀ vc (vc.loadNotes user noDataMessage) := by
  refine ⟨⟨h.user, h.other, by simp [loadNotes], h.resources, h.deleteNote, h.deleteRes⟩,
    ⟨rfl, rfl, rfl, id⟩, fun q hq => ?_, by simp [loadNotes]⟩
  obtain rfl := List.mem_singleton.mp hq
  exact ⟨by simp [loadNotes, hu], (h.user user hu).symm⟩

lemma loadResources_reacts (h : Sound s₀ vc) {user : User} (hu : vc.user = some user)
    (noDataMessage : String) : Reacts s₀ vc (vc.loadResources user noDataMessage) := by
  refine ⟨⟨h.user, h.other, h.notes, by simp [loadResources], h.deleteNote, h.deleteRes⟩,
    ⟨rfl, rfl, rfl, id⟩, fun q hq => ?_, by simp [loadResources]⟩
  obtain rfl := List.mem_singleton.mp hq
  exact ⟨by simp [loadResources, hu], (h.user user hu).symm⟩

/-- One's own profile asks for one's name. -/
lemma getName_reacts (h : Sound s₀ vc) : Reacts s₀ vc vc.getName := by
  unfold getName
  split_ifs with ho
  · split
    · exact h.trap
    · exact h.skip (later_refl vc)
  · split
    case h_1 => exact h.skip (later_refl vc)
    case h_2 thisUserId hu =>
      refine ⟨h, later_refl vc, fun q hq => ?_, by simp⟩
      obtain rfl := List.mem_singleton.mp hq
      exact ⟨by simpa using ho, hu⟩

/-- A profile before it has loaded anything. -/
lemma sound_opened (s₀ : ProfileServer) (other : Bool) (currentUser : Option String)
    (user : Option User) (hu : other = true → user ≠ none) (hown : other = false → user = none) :
    Sound s₀ { other := other, currentUser := currentUser, user := user,
               lists := { notes := [], resources := [], notesHeader := none, resHeader := none },
               noteRows := 0, resRows := 0, presented := none, details := 0,
               trapped := false } := by
  refine ⟨fun u hu' => ?_, hu, by simp, by simp, by simp, by simp⟩
  cases other with
  | false => rw [hown rfl] at hu'; cases hu'
  | true => simp [uid, show user = some u from hu']

/-- A confirmed deletion of a note is asked for. -/
lemma deleteNote_reacts (h : Sound s₀ vc) {note : NoteFile} (ho : vc.other = false)
    (hnote : HasNote s₀ vc note) : Reacts s₀ vc (vc.deleteNote note) := by
  obtain ⟨hu, id, hid, hown⟩ := hnote
  unfold deleteNote
  rw [hid]
  refine ⟨h, later_refl vc, fun q hq => ?_, fun o ho' => ?_⟩
  · obtain rfl := List.mem_singleton.mp hq
    exact ⟨hu, ho, hown⟩
  · obtain rfl := List.mem_singleton.mp ho'
    exact ⟨ho, hown⟩

/-- A confirmed deletion of a resource is asked for. -/
lemma deleteRes_reacts (h : Sound s₀ vc) {resource : resFile} (hres : HasRes s₀ vc resource) :
    Reacts s₀ vc (vc.deleteRes resource) := by
  obtain ⟨hu, id, hid, hown⟩ := hres
  unfold deleteRes
  rw [hid]
  refine ⟨h, later_refl vc, fun q hq => ?_, fun o ho' => ?_⟩
  · obtain rfl := List.mem_singleton.mp hq
    exact ⟨hu, hown⟩
  · obtain rfl := List.mem_singleton.mp ho'
    exact hown

/-- A touch keeps the invariant: details open for the rows, and deletions are of the details. -/
lemma ui_reacts (h : Sound s₀ vc) {u : ProfileTap} {r : ProfileReaction}
    (hr : vc.ui u = some r) : Reacts s₀ vc r := by
  have hlater : ∀ p details, vc.Later { vc with presented := p, details := details } :=
    fun _ _ => ⟨rfl, rfl, rfl, id⟩
  unfold ui at hr
  rw [Option.ite_none_left_eq_some] at hr
  obtain ⟨-, hr⟩ := hr
  split at hr
  case h_1 row hp =>
    rw [Option.ite_none_right_eq_some] at hr
    obtain ⟨-, hr⟩ := hr
    obtain rfl := Option.some.inj hr
    unfold selectNote
    split
    case h_1 => exact h.trap
    case h_2 note hnote =>
      refine (h.present (b := vc.trapped) ?_ ?_).skip (hlater _ _)
      · intro n alert heq
        cases ho : vc.other with
        | true => simp [ho] at heq
        | false =>
          obtain ⟨rfl, -⟩ : note = n ∧ false = alert := by simpa [ho] using heq
          exact ⟨rfl, h.notes note (List.mem_of_getElem? hnote)⟩
      · intro r alert heq
        split_ifs at heq <;> cases heq
  case h_2 row hp =>
    rw [Option.ite_none_right_eq_some] at hr
    obtain ⟨-, hr⟩ := hr
    obtain rfl := Option.some.inj hr
    unfold selectRes
    split
    case h_1 => exact h.trap
    case h_2 res hres =>
      refine (h.present (b := vc.trapped) (by simp) fun r alert heq => ?_).skip (hlater _ _)
      obtain ⟨rfl, -⟩ : res = r ∧ false = alert := by simpa using heq
      exact h.resources res (List.mem_of_getElem? hres)
  case h_3 =>
    rw [Option.ite_none_left_eq_some] at hr
    obtain ⟨-, hr⟩ := hr
    obtain rfl := Option.some.inj hr
    exact getName_reacts h
  case h_4 note hp =>
    obtain rfl := Option.some.inj hr
    refine (h.present (b := vc.trapped) (fun n alert heq => ?_) (by simp)).skip (hlater _ _)
    obtain ⟨rfl, -⟩ : note = n ∧ true = alert := by simpa using heq
    exact h.deleteNote note false hp
  case h_5 resource hp =>
    obtain rfl := Option.some.inj hr
    refine (h.present (b := vc.trapped) (by simp) fun r alert heq => ?_).skip (hlater _ _)
    obtain ⟨rfl, -⟩ : resource = r ∧ true = alert := by simpa using heq
    exact h.deleteRes resource false hp
  case h_6 delete note hp =>
    obtain rfl := Option.some.inj hr
    obtain ⟨ho, hnote⟩ := h.deleteNote note true hp
    have hsound : Sound s₀ { vc with presented := some (.deleteNote note false) } := by
      refine h.present (b := vc.trapped) (fun n alert heq => ?_) (by simp)
      obtain ⟨rfl, -⟩ : note = n ∧ false = alert := by simpa using heq
      exact ⟨ho, hnote⟩
    cases delete with
    | false => exact hsound.skip (hlater _ _)
    | true => exact (deleteNote_reacts hsound ho hnote).after (hlater _ _)
  case h_7 delete resource hp =>
    obtain rfl := Option.some.inj hr
    have hres := h.deleteRes resource true hp
    have hsound : Sound s₀ { vc with presented := some (.deleteRes resource false) } := by
      refine h.present (b := vc.trapped) (by simp) fun r alert heq => ?_
      obtain ⟨rfl, -⟩ : resource = r ∧ false = alert := by simpa using heq
      exact hres
    cases delete with
    | false => exact hsound.skip (hlater _ _)
    | true => exact (deleteRes_reacts hsound hres).after (hlater _ _)
  case h_11 => cases hr
  all_goals
    obtain rfl := Option.some.inj hr
    exact (h.present (b := vc.trapped) (by simp) (by simp)).skip (hlater _ _)

/-- One's own name is taken over, and one's lists are loaded. -/
lemma nameFound_reacts (h : Sound s₀ vc) {thisUserId : String} (ho : vc.other = false)
    (hu : vc.currentUser = some thisUserId) (documents : List UserDoc) :
    Reacts s₀ vc (vc.nameFound thisUserId documents) := by
  unfold nameFound
  split
  case h_1 => exact h.skip (later_refl vc)
  case h_2 userData _ =>
    dsimp only
    generalize huser : (⟨userData.FirstName.getD "", userData.LastName.getD "", thisUserId,
      some userData.documentID⟩ : User) = user
    have hid : user.uid = thisUserId := by rw [← huser]
    have hlater : vc.Later { vc with user := some user } :=
      ⟨rfl, rfl, by simp [uid, ho], by simp⟩
    have hsound : Sound s₀ { vc with user := some user } := by
      refine ⟨fun u hu' => ?_, by simp, fun n hn => (h.notes n hn).later hlater,
        fun r hr => (h.resources r hr).later hlater, fun n alert hp => ?_,
        fun r alert hp => (h.deleteRes r alert hp).later hlater⟩
      · obtain rfl := Option.some.inj hu'
        simp [uid, ho, hu, hid]
      · obtain ⟨-, hn⟩ := h.deleteNote n alert hp
        exact ⟨ho, hn.later hlater⟩
    have hnotes := (loadNotes_reacts hsound rfl "You haven’t posted any notes yet").after hlater
    exact hnotes.next (loadResources_reacts hnotes.sound rfl _)

/-- The details are dismissed, or their alert. -/
lemma dismiss_sound (h : Sound s₀ vc) (details : ℕ) :
    Sound s₀ (vc.dismiss details) ∧ vc.Later (vc.dismiss details) ∧
      (vc.dismiss details).user = vc.user := by
  unfold dismiss
  split_ifs
  · refine ⟨h.present (b := vc.trapped) (fun n alert hp => ?_) fun r alert hp => ?_,
      ⟨rfl, rfl, rfl, id⟩, rfl⟩
    · split at hp
      case h_1 note hnote =>
        obtain ⟨rfl, -⟩ : note = n ∧ false = alert := by simpa using hp
        exact h.deleteNote note true hnote
      all_goals cases hp
    · split at hp
      case h_2 resource hres =>
        obtain ⟨rfl, -⟩ : resource = r ∧ false = alert := by simpa using hp
        exact h.deleteRes resource true hres
      all_goals cases hp
  · exact ⟨h, later_refl vc, rfl⟩

/-- The notes of an answer are taken over. -/
lemma notesFound_sound (h : Sound s₀ vc) (hu : vc.user ≠ none) (noDataMessage : String)
    (documents : List (String × NoteData)) (hd : ∀ doc ∈ documents, NoteOf s₀ vc.uid doc.1) :
    Sound s₀ (vc.notesFound noDataMessage documents) ∧
      vc.Later (vc.notesFound noDataMessage documents) := by
  refine ⟨⟨h.user, h.other, fun n hn => ?_, fun r hr => ?_, h.deleteNote, h.deleteRes⟩,
    ⟨rfl, rfl, rfl, id⟩⟩
  · simp only [notesFound, ProfileDetailViewController.notesFound] at hn
    split_ifs at hn
    · exact h.notes n hn
    · rcases List.mem_append.mp hn with hn | hn
      · exact h.notes n hn
      · obtain ⟨doc, hdoc, hnote⟩ := List.mem_filterMap.mp hn
        exact ⟨hu, doc.1, documentId_of_note hnote, hd doc hdoc⟩
  · simp only [notesFound, ProfileDetailViewController.notesFound] at hr
    split_ifs at hr <;> exact h.resources r hr

/-- The resources of an answer are taken over. -/
lemma resourcesFound_sound (h : Sound s₀ vc) (hu : vc.user ≠ none) (noDataMessage : String)
    (documents : List (String × ResourceData)) (hd : ∀ doc ∈ documents, ResOf s₀ vc.uid doc.1) :
    Sound s₀ (vc.resourcesFound noDataMessage documents) ∧
      vc.Later (vc.resourcesFound noDataMessage documents) := by
  refine ⟨⟨h.user, h.other, fun n hn => ?_, fun r hr => ?_, h.deleteNote, h.deleteRes⟩,
    ⟨rfl, rfl, rfl, id⟩⟩
  · simp only [resourcesFound, ProfileDetailViewController.resourcesFound] at hn
    split_ifs at hn <;> exact h.notes n hn
  · simp only [resourcesFound, ProfileDetailViewController.resourcesFound] at hr
    split_ifs at hr
    · exact h.resources r hr
    · rcases List.mem_append.mp hr with hr | hr
      · exact h.resources r hr
      · obtain ⟨doc, hdoc, hres⟩ := List.mem_filterMap.mp hr
        exact ⟨hu, doc.1, documentId_of_resource hres, hd doc hdoc⟩

/-- A completion keeps the invariant. -/
lemma recv_reacts (h : Sound s₀ vc) {q : ProfileRequest} {a : ProfileAnswer}
    (hq : Asked s₀ vc q) (ha : AnswerOf s₀ q a) : Reacts s₀ vc (vc.recv q a) := by
  unfold recv
  split_ifs
  · exact h.skip (later_refl vc)
  · unfold callback
    split
    case h_1 thisUserId documents => exact nameFound_reacts h hq.1 hq.2 documents
    case h_2 => exact h.skip (later_refl vc)
    case h_3 uid noDataMessage documents =>
      obtain ⟨hsound, hlater⟩ := notesFound_sound h hq.1 noDataMessage
        documents fun doc hdoc => hq.2 ▸ ha doc hdoc
      exact hsound.skip hlater
    case h_4 uid noDataMessage _ =>
      obtain ⟨hsound, hlater⟩ := notesFound_sound h hq.1 noDataMessage
        [] (by simp)
      exact hsound.skip hlater
    case h_5 uid noDataMessage documents =>
      obtain ⟨hsound, hlater⟩ := resourcesFound_sound h hq.1 noDataMessage
        documents fun doc hdoc => hq.2 ▸ ha doc hdoc
      exact hsound.skip hlater
    case h_6 uid noDataMessage _ =>
      obtain ⟨hsound, hlater⟩ := resourcesFound_sound h hq.1 noDataMessage
        [] (by simp)
      exact hsound.skip hlater
    case h_7 documentId details =>
      obtain ⟨hsound, hlater, hu⟩ := dismiss_sound h details
      refine Reacts.after ?_ hlater
      unfold delAt
      split
      · exact hsound.trap
      · exact loadNotes_reacts hsound ‹_› _
    case h_8 documentId details =>
      obtain ⟨hsound, hlater, hu⟩ := dismiss_sound h details
      refine Reacts.after ?_ hlater
      unfold resourceDeleted
      split
      · exact hsound.trap
      · exact loadResources_reacts hsound ‹_› _
    case h_9 => exact h.skip (later_refl vc)

/-! ### The deletions -/

/-- A touch asks for a deletion only if it confirms one of the details. -/
lemma ui_effects {u : ProfileTap} {r : ProfileReaction} (hr : vc.ui u = some r)
    {o : ProfileEffect} (ho : o ∈ r.effects) : u = .answerAlert true ∧
      ((∃ note id, vc.presented = some (.deleteNote note true) ∧ note.documentId = some id ∧
        o = .deletesNote id) ∨
      ∃ res id, vc.presented = some (.deleteRes res true) ∧ res.documentId = some id ∧
        o = .deletesRes id) := by
  have hname : ∀ o ∈ vc.getName.effects, False := by
    unfold getName
    split_ifs <;> split <;> simp [trap]
  unfold ui at hr
  rw [Option.ite_none_left_eq_some] at hr
  obtain ⟨-, hr⟩ := hr
  split at hr
  case h_1 row _ =>
    rw [Option.ite_none_right_eq_some] at hr
    obtain ⟨-, hr⟩ := hr
    obtain rfl := Option.some.inj hr
    unfold selectNote at ho
    split at ho <;> cases ho
  case h_2 row _ =>
    rw [Option.ite_none_right_eq_some] at hr
    obtain ⟨-, hr⟩ := hr
    obtain rfl := Option.some.inj hr
    unfold selectRes at ho
    split at ho <;> cases ho
  case h_3 =>
    rw [Option.ite_none_left_eq_some] at hr
    obtain ⟨-, hr⟩ := hr
    obtain rfl := Option.some.inj hr
    exact (hname o ho).elim
  case h_6 delete note hp =>
    obtain rfl := Option.some.inj hr
    cases delete with
    | false => cases ho
    | true =>
      simp only [if_true, deleteNote] at ho
      split at ho
      case h_1 => cases ho
      case h_2 id hid => exact ⟨rfl, Or.inl ⟨note, id, hp, hid, List.mem_singleton.mp ho⟩⟩
  case h_7 delete resource hp =>
    obtain rfl := Option.some.inj hr
    cases delete with
    | false => cases ho
    | true =>
      simp only [if_true, deleteRes] at ho
      split at ho
      case h_1 => cases ho
      case h_2 id hid => exact ⟨rfl, Or.inr ⟨resource, id, hp, hid, List.mem_singleton.mp ho⟩⟩
  case h_11 => cases hr
  all_goals
    obtain rfl := Option.some.inj hr
    cases ho

/-- A confirmed deletion of a resource is asked for. -/
lemma confirm_effects {r : ProfileReaction} (hr : vc.ui (.answerAlert true) = some r)
    {res : resFile} (hp : vc.presented = some (.deleteRes res true)) {id : String}
    (hid : res.documentId = some id) : .deletesRes id ∈ r.effects := by
  simp only [ui, hp, Option.ite_none_left_eq_some, if_true, Option.some.injEq] at hr
  obtain ⟨-, rfl⟩ := hr
  simp [deleteRes, hid]

/-- A completion asks for no deletion. -/
lemma recv_effects (vc : ProfileScreen) (q : ProfileRequest) (a : ProfileAnswer) :
    (vc.recv q a).effects = [] := by
  unfold recv
  split_ifs
  · rfl
  · unfold callback
    split
    case h_1 => unfold nameFound; split <;> rfl
    case h_7 => unfold delAt; split <;> rfl
    case h_8 => unfold resourceDeleted; split <;> rfl
    all_goals rfl

end ProfileScreen

/-! ## The system -/

open ProfileScreen

/-- The server has the documents it had. -/
def ProfileServer.Shrunk (s₀ s : ProfileServer) : Prop :=
  (∀ d ∈ s.Notes, d ∈ s₀.Notes) ∧ ∀ d ∈ s.Resources, d ∈ s₀.Resources

/-- The server answers with the documents of the user that is asked for. -/
lemma ProfileServer.Shrunk.serve {s : ProfileServer} (h : s₀.Shrunk s) (q : ProfileRequest)
    (success : Bool) :
    s₀.Shrunk (s.serve q success).server ∧ AnswerOf s₀ q (s.serve q success).answer := by
  cases success with
  | false => cases q <;> exact ⟨h, trivial⟩
  | true =>
    cases q with
    | getName thisUserId => exact ⟨h, trivial⟩
    | loadNotes uid _ =>
      refine ⟨h, fun doc hdoc => ?_⟩
      obtain ⟨d, hd, rfl⟩ := List.mem_map.mp hdoc
      obtain ⟨hd, huid⟩ := List.mem_filter.mp hd
      exact ⟨d, h.1 d hd, rfl, of_decide_eq_true huid⟩
    | loadResources uid _ =>
      refine ⟨h, fun doc hdoc => ?_⟩
      obtain ⟨d, hd, rfl⟩ := List.mem_map.mp hdoc
      obtain ⟨hd, huid⟩ := List.mem_filter.mp hd
      exact ⟨d, h.2 d hd, rfl, congrArg some (of_decide_eq_true huid)⟩
    | deleteNote documentId _ =>
      exact ⟨⟨fun d hd => h.1 d (List.mem_of_mem_filter hd), h.2⟩, trivial⟩
    | deleteRes documentId _ =>
      exact ⟨⟨h.1, fun d hd => h.2 d (List.mem_of_mem_filter hd)⟩, trivial⟩

/-- What the server carries out was asked for. -/
lemma serve_owns {s : ProfileServer} {vc : ProfileScreen} {q : ProfileRequest}
    (hq : Asked s₀ vc q) (success : Bool) : ∀ o ∈ (s.serve q success).effects, Owns s₀ vc o := by
  intro o ho
  cases success with
  | false => cases q <;> cases ho
  | true =>
    cases q with
    | deleteNote documentId _ =>
      obtain rfl := List.mem_singleton.mp ho
      exact hq.2
    | deleteRes documentId _ =>
      obtain rfl := List.mem_singleton.mp ho
      exact hq.2
    | _ => cases ho

/-- The profiles satisfy the conditions of the client rule. -/
lemma profileSystem_rules : ClientRules profileSystem (fun _ => False) s₀.Shrunk
    (fun _ vc t => Sound s₀ vc ∧ ∀ o ∈ t, Owns s₀ vc o) (Asked s₀) (fun _ => AnswerOf s₀) where
  boot := by
    rintro s (currentUser | ⟨user, currentUser⟩) -
    · have hr := getName_reacts (sound_opened s₀ false currentUser none (by simp) fun _ => rfl)
      exact ⟨⟨hr.sound, hr.effects⟩, hr.requests⟩
    · have hopen := sound_opened s₀ true currentUser (some user) (by simp) (by simp)
      have hname := getName_reacts hopen
      have hr := Reacts.next (f := fun vc => vc.loadNotes user "No Notes.") hname
        (loadNotes_reacts hname.sound rfl _)
      have hr' := Reacts.next (f := fun vc => vc.loadResources user "No Resourses.") hr
        (loadResources_reacts hr.sound rfl _)
      exact ⟨⟨hr'.sound, hr'.effects⟩, hr'.requests⟩
  ui := by
    rintro s vc t u r - ⟨hsound, howns⟩ hr
    have hreact := ui_reacts hsound hr
    refine ⟨⟨⟨hreact.sound, fun o ho => ?_⟩, hreact.requests⟩, fun q hq => hq.later hreact.later⟩
    exact (List.mem_append.mp ho).elim (fun ho => (howns o ho).later hreact.later)
      (hreact.effects o)
  serve := by
    rintro s q success vc hs hq
    obtain ⟨hshrunk, hanswer⟩ := hs.serve q success
    refine ⟨hshrunk, hanswer, fun t ⟨hsound, howns⟩ => ⟨hsound, fun o ho => ?_⟩⟩
    exact (List.mem_append.mp ho).elim (howns o) (serve_owns hq success o)
  others := fun s q success vc _ _ => ⟨fun _ _ h => h, fun _ _ h => h⟩
  recv := by
    rintro s vc t q a - - ⟨hsound, howns⟩ hq ha
    have hreact := recv_reacts hsound hq ha
    refine ⟨⟨⟨hreact.sound, fun o ho => ?_⟩, hreact.requests⟩,
      fun q' hq' _ => hq'.later hreact.later⟩
    exact (List.mem_append.mp ho).elim (fun ho => (howns o ho).later hreact.later)
      (hreact.effects o)

variable {s : ProfileServer} {h : List (ProfileWorld × ProfileEvent)} {w : ProfileWorld}

/-- What holds of the server and the profiles in every state of every run. -/
lemma profileSystem_sound (hr : profileSystem.RunFrom s h w) :
    ClientInv s.Shrunk (fun _ vc t => Sound s vc ∧ ∀ o ∈ t, Owns s vc o) (Asked s)
      (fun _ => AnswerOf s) w :=
  client_invariant exclusiveRules_false profileSystem_rules ⟨fun _ h => h, fun _ h => h⟩ hr

/-- A note that is gone was deleted. -/
lemma deleted_of_gone (hr : profileSystem.RunFrom s h w) :
    ∀ d ∈ s.Notes, d ∈ w.server.Notes ∨ ∃ t ∈ w.trace, t.effect = .deletedNote d.documentID := by
  refine hr.invariant (I := fun w => ∀ d ∈ s.Notes, d ∈ w.server.Notes ∨
    ∃ t ∈ w.trace, t.effect = .deletedNote d.documentID) (fun d hd => Or.inl hd)
    fun w e w' hw hs d hd => ?_
  rcases hw d hd with hstored | ⟨t, ht, heffect⟩
  · cases took_of_step hs with
    | boot free => exact Or.inl hstored
    | ui client reacts => exact Or.inl hstored
    | deliver flight answered client => exact Or.inl hstored
    | @serve k success f flight unanswered =>
      cases success with
      | false =>
        left
        cases hq : f.request <;>
          simpa [profileSystem, ProfileServer.serve, hq] using hstored
      | true =>
        cases hq : f.request with
        | deleteNote documentId details =>
          by_cases hid : d.documentID = documentId
          · right
            refine ⟨⟨f.owner, f.root, .deletedNote documentId⟩, ?_, by rw [hid]⟩
            simp [profileSystem, ProfileServer.serve]
          · left
            exact List.mem_filter.mpr ⟨hstored, by simpa using hid⟩
        | _ =>
          left
          simpa [profileSystem, ProfileServer.serve, hq, ProfileServer.deleteRes] using hstored
  · right
    refine ⟨t, ?_, heffect⟩
    cases took_of_step hs with
    | boot free => exact List.mem_append_left _ ht
    | ui client reacts => exact List.mem_append_left _ ht
    | serve flight unanswered => exact List.mem_append_left _ ht
    | deliver flight answered client => exact List.mem_append_left _ ht

/-- **Notes are deleted by their authors.** In every state of every run a note that is gone was
deleted on the profile of the signed-in user, who is its author.

**Proof sketch.** One's own profile lists one's own notes, and `deleteNote` opens only there, for a
row (`ProfileScreen.ui_reacts`); it deletes what it was opened for, whatever the list is by then. -/
theorem notes_deleted_by_author (hr : profileSystem.RunFrom s h w) {d : NoteDoc}
    (hd : d ∈ s.Notes) (hgone : d ∉ w.server.Notes) : ∃ i vc, w.clients i = some vc ∧
      vc.other = false ∧ vc.currentUser = d.data.uid ∧
      .deletedNote d.documentID ∈ w.effectsOf i := by
  obtain ⟨t, ht, heffect⟩ := (deleted_of_gone hr d hd).resolve_left hgone
  have hsound := profileSystem_sound hr
  have hmem : .deletedNote d.documentID ∈ w.effectsOf t.owner :=
    mem_effectsOf.mpr ⟨t, ht, rfl, heffect⟩
  cases hi : w.clients t.owner with
  | none => rw [hsound.fresh t.owner hi] at hmem; cases hmem
  | some vc =>
    obtain ⟨ho, hown⟩ := (hsound.client _ vc hi).2 _ hmem
    have hauthor := hown.unique ⟨d, hd, rfl, rfl⟩
    refine ⟨t.owner, vc, hi, ho, ?_, hmem⟩
    rw [← hauthor, uid, ho]
    rfl

/-- The collections have a note and a resource by Sara. -/
def saraProfile : ProfileServer where
  users :=
    { docs := [⟨"s", "sara", some "Sara", some "S", none⟩]
      nodup := by decide }
  Notes := [⟨"n", ⟨some "Logic", some "Sara", some "", some "", some "u", some "sara", some 7⟩⟩]
  Resources := [⟨"r", "sara", ⟨some "Sets", some "Sara", some "", some "", some "u", some 7⟩⟩]
  notes_nodup := by decide
  resources_nodup := by decide

/-- Sara opens her profile, and deletes her note. -/
def saraDeletes : List ProfileEvent :=
  [.boot 0 (.own (some "sara")), .serve 0 true, .deliver 0 (), .serve 0 true, .deliver 1 (),
    .ui 0 (.selectNote 0), .ui 0 .delete, .ui 0 (.answerAlert true), .serve 1 true]

/-- Sara's note was deleted by her. -/
theorem notes_deleted_by_author_sara : ∃ h w i vc, profileSystem.RunFrom saraProfile h w ∧
    w.server.Notes.length = 0 ∧ w.clients i = some vc ∧ vc.other = false ∧
    vc.currentUser = some "sara" ∧ .deletedNote "n" ∈ w.effectsOf i := by
  have he : (exec profileSystem.step (start saraProfile) saraDeletes).map
      (fun w => w.server.Notes.length) = some 0 := by decide +kernel
  obtain ⟨h, w, hr, -, hw⟩ := run_of_observed he
  obtain ⟨i, vc, hi, ho, hu, hdeleted⟩ := notes_deleted_by_author hr
    (d := ⟨"n", ⟨some "Logic", some "Sara", some "", some "", some "u", some "sara", some 7⟩⟩)
    (by simp [saraProfile]) (by rw [List.length_eq_zero_iff.mp hw]; simp)
  exact ⟨h, w, i, vc, hr, hw, hi, ho, hu, hdeleted⟩

/-! ## Deletions on the profiles of others -/

/-- Nobody has asked to delete what is not theirs. -/
def DeletesOwn (s : ProfileServer) (w : ProfileWorld) : Prop :=
  ∀ i vc, w.clients i = some vc → ∀ id,
    (.deletesNote id ∈ w.effectsOf i → NoteOf s vc.currentUser id) ∧
      (.deletesRes id ∈ w.effectsOf i → ResOf s vc.currentUser id)

/-- The deletion of a resource is confirmed only on one's own profile, or on a profile of
oneself. -/
def ConfirmsOwn (w : ProfileWorld) (e : ProfileEvent) : Prop :=
  ∀ i vc res, e = .ui i (.answerAlert true) → w.clients i = some vc →
    vc.presented = some (.deleteRes res true) → vc.uid = vc.currentUser

/-- Resources are deleted on profiles of one's own. -/
def OnOwnProfile (w : ProfileWorld) : Prop :=
  ∀ i vc, w.clients i = some vc → ∀ id, .deletesRes id ∈ w.effectsOf i → vc.uid = vc.currentUser

/-- Deletions are of one's own exactly if the resources are deleted on profiles of one's own. -/
lemma deletesOwn_iff (hr : profileSystem.RunFrom s h w) : DeletesOwn s w ↔ OnOwnProfile w := by
  have hsound := profileSystem_sound hr
  constructor
  · intro hown i vc hi id hid
    exact ((hsound.client i vc hi).2 _ hid).unique ((hown i vc hi id).2 hid)
  · intro huid i vc hi id
    refine ⟨fun hid => ?_, fun hid => ?_⟩
    · obtain ⟨ho, hnote⟩ := (hsound.client i vc hi).2 _ hid
      simpa [uid, ho] using hnote
    · have hres : ResOf s vc.uid id := (hsound.client i vc hi).2 _ hid
      rwa [huid i vc hi id hid] at hres

/-- A reaction deletes resources on a profile of one's own, or none. -/
lemma onOwnProfile_react {i root : ℕ} {vc : ProfileScreen} {r : ProfileReaction}
    (client : w.clients i = some vc) (hl : vc.Later r.client) :
    OnOwnProfile (w.react i root r) ↔
      OnOwnProfile w ∧ ∀ id, .deletesRes id ∈ r.effects → vc.uid = vc.currentUser := by
  constructor
  · intro hown
    have hself : ∀ id, .deletesRes id ∈ w.effectsOf i ++ r.effects → vc.uid = vc.currentUser := by
      intro id hid
      rw [← hl.uid, ← hl.currentUser]
      exact hown i r.client (by simp) id (by simpa using hid)
    refine ⟨fun j vc' hj id hid => ?_, fun id hid => hself id (List.mem_append_right _ hid)⟩
    by_cases hij : j = i
    · subst hij
      obtain rfl : vc = vc' := Option.some.inj (client.symm.trans hj)
      exact hself id (List.mem_append_left _ hid)
    · exact hown j vc' (by simpa [hij] using hj) id (by simpa [hij] using hid)
  · rintro ⟨hown, hnew⟩ j vc' hj id hid
    by_cases hij : j = i
    · subst hij
      obtain rfl : r.client = vc' := by simpa using hj
      rw [hl.uid, hl.currentUser]
      rw [effectsOf_react_self] at hid
      exact (List.mem_append.mp hid).elim (hown j vc client id) (hnew id)
    · exact hown j vc' (by simpa [hij] using hj) id (by simpa [hij] using hid)

/-- The launch of a profile deletes nothing. -/
lemma onOwnProfile_boot (hr : profileSystem.RunFrom s h w) {i root : ℕ} (a : ProfileOpened)
    (free : w.clients i = none) :
    OnOwnProfile (w.react i root (profileSystem.boot a)) ↔ OnOwnProfile w := by
  have hnone : (profileSystem.boot a).effects = [] := by
    cases a with
    | own currentUser => cases currentUser <;> rfl
    | other user currentUser => rfl
  have hfresh := (profileSystem_sound hr).fresh i free
  constructor <;> intro hown j vc hj id hid
  · by_cases hij : j = i
    · subst hij; rw [free] at hj; cases hj
    · exact hown j vc (by simpa [hij] using hj) id (by simpa [hij] using hid)
  · by_cases hij : j = i
    · subst hij
      simp [hfresh, hnone] at hid
    · exact hown j vc (by simpa [hij] using hj) id (by simpa [hij] using hid)

/-- The server asks for no deletion. -/
lemma onOwnProfile_handle (k : ℕ) (f : Flight ProfileRequest ProfileAnswer)
    (success : Bool) :
    OnOwnProfile (w.handle k f (w.server.serve f.request success)) ↔ OnOwnProfile w := by
  have hasks : ∀ id, .deletesRes id ∉ (w.server.serve f.request success).effects := by
    intro id hid
    cases success <;> cases hq : f.request <;> simp [ProfileServer.serve, hq] at hid
  have heffects : ∀ j id, .deletesRes id ∈
      (w.handle k f (w.server.serve f.request success)).effectsOf j ↔
        .deletesRes id ∈ w.effectsOf j := by
    intro j id
    by_cases hj : j = f.owner
    · subst hj
      simp [hasks id]
    · rw [effectsOf_handle_of_ne _ _ _ _ _ hj]
  simp only [OnOwnProfile, heffects, handle_clients]

/-- A step keeps deletions of one's own exactly if what it confirms is. -/
lemma deletesOwn_step {w' : ProfileWorld} {e : ProfileEvent} (hr : profileSystem.RunFrom s h w)
    (hs : profileSystem.step w e = some w') :
    DeletesOwn s w' ↔ DeletesOwn s w ∧ ConfirmsOwn w e := by
  have hsound := profileSystem_sound hr
  have hother : ∀ e : ProfileEvent, (∀ i, e ≠ .ui i (.answerAlert true)) → ConfirmsOwn w e :=
    fun e he i _ _ heq => absurd heq (he i)
  rw [deletesOwn_iff hr, deletesOwn_iff (hr.snoc hs)]
  cases took_of_step hs with
  | @boot i a free =>
    rw [and_iff_left (hother _ (by simp))]
    exact onOwnProfile_boot hr a free
  | @ui i u vc r client reacts =>
    obtain ⟨hscreen, -⟩ := hsound.client i vc client
    refine (onOwnProfile_react client (ui_reacts hscreen reacts).later).trans
      (and_congr_right fun _ => ?_)
    constructor
    · rintro hnew j vc' res heq hj hp
      obtain ⟨rfl, rfl⟩ := Event.ui.inj heq
      obtain rfl : vc = vc' := Option.some.inj (client.symm.trans hj)
      obtain ⟨-, id, hid, -⟩ := hscreen.deleteRes res true hp
      exact hnew id (confirm_effects reacts hp hid)
    · intro hconfirm id hid
      obtain ⟨rfl, ⟨_, _, -, -, heq⟩ | ⟨res, _, hp, -, -⟩⟩ := ui_effects reacts hid
      · cases heq
      · exact hconfirm i vc res rfl client hp
  | @serve k success f flight unanswered =>
    rw [and_iff_left (hother _ (by simp))]
    exact onOwnProfile_handle k f success
  | @deliver k x f a vc flight answered client =>
    rw [and_iff_left (hother _ (by simp))]
    obtain ⟨hscreen, -⟩ := hsound.client _ vc client
    obtain ⟨vc', hvc', hasked, hanswered⟩ := hsound.flight f (mem_of_flight flight)
    obtain rfl : vc = vc' := Option.some.inj (client.symm.trans hvc')
    have hreact := recv_reacts hscreen hasked (hanswered a answered)
    refine (onOwnProfile_react (w := w.land k) client hreact.later).trans ?_
    simp only [recv_effects]
    exact and_iff_left (by simp)

/-- **When deletions are of one's own.** In a run everything that is asked to be deleted is by the
signed-in user of the screen that asks for it if and only if every deletion of a resource is
confirmed on a profile of the signed-in user.

**Proof sketch.** What is asked to be deleted is always by the user of the profile
(`ProfileScreen.ui_reacts`). Notes are deleted on one's own profile only, but the details of a
resource have their button on every profile. -/
theorem deletes_own_iff (hr : profileSystem.RunFrom s h w) :
    DeletesOwn s w ↔ EveryStep ConfirmsOwn h := by
  induction hr with
  | nil => exact iff_of_true (fun i vc hi => by cases hi) (by simp)
  | snoc hr hs ih => rw [deletesOwn_step hr hs, ih, everyStep_snoc]

/-- Bob opens Sara's profile, and deletes her resource. -/
def bobDeletes : List ProfileEvent :=
  [.boot 0 (.other ⟨"Sara", "S", "sara", some "s"⟩ (some "bob")), .serve 1 true, .deliver 1 (),
    .ui 0 (.selectRes 0), .ui 0 .delete, .ui 0 (.answerAlert true), .serve 1 true]

/-- Bob has deleted what is Sara's. -/
theorem deletes_own_iff_bob : ∃ h w, profileSystem.RunFrom saraProfile h w ∧
    w.server.Resources.length = 0 ∧ ¬ EveryStep ConfirmsOwn h ∧
    (DeletesOwn saraProfile w ↔ EveryStep ConfirmsOwn h) := by
  have he : (exec profileSystem.step (start saraProfile) bobDeletes).map (fun w =>
      (w.server.Resources.length, (w.clients 0).map fun vc => (vc.uid, vc.currentUser),
        decide (.deletesRes "r" ∈ w.effectsOf 0))) =
      some (0, some (some "sara", some "bob"), true) := by decide +kernel
  obtain ⟨h, w, hr, -, hw⟩ := run_of_observed he
  simp only [Prod.mk.injEq, Option.map_eq_some_iff, decide_eq_true_eq] at hw
  obtain ⟨hgone, ⟨vc, hi, hu, huser⟩, hdeletes⟩ := hw
  have hiff := deletes_own_iff hr
  refine ⟨h, w, hr, hgone, fun hconfirms => ?_, hiff⟩
  obtain ⟨d, hd, -, howner⟩ := (hiff.mpr hconfirms 0 vc hi "r").2 hdeletes
  obtain rfl : d = ⟨"r", "sara", ⟨some "Sets", some "Sara", some "", some "", some "u", some 7⟩⟩ :=
    List.mem_singleton.mp hd
  rw [huser] at howner
  exact absurd howner (by decide)

end Aoun
