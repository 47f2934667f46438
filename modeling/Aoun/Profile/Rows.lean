import Aoun.Lib.Table
import Aoun.Profile.Deletion

/-!
# The rows of the profiles

A profile clears a list when it loads it again, and its table keeps the rows that it has until the
load is answered. A tap on such a row is an index out of range. Nothing else makes a profile stop:
the forced unwrappings of its user and of the documents to delete always find something.

The table of the resources is reloaded for each resource of an answer. It follows an answer unless
that has documents none of which is a resource.

## Main definitions

* `Aoun.profileTable` — the tables of the notes and of the resources.
* `Aoun.RowTaps` — the taps on their rows.

## Main results

* `Aoun.rows_listed` — profiles on which no row is tapped while its table is being loaded.
-/

set_option relaxedAutoImplicit false
set_option autoImplicit false

namespace Aoun

open AsyncSystem AsyncSystem.World StepSystem ProfileScreen

/-! ## The tables -/

/-- The tables of a profile. -/
inductive ProfileTable
  | notes
  | resources
  deriving DecidableEq

/-- `notesTable` and `resTable`. -/
def profileTable : ProfileTable → Table ProfileScreen ProfileRequest
  | .notes =>
    { loads := fun q => ∃ uid noDataMessage, q = .loadNotes uid noDataMessage
      rows := (·.noteRows)
      count := (·.lists.notes.length) }
  | .resources =>
    { loads := fun q => ∃ uid noDataMessage, q = .loadResources uid noDataMessage
      rows := (·.resRows)
      count := (·.lists.resources.length) }

/-- A tap on a row. -/
def RowTaps : ProfileTap → ProfileTable → Prop
  | .selectNote _, n => n = .notes
  | .selectRes _, n => n = .resources
  | _, _ => False

/-- The resources of the answers can be read. -/
def AnswerReadable (a : ProfileAnswer) : Prop :=
  ∀ documents, a = .resources documents → ∀ doc ∈ documents,
    ProfileDetailViewController.resource doc.2 doc.1 ≠ none

namespace ProfileScreen

variable {s₀ : ProfileServer} {vc vc' : ProfileScreen}

/-- The tables of a reaction follow their lists, or are left as they are, and the program goes
on. -/
def Settles (vc : ProfileScreen) (r : ProfileReaction) : Prop :=
  r.client.trapped = false ∧ ∀ n, (profileTable n).Follows r ∨ (profileTable n).Leaves vc r

/-- The tables and lists are those of an earlier state. -/
structure SameTables (vc vc' : ProfileScreen) : Prop where
  noteRows : vc'.noteRows = vc.noteRows
  resRows : vc'.resRows = vc.resRows
  lists : vc'.lists = vc.lists
  trapped : vc'.trapped = vc.trapped

lemma SameTables.leaves {r : ProfileReaction} (h : vc.SameTables r.client) (n : ProfileTable) :
    (profileTable n).Leaves vc r := by
  cases n with
  | notes => exact ⟨h.noteRows, congrArg (·.notes.length) h.lists⟩
  | resources => exact ⟨h.resRows, congrArg (·.resources.length) h.lists⟩

lemma SameTables.settles {r : ProfileReaction} (h : vc.SameTables r.client)
    (hj : vc.trapped = false) : vc.Settles r :=
  ⟨h.trapped.trans hj, fun n => Or.inr (h.leaves n)⟩

lemma SameTables.settles_after {r : ProfileReaction} (h : vc.SameTables vc')
    (hr : vc'.Settles r) : vc.Settles r := by
  refine ⟨hr.1, fun n => (hr.2 n).imp_right fun hleaves => ?_⟩
  have hsame : (profileTable n).Leaves vc (.skip vc') := h.leaves n
  exact ⟨hleaves.1.trans hsame.1, hleaves.2.trans hsame.2⟩

/-- A list that is loaded again. -/
lemma settles_loadNotes (user : User) (noDataMessage : String) (hj : vc.trapped = false) :
    vc.Settles (vc.loadNotes user noDataMessage) := by
  refine ⟨hj, fun n => ?_⟩
  cases n with
  | notes => exact Or.inl (Or.inl ⟨_, List.mem_singleton_self _, user.uid, noDataMessage, rfl⟩)
  | resources => exact Or.inr ⟨rfl, rfl⟩

lemma settles_loadResources (user : User) (noDataMessage : String) (hj : vc.trapped = false) :
    vc.Settles (vc.loadResources user noDataMessage) := by
  refine ⟨hj, fun n => ?_⟩
  cases n with
  | notes => exact Or.inr ⟨rfl, rfl⟩
  | resources => exact Or.inl (Or.inl ⟨_, List.mem_singleton_self _, user.uid, noDataMessage, rfl⟩)

/-- A reaction that loads both lists. -/
lemma follows_loads (user : User) (m m' : String) (n : ProfileTable) :
    (profileTable n).Follows ((vc.loadNotes user m).next fun vc => vc.loadResources user m') := by
  left
  cases n with
  | notes => exact ⟨.loadNotes user.uid m, by simp [loadNotes, loadResources], _, _, rfl⟩
  | resources => exact ⟨.loadResources user.uid m', by simp [loadNotes, loadResources], _, _, rfl⟩

/-- The profile of another user has its user. -/
lemma settles_getName (h : Sound s₀ vc) (hj : vc.trapped = false) : vc.Settles vc.getName := by
  unfold getName
  split_ifs with ho
  · split
    case h_1 hu => exact absurd hu (h.other ho)
    case h_2 => exact SameTables.settles ⟨rfl, rfl, rfl, rfl⟩ hj
  · split <;> exact SameTables.settles ⟨rfl, rfl, rfl, rfl⟩ hj

/-- The details of a note have its document. -/
lemma settles_deleteNote {note : NoteFile} (hnote : HasNote s₀ vc note)
    (hj : vc.trapped = false) : vc.Settles (vc.deleteNote note) := by
  obtain ⟨-, id, hid, -⟩ := hnote
  unfold deleteNote
  rw [hid]
  exact SameTables.settles ⟨rfl, rfl, rfl, rfl⟩ hj

lemma settles_deleteRes {resource : resFile} (hres : HasRes s₀ vc resource)
    (hj : vc.trapped = false) : vc.Settles (vc.deleteRes resource) := by
  obtain ⟨-, id, hid, -⟩ := hres
  unfold deleteRes
  rw [hid]
  exact SameTables.settles ⟨rfl, rfl, rfl, rfl⟩ hj

/-- A tap on a row of a table that shows its list. -/
lemma settles_ui (h : Sound s₀ vc) (hj : vc.trapped = false) {u : ProfileTap}
    (htap : ∀ n, RowTaps u n → (profileTable n).rows vc = (profileTable n).count vc)
    {r : ProfileReaction} (hr : vc.ui u = some r) : vc.Settles r := by
  unfold ui at hr
  rw [Option.ite_none_left_eq_some] at hr
  obtain ⟨-, hr⟩ := hr
  split at hr
  case h_1 row hp =>
    rw [Option.ite_none_right_eq_some] at hr
    obtain ⟨hrow, hr⟩ := hr
    obtain rfl := Option.some.inj hr
    have hcount : vc.noteRows = vc.lists.notes.length := htap .notes rfl
    unfold selectNote
    rw [List.getElem?_eq_getElem (hcount ▸ hrow)]
    exact SameTables.settles ⟨rfl, rfl, rfl, rfl⟩ hj
  case h_2 row hp =>
    rw [Option.ite_none_right_eq_some] at hr
    obtain ⟨hrow, hr⟩ := hr
    obtain rfl := Option.some.inj hr
    have hcount : vc.resRows = vc.lists.resources.length := htap .resources rfl
    unfold selectRes
    rw [List.getElem?_eq_getElem (hcount ▸ hrow)]
    exact SameTables.settles ⟨rfl, rfl, rfl, rfl⟩ hj
  case h_3 =>
    rw [Option.ite_none_left_eq_some] at hr
    obtain ⟨-, hr⟩ := hr
    obtain rfl := Option.some.inj hr
    exact settles_getName h hj
  case h_6 delete note hp =>
    obtain rfl := Option.some.inj hr
    have hsame : vc.SameTables { vc with presented := some (.deleteNote note false) } :=
      ⟨rfl, rfl, rfl, rfl⟩
    cases delete with
    | false => exact hsame.settles hj
    | true =>
      exact hsame.settles_after (settles_deleteNote ((h.deleteNote note true hp).2.later
        ⟨rfl, rfl, rfl, id⟩) hj)
  case h_7 delete resource hp =>
    obtain rfl := Option.some.inj hr
    have hsame : vc.SameTables { vc with presented := some (.deleteRes resource false) } :=
      ⟨rfl, rfl, rfl, rfl⟩
    cases delete with
    | false => exact hsame.settles hj
    | true =>
      exact hsame.settles_after (settles_deleteRes ((h.deleteRes resource true hp).later
        ⟨rfl, rfl, rfl, id⟩) hj)
  case h_11 => cases hr
  all_goals
    obtain rfl := Option.some.inj hr
    exact SameTables.settles ⟨rfl, rfl, rfl, rfl⟩ hj

/-- One's own name is taken over, and both lists are loaded. -/
lemma settles_nameFound (thisUserId : String) (documents : List UserDoc)
    (hj : vc.trapped = false) : vc.Settles (vc.nameFound thisUserId documents) := by
  unfold nameFound
  split
  · exact SameTables.settles ⟨rfl, rfl, rfl, rfl⟩ hj
  · exact ⟨hj, fun n => Or.inl (follows_loads _ _ _ n)⟩

/-- The details are dismissed; the user whose lists are loaded then is there. -/
lemma sameTables_dismiss (details : ℕ) : vc.SameTables (vc.dismiss details) := by
  unfold dismiss
  split_ifs <;> exact ⟨rfl, rfl, rfl, rfl⟩

lemma settles_delAt (hu : vc.user ≠ none) (hj : vc.trapped = false) : vc.Settles vc.delAt := by
  obtain ⟨user, hu⟩ := Option.ne_none_iff_exists'.mp hu
  simp only [delAt, hu]
  exact settles_loadNotes user _ hj

lemma settles_resourceDeleted (hu : vc.user ≠ none) (hj : vc.trapped = false) :
    vc.Settles vc.resourceDeleted := by
  obtain ⟨user, hu⟩ := Option.ne_none_iff_exists'.mp hu
  simp only [resourceDeleted, hu]
  exact settles_loadResources user _ hj

/-- The table that a request loads follows the completion, and the tables are else left as they
are. -/
def SettlesAnswer (vc : ProfileScreen) (q : ProfileRequest) (r : ProfileReaction) : Prop :=
  r.client.trapped = false ∧ ∀ n, (profileTable n).Follows r ∨
    (¬ (profileTable n).loads q ∧ (profileTable n).Leaves vc r)

lemma Settles.answer {q : ProfileRequest} {r : ProfileReaction} (hr : vc.Settles r)
    (hq : ∀ n, ¬ (profileTable n).loads q) : vc.SettlesAnswer q r :=
  ⟨hr.1, fun n => (hr.2 n).imp_right fun hleaves => ⟨hq n, hleaves⟩⟩

/-- The table of the notes follows every answer. -/
lemma settles_notesFound (uid noDataMessage : String) (documents : List (String × NoteData))
    (hj : vc.trapped = false) : vc.SettlesAnswer (.loadNotes uid noDataMessage)
      (.skip (vc.notesFound noDataMessage documents)) := by
  refine ⟨hj, fun n => ?_⟩
  cases n with
  | notes => exact Or.inl (Or.inr rfl)
  | resources =>
    refine Or.inr ⟨by simp [profileTable], rfl, ?_⟩
    change (vc.lists.notesFound noDataMessage documents).resources.length = _
    unfold ProfileDetailViewController.notesFound
    dsimp only
    split_ifs <;> rfl

/-- The table of the resources follows an answer that can be read. -/
lemma settles_resourcesFound (uid noDataMessage : String)
    {documents : List (String × ResourceData)}
    (hd : ∀ doc ∈ documents, ProfileDetailViewController.resource doc.2 doc.1 ≠ none)
    (hj : vc.trapped = false) : vc.SettlesAnswer (.loadResources uid noDataMessage)
      (.skip (vc.resourcesFound noDataMessage documents)) := by
  refine ⟨hj, fun n => ?_⟩
  cases n with
  | notes =>
    refine Or.inr ⟨by simp [profileTable], rfl, ?_⟩
    change (vc.lists.resourcesFound noDataMessage documents).notes.length = _
    unfold ProfileDetailViewController.resourcesFound
    split_ifs <;> rfl
  | resources =>
    have hreloads : documents = [] ∨
        documents.filterMap (fun doc => ProfileDetailViewController.resource doc.2 doc.1) ≠ [] := by
      rcases List.eq_nil_or_concat documents with hnil | ⟨init, doc, rfl⟩
      · exact Or.inl hnil
      · obtain ⟨res, hres⟩ := Option.ne_none_iff_exists'.mp (hd doc (by simp))
        exact Or.inr (List.ne_nil_of_mem (List.mem_filterMap.mpr ⟨doc, by simp, hres⟩))
    exact Or.inl (Or.inr (if_pos hreloads))

/-- A completion reloads the table of what it has loaded. -/
lemma settles_recv (h : Sound s₀ vc) (hj : vc.trapped = false) {q : ProfileRequest}
    {a : ProfileAnswer} (hasked : Asked s₀ vc q) (hreads : AnswerReadable a) :
    vc.SettlesAnswer q (vc.recv q a) := by
  have hskip : vc.Settles (.skip vc) := SameTables.settles ⟨rfl, rfl, rfl, rfl⟩ hj
  have hdismiss : ∀ details, (vc.dismiss details).trapped = false := fun details =>
    (sameTables_dismiss details).trapped.trans hj
  unfold recv
  rw [if_neg (by simp [hj])]
  cases q with
  | getName thisUserId =>
    have hload : ∀ n, ¬ (profileTable n).loads (.getName thisUserId) := fun n => by
      cases n <;> simp [profileTable]
    cases a with
    | users documents => exact (settles_nameFound thisUserId documents hj).answer hload
    | _ => exact hskip.answer hload
  | loadNotes uid noDataMessage =>
    cases a with
    | notes documents => exact settles_notesFound uid noDataMessage documents hj
    | _ => exact settles_notesFound uid noDataMessage [] hj
  | loadResources uid noDataMessage =>
    cases a with
    | resources documents =>
      exact settles_resourcesFound uid noDataMessage (hreads documents rfl) hj
    | _ => exact settles_resourcesFound uid noDataMessage (by simp) hj
  | deleteNote documentId details =>
    have hload : ∀ n, ¬ (profileTable n).loads (.deleteNote documentId details) := fun n => by
      cases n <;> simp [profileTable]
    cases a with
    | deleted =>
      refine Settles.answer ((sameTables_dismiss details).settles_after ?_) hload
      exact settles_delAt ((dismiss_sound h details).2.2 ▸ hasked.1) (hdismiss details)
    | _ => exact hskip.answer hload
  | deleteRes documentId details =>
    have hload : ∀ n, ¬ (profileTable n).loads (.deleteRes documentId details) := fun n => by
      cases n <;> simp [profileTable]
    cases a with
    | deleted =>
      refine Settles.answer ((sameTables_dismiss details).settles_after ?_) hload
      exact settles_resourceDeleted ((dismiss_sound h details).2.2 ▸ hasked.1) (hdismiss details)
    | _ => exact hskip.answer hload

end ProfileScreen

/-! ## The system -/

/-- The resources of the server can be read. -/
def ResourcesReadable (s : ProfileServer) : Prop :=
  ∀ d ∈ s.Resources, ProfileDetailViewController.resource d.data d.documentID ≠ none

/-- The server answers with resources that it has. -/
lemma ResourcesReadable.serve {s : ProfileServer} (hs : ResourcesReadable s) (q : ProfileRequest)
    (success : Bool) :
    ResourcesReadable (s.serve q success).server ∧ AnswerReadable (s.serve q success).answer := by
  cases success with
  | false => cases q <;> exact ⟨hs, fun documents heq => by cases heq⟩
  | true =>
    cases q with
    | loadResources uid _ =>
      refine ⟨hs, fun documents heq doc hdoc => ?_⟩
      obtain rfl := ProfileAnswer.resources.inj heq
      obtain ⟨d, hd, rfl⟩ := List.mem_map.mp hdoc
      exact hs d (List.mem_of_mem_filter hd)
    | deleteRes documentId _ =>
      exact ⟨fun d hd => hs d (List.mem_of_mem_filter hd), fun documents heq => by cases heq⟩
    | _ => exact ⟨hs, fun documents heq => by cases heq⟩

/-- The profiles are answered with resources that can be read. -/
lemma profileSystem_readable : ClientRules profileSystem (fun _ => False) ResourcesReadable
    (fun _ _ _ => True) (fun _ _ => True) (fun _ _ => AnswerReadable) where
  boot := fun _ _ _ => ⟨trivial, fun _ _ => trivial⟩
  ui := fun _ _ _ _ _ _ _ _ => ⟨⟨trivial, fun _ _ => trivial⟩, fun _ _ => trivial⟩
  serve := fun _ q success _ hs _ =>
    ⟨(hs.serve q success).1, (hs.serve q success).2, fun _ _ => trivial⟩
  others := fun _ _ _ _ _ _ => ⟨fun _ _ _ => trivial, fun _ _ h => h⟩
  recv := fun _ _ _ _ _ _ _ _ _ _ =>
    ⟨⟨trivial, fun _ _ => trivial⟩, fun _ _ _ => trivial⟩

variable {s : ProfileServer} {h : List (ProfileWorld × ProfileEvent)} {w : ProfileWorld}

/-- What the tables of the profiles rely on holds in every state of every run. -/
lemma profileSystem_known (hs : ResourcesReadable s) (hr : profileSystem.RunFrom s h w) :
    TablesKnown (Sound s) (fun vc q a => Asked s vc q ∧ AnswerReadable a) w := by
  have hsound := profileSystem_sound hr
  refine ⟨fun i vc hi => (hsound.client i vc hi).1, fun f hf vc a hi ha => ?_⟩
  obtain ⟨vc', hi', hasked, -⟩ := hsound.flight f hf
  obtain rfl : vc = vc' := Option.some.inj (hi.symm.trans hi')
  obtain ⟨-, -, -, hanswer⟩ :=
    (client_invariant exclusiveRules_false profileSystem_readable hs hr).flight f hf
  exact ⟨hasked, hanswer a ha⟩

variable (s) in
/-- The profiles satisfy the conditions of the rule for tables. -/
lemma profileSystem_tables : TableRules profileSystem profileTable RowTaps
    (fun vc => vc.trapped = false) (Sound s) (fun vc q a => Asked s vc q ∧ AnswerReadable a) where
  boot := by
    rintro (currentUser | ⟨user, currentUser⟩)
    · cases currentUser <;> exact ⟨rfl, fun n => by cases n <;> exact Or.inr rfl⟩
    · exact ⟨rfl, follows_loads user _ _⟩
  ui := fun vc u r hj hsound htap hr => settles_ui hsound hj htap hr
  recv := fun vc q a _ hj hsound hgood => settles_recv hsound hj hgood.1 hgood.2

/-- A test that no row is tapped while its table is being loaded. -/
def rowLoaded (w : ProfileWorld) : ProfileEvent → Bool
  | .ui i (.selectNote _) => w.flights.all fun f => match f.request with
    | .loadNotes _ _ => f.owner ≠ i
    | _ => true
  | .ui i (.selectRes _) => w.flights.all fun f => match f.request with
    | .loadResources _ _ => f.owner ≠ i
    | _ => true
  | _ => true

lemma tapsSettled_of_rowLoaded {e : ProfileEvent} (hg : rowLoaded w e = true) :
    TapsSettled profileTable RowTaps w e := by
  rintro i u n rfl htap ⟨f, hf, hi, hload⟩
  cases u with
  | selectNote row =>
    obtain rfl : n = .notes := htap
    obtain ⟨uid, m, hq⟩ := hload
    have hfree := List.all_eq_true.mp hg f hf
    simp [hq, hi] at hfree
  | selectRes row =>
    obtain rfl : n = .resources := htap
    obtain ⟨uid, m, hq⟩ := hload
    have hfree := List.all_eq_true.mp hg f hf
    simp [hq, hi] at hfree
  | _ => exact htap

/-- Sara opens her profile, looks at her note once it is loaded, and deletes it. -/
def saraLooks : List ProfileEvent :=
  [.boot 0 (.own (some "sara")), .serve 0 true, .deliver 0 (), .serve 0 true, .deliver 1 (),
    .ui 0 (.selectNote 0), .ui 0 .delete, .ui 0 (.answerAlert true), .serve 1 true, .deliver 1 ()]

end Aoun
