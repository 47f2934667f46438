import Aoun.Community.Answers
import Aoun.Lib.Search
import Aoun.Records

/-!
# Searching the lists

The screens for notes, workshops, resources and the questions of a community each show `filtered`,
which is computed anew when the text in the search bar changes. The observers of the lists, and
the segments that choose between two lists, set `filtered` to the whole list, whatever the text.

The searches `localizedCaseInsensitiveContains` and `range(of:options:)` are parameters. The lists
that the notes and the workshops are assigned are any lists; how they are loaded is modelled
elsewhere.

## Main definitions

* `Aoun.ViewNotesViewController.Lists`, `Aoun.viewWorkshopViewController.Lists`,
  `Aoun.resViewViewController` — the lists of the screens, and what changes them.
* `Aoun.Community.newQuestions` and its like — the list that a step shows as a whole.

## Main results

* `Aoun.lists_shown_iff` — when the lists shown match the search bar.
-/

set_option relaxedAutoImplicit false
set_option autoImplicit false

namespace Aoun

open StepSystem SearchList

/-! ## The notes -/

namespace ViewNotesViewController

/-- The lists of `ViewNotesViewController`, and its search bar. -/
structure Lists where
  myNotes : List NoteFile
  notes : List NoteFile
  activeNotes : List NoteFile
  filtered : List NoteFile
  /-- The selected segment of `noteTypeSegment`. -/
  selectedSegmentIndex : ℤ
  searchText : String
  message : Option String

/-- What changes them. -/
inductive ListsEvent
  /-- `loadNotes()` is called. -/
  | loadNotes
  /-- `myNotes` is assigned. -/
  | myNotes (ns : List NoteFile)
  /-- The block of `loadNotes()` assigns `notes`. -/
  | notes (lnotes : List NoteFile)
  | noteTypeValueChanged (selectedSegmentIndex : ℤ)
  | textDidChange (searchText : String)

namespace Lists

variable (vc : Lists)

/-- The list of the selected segment; `.myNote` is the raw value `1` of `NoteType`. -/
def active : List NoteFile := if vc.selectedSegmentIndex = 1 then vc.myNotes else vc.notes

/-- `updateUpdateActiveNotes()`, with the observer of `activeNotes`. -/
def updateUpdateActiveNotes : Lists :=
  { vc with activeNotes := vc.active, filtered := vc.active }

/-- The block of `loadNotes()`. -/
def assignNotes (lnotes : List NoteFile) : Lists :=
  let notes := lnotes.filter fun n => n.id ∉ vc.myNotes.map (·.id)
  { { vc with notes }.updateUpdateActiveNotes with
    message := if notes.length = 0 then some "No notes." else none }

/-- `filter(searchText:)`, after the text in the search bar has changed. -/
def filter (contains : String → String → Bool) (searchText : String) : Lists :=
  let filtered :=
    if searchText.length > 0 then
      vc.activeNotes.filter fun n => contains searchText n.noteLable
    else vc.activeNotes
  { vc with
    searchText, filtered
    message := if filtered.length = 0 then some "No results." else none }

/-- The screen before its first load. -/
def start : Lists :=
  { myNotes := [], notes := [], activeNotes := [], filtered := [], selectedSegmentIndex := 0,
    searchText := "", message := none }

/-- One step. -/
def step (contains : String → String → Bool) : ListsEvent → Option Lists
  | .loadNotes => some { vc with message := some "Loading.." }
  | .myNotes ns => some { vc with myNotes := ns }.updateUpdateActiveNotes
  | .notes lnotes => some (vc.assignNotes lnotes)
  | .noteTypeValueChanged selectedSegmentIndex =>
    some { vc with selectedSegmentIndex }.updateUpdateActiveNotes
  | .textDidChange searchText => some (vc.filter contains searchText)

/-- The list that a step makes active and shows as a whole. -/
def newActive : ListsEvent → Option (List NoteFile)
  | .myNotes ns => some { vc with myNotes := ns }.active
  | .notes lnotes => some (vc.assignNotes lnotes).active
  | .noteTypeValueChanged selectedSegmentIndex => some { vc with selectedSegmentIndex }.active
  | _ => none

/-- A note is found by its name. -/
def hits (contains : String → String → Bool) (text : String) (n : NoteFile) : Bool :=
  contains text n.noteLable

end Lists

end ViewNotesViewController

/-! ## The workshops -/

namespace viewWorkshopViewController

/-- The lists of `viewWorkshopViewController`, and its search bar. -/
structure Lists where
  workshops : List Workshops
  bookedWorkshops : List Workshops
  activeWorkshops : List Workshops
  filtered : List Workshops
  /-- The selected segment of `workshopSegment`. -/
  selectedSegmentIndex : ℤ
  searchText : String
  message : Option String

/-- What changes them. -/
inductive ListsEvent
  /-- The block of `loadWorkshops()` assigns `workshops`. -/
  | workshops (ws : List Workshops)
  /-- The block of `loadBookedWorkshops()` assigns `bookedWorkshops`. -/
  | bookedWorkshops (pw : List Workshops)
  | wsSegmentValueChanged (selectedSegmentIndex : ℤ)
  | textDidChange (searchText : String)

namespace Lists

variable (vc : Lists)

/-- The list of the selected segment; `.booked` is the raw value `1` of `WorkshopType`. -/
def active : List Workshops :=
  if vc.selectedSegmentIndex = 1 then vc.bookedWorkshops else vc.workshops

/-- `updateActive()`, with the observer of `activeWorkshops`. -/
def updateActive : Lists :=
  { vc with
    activeWorkshops := vc.active, filtered := vc.active
    message := if vc.active.length = 0 then some "No records.." else vc.message }

/-- `filter(searchText:)`, after the text in the search bar has changed. -/
def filter (contains : String → String → Bool) (searchText : String) : Lists :=
  let filtered :=
    if searchText.length > 0 then
      vc.activeWorkshops.filter fun w => contains searchText w.Title
    else vc.activeWorkshops
  { vc with
    searchText, filtered
    message := if filtered.length = 0 then some "No results." else none }

/-- The screen before its first load. -/
def start : Lists :=
  { workshops := [], bookedWorkshops := [], activeWorkshops := [], filtered := [],
    selectedSegmentIndex := 0, searchText := "", message := none }

/-- One step. -/
def step (contains : String → String → Bool) : ListsEvent → Option Lists
  | .workshops ws => some { vc with workshops := ws }.updateActive
  | .bookedWorkshops pw => some { vc with bookedWorkshops := pw }.updateActive
  | .wsSegmentValueChanged selectedSegmentIndex =>
    some { vc with selectedSegmentIndex }.updateActive
  | .textDidChange searchText => some (vc.filter contains searchText)

/-- The list that a step makes active and shows as a whole. -/
def newActive : ListsEvent → Option (List Workshops)
  | .workshops ws => some { vc with workshops := ws }.active
  | .bookedWorkshops pw => some { vc with bookedWorkshops := pw }.active
  | .wsSegmentValueChanged selectedSegmentIndex => some { vc with selectedSegmentIndex }.active
  | .textDidChange _ => none

/-- A workshop is found by its title. -/
def hits (contains : String → String → Bool) (text : String) (w : Workshops) : Bool :=
  contains text w.Title

end Lists

end viewWorkshopViewController

/-! ## The resources -/

/-- `resViewViewController`. -/
structure resViewViewController where
  resources : List resFile
  filtered : List resFile
  searchText : String
  message : Option String

namespace resViewViewController

/-- What changes it. -/
inductive ListsEvent
  /-- `loadResources()` is called. -/
  | loadResources
  /-- The query of `loadResources()` is answered. -/
  | resourcesFound (snapshotDocuments : List ResourceData)
  /-- The block of `loadResources()` runs. -/
  | loaded
  /-- `resPost(_:resource:added:)`, when the form is dismissed. -/
  | resPost (resource : Option resFile) (added : Bool)
  | textDidChange (searchText : String)

variable (vc : resViewViewController)

/-- `resources.append(r)`, with its observer. -/
def append (r : resFile) : resViewViewController :=
  { vc with resources := vc.resources ++ [r], filtered := vc.resources ++ [r] }

/-- `filter(searchText:)`, after the text in the search bar has changed. -/
def filter (contains : String → String → Bool) (searchText : String) : resViewViewController :=
  let filtered :=
    if searchText.length > 0 then
      vc.resources.filter fun r => contains searchText r.name
    else vc.resources
  { vc with
    searchText, filtered
    message := if filtered.length = 0 then some "No results." else none }

/-- The screen before its first load. -/
def start : resViewViewController :=
  { resources := [], filtered := [], searchText := "", message := none }

/-- One step. -/
def step (contains : String → String → Bool) : ListsEvent → Option resViewViewController
  | .loadResources => some { vc with message := some "Loading.." }
  | .resourcesFound snapshotDocuments =>
    some ((snapshotDocuments.filterMap resource).foldl append vc)
  | .loaded =>
    some { vc with message := if vc.resources.length = 0 then some "No resources yet." else none }
  | .resPost resource added =>
    some (if added then resource.elim vc vc.append else vc)
  | .textDidChange searchText => some (vc.filter contains searchText)

/-- The list that a step shows as a whole, if it appends anything. -/
def newResources : ListsEvent → Option (List resFile)
  | .resourcesFound snapshotDocuments =>
    match snapshotDocuments.filterMap resource with
    | [] => none
    | rs => some (vc.resources ++ rs)
  | .resPost resource added =>
    if added then resource.map fun r => vc.resources ++ [r] else none
  | _ => none

/-- A resource is found by its name. -/
def hits (contains : String → String → Bool) (text : String) (r : resFile) : Bool :=
  contains text r.name

end resViewViewController

/-! ## The questions -/

namespace CommunityState

variable (s : CommunityState)

/-- The list that a step shows as a whole. -/
def newQuestions : CommunityEvent → Option (List Question)
  | .loadQuestions => some []
  | .main => s.main.head?
  | _ => none

/-- A question is found by its title and by its body. -/
def hits (range : String → String → Bool) (text : String) (q : Question) : Bool :=
  range text q.title || range text q.body

end CommunityState

/-! ## What is shown -/

namespace ViewNotesViewController.Lists

variable {contains : String → String → Bool} {h : List (Lists × ListsEvent)} {vc : Lists}

/-- In every state of every run the active notes are those of the selected segment. -/
lemma activeNotes_eq (hr : Run (step · contains) start h vc) : vc.activeNotes = vc.active := by
  refine hr.invariant (I := fun vc => vc.activeNotes = vc.active) rfl fun vc e vc' hvc hs => ?_
  cases e with
  | loadNotes => exact Option.some.inj hs ▸ hvc
  | textDidChange searchText => exact Option.some.inj hs ▸ hvc
  | _ => exact Option.some.inj hs ▸ rfl

/-- What the steps do to the notes shown. -/
lemma searchRules : SearchRules (step · contains) (hits contains) start (·.searchText) active
    (·.filtered) newActive := by
  intro h vc e vc' hr hs
  cases e with
  | loadNotes => exact Option.some.inj hs ▸ Or.inr ⟨rfl, rfl, rfl⟩
  | textDidChange searchText =>
    refine Option.some.inj hs ▸ Or.inl ?_
    rw [shown_of_length, show (vc.filter contains searchText).active = vc.activeNotes from
      (activeNotes_eq hr).symm]
    rfl
  | _ => exact Option.some.inj hs ▸ ⟨rfl, rfl, rfl⟩

end ViewNotesViewController.Lists

namespace viewWorkshopViewController.Lists

variable {contains : String → String → Bool} {h : List (Lists × ListsEvent)} {vc : Lists}

/-- In every state of every run the active workshops are those of the selected segment. -/
lemma activeWorkshops_eq (hr : Run (step · contains) start h vc) :
    vc.activeWorkshops = vc.active := by
  refine hr.invariant (I := fun vc => vc.activeWorkshops = vc.active) rfl
    fun vc e vc' hvc hs => ?_
  cases e with
  | textDidChange searchText => exact Option.some.inj hs ▸ hvc
  | _ => exact Option.some.inj hs ▸ rfl

/-- What the steps do to the workshops shown. -/
lemma searchRules : SearchRules (step · contains) (hits contains) start (·.searchText) active
    (·.filtered) newActive := by
  intro h vc e vc' hr hs
  cases e with
  | textDidChange searchText =>
    refine Option.some.inj hs ▸ Or.inl ?_
    rw [shown_of_length, show (vc.filter contains searchText).active = vc.activeWorkshops from
      (activeWorkshops_eq hr).symm]
    rfl
  | _ => exact Option.some.inj hs ▸ ⟨rfl, rfl, rfl⟩

end viewWorkshopViewController.Lists

namespace resViewViewController

variable {contains : String → String → Bool}

/-- Appending some resources shows all. -/
lemma foldl_append (vc : resViewViewController) (r : resFile) (rs : List resFile) :
    (r :: rs).foldl append vc =
      { vc with resources := vc.resources ++ r :: rs, filtered := vc.resources ++ r :: rs } := by
  induction rs generalizing vc r with
  | nil => rfl
  | cons r' rs ih =>
    rw [List.foldl_cons, ih]
    simp [append]

/-- What the steps do to the resources shown. -/
lemma searchRules : SearchRules (step · contains) (hits contains) start (·.searchText)
    (·.resources) (·.filtered) newResources := by
  intro h vc e vc' hr hs
  cases e with
  | resourcesFound snapshotDocuments =>
    obtain rfl := Option.some.inj hs
    cases hrs : snapshotDocuments.filterMap resource with
    | nil =>
      have hnew : vc.newResources (.resourcesFound snapshotDocuments) = none := by
        simp [newResources, hrs]
      rw [hnew]
      exact Or.inr ⟨rfl, rfl, rfl⟩
    | cons r rs =>
      have hnew : vc.newResources (.resourcesFound snapshotDocuments) =
          some (vc.resources ++ r :: rs) := by simp [newResources, hrs]
      rw [hnew, foldl_append]
      exact ⟨rfl, rfl, rfl⟩
  | resPost resource added =>
    obtain rfl := Option.some.inj hs
    cases added with
    | false => exact Or.inr ⟨rfl, rfl, rfl⟩
    | true =>
      cases resource with
      | none => exact Or.inr ⟨rfl, rfl, rfl⟩
      | some r => exact ⟨rfl, rfl, rfl⟩
  | textDidChange searchText =>
    refine Option.some.inj hs ▸ Or.inl ?_
    rw [shown_of_length]
    rfl
  | _ => exact Option.some.inj hs ▸ Or.inr ⟨rfl, rfl, rfl⟩

end resViewViewController

namespace CommunityState

variable {range : String → String → Bool} {ID name : String}

/-- What the steps do to the questions shown. -/
lemma searchRules : SearchRules (step range) (hits range) (start ID name) (·.vc.searchText)
    (·.vc.questions) (·.vc.filtered) newQuestions := by
  intro h s e s' hr hs
  cases took_of_step hs with
  | load => exact ⟨rfl, rfl, rfl⟩
  | main block =>
    simp only [newQuestions, block]
    exact ⟨rfl, rfl, rfl⟩
  | search =>
    refine Or.inl ?_
    rw [shown_of_length]
    rfl
  | _ => exact Or.inr ⟨rfl, rfl, rfl⟩

end CommunityState

/-- **When the lists shown match the search bar.** On each of the four screens, the items shown at
all times of a run are those of the active list that the text in the search bar hits, all if it
is empty, if and only if whenever a list is loaded, extended or chosen by a segment the text is
empty or hits the whole list.

**Proof sketch.** Every step of a screen shows a whole list, or applies the search to the active
list, or changes nothing; so the rule for lists with a search bar applies. -/
theorem lists_shown_iff (contains range : String → String → Bool) :
    (∀ h vc, Run (ViewNotesViewController.Lists.step · contains) .start h vc →
      (Throughout (fun vc => vc.filtered =
          shown (ViewNotesViewController.Lists.hits contains) vc.searchText vc.active) h vc ↔
        EveryStep (Fits (ViewNotesViewController.Lists.hits contains) (·.searchText)
          ViewNotesViewController.Lists.newActive) h)) ∧
    (∀ h vc, Run (viewWorkshopViewController.Lists.step · contains) .start h vc →
      (Throughout (fun vc => vc.filtered =
          shown (viewWorkshopViewController.Lists.hits contains) vc.searchText vc.active) h vc ↔
        EveryStep (Fits (viewWorkshopViewController.Lists.hits contains) (·.searchText)
          viewWorkshopViewController.Lists.newActive) h)) ∧
    (∀ h vc, Run (resViewViewController.step · contains) .start h vc →
      (Throughout (fun vc => vc.filtered =
          shown (resViewViewController.hits contains) vc.searchText vc.resources) h vc ↔
        EveryStep (Fits (resViewViewController.hits contains) (·.searchText)
          resViewViewController.newResources) h)) ∧
    ∀ ID name h s, Run (CommunityState.step range) (.start ID name) h s →
      (Throughout (fun s => s.vc.filtered =
          shown (CommunityState.hits range) s.vc.searchText s.vc.questions) h s ↔
        EveryStep (Fits (CommunityState.hits range) (·.vc.searchText)
          CommunityState.newQuestions) h) := by
  refine ⟨fun h vc hr => ?_, fun h vc hr => ?_, fun h vc hr => ?_, fun ID name h s hr => ?_⟩
  · rw [shown_throughout_iff ViewNotesViewController.Lists.searchRules hr]
    exact and_iff_right (shown_nil _ _).symm
  · rw [shown_throughout_iff viewWorkshopViewController.Lists.searchRules hr]
    exact and_iff_right (shown_nil _ _).symm
  · rw [shown_throughout_iff resViewViewController.searchRules hr]
    exact and_iff_right (shown_nil _ _).symm
  · rw [shown_throughout_iff CommunityState.searchRules hr]
    exact and_iff_right (shown_nil _ _).symm

/-- The note "Rings". -/
def ringsNote : NoteFile :=
  { id := "n", noteLable := "Rings", autherName := "Noether", desc := "", price := none,
    urlString := "", documentId := none, userId := none, docID := "n", createDate := 0,
    purchasedDate := none }

/-- The text is searched for before the notes are loaded. -/
def searchFirst (text : String) : List ViewNotesViewController.ListsEvent :=
  [.textDidChange text, .notes [ringsNote]]

/-- The note "Rings" is searched for, and then loaded. -/
theorem lists_shown_search :
    ∃ h vc, Run (ViewNotesViewController.Lists.step · fun text s => text = s) .start h vc ∧
      vc.filtered = [ringsNote] ∧ (Throughout (fun vc => vc.filtered =
          shown (ViewNotesViewController.Lists.hits fun text s => text = s) vc.searchText
            vc.active) h vc ↔
        EveryStep (Fits (ViewNotesViewController.Lists.hits fun text s => text = s) (·.searchText)
          ViewNotesViewController.Lists.newActive) h) := by
  have he : (exec (ViewNotesViewController.Lists.step · fun text s => text = s) .start
      (searchFirst "Rings")).map (·.filtered) = some [ringsNote] := by decide +kernel
  obtain ⟨h, vc, hr, -, hvc⟩ := run_of_observed he
  exact ⟨h, vc, hr, hvc, (lists_shown_iff (fun text s => text = s) fun _ _ => true).1 h vc hr⟩

/-- A search for "Fields" shows the note "Rings" when the notes are loaded. -/
theorem shown_after_load : ∃ h vc,
    Run (ViewNotesViewController.Lists.step · fun text s => text = s) .start h vc ∧
      ¬ Throughout (fun vc => vc.filtered =
        shown (ViewNotesViewController.Lists.hits fun text s => text = s) vc.searchText
          vc.active) h vc := by
  have he : (exec (ViewNotesViewController.Lists.step · fun text s => text = s) .start
      (searchFirst "Fields")).map (fun vc => decide (vc.filtered =
        shown (ViewNotesViewController.Lists.hits fun text s => text = s) vc.searchText
          vc.active)) = some false := by decide +kernel
  obtain ⟨h, vc, hr, -, hvc⟩ := run_of_observed he
  exact ⟨h, vc, hr, fun hall => of_decide_eq_false hvc hall.2⟩

end Aoun
