import Aoun.Lib.Beside
import Aoun.Lib.Chain
import Aoun.Note.Provenance
import Aoun.NotesList.Join

/-!
# The notes in `myNotes` were bought

The list of notes shows in `myNotes` what its user has bought. It reads the entries that the detail
screens store, by three queries in a row, while these go on selling. Here the lists stand beside the
detail screens, and their queries find the users and the entries that there are; the documents of
`Notes` are free.

## Main definitions

* `Aoun.NoteServer.entriesUnder` — the entries under a document of a user, the latest first.
* `Aoun.libraryStep` — the detail screens, and the lists beside them.
* `Aoun.SignedIn` — whose notes a list was asked for.

## Main results

* `Aoun.myNotes_of_call` — the notes of a list are those of the entries that a call has found.
* `Aoun.my_notes_bought` — what a list has in `myNotes` was bought, and not more often listed.
-/

set_option relaxedAutoImplicit false
set_option autoImplicit false

namespace Aoun

open AsyncSystem AsyncSystem.World StepSystem ViewNotesViewController

/-! ## What the lists have -/

/-- The entry for a note that was bought. -/
def NoteFile.entry (n : NoteFile) : PurchasedEntry :=
  ⟨some n.id, ViewNotesViewController.purchasedDate n⟩

/-- A note is read for an entry by its id. -/
lemma entry_of_purchased {a : PurchasedEntry × Option NoteData} {n : NoteFile}
    (hn : purchased a = some n) : n.entry = a.1 := by
  have hdate := purchasedDate_of_purchased hn
  obtain ⟨noteId, hnote, hn⟩ := Option.bind_eq_some_iff.mp hn
  obtain ⟨d, -, hn⟩ := Option.bind_eq_some_iff.mp hn
  obtain ⟨n', hn', hn⟩ := Option.bind_eq_some_iff.mp hn
  have hid : n'.id = noteId := by
    simp only [ViewNotesViewController.note, Option.bind_eq_bind, Option.bind_eq_some_iff] at hn'
    obtain ⟨_, -, _, -, _, -, _, -, _, -, _, -, _, -, heq⟩ := hn'
    obtain rfl := Option.some.inj heq
    rfl
  have hn : n.id = noteId := by
    obtain rfl := Option.some.inj hn
    exact hid
  rw [NoteFile.entry, hdate, hn, ← hnote]

/-- The notes of the answers are those of some of their entries. -/
lemma entries_sublist (as : List (PurchasedEntry × Option NoteData)) :
    ((as.filterMap purchased).map NoteFile.entry).Sublist (as.map Prod.fst) := by
  induction as with
  | nil => exact List.Sublist.slnil
  | cons a as ih =>
    cases hn : purchased a with
    | none =>
      rw [List.filterMap_cons_none hn]
      exact ih.cons _
    | some n =>
      rw [List.filterMap_cons_some hn, List.map_cons, List.map_cons, entry_of_purchased hn]
      exact ih.cons_cons _

namespace ViewNotesViewController

/-- The notes of the user are those that a completion has brought, if there are any. -/
def Completed (vc : ViewNotesViewController) (t : List NotesListEffect) : Prop :=
  vc.myNotes = [] ∨ ∃ k ns, .complition k ns vc.myNotes ∈ t

variable {vc : ViewNotesViewController} {t : List NotesListEffect}

/-- A reaction that leaves the notes of the user alone. -/
lemma Completed.still (h : vc.Completed t) {r : NotesListReaction}
    (hr : r.client.myNotes = vc.myNotes) : r.client.Completed (t ++ r.effects) := by
  unfold Completed
  rw [hr]
  exact h.imp_right fun ⟨k, ns, hmem⟩ => ⟨k, ns, List.mem_append_left _ hmem⟩

/-- Only the block of a call changes the notes of the user. -/
lemma Completed.recv (h : vc.Completed t) (q : NotesListRequest) (a : NotesListAnswer) :
    (vc.recv q a).client.Completed (t ++ (vc.recv q a).effects) := by
  rcases vc.recv_cases q a with ⟨uid, documents, -, hr⟩ | ⟨call, entry, data, -, hr⟩ |
    ⟨call, -, hr⟩ | ⟨documents, -, -, hr⟩ | ⟨lnotes, -, hr⟩ | ⟨-, hr⟩
  · rw [hr]
    exact h.still rfl
  · obtain ⟨fires, -, heq⟩ := vc.gotDocument_eq call entry data
    rw [hr, heq]
    exact h.still rfl
  · rw [hr, runComplition]
    cases vc.calls[call]? with
    | none => exact h.still rfl
    | some c => exact Or.inr ⟨call, c.ns, List.mem_append_right _ (List.mem_cons_self ..)⟩
  · rw [hr]
    exact h.still rfl
  · rw [hr]
    exact h.still rfl
  · rcases hr with hr | ⟨id, hr⟩ | hr <;> rw [hr] <;> exact h.still rfl

end ViewNotesViewController

/-- The lists satisfy the conditions of the client rule. -/
lemma notesList_completed : ClientRules notesListSystem (fun _ => False) (fun _ => True)
    (fun _ => Completed) (fun _ _ => True) (fun _ _ _ => True) where
  boot := by
    rintro _ (_ | userId) _ <;> exact ⟨Or.inl rfl, fun _ _ => trivial⟩
  ui := by
    intro _ vc t u r _ h hr
    obtain rfl : vc.ui u = r := Option.some.inj hr
    have hsame : (vc.ui u).client.myNotes = vc.myNotes := by
      rcases u with ⟨_ | _⟩ | ⟨_ | _⟩ <;> rfl
    exact ⟨⟨h.still hsame, fun _ _ => trivial⟩, fun _ _ => trivial⟩
  serve := fun _ _ _ _ _ _ => ⟨trivial, trivial, fun t h => by simpa [notesListSystem] using h⟩
  others := fun _ _ _ _ _ _ => ⟨fun _ _ h => h, fun _ _ h => h⟩
  recv := fun _ _ _ q a _ _ h _ _ => ⟨⟨h.recv q a, fun _ _ => trivial⟩, fun _ _ _ => trivial⟩

section

variable {h : List (NotesListWorld × NotesListEvent)} {w : NotesListWorld} {j : ℕ}
  {vc : ViewNotesViewController}

/-- **Where the notes come from.** If a list has notes of its user, then a call has found entries,
and the notes are those of some of these, each at most as often as it is among them.

**Proof sketch.** The block of a call has brought the notes (`notesList_completed`), which are those
of the answers that the call had then (`Joins.done`). Every answer is to a request for a note of an
entry (`entries_balance`). -/
lemma myNotes_of_call (hr : notesListSystem.RunFrom () h w) (hj : w.clients j = some vc)
    (hne : vc.myNotes ≠ []) : ∃ k es, .entries k es ∈ w.effectsOf j ∧
      (vc.myNotes.map NoteFile.entry).Subperm es := by
  have hcompleted :=
    client_invariant exclusiveRules_false notesList_completed trivial hr
  obtain ⟨k, ns, hmem⟩ := (hcompleted.client j vc hj).resolve_left hne
  have hjoins := (notesListSystem_joins hr).client j vc hj
  obtain ⟨l₁, l₂, heq⟩ := List.append_of_mem hmem
  obtain ⟨-, hsorted, hns, c, hc, -⟩ := hjoins.done l₁ k ns vc.myNotes l₂ heq
  -- the entries of the call
  have hentries : c.purchasedNotes ∈ (w.effectsOf j).filterMap (NotesListEffect.entriesOf k) := by
    rw [hjoins.entries k, hc]
    exact List.mem_singleton_self _
  obtain ⟨o, ho, hof⟩ := List.mem_filterMap.mp hentries
  have hfound : .entries k c.purchasedNotes ∈ w.effectsOf j := by
    cases o with
    | entries call es =>
      obtain ⟨rfl, hes⟩ := Option.ite_none_right_eq_some.mp hof
      rwa [← Option.some.inj hes]
    | _ => cases hof
  refine ⟨k, c.purchasedNotes, hfound, ?_⟩
  -- what was answered was asked for
  have hasked : ((noteAnswers k (w.effectsOf j)).map Prod.fst : Multiset PurchasedEntry) ≤
      (c.purchasedNotes.filter fun pn => pn.note.isSome : List PurchasedEntry) := by
    have hb := entries_balance k hr j
    rw [total_askedEntries, total_answeredEntry, hjoins.entries k, hc] at hb
    have hle := Multiset.le_add_left
      ((noteAnswers k (w.effectsOf j)).map Prod.fst : Multiset PurchasedEntry)
      (total (flightOf j (awaitedEntry k)) w.flights)
    rw [← hb] at hle
    simpa using hle
  have hbefore : (noteAnswers k l₁).Sublist (noteAnswers k (w.effectsOf j)) := by
    rw [heq, noteAnswers_append]
    exact List.sublist_append_left _ _
  have hnotes : (vc.myNotes.map NoteFile.entry).Perm
      (((noteAnswers k l₁).filterMap purchased).map NoteFile.entry) := by
    rw [hsorted, hns]
    exact (List.mergeSort_perm _ _).map _
  have hsome := ((entries_sublist (noteAnswers k l₁)).trans (hbefore.map Prod.fst)).subperm
  have hall := (Multiset.coe_le.mp hasked).trans List.filter_sublist.subperm
  exact (hnotes.subperm.trans hsome).trans hall

end

/-! ## What the lists are answered -/

/-- The entry, as a list finds it. -/
def PurchasedNote.entry (p : PurchasedNote) : PurchasedEntry := ⟨some p.note, p.purchaseDate⟩

/-- The query for the entries under a document, `order(by: "purchaseDate", descending: true)`;
`rank` is the order of entries of the same date. -/
def NoteServer.entriesUnder (s : NoteServer) (userID : String) (rank : PurchasedNote → ℕ) :
    List PurchasedEntry :=
  ((s.purchasedNotes.filter fun p => p.user = userID).mergeSort fun p p' =>
    decide (p'.purchaseDate < p.purchaseDate ∨
      p'.purchaseDate = p.purchaseDate ∧ rank p ≤ rank p')).map PurchasedNote.entry

/-- The environment's choice for a request of a list: a query fails, or ends with neither a result
nor an error, or finds what there is, with these documents in `Notes`, the latest first. -/
inductive NotesListOutcome
  | success (notes : List (String × NoteData)) (rank : PurchasedNote → ℕ)
  | error
  | neither

/-- The answer to a request, where the collections are those of `s`. -/
def NotesListRequest.answer (s : NoteServer) :
    NotesListRequest → NotesListOutcome → NotesListAnswer
  | .complition _, _ | .assignNotes _, _ | _, .neither => .neither
  | _, .error => .error
  | .loadUserReference userId, .success _ _ => .users (s.users.withUid userId)
  | .purchasedNotes userID, .success _ rank => .entries (s.entriesUnder userID rank)
  | .getDocument _ entry, .success notes _ =>
    .document ((notes.find? fun doc => entry.note = some doc.1).map Prod.snd)
  | .loadNotes, .success notes _ => .notes notes

/-- What can happen to the lists. -/
abbrev LibraryEvent := AsyncSystem.Event (Option String) NotesListTap NotesListOutcome Unit

/-- What it is beside the detail screens. -/
def notesListView (p : NoteWorld × NotesListWorld) : LibraryEvent → NotesListEvent
  | .boot i currentUser => .boot i currentUser
  | .ui i u => .ui i u
  | .serve k outcome => .serve k (match p.2.flights[k]? with
    | some f => f.request.answer p.1.server outcome
    | none => .neither)
  | .deliver k x => .deliver k x

/-- Any number of detail screens, and of lists of notes. -/
abbrev libraryStep (urlOf : String → Option URL) : NoteWorld × NotesListWorld →
    NoteEvent ⊕ LibraryEvent → Option (NoteWorld × NotesListWorld) :=
  beside (noteSystem urlOf).step notesListSystem.step notesListView

/-- The list `j` was opened, or reloaded after a purchase, while `uid` was signed in. -/
def SignedIn (h : List ((NoteWorld × NotesListWorld) × (NoteEvent ⊕ LibraryEvent))) (j : ℕ)
    (uid : String) : Prop :=
  ∃ p ∈ h, p.2 = .inr (.boot j (some uid)) ∨ p.2 = .inr (.ui j (.detail (some uid)))

namespace ViewNotesViewController

variable {vc : ViewNotesViewController} {q : NotesListRequest} {a : NotesListAnswer}

/-- Entries are recorded when they are found. -/
lemma recv_entries {k : ℕ} {es : List PurchasedEntry}
    (ho : .entries k es ∈ (vc.recv q a).effects) :
    ∃ userID, q = .purchasedNotes userID ∧ a = .entries es := by
  rcases vc.recv_cases q a with ⟨userID, -, rfl, -⟩ | ⟨call, entry, data, -, hr⟩ |
    ⟨call, -, hr⟩ | ⟨documents, -, -, hr⟩ | ⟨lnotes, -, hr⟩ | ⟨-, hr⟩
  · cases a with
    | entries documents =>
      obtain ⟨-, rfl⟩ := NotesListEffect.entries.inj (List.mem_singleton.mp ho)
      exact ⟨userID, rfl, rfl⟩
    | error => cases ho
    | _ => cases List.mem_singleton.mp ho
  · obtain ⟨fires, -, heq⟩ := vc.gotDocument_eq call entry data
    rw [hr, heq] at ho
    cases fires <;> simp at ho
  · rw [hr, runComplition] at ho
    cases hc : vc.calls[call]? <;> simp [hc, complition, loadNotes] at ho
  · simp [hr, notesFound] at ho
  · simp [hr, assignNotes] at ho
  · rcases hr with hr | ⟨id, hr⟩ | hr <;> simp [hr, loadNotes] at ho

/-- The entries are asked for under the document that a user was found to have. -/
lemma recv_purchasedNotes {userID : String}
    (hq : .purchasedNotes userID ∈ (vc.recv q a).requests) : ∃ userId documents user,
      q = .loadUserReference userId ∧ a = .users documents ∧ documents.head? = some user ∧
        user.documentID = userID := by
  cases q with
  | loadUserReference userId =>
    cases a with
    | users documents =>
      change _ ∈ (vc.userFound documents).requests at hq
      unfold userFound at hq
      split at hq
      · cases hq
      · next user hu =>
        obtain rfl := NotesListRequest.purchasedNotes.inj (List.mem_singleton.mp hq)
        exact ⟨userId, documents, user, rfl, rfl, hu, rfl⟩
    | _ => cases hq
  | purchasedNotes id =>
    cases a <;> simp [ViewNotesViewController.recv, entriesFound, complition, loadNotes] at hq
  | getDocument call entry =>
    obtain ⟨data, hr⟩ : ∃ data,
        vc.recv (.getDocument call entry) a = vc.gotDocument call entry data := by
      cases a <;> exact ⟨_, rfl⟩
    obtain ⟨fires, -, heq⟩ := vc.gotDocument_eq call entry data
    rw [hr, heq] at hq
    cases fires <;> simp at hq
  | complition call =>
    change _ ∈ (vc.runComplition call).requests at hq
    unfold runComplition at hq
    cases hc : vc.calls[call]? <;> simp [hc, complition, loadNotes] at hq
  | loadNotes => cases a <;> simp [ViewNotesViewController.recv, notesFound] at hq
  | assignNotes lnotes => cases hq

/-- A user is asked for when the list is opened, or after a purchase, and no callback asks for
one. -/
lemma recv_loadUserReference {userId : String} :
    .loadUserReference userId ∉ (vc.recv q a).requests := by
  intro hq
  rcases vc.recv_cases q a with ⟨userID, documents, -, hr⟩ | ⟨call, entry, data, -, hr⟩ |
    ⟨call, -, hr⟩ | ⟨documents, -, -, hr⟩ | ⟨lnotes, -, hr⟩ | ⟨-, hr⟩
  · simp [hr, entriesFound] at hq
  · obtain ⟨fires, -, heq⟩ := vc.gotDocument_eq call entry data
    rw [hr, heq] at hq
    cases fires <;> simp at hq
  · rw [hr, runComplition] at hq
    cases hc : vc.calls[call]? <;> simp [hc, complition, loadNotes] at hq
  · simp [hr, notesFound] at hq
  · simp [hr, assignNotes] at hq
  · rcases hr with hr | ⟨id, hr⟩ | hr <;> simp [hr, loadNotes] at hq

end ViewNotesViewController

/-! ## The lists beside the detail screens -/

section

variable {urlOf : String → Option URL} {s : NoteServer}
  {h : List ((NoteWorld × NotesListWorld) × (NoteEvent ⊕ LibraryEvent))}
  {p : NoteWorld × NotesListWorld}

/-- What a list was answered is what there was when its request was handled. -/
lemma answered_at {j : ℕ} {q : NotesListRequest} {a : NotesListAnswer}
    (ha : notesListSystem.Answered (h.filterMap (sndStep notesListView)) j q a) :
    ∃ w v k outcome, ((w, v), .inr (.serve k outcome)) ∈ h ∧ a = q.answer w.server outcome := by
  obtain ⟨v, k, a', f, hmem, hf, -, rfl, rfl⟩ := ha
  obtain ⟨w, e, hstep, hview⟩ := exists_of_mem_sndStep hmem
  cases e with
  | serve k' outcome =>
    obtain ⟨rfl, hanswer⟩ := Event.serve.inj hview
    dsimp only at hanswer
    rw [hf] at hanswer
    exact ⟨w, v, k', outcome, hstep, hanswer.symm⟩
  | _ => cases hview

/-- A user that a list asks for was signed in. -/
lemma signedIn_of_issued {j : ℕ} {uid : String}
    (hq : notesListSystem.IssuedBy (h.filterMap (sndStep notesListView)) j
      (.loadUserReference uid)) : SignedIn h j uid := by
  cases hq with
  | @boot v currentUser booted asks =>
    obtain ⟨w, e, hstep, hview⟩ := exists_of_mem_sndStep booted
    cases e with
    | boot i currentUser' =>
      obtain ⟨rfl, rfl⟩ := Event.boot.inj hview
      cases currentUser' with
      | none => cases asks
      | some userId =>
        obtain rfl := NotesListRequest.loadUserReference.inj (List.mem_singleton.mp asks)
        exact ⟨_, hstep, Or.inl rfl⟩
    | _ => cases hview
  | @ui vc u r acted reacts asks =>
    obtain ⟨v, hmem, -⟩ := acted
    obtain ⟨w, e, hstep, hview⟩ := exists_of_mem_sndStep hmem
    obtain rfl : vc.ui u = r := Option.some.inj reacts
    cases e with
    | ui i u' =>
      obtain ⟨rfl, rfl⟩ := Event.ui.inj hview
      cases u' with
      | postNote added => cases added <;> simp [ViewNotesViewController.ui, loadNotes] at asks
      | detail currentUser =>
        cases currentUser with
        | none => cases asks
        | some userId =>
          obtain rfl := NotesListRequest.loadUserReference.inj (List.mem_singleton.mp asks)
          exact ⟨_, hstep, Or.inr rfl⟩
    | _ => cases hview
  | recv answered asks => exact absurd asks recv_loadUserReference

/-- Entries are stored behind those that there are. -/
lemma purchasedNotes_along (hr : Run (libraryStep urlOf) (start s, start ()) h p) :
    ∀ q ∈ h, q.1.1.server.purchasedNotes <+: p.1.server.purchasedNotes := by
  refine hr.related_fst (R := fun w w' => w.server.purchasedNotes <+: w'.server.purchasedNotes)
    (fun _ => List.prefix_rfl) (fun _ _ _ => List.IsPrefix.trans) fun _ w e w' _ hs => ?_
  cases took_of_step hs with
  | boot free => exact List.prefix_rfl
  | ui client reacts => exact List.prefix_rfl
  | @serve k e f flight unanswered =>
    show w.server.purchasedNotes <+: (w.server.serve f.request e).server.purchasedNotes
    rw [serve_purchasedNotes]
    exact List.prefix_append _ _
  | deliver flight answered client => exact List.prefix_rfl

/-- The documents of a user are those that the user had at the start. -/
lemma owner_at (hr : Run (libraryStep urlOf) (start s, start ()) h p) {q}
    (hq : q ∈ h) {uid : String} {user : UserDoc}
    (hu : (q.1.1.server.users.withUid uid).head? = some user) :
    (user.documentID, uid) ∈ s.users.owners := by
  obtain ⟨hmem, rfl⟩ := UsersCollection.mem_withUid.mp (List.mem_of_mem_head? hu)
  obtain ⟨h₁, h₂, rfl⟩ := List.append_of_mem hq
  have howners : q.1.1.server.users.owners = s.users.owners :=
    (client_invariant exclusiveRules_false (traced_rules urlOf s.users.owners) rfl
      (hr.before rfl).fst).server
  rw [← howners]
  exact UsersCollection.mem_owners hmem

/-- The entries that a list has found are those under a document of a user who was signed in, each
at most as often as it is stored.

**Proof sketch.** They answer a query, which was asked when a user was found, who was asked for by
the list (`recv_purchasedNotes`, `signedIn_of_issued`). What the query has found was stored then,
and stays (`purchasedNotes_along`). -/
lemma entries_found (hr : Run (libraryStep urlOf) (start s, start ()) h p) {j k : ℕ}
    {es : List PurchasedEntry} (ho : .entries k es ∈ p.2.effectsOf j) :
    ∃ id uid, (id, uid) ∈ s.users.owners ∧ SignedIn h j uid ∧
      es.Subperm ((p.1.server.purchasedNotes.filter fun e => e.user = id).map
        PurchasedNote.entry) := by
  obtain ⟨c, q, a, x, hanswered, heffect⟩ := answered_of_effect
    (P := fun o => o = .entries k es)
    (fun currentUser o ho => by cases currentUser <;> cases ho)
    (fun vc u r hr o ho hP => by
      obtain rfl : vc.ui u = r := Option.some.inj hr
      subst hP
      rcases u with ⟨_ | _⟩ | ⟨_ | _⟩ <;>
        simp [ViewNotesViewController.ui, loadNotes, loadUserReference] at ho)
    (fun _ _ _ o ho => absurd ho List.not_mem_nil) hr.snd ho rfl
  obtain ⟨userID, rfl, rfl⟩ := recv_entries heffect
  -- the query for the entries, and before it that for the user
  obtain ⟨w, v, k₁, outcome, hstep, hes⟩ := answered_at hanswered
  cases hanswered.issuedBy hr.snd with
  | @boot _ currentUser _ asks =>
    cases currentUser with
    | none => cases asks
    | some userId => cases List.mem_singleton.mp asks
  | @ui vc u r _ reacts asks =>
    obtain rfl : vc.ui u = r := Option.some.inj reacts
    rcases u with ⟨_ | _⟩ | ⟨_ | _⟩ <;>
      simp [ViewNotesViewController.ui, loadNotes, loadUserReference] at asks
  | recv answered asks =>
    obtain ⟨uid, documents, user, rfl, rfl, hu, rfl⟩ := recv_purchasedNotes asks
    obtain ⟨w', v', k₂, outcome', hstep', hdocuments⟩ := answered_at answered
    refine ⟨user.documentID, uid, ?_, signedIn_of_issued (answered.issuedBy hr.snd), ?_⟩
    · cases outcome' with
      | success notes rank =>
        obtain rfl := NotesListAnswer.users.inj hdocuments
        exact owner_at hr hstep' hu
      | _ => cases hdocuments
    · cases outcome with
      | success notes rank =>
        obtain rfl := NotesListAnswer.entries.inj hes
        have hstored := (purchasedNotes_along hr _ hstep).sublist
        exact ((List.mergeSort_perm _ _).map _).subperm.trans
          ((hstored.filter _).map _).subperm
      | _ => cases hes

/-- **My notes were bought.** In every run of detail screens and of lists of notes beside them, the
notes in `myNotes` of a list are those of entries under a document of a user who was signed in when
the list was opened or reloaded, each listed at most as often as it is stored, with its date. Each
of them was bought: the user had an entry for it at the start, or a checkout for it has succeeded,
at a price above zero, on a detail screen of the same user.

**Proof sketch.** The notes are those of the entries that a call has found (`myNotes_of_call`), and
these are stored (`entries_found`). What is stored was bought (`bought_of_mem`). -/
theorem my_notes_bought (hr : Run (libraryStep urlOf) (start s, start ()) h p) {j : ℕ}
    {vc : ViewNotesViewController} (hj : p.2.clients j = some vc) (hne : vc.myNotes ≠ []) :
    ∃ id uid, (id, uid) ∈ s.users.owners ∧ SignedIn h j uid ∧
      (vc.myNotes.map NoteFile.entry).Subperm
        ((p.1.server.purchasedNotes.filter fun e => e.user = id).map PurchasedNote.entry) ∧
      ∀ n ∈ vc.myNotes, Bought s p.1 uid n.id := by
  obtain ⟨k, es, ho, hnotes⟩ := myNotes_of_call hr.snd hj hne
  obtain ⟨id, uid, hown, hsigned, hes⟩ := entries_found hr ho
  have hstored := hnotes.trans hes
  refine ⟨id, uid, hown, hsigned, hstored, fun n hn => ?_⟩
  obtain ⟨e, he, heq⟩ := List.mem_map.mp (hstored.subset (List.mem_map_of_mem hn))
  obtain ⟨hmem, hid⟩ := List.mem_filter.mp he
  obtain rfl : e.user = id := of_decide_eq_true hid
  have hnote : e.note = n.id := Option.some.inj (congrArg PurchasedEntry.note heq)
  rw [← hnote]
  exact bought_of_mem hr.fst hmem hown

/-- The documents of `Notes`: the note that Alice buys, as it is stored. -/
def ringsNotes : List (String × NoteData) :=
  [("n", ⟨some "Rings", some "Sara", some "", some "15", some "u", some "seller", some 3⟩)]

/-- Alice buys the note on a detail screen, and her list has it. -/
theorem my_notes_bought_alice : ∃ h p vc,
    Run (libraryStep some) (start noteShop, start ()) h p ∧ p.2.clients 0 = some vc ∧
    vc.myNotes.map NoteFile.entry = [⟨some "n", 7⟩] ∧
    ∃ uid, SignedIn h 0 uid ∧ Bought noteShop p.1 uid "n" := by
  have he : (exec (libraryStep some) (start noteShop, start ())
      ([.boot 0 (noteOnSale, some "alice"), .serve 0 .success, .deliver 0 0,
        .ui 0 .downloadButtonTouched, .ui 0 .purchase, .serve 1 .success, .deliver 1 7,
        .serve 2 .success].map .inl ++
        [.boot 0 (some "alice"), .serve 0 (.success ringsNotes fun _ => 0), .deliver 0 (),
          .serve 0 (.success ringsNotes fun _ => 0), .deliver 0 (),
          .serve 0 (.success ringsNotes fun _ => 0), .deliver 0 (), .serve 0 .neither,
          .deliver 0 ()].map .inr)).map
      (fun p => (p.2.clients 0).map fun vc => vc.myNotes.map fun n => (n.id, n.entry)) =
      some (some [("n", ⟨some "n", 7⟩)]) := by decide +kernel
  obtain ⟨h, p, hr, -, hp⟩ := run_of_observed he
  obtain ⟨vc, hj, hnotes⟩ := Option.map_eq_some_iff.mp hp
  obtain ⟨n, hn, hentry⟩ : ∃ n, vc.myNotes = [n] ∧ (n.id, n.entry) = ("n", ⟨some "n", 7⟩) := by
    obtain ⟨n, l, hl, hn, htail⟩ := List.map_eq_cons_iff.mp hnotes
    obtain rfl := List.map_eq_nil_iff.mp htail
    exact ⟨n, hl, hn⟩
  obtain ⟨hid, hentry⟩ := Prod.mk.inj hentry
  obtain ⟨id, uid, -, hsigned, -, hbought⟩ := my_notes_bought hr hj (by simp [hn])
  refine ⟨h, p, vc, hr, hj, by rw [hn, List.map_singleton, hentry], uid, hsigned, ?_⟩
  rw [← hid]
  exact hbought n (by simp [hn])

end

end Aoun
