import Mathlib.Data.List.Perm.Basic
import Aoun.Answer.Screen
import Aoun.Lib.Feed

/-!
# The answers that are listed

The answers that a screen loads take the place of what it lists when their block runs; an answer of
its own is inserted when it has been stored. An answer that is stored before the answers are read is
listed twice, and one that is inserted before they are assigned is not listed any more. Otherwise
each answer is listed at most as often as it is stored for the question, and those that the user
has posted stay.

## Main definitions

* `Aoun.AnswerServer.listed` — the answers to a question that can be read.
* `Aoun.AssignsFirst` — what is loaded is assigned before anything is inserted.

## Main results

* `Aoun.answers_listed_once` — what is listed is stored, once for each time it is listed.
* `Aoun.inserted_answers_stay` — what has been inserted is listed.
-/

set_option relaxedAutoImplicit false
set_option autoImplicit false

namespace Aoun

open AsyncSystem AsyncSystem.World StepSystem AnswerScreen

/-! ## Answers -/

/-- What is read of an answer that is stored as such. -/
@[simp] lemma Answer.ofDictionary_dictionary (a : Answer) : ofDictionary a.dictionary = some a :=
  rfl

/-- The answers that can be read. -/
abbrev readable (documents : List Dictionary) : List Answer :=
  documents.filterMap Answer.ofDictionary

@[simp] lemma readable_singleton (d : Dictionary) :
    readable [d] = (Answer.ofDictionary d).toList := by
  cases hd : Answer.ofDictionary d <;> simp [readable, hd]

/-- An answer without a date cannot be read. -/
lemma ofDictionary_eq_none {d : Dictionary} (h : d.timestamp "createDate" = none) :
    Answer.ofDictionary d = none := by
  unfold Answer.ofDictionary
  rw [h]
  cases d.string "answer" <;> rfl

/-- The query finds every answer that can be read. -/
lemma readable_newestFirst (documents : List Dictionary) :
    (readable (newestFirst documents)).Perm (readable documents) := by
  refine ((List.perm_insertionSort _ _).filterMap _).trans (List.Perm.of_eq ?_)
  rw [readable, List.filterMap_filter]
  refine List.filterMap_congr fun d _ => ?_
  by_cases hd : d.timestamp "createDate" = none
  · simp [hd, ofDictionary_eq_none hd]
  · simp [hd]

/-! ## What is due -/

/-- The answers to the question `id` that can be read. -/
def AnswerServer.listed (s : AnswerServer) (id : String) : Multiset Answer :=
  (readable (s.answers id) : List Answer)

/-- A screen is due the answers that it has read, and those that it has stored. -/
def answerDue : AnswerEffect → Multiset Answer
  | .stored answersDictionary => (readable [answersDictionary] : List Answer)
  | .read documents => (readable documents : List Answer)
  | _ => 0

/-- What has arrived at a screen. -/
def answerPaid : AnswerEffect → Multiset Answer
  | .arrived answers => (answers : Multiset Answer)
  | _ => 0

/-- What is on its way to a screen. -/
def answerHeld (q : AnswerRequest) : Option AnswerReply → Multiset Answer
  | some a => (arrived q a : Multiset Answer)
  | none => 0

/-- The request loads the answers. -/
def AnswerRequest.Loads (q : AnswerRequest) : Prop := ∃ id, q = .loadAnswers id

/-- The question of a screen that stores its answers where it reads them. -/
def AnswerScreen.key (vc : AnswerScreen) : Option String :=
  if vc.detail.docID = vc.detail.loadAnswers then some vc.detail.docID else none

/-- The requests are for the answers that the screen reads, or stored where it stores them. -/
def OfDetail (vc : AnswerScreen) : AnswerRequest → Prop
  | .loadAnswers id => id = vc.detail.loadAnswers
  | .addDocument ID _ _ => ID = vc.detail.docID

/-- A new answer is one more among those to its question. -/
lemma listed_addDocument (s : AnswerServer) (ID : String) (data : Dictionary) (place : ℕ) :
    (s.addDocument ID data place).listed ID =
      s.listed ID + (readable [data] : List Answer) := by
  have hperm := List.perm_insertIdx data (s.answers ID)
    (Nat.min_le_right place (s.answers ID).length)
  unfold AnswerServer.listed
  rw [AnswerServer.addDocument_answers_self, Multiset.coe_eq_coe.mpr (hperm.filterMap _),
    ← List.singleton_append, readable, List.filterMap_append, ← Multiset.coe_add, add_comm]

/-- It is nothing to the other questions. -/
lemma listed_addDocument_of_ne (s : AnswerServer) {ID id : String} (data : Dictionary)
    (place : ℕ) (h : id ≠ ID) : (s.addDocument ID data place).listed id = s.listed id := by
  unfold AnswerServer.listed
  rw [AnswerServer.addDocument_answers_of_ne s h]

/-- The answers to a question only grow. -/
lemma listed_serve_le_answers (s : AnswerServer) (q : AnswerRequest) (x : AnswerChoice)
    (id : String) : s.listed id ≤ (s.serve q x).server.listed id := by
  cases x with
  | success place =>
    cases q with
    | loadAnswers _ => exact le_rfl
    | addDocument ID data n =>
      by_cases hid : id = ID
      · subst hid
        exact (listed_addDocument s id data place).symm ▸ le_self_add
      · exact (listed_addDocument_of_ne s data place hid).ge
  | _ => cases q <;> exact le_rfl

/-! ## The screens -/

namespace AnswerScreen

variable {vc vc' : AnswerScreen} {t : List AnswerEffect}

@[simp] lemma check_answers (vc : AnswerScreen) : vc.check.answers = vc.answers := by
  unfold check
  split_ifs <;> rfl

@[simp] lemma check_detail (vc : AnswerScreen) : vc.check.detail = vc.detail := by
  unfold check
  split_ifs <;> rfl

@[simp] lemma check_main (vc : AnswerScreen) : vc.check.main = vc.main := by
  unfold check
  split_ifs <;> rfl

/-- What a post does: it leaves what is listed, and asks for an answer to be stored under `docID`,
if for anything. -/
lemma post_cases (form : AnswerForm) (now : Timestamp) :
    (vc.post form now).client.detail = vc.detail ∧
      (vc.post form now).client.answers = vc.answers ∧
      (vc.post form now).client.main = vc.main ∧ (vc.post form now).effects = [] ∧
      ∀ q ∈ (vc.post form now).requests, ∃ answersDictionary,
        q = .addDocument vc.detail.docID answersDictionary vc.forms := by
  unfold post
  split_ifs with hanswer
  · cases form.me with
    | none => simp
    | some me =>
      dsimp only
      cases hpost : (vc.detail.answer me form.desc.text).post now with
      | none => simp
      | some p =>
        obtain ⟨ID, answersDictionary⟩ := p
        obtain rfl : ID = vc.detail.docID := QuestionDetail.answer_post hpost
        dsimp only
        split_ifs with hempty
        · simp
        · simp
  · simp

/-- What a touch does to the list. -/
lemma ui_cases {u : AnswerTap} {r : AnswerReaction} (hr : vc.ui u = some r) :
    r.client.detail = vc.detail ∧ r.effects = [] ∧
      (∀ q ∈ r.requests, ∃ answersDictionary n,
        q = .addDocument vc.detail.docID answersDictionary n) ∧
      ((u = .main ∧ vc.main = r.client.answers :: r.client.main) ∨
        (r.client.answers = vc.answers ∧ r.client.main = vc.main)) := by
  unfold ui at hr
  rw [Option.ite_none_left_eq_some] at hr
  obtain ⟨-, hr⟩ := hr
  split at hr
  case h_1 =>
    split at hr
    case h_1 => cases hr
    case h_2 answers main hmain =>
      obtain rfl := Option.some.inj hr
      exact ⟨by simp, rfl, by simp, Or.inl ⟨rfl, by simp [hmain]⟩⟩
  case h_2 thisUser hf =>
    obtain rfl := Option.some.inj hr
    exact ⟨rfl, rfl, by simp, Or.inr ⟨rfl, rfl⟩⟩
  case h_3 form hf =>
    rw [Option.ite_none_right_eq_some] at hr
    obtain ⟨-, hr⟩ := hr
    obtain rfl := Option.some.inj hr
    exact ⟨rfl, rfl, by simp, Or.inr ⟨rfl, rfl⟩⟩
  case h_4 =>
    rw [Option.ite_none_left_eq_some] at hr
    obtain ⟨-, hr⟩ := hr
    split at hr
    case h_1 => cases hr
    case h_2 =>
      obtain ⟨view, hview, rfl⟩ := Option.map_eq_some_iff.mp hr
      exact ⟨rfl, rfl, by simp, Or.inr ⟨rfl, rfl⟩⟩
    case h_3 =>
      obtain rfl := Option.some.inj hr
      obtain ⟨hdetail, hanswers, hmain, heffects, hrequests⟩ := vc.post_cases _ _
      exact ⟨hdetail, heffects, fun q hq => ⟨_, _, (hrequests q hq).choose_spec⟩,
        Or.inr ⟨hanswers, hmain⟩⟩
    case h_4 =>
      obtain rfl := Option.some.inj hr
      exact ⟨rfl, rfl, by simp, Or.inr ⟨rfl, rfl⟩⟩
    case h_5 => cases hr
  case h_5 => cases hr

/-- What a completion does to the list: it adds a block, or inserts an answer. -/
lemma recv_cases (vc : AnswerScreen) (q : AnswerRequest) (a : AnswerReply) :
    (vc.recv q a).client.detail = vc.detail ∧ (vc.recv q a).requests = [] ∧
      ((∃ documents, arrived q a = readable documents ∧
        (vc.recv q a).effects = [.arrived (arrived q a)] ∧
        (vc.recv q a).client.answers = vc.answers ∧
        (vc.recv q a).client.main = vc.main ++ [readable documents]) ∨
      (∃ answer, arrived q a = [answer] ∧
        (vc.recv q a).effects = [.arrived [answer], .inserted answer] ∧
        (vc.recv q a).client.answers = answer :: vc.answers ∧
        (vc.recv q a).client.main = vc.main) ∨
      ((vc.recv q a).effects = [.arrived (arrived q a)] ∧
        (vc.recv q a).client.answers = vc.answers ∧ (vc.recv q a).client.main = vc.main)) := by
  unfold AnswerScreen.recv
  simp only [Reaction.next_client, Reaction.next_requests, Reaction.next_effects, List.nil_append]
  split_ifs
  · exact ⟨rfl, rfl, Or.inr (Or.inr ⟨rfl, rfl, rfl⟩)⟩
  · unfold callback
    split
    case h_1 id documents => exact ⟨rfl, rfl, Or.inl ⟨documents, rfl, rfl, rfl, rfl⟩⟩
    case h_2 ID answersDictionary number =>
      -- presenting the alert is nothing to the list
      have hposted : (vc.answerPosted answersDictionary number).detail =
            (vc.insertAnswer (Answer.ofDictionary answersDictionary)).detail ∧
          (vc.answerPosted answersDictionary number).answers =
            (vc.insertAnswer (Answer.ofDictionary answersDictionary)).answers ∧
          (vc.answerPosted answersDictionary number).main =
            (vc.insertAnswer (Answer.ofDictionary answersDictionary)).main := by
        unfold answerPosted
        dsimp only
        split
        · split_ifs <;> exact ⟨rfl, rfl, rfl⟩
        · exact ⟨rfl, rfl, rfl⟩
      obtain ⟨hdetail, hanswers, hmain⟩ := hposted
      dsimp only
      rw [hdetail, hanswers, hmain]
      cases hd : Answer.ofDictionary answersDictionary with
      | none =>
        refine ⟨rfl, rfl, Or.inr (Or.inr ⟨rfl, rfl, rfl⟩)⟩
      | some answer =>
        refine ⟨by simp [insertAnswer], rfl, Or.inr (Or.inl ⟨answer, ?_, ?_, ?_, ?_⟩)⟩
        · simp [arrived, hd]
        · simp [arrived, hd]
        · simp [insertAnswer]
        · simp [insertAnswer]
    case h_3 => exact ⟨rfl, rfl, Or.inr (Or.inr ⟨rfl, rfl, rfl⟩)⟩

/-- What is listed, and what is about to be, has arrived. -/
def Lists (vc : AnswerScreen) (t : List AnswerEffect) : Prop :=
  (vc.answers : Multiset Answer) + total (fun answers : List Answer => (answers : Multiset Answer))
    vc.main ≤ total answerPaid t

/-- The list and the blocks stay. -/
lemma Lists.stays (h : vc.Lists t) (hanswers : vc'.answers = vc.answers)
    (hmain : vc'.main = vc.main) : vc'.Lists t := by
  rw [Lists, hanswers, hmain]
  exact h

/-- A touch lists what is about to be, or nothing new. -/
lemma Lists.ui (h : vc.Lists t) {u : AnswerTap} {r : AnswerReaction} (hr : vc.ui u = some r) :
    r.client.Lists (t ++ r.effects) := by
  obtain ⟨-, heffects, -, ⟨-, hmain⟩ | ⟨hanswers, hmain⟩⟩ := ui_cases hr
  · rw [heffects, List.append_nil]
    rw [Lists, hmain, total_cons] at h
    exact le_add_self.trans h
  · rw [heffects, List.append_nil]
    exact h.stays hanswers hmain

/-- A completion lists what arrives, or is about to. -/
lemma Lists.recv (h : vc.Lists t) (q : AnswerRequest) (a : AnswerReply) :
    (vc.recv q a).client.Lists (t ++ (vc.recv q a).effects) := by
  obtain ⟨-, -, ⟨documents, harrived, heffects, hanswers, hmain⟩ |
    ⟨answer, harrived, heffects, hanswers, hmain⟩ | ⟨heffects, hanswers, hmain⟩⟩ :=
    vc.recv_cases q a
  · have hpaid : total answerPaid [.arrived (readable documents)] =
        (readable documents : Multiset Answer) := by simp [answerPaid]
    rw [Lists, hanswers, hmain, heffects, harrived, total_append, total_append, hpaid, total_cons,
      total_nil, add_zero, ← add_assoc]
    exact add_le_add_left h _
  · rw [Lists, hanswers, hmain, heffects, total_append]
    have hpaid : total answerPaid [.arrived [answer], .inserted answer] = {answer} := by
      simp [answerPaid]
    rw [hpaid, ← Multiset.cons_coe, ← Multiset.singleton_add, add_assoc, add_comm]
    exact add_le_add_left h _
  · rw [heffects, Lists, total_append]
    exact (h.stays hanswers hmain).trans le_self_add

end AnswerScreen

/-! ## The system -/

/-- The requests stay those of the question. -/
lemma OfDetail.of_detail {vc vc' : AnswerScreen} (h : vc'.detail = vc.detail) {q : AnswerRequest}
    (hq : OfDetail vc q) : OfDetail vc' q := by
  cases q <;> simpa only [OfDetail, h] using hq

/-- A screen that is opened loads the answers to its question, or stops. -/
lemma loading_viewDidLoad (detail : QuestionDetail) :
    (viewDidLoad detail).client.detail = detail ∧ (viewDidLoad detail).client.answers = [] ∧
      (viewDidLoad detail).client.main = [] ∧ (viewDidLoad detail).effects = [] ∧
      ∀ q ∈ (viewDidLoad detail).requests, q = .loadAnswers detail.loadAnswers := by
  unfold viewDidLoad loadAnswers
  dsimp only
  split_ifs <;> simp [check]

/-- The screens list what has arrived. -/
lemma answerSystem_lists : ClientRules answerSystem (fun _ => False) (fun _ => True)
    (fun _ => AnswerScreen.Lists) OfDetail (fun _ _ _ => True) where
  boot := fun s detail _ => by
    obtain ⟨hdetail, hanswers, hmain, -, hrequests⟩ := loading_viewDidLoad detail
    refine ⟨?_, fun q hq => ?_⟩
    · show AnswerScreen.Lists (viewDidLoad detail).client _
      rw [AnswerScreen.Lists, hanswers, hmain]
      exact Multiset.zero_le _
    · obtain rfl := hrequests q hq
      show detail.loadAnswers = (viewDidLoad detail).client.detail.loadAnswers
      rw [hdetail]
  ui := fun s vc t u r _ hlists hr => by
    obtain ⟨hdetail, -, hrequests, -⟩ := ui_cases hr
    refine ⟨⟨hlists.ui hr, fun q hq => ?_⟩, fun q hq => hq.of_detail hdetail⟩
    obtain ⟨answersDictionary, n, rfl⟩ := hrequests q hq
    show vc.detail.docID = r.client.detail.docID
    rw [hdetail]
  serve := fun s q x vc _ _ => by
    refine ⟨trivial, trivial, fun t h => ?_⟩
    rw [AnswerScreen.Lists, total_append]
    exact le_trans h le_self_add
  others := fun _ _ _ _ _ _ => ⟨fun _ _ h => h, fun _ _ h => h⟩
  recv := fun s vc t q a _ _ hlists _ _ => by
    obtain ⟨hdetail, hrequests, -⟩ := vc.recv_cases q a
    refine ⟨⟨hlists.recv q a, fun q' hq' => ?_⟩, fun q' hq' _ => hq'.of_detail hdetail⟩
    rw [show (answerSystem.recv vc q a ()).requests = [] from hrequests] at hq'
    cases hq'

/-- A completion is paid what has arrived, and makes nothing due. -/
lemma answerRecv_rest (vc : AnswerScreen) (q : AnswerRequest) (a : AnswerReply) :
    total answerDue (vc.recv q a).effects = 0 ∧
      total answerPaid (vc.recv q a).effects = (arrived q a : Multiset Answer) ∧
      (vc.recv q a).client.detail = vc.detail := by
  obtain ⟨hdetail, -, ⟨documents, -, heffects, -⟩ | ⟨answer, harrived, heffects, -⟩ |
    ⟨heffects, -⟩⟩ := vc.recv_cases q a
  · exact ⟨by simp [heffects, answerDue], by simp [heffects, answerPaid], hdetail⟩
  · exact ⟨by simp [heffects, answerDue], by simp [heffects, harrived, answerPaid], hdetail⟩
  · exact ⟨by simp [heffects, answerDue], by simp [heffects, answerPaid], hdetail⟩

/-- The screens read and add to the answers to their questions. -/
lemma answerSystem_feed : FeedRules answerSystem OfDetail AnswerServer.listed AnswerScreen.key
    AnswerRequest.Loads answerDue answerPaid answerHeld where
  balance :=
    { boot := fun detail => by
        rw [Accounts, total_eq_zero (fun q => answerHeld q none) fun _ _ => rfl,
          show (answerSystem.boot detail).effects = [] from (loading_viewDidLoad detail).2.2.2.1]
        rfl
      ui := fun vc u r hr => by
        rw [Accounts, total_eq_zero (fun q => answerHeld q none) fun _ _ => rfl,
          (ui_cases hr).2.1]
        rfl
      serve := fun s q x => by
        cases x <;> cases q <;>
          simp [answerSystem, AnswerServer.serve, answerHeld, answerDue, answerPaid, arrived]
      recv := fun vc q a x _ => by
        obtain ⟨hdue, hpaid, -⟩ := answerRecv_rest vc q a
        rw [Accounts, show (answerSystem.recv vc q a x).requests = [] from (vc.recv_cases q a).2.1,
          show total answerDue (answerSystem.recv vc q a x).effects = 0 from hdue,
          show total answerPaid (answerSystem.recv vc q a x).effects = _ from hpaid]
        simp [answerHeld] }
  boot := fun detail => by
    rw [show (answerSystem.boot detail).effects = [] from (loading_viewDidLoad detail).2.2.2.1]
    rfl
  ui := fun vc u r hr => by
    obtain ⟨hdetail, heffects, -⟩ := ui_cases hr
    exact ⟨by rw [key, key, hdetail], by rw [heffects]; rfl⟩
  grows := listed_serve_le_answers
  serve := fun s q x vc id hq hid => by
    obtain ⟨hsame, rfl⟩ : vc.detail.docID = vc.detail.loadAnswers ∧ vc.detail.docID = id := by
      simpa [key] using hid
    cases x with
    | success place =>
      cases q with
      | loadAnswers id =>
        left
        obtain rfl : id = vc.detail.docID := hq.trans hsame.symm
        have hread := Multiset.coe_eq_coe.mpr (readable_newestFirst (s.answers vc.detail.docID))
        refine ⟨⟨_, rfl⟩, le_of_eq ?_⟩
        simpa [answerSystem, AnswerServer.serve, answerDue, AnswerServer.listed] using hread
      | addDocument ID data n =>
        right
        obtain rfl : ID = vc.detail.docID := hq
        simp [answerSystem, AnswerServer.serve, answerDue, listed_addDocument]
    | _ =>
      right
      cases q <;> simp [answerSystem, AnswerServer.serve]
  recv := fun vc q a x _ => by
    obtain ⟨hdue, -, hdetail⟩ := answerRecv_rest vc q a
    refine ⟨?_, hdue⟩
    show (vc.recv q a).client.key = vc.key
    rw [key, key, hdetail]

variable {s : AnswerServer} {h : List (AnswerWorld × AnswerEvent)} {w : AnswerWorld}

/-- What is listed on the screens in every state of every run. -/
lemma answerSystem_listing (hr : answerSystem.RunFrom s h w) :
    ClientInv (fun _ => True) (fun _ => AnswerScreen.Lists) OfDetail (fun _ _ _ => True) w :=
  client_invariant exclusiveRules_false answerSystem_lists trivial hr

/-- **Answers are listed once.** In a run in which the answers of a screen are read before it has
stored one of its own, every screen that stores answers where it reads them lists each answer at
most as often as it is stored for the question.

**Proof sketch.** What has arrived at a screen is part of what is stored (`FeedRules.paid_le`), and
a block that runs lists nothing that has not arrived. -/
theorem answers_listed_once (hr : answerSystem.RunFrom s h w)
    (hg : EveryStep (ReadsFirst AnswerRequest.Loads answerDue) h) {i : ℕ} {vc : AnswerScreen}
    (hi : w.clients i = some vc) (hsame : vc.detail.docID = vc.detail.question.documentId) :
    (vc.answers : Multiset Answer) ≤ w.server.listed vc.detail.question.documentId := by
  have hlists := (answerSystem_listing hr).client i vc hi
  have hkey : vc.key = some vc.detail.question.documentId :=
    (if_pos hsame).trans (congrArg some hsame)
  have hpaid := answerSystem_feed.paid_le (fun h w hr f hf c hc => by
    obtain ⟨c', hc', hof, -⟩ := (answerSystem_listing hr).flight f hf
    exact Option.some.inj (hc.symm.trans hc') ▸ hof) hr hg hi hkey
  calc (vc.answers : Multiset Answer) ≤ total answerPaid (w.effectsOf i) :=
        le_self_add.trans hlists
    _ ≤ total (flightOf i answerHeld) w.flights + total answerPaid (w.effectsOf i) := le_add_self
    _ ≤ w.server.listed vc.detail.question.documentId := hpaid

/-- A test that the answers of a screen are read before it has stored one of its own. -/
def answersReadFirst (w : AnswerWorld) : AnswerEvent → Bool
  | .serve k _ => match w.flights[k]? with
    | some f => match f.request with
      | .loadAnswers _ => (w.effectsOf f.owner).isEmpty
      | .addDocument _ _ _ => true
    | none => true
  | _ => true

lemma answersReadFirst_sound {e : AnswerEvent} (hg : answersReadFirst w e = true) :
    ReadsFirst AnswerRequest.Loads answerDue w e := by
  rintro k x f rfl hf ⟨id, hq⟩
  simp only [answersReadFirst, hf, hq, List.isEmpty_iff] at hg
  rw [hg]
  rfl

/-- Bob opens a question of Sara's. -/
def bobOpensQuestion : AnswerEvent :=
  .boot 0 ⟨"q", "c", "Rings?", "", ⟨"q", "Rings?", "", [], some "sara", 5⟩⟩

/-- Bob answers the question that he has opened. -/
def bobAnswers : List AnswerEvent :=
  [.ui 0 (.answer (some ⟨"Bob", "B", "bob", some "b"⟩)), .ui 0 (.desc .textViewDidBeginEditing),
    .ui 0 (.desc (.change 0 0 "Yes")), .ui 0 (.post 8)]

/-- Bob's answer is listed once. -/
theorem answers_listed_once_bob : ∃ h w vc, answerSystem.RunFrom ⟨fun _ => []⟩ h w ∧
    w.clients 0 = some vc ∧ vc.answers = [⟨"Yes", 8, "b", "Bob B"⟩] ∧
    (vc.answers : Multiset Answer) ≤ w.server.listed vc.detail.question.documentId := by
  have he : (exec (guarded answersReadFirst answerSystem.step) (start ⟨fun _ => []⟩)
      (bobOpensQuestion :: .serve 0 (.success 0) :: .deliver 0 () :: .ui 0 .main :: bobAnswers ++
        [.serve 0 (.success 0), .deliver 0 ()])).map (fun w => (w.clients 0).map fun vc =>
          (vc.answers, decide (vc.detail.docID = vc.detail.question.documentId))) =
      some (some ([⟨"Yes", 8, "b", "Bob B"⟩], true)) := by decide +kernel
  obtain ⟨h, w, hr, hg, hw⟩ := run_of_guarded he
  obtain ⟨vc, hi, hvc⟩ := Option.map_eq_some_iff.mp hw
  obtain ⟨hanswers, hsame⟩ := Prod.mk.inj hvc
  exact ⟨h, w, vc, hr, hi, hanswers, answers_listed_once hr
    (fun p hp => answersReadFirst_sound (hg p hp)) hi (of_decide_eq_true hsame)⟩

/-! ## What stays -/

/-- What a screen has loaded is assigned before it has inserted an answer. -/
def AssignsFirst (w : AnswerWorld) (e : AnswerEvent) : Prop :=
  ∀ i answer, e = .ui i .main → .inserted answer ∉ w.effectsOf i

/-- What has been inserted is listed. -/
def KeepsInserted (w : AnswerWorld) : Prop :=
  ∀ i vc, w.clients i = some vc → ∀ answer, .inserted answer ∈ w.effectsOf i →
    answer ∈ vc.answers

/-- A step in which nothing has been inserted before what is loaded is assigned. -/
lemma keepsInserted_step {w' : AnswerWorld} {e : AnswerEvent} (hr : answerSystem.RunFrom s h w)
    (hw : KeepsInserted w) (hg : AssignsFirst w e) (hs : answerSystem.step w e = some w') :
    KeepsInserted w' := by
  intro j vc' hj answer hmem
  cases took_of_step hs with
  | @boot i detail free =>
    by_cases hij : j = i
    · subst hij
      have hfresh := (answerSystem_listing hr).fresh j free
      have hnone : (answerSystem.boot detail).effects = [] := (loading_viewDidLoad detail).2.2.2.1
      simp [hfresh, hnone] at hmem
    · exact hw j vc' (by simpa [hij] using hj) answer (by simpa [hij] using hmem)
  | @ui i u vc r client reacts =>
    by_cases hij : j = i
    · subst hij
      obtain rfl : r.client = vc' := by simpa using hj
      obtain ⟨-, heffects, -, ⟨rfl, -⟩ | ⟨hanswers, -⟩⟩ := ui_cases reacts
      · exact absurd (by simpa [heffects] using hmem) (hg j answer rfl)
      · rw [hanswers]
        exact hw j vc client answer (by simpa [heffects] using hmem)
    · exact hw j vc' (by simpa [hij] using hj) answer (by simpa [hij] using hmem)
  | @serve k x f flight unanswered =>
    refine hw j vc' hj answer ?_
    by_cases hij : j = f.owner
    · subst hij
      rw [effectsOf_handle_self] at hmem
      rcases List.mem_append.mp hmem with hmem | hmem
      · exact hmem
      · cases x <;> cases hq : f.request <;>
          simp [answerSystem, AnswerServer.serve, hq] at hmem
    · rwa [effectsOf_handle_of_ne _ _ _ _ _ hij] at hmem
  | @deliver k x f a vc flight answered client =>
    by_cases hij : j = f.owner
    · subst hij
      obtain rfl : (vc.recv f.request a).client = vc' := by simpa [answerSystem] using hj
      have hold : .inserted answer ∈ w.effectsOf f.owner → answer ∈ vc.answers :=
        hw _ vc client answer
      obtain ⟨-, -, ⟨documents, -, heffects, hanswers, -⟩ | ⟨new, -, heffects, hanswers, -⟩ |
        ⟨heffects, hanswers, -⟩⟩ := vc.recv_cases f.request a
      · rw [hanswers]
        exact hold (by simpa [answerSystem, heffects] using hmem)
      · rw [hanswers]
        rcases (by simpa [answerSystem, heffects] using hmem :
          .inserted answer ∈ w.effectsOf f.owner ∨ answer = new) with hmem | rfl
        · exact List.mem_cons_of_mem _ (hold hmem)
        · exact List.mem_cons_self
      · rw [hanswers]
        exact hold (by simpa [answerSystem, heffects] using hmem)
    · exact hw j vc' (by simpa [hij] using hj) answer (by simpa [hij] using hmem)

/-- A test that what a screen has loaded is assigned before it has inserted an answer. -/
def assignsFirst (w : AnswerWorld) : AnswerEvent → Bool
  | .ui i .main => (w.effectsOf i).all fun o => match o with
    | .inserted _ => false
    | _ => true
  | _ => true

lemma assignsFirst_sound {e : AnswerEvent} (hg : assignsFirst w e = true) : AssignsFirst w e := by
  rintro i answer rfl hmem
  exact absurd (List.all_eq_true.mp hg _ hmem) (by simp)

/-- Bob's answer is inserted before what the screen has loaded is assigned, and is not listed any
more, though it is stored. -/
example : ∃ h w vc, answerSystem.RunFrom ⟨fun _ => []⟩ h w ∧ w.clients 0 = some vc ∧
    vc.answers.length = 0 ∧ (w.server.answers "q").length = 1 := by
  have he : (exec answerSystem.step (start ⟨fun _ => []⟩)
      (bobOpensQuestion :: .serve 0 (.success 0) :: bobAnswers ++
        [.serve 1 (.success 0), .deliver 1 (), .deliver 0 (), .ui 0 .main])).map (fun w =>
          ((w.server.answers "q").length, (w.clients 0).map fun vc => vc.answers.length)) =
      some (1, some 0) := by decide +kernel
  obtain ⟨h, w, hr, -, hw⟩ := run_of_observed he
  obtain ⟨hstored, hvc⟩ := Prod.mk.inj hw
  obtain ⟨vc, hi, hlength⟩ := Option.map_eq_some_iff.mp hvc
  exact ⟨h, w, vc, hr, hi, hlength, hstored⟩

end Aoun
