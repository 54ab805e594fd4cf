import SafetyCenter.Proofs.Ledger.Locality
import SafetyCenter.Proofs.Metrics.Counting

set_option autoImplicit false

namespace SafetyCenter

theorem Distinct.size_congr {α : Type} {s t : Distinct α} (same : ∀ a, a ∈ s ↔ a ∈ t) :
    s.size = t.size :=
  ((List.perm_ext_iff_of_nodup s.nodup t.nodup).mpr same).length_eq

/-- As many elements are left out as fail the test. -/
theorem Distinct.size_sub_size_filter {α : Type} (s : Distinct α) (p : α → Bool) :
    s.size - (s.filter p).size = (s.filter fun a => !p a).size := by
  have parts := List.length_eq_length_filter_add (l := s.toList) p
  simp only [size, toList_filter]
  omega

namespace Ledger

/-- The place that an operation is about. Only the clearing of a ledger is about all of them. -/
def Operation.place? : Operation → Option Slot
  | .submit _ _ place _ => some place
  | .reportFailure _ _ place _ => some place
  | .dismiss id => some id.slot
  | .launch id => some id.slot
  | .clear => none

theorem Operation.eq_clear_of_place? {op : Operation} (nowhere : op.place? = none) : op = .clear := by
  cases op <;> first | rfl | cases nowhere

/-- The marks that a new report of a place ends are marks of this place. -/
theorem activity_replace_congr {place : Slot} {l m : Ledger} (same : place.SameIn l m)
    (report : Option Report) :
    (l.replace place report).activity = (m.replace place report).activity := by
  let before := (l.calm place).store place (kept report)
  let before' := (m.calm place).store place (kept report)
  have stored : before.report? place = before'.report? place := by
    rw [report?_store, report?_store, if_pos rfl, if_pos rfl]
  have marks : before.inFlight = l.inFlight := store_inFlight ..
  have marks' : before'.inFlight = m.inFlight := store_inFlight ..
  have ended : ∀ id, id ∈ before.inFlight.filter (fun id => !before.keepsMark place id) ↔
      id ∈ before'.inFlight.filter (fun id => !before'.keepsMark place id) := by
    intro id
    by_cases here : id.slot = place
    · have means : before.reportedAction? id = before'.reportedAction? id :=
        reportedAction?_congr (here ▸ stored)
      simp only [Distinct.mem_filter, keepsMark, marks, marks', means, same.inFlight id here]
    · simp [keepsMark, here]
  have count := Distinct.size_congr ended
  rw [← Distinct.size_sub_size_filter, ← Distinct.size_sub_size_filter] at count
  exact congrArg (fun n => [Activity.actionsEnded n]) count

theorem activity_submit_congr {place : Slot} {l m : Ledger} (same : place.SameIn l m)
    (c : Catalogue) (g : ProfileGroup) (report : Option Report) :
    (l.submit c g place report).activity = (m.submit c g place report).activity := by
  cases verdict : rejection? c g place report with
  | some e => rw [submit_of_rejection l verdict, submit_of_rejection m verdict]
  | none =>
    by_cases unchanged : l.report? place = kept report
    · have unchanged' : m.report? place = kept report := same.report ▸ unchanged
      rw [submit_of_same verdict unchanged, submit_of_same verdict unchanged']
    · have changed' : m.report? place ≠ kept report := same.report ▸ unchanged
      rw [submit_of_other verdict unchanged, submit_of_other verdict changed']
      simp only [activity_replace_congr same]

/-- How an answer is put makes no difference to what is read and changed. -/
theorem Local.withAnswer {α β : Type} {place : Slot} {act : Ledger → Change α}
    (isLocal : Local place act) (put : α → β) :
    Local place fun l => { act l with answer := put (act l).answer } where
  frame := isLocal.frame
  answer := fun l m same => congrArg put (isLocal.answer l m same)
  effect := isLocal.effect

/-- An operation other than the clearing reads and changes its place alone. -/
theorem Operation.local_perform {op : Operation} {place : Slot} (about : op.place? = some place) :
    Local place (fun l => op.perform l) := by
  cases op with
  | submit c g place' report =>
    cases about
    exact (local_submit c g place report).withAnswer Reply.submitted
  | reportFailure c g place' event =>
    cases about
    exact (local_reportFailure c g place event).withAnswer Reply.noted
  | dismiss id =>
    cases about
    exact (local_dismiss id).withAnswer Reply.flag
  | launch id =>
    cases about
    exact (local_launch id).withAnswer Reply.flag
  | clear => cases about

/-- What there is to count follows from what is kept of the place. -/
theorem Operation.activity_congr {op : Operation} {place : Slot} (about : op.place? = some place)
    {l m : Ledger} (same : place.SameIn l m) : (op.perform l).activity = (op.perform m).activity := by
  cases op with
  | submit c g place' report =>
    cases about
    exact activity_submit_congr same c g report
  | reportFailure c g place' event =>
    exact (activity_reportFailure l c g place' event).trans
      (activity_reportFailure m c g place' event).symm
  | dismiss id =>
    cases about
    show (l.dismiss id).activity = (m.dismiss id).activity
    rw [activity_dismiss, activity_dismiss, (local_dismiss id).answer l m same]
  | launch id =>
    cases about
    show (l.launch id).activity = (m.launch id).activity
    rw [activity_launch, activity_launch, (local_launch id).answer l m same]
  | clear => cases about

/-- What comes of an operation follows from what is kept of its place. -/
theorem Operation.result_congr {op : Operation} {place : Slot} (about : op.place? = some place)
    {l m : Ledger} (same : place.SameIn l m) : op.result l = op.result m := by
  have answer := (op.local_perform about).answer l m same
  rw [result, result, op.activity_congr about same]
  exact congrArg (Result.mk · _) answer

section Turns

variable {κ : Type}

/-- What comes of operations in turn, each result with the label of its party. -/
def resultsInTurn (l : Ledger) (turns : List (κ × Operation)) : List (κ × Result) :=
  (turns.map Prod.fst).zip (l.results (turns.map Prod.snd))

def runInTurn (l : Ledger) (turns : List (κ × Operation)) : Ledger :=
  l.run (turns.map Prod.snd)

theorem resultsInTurn_cons (l : Ledger) (k : κ) (op : Operation) (turns : List (κ × Operation)) :
    l.resultsInTurn ((k, op) :: turns) =
      (k, op.result l) :: (op.perform l).ledger.resultsInTurn turns := rfl

theorem runInTurn_cons (l : Ledger) (k : κ) (op : Operation) (turns : List (κ × Operation)) :
    l.runInTurn ((k, op) :: turns) = (op.perform l).ledger.runInTurn turns := rfl

theorem flatMap_resultsInTurn (l : Ledger) (turns : List (κ × Operation)) :
    (l.resultsInTurn turns).flatMap (·.2.activity) = l.activities (turns.map Prod.snd) := by
  induction turns generalizing l with
  | nil => rfl
  | cons turn turns ih => exact congrArg ((turn.2.result l).activity ++ ·) (ih _)

/-- A place that no operation is about stays as it is. -/
theorem sameIn_runInTurn_frame {turns : List (κ × Operation)} {place : Slot}
    (elsewhere : ∀ turn ∈ turns, ∃ here, turn.2.place? = some here ∧ place ≠ here) (l : Ledger) :
    place.SameIn (l.runInTurn turns) l := by
  induction turns generalizing l with
  | nil => exact Slot.SameIn.refl place l
  | cons turn turns ih =>
    obtain ⟨here, about, other⟩ := elsewhere turn List.mem_cons_self
    have first := (turn.2.local_perform about).frame l place other
    have rest := ih (fun turn member => elsewhere turn (List.mem_cons_of_mem _ member))
      (turn.2.perform l).ledger
    exact rest.trans first

end Turns

section Parties

variable {κ : Type} [DecidableEq κ] {α : Type}

/-- What a party has in a list with labels, in order. -/
def ofParty (k : κ) (turns : List (κ × α)) : List α :=
  turns.filterMap fun turn => if turn.1 = k then some turn.2 else none

@[simp] theorem ofParty_nil (k : κ) : ofParty k ([] : List (κ × α)) = [] := rfl

theorem ofParty_cons (k : κ) (turn : κ × α) (turns : List (κ × α)) :
    ofParty k (turn :: turns) = if turn.1 = k then turn.2 :: ofParty k turns else ofParty k turns := by
  unfold ofParty
  rw [List.filterMap_cons]
  split <;> split <;> simp_all

theorem count_ofParty [BEq α] [LawfulBEq α] (turn : κ × α) (turns : List (κ × α)) :
    (ofParty turn.1 turns).count turn.2 = turns.count turn := by
  induction turns with
  | nil => rfl
  | cons next turns ih =>
    rw [ofParty_cons, List.count_cons, ← ih]
    by_cases own : next.1 = turn.1
    · have equal : (next == turn) = (next.2 == turn.2) := by
        rw [Bool.eq_iff_iff, beq_iff_eq, beq_iff_eq, Prod.ext_iff, and_iff_right own]
      rw [if_pos own, List.count_cons, equal]
    · have other : (next == turn) = false := by
        rw [beq_eq_false_iff_ne]
        exact fun same => own (congrArg Prod.fst same)
      rw [if_neg own, other, if_neg Bool.false_ne_true, Nat.add_zero]

/-- Lists in which each party has the same differ in the order of the turns alone. -/
theorem perm_of_ofParty {turns turns' : List (κ × α)}
    (same : ∀ k, ofParty k turns = ofParty k turns') : turns.Perm turns' := by
  classical
  rw [List.perm_iff_count]
  intro turn
  rw [← count_ofParty, ← count_ofParty, same]

/-- A party keeps to some places if its operations are about these, and all others are about other
places. -/
def KeepsTo (own : Slot → Prop) (k : κ) (turns : List (κ × Operation)) : Prop :=
  ∀ turn ∈ turns, ∃ place, turn.2.place? = some place ∧ (own place ↔ turn.1 = k)

/-- A party that keeps to its places is answered as if it were alone, and finds there what it would
find if it were alone. -/
theorem KeepsTo.alone {own : Slot → Prop} {k : κ} {turns : List (κ × Operation)}
    (keeps : KeepsTo own k turns) {l m : Ledger} (same : ∀ place, own place → place.SameIn l m) :
    ofParty k (l.resultsInTurn turns) = m.results (ofParty k turns) ∧
      ∀ place, own place → place.SameIn (l.runInTurn turns) (m.run (ofParty k turns)) := by
  induction turns generalizing l m with
  | nil => exact ⟨rfl, same⟩
  | cons turn turns ih =>
    obtain ⟨j, op⟩ := turn
    obtain ⟨here, about, mine⟩ := keeps (j, op) List.mem_cons_self
    have later : KeepsTo own k turns := fun turn member =>
      keeps turn (List.mem_cons_of_mem _ member)
    have isLocal := op.local_perform about
    rw [resultsInTurn_cons, runInTurn_cons, ofParty_cons, ofParty_cons]
    by_cases party : j = k
    · -- its own operation finds the same and leaves the same
      have found := same here (mine.mpr party)
      have next := ih later fun place inside => isLocal.sameIn found (same place inside)
      rw [if_pos party, if_pos party, op.result_congr about found, next.1]
      exact ⟨rfl, next.2⟩
    · -- an operation of another party leaves its places as they are
      rw [if_neg party, if_neg party]
      refine ih later fun place inside => ?_
      have elsewhere : place ≠ here := fun at_here => party (mine.mp (at_here ▸ inside))
      exact (isLocal.frame l place elsewhere).trans (same place inside)

def IsPlaceOf (turns : List (κ × Operation)) (k : κ) (place : Slot) : Prop :=
  ∃ turn ∈ turns, turn.1 = k ∧ turn.2.place? = some place

/-- Parties that share no place keep to their places. -/
theorem keepsTo_isPlaceOf {turns : List (κ × Operation)}
    (placed : ∀ turn ∈ turns, ∃ place, turn.2.place? = some place)
    (apart : ∀ x ∈ turns, ∀ y ∈ turns, x.1 ≠ y.1 → x.2.place? ≠ y.2.place?) (k : κ) :
    KeepsTo (IsPlaceOf turns k) k turns := by
  intro turn member
  obtain ⟨place, about⟩ := placed turn member
  refine ⟨place, about, fun mine => ?_, fun party => ⟨turn, member, party, about⟩⟩
  obtain ⟨other, member', party, about'⟩ := mine
  by_contra differ
  exact apart turn member other member' (party ▸ differ) (about.trans about'.symm)

/-- Operations of parties that share no place may be interleaved in any way. Each party is answered
as if it were alone, and the ledger and the counters come to the same. -/
theorem interleavings_agree (l : Ledger) (m : Metrics) {turns turns' : List (κ × Operation)}
    (keeps : ∀ turn ∈ turns, turn.2 ≠ .clear)
    (apart : ∀ x ∈ turns, ∀ y ∈ turns, x.1 ≠ y.1 → x.2.place? ≠ y.2.place?)
    (same : ∀ k, ofParty k turns = ofParty k turns') :
    (∀ k, ofParty k (l.resultsInTurn turns) = l.results (ofParty k turns) ∧
      ofParty k (l.resultsInTurn turns') = l.results (ofParty k turns)) ∧
    (∀ place : Slot, place.SameIn (l.runInTurn turns) (l.runInTurn turns')) ∧
    (m.recordAll (l.activities (turns.map Prod.snd))).SameCounts
      (m.recordAll (l.activities (turns'.map Prod.snd))) := by
  have moved : turns.Perm turns' := perm_of_ofParty same
  have placed : ∀ turn ∈ turns, ∃ place, turn.2.place? = some place := fun turn member =>
    Option.ne_none_iff_exists'.mp fun nowhere =>
      keeps turn member (Operation.eq_clear_of_place? nowhere)
  have keepsTo := keepsTo_isPlaceOf placed apart
  have keepsTo' : ∀ k, KeepsTo (IsPlaceOf turns k) k turns' := fun k turn member =>
    keepsTo k turn (moved.mem_iff.mpr member)
  have alone := fun k => (keepsTo k).alone fun place _ => Slot.SameIn.refl place l
  have alone' := fun k => (keepsTo' k).alone fun place _ => Slot.SameIn.refl place l
  refine ⟨fun k => ⟨(alone k).1, ?_⟩, fun place => ?_, ?_⟩
  · rw [same k]
    exact (alone' k).1
  · by_cases touched : ∃ turn ∈ turns, turn.2.place? = some place
    · -- both interleavings leave what the party of this place leaves when it is alone
      obtain ⟨turn, member, about⟩ := touched
      have mine : IsPlaceOf turns turn.1 place := ⟨turn, member, rfl, about⟩
      have first := (alone turn.1).2 place mine
      have second := (alone' turn.1).2 place mine
      rw [← same turn.1] at second
      exact first.trans second.symm
    · have elsewhere : ∀ turn ∈ turns, ∃ here, turn.2.place? = some here ∧ place ≠ here := by
        intro turn member
        obtain ⟨here, about⟩ := placed turn member
        exact ⟨here, about, fun at_here => touched ⟨turn, member, at_here ▸ about⟩⟩
      have elsewhere' := fun turn member => elsewhere turn (moved.mem_iff.mpr member)
      exact (sameIn_runInTurn_frame elsewhere l).trans (sameIn_runInTurn_frame elsewhere' l).symm
  · have results : (l.resultsInTurn turns).Perm (l.resultsInTurn turns') := by
      refine perm_of_ofParty fun k => ?_
      rw [(alone k).1, (alone' k).1, same k]
    rw [← flatMap_resultsInTurn, ← flatMap_resultsInTurn]
    exact Metrics.sameCounts_of_perm m (results.flatMap_right _)

/-- One user's issue is dismissed and left out of the next report while another user's action is
launched. -/
theorem interleavings_agree_of_two_users :
    let c : Catalogue := ⟨[{ id := ⟨"lock"⟩ }]⟩
    let fix : Action := { key := "fix", label := "Fix", resolves := true, target := "" }
    let weak : Issue := { key := "weak", severity := .recommendation, actions := [fix] }
    let id : UserId → IssueId := fun u => ⟨⟨"lock"⟩, u, "weak", "", "first"⟩
    let reported : UserId → List Issue → Operation := fun u issues =>
      .submit c (.single u) ⟨⟨"lock"⟩, u⟩ (some { session := "first", issues })
    let first : List (Bool × Operation) :=
      [(true, reported ⟨1⟩ [weak]), (true, .dismiss (id ⟨1⟩)), (true, reported ⟨1⟩ [])]
    let second : List (Bool × Operation) :=
      [(false, reported ⟨2⟩ [weak]), (false, .launch ⟨id ⟨2⟩, "fix"⟩)]
    let turns := first ++ second
    let turns' := [second[0], first[0], first[1], second[1], first[2]]
    (∀ turn ∈ turns, turn.2 ≠ .clear) ∧
      (∀ x ∈ turns, ∀ y ∈ turns, x.1 ≠ y.1 → x.2.place? ≠ y.2.place?) ∧
      (∀ k, ofParty k turns = ofParty k turns') ∧
      ∀ place : Slot, place.SameIn ((∅ : Ledger).runInTurn turns) ((∅ : Ledger).runInTurn turns') := by
  intro c fix weak id reported first second turns turns'
  have keeps : ∀ turn ∈ turns, turn.2 ≠ .clear := by
    simp [turns, first, second, reported]
  have apart : ∀ x ∈ turns, ∀ y ∈ turns, x.1 ≠ y.1 → x.2.place? ≠ y.2.place? := by
    decide
  have same : ∀ k, ofParty k turns = ofParty k turns' := by
    intro k
    cases k <;> rfl
  exact ⟨keeps, apart, same, (interleavings_agree ∅ {} keeps apart same).2.1⟩

end Parties

end Ledger

end SafetyCenter
