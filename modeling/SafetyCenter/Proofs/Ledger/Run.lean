import SafetyCenter.Ledger

set_option autoImplicit false

namespace SafetyCenter.Ledger

/-- An operation on a ledger. The catalogue and the group may differ from one to the next. -/
inductive Operation where
  | submit (c : Catalogue) (g : ProfileGroup) (place : Slot) (report : Option Report)
  | reportFailure (c : Catalogue) (g : ProfileGroup) (place : Slot) (event : Event)
  | dismiss (id : IssueId)
  | launch (id : ActionId)
  | clear

inductive Reply where
  | submitted (answer : Except Error Bool)
  | noted (answer : Except Error FailureNote)
  | flag (answer : Bool)
  | done

def Operation.perform (l : Ledger) : Operation → Change Reply
  | .submit c g place report =>
    let change := l.submit c g place report
    { change with answer := .submitted change.answer }
  | .reportFailure c g place event =>
    let change := l.reportFailure c g place event
    { change with answer := .noted change.answer }
  | .dismiss id =>
    let change := l.dismiss id
    { change with answer := .flag change.answer }
  | .launch id =>
    let change := l.launch id
    { change with answer := .flag change.answer }
  | .clear => { l.clear with answer := .done }

def run (l : Ledger) (ops : List Operation) : Ledger :=
  ops.foldl (fun l op => (op.perform l).ledger) l

@[simp] theorem run_nil (l : Ledger) : l.run [] = l := rfl

@[simp] theorem run_cons (l : Ledger) (op : Operation) (ops : List Operation) :
    l.run (op :: ops) = (op.perform l).ledger.run ops := rfl

/-- What comes of an operation: its answer, and what there is to count. -/
structure Result where
  answer : Reply
  activity : List Activity

def Operation.result (l : Ledger) (op : Operation) : Result :=
  ⟨(op.perform l).answer, (op.perform l).activity⟩

def results (l : Ledger) : List Operation → List Result
  | [] => []
  | op :: ops => op.result l :: (op.perform l).ledger.results ops

def activities (l : Ledger) (ops : List Operation) : List Activity :=
  (l.results ops).flatMap (·.activity)

@[simp] theorem activities_nil (l : Ledger) : l.activities [] = [] := rfl

theorem activities_cons (l : Ledger) (op : Operation) (ops : List Operation) :
    l.activities (op :: ops) = (op.perform l).activity ++ (op.perform l).ledger.activities ops := rfl

theorem activities_singleton (l : Ledger) (op : Operation) :
    l.activities [op] = (op.perform l).activity := by
  rw [activities_cons, activities_nil, List.append_nil]

/-- What an operation did, if it was accepted and took effect. -/
inductive Deed where
  | reported (place : Slot) (report : Option Report)
  | failed (place : Slot)
  | dismissed (id : IssueId)
  | launched (id : ActionId)
  | cleared

/-- A report and a failure count when they were accepted, a dismissal and a launch when the answer
was that they took place. -/
def Operation.deed? : Operation → Reply → Option Deed
  | .submit _ _ place report, .submitted (.ok _) => some (.reported place report)
  | .reportFailure _ _ place _, .noted (.ok _) => some (.failed place)
  | .dismiss id, .flag true => some (.dismissed id)
  | .launch id, .flag true => some (.launched id)
  | .clear, .done => some .cleared
  | _, _ => none

/-- What the operations of a run did, in order. -/
def log (l : Ledger) : List Operation → List Deed
  | [] => []
  | op :: ops => (op.deed? (op.perform l).answer).toList ++ (op.perform l).ledger.log ops

/-- Some entry of a log is an event, and all entries after it leave it in force. -/
def Since {α : Type} (event kept : α → Prop) (log : List α) : Prop :=
  ∃ before a after, log = before ++ a :: after ∧ event a ∧ ∀ b ∈ after, kept b

theorem not_since_nil {α : Type} (event kept : α → Prop) : ¬ Since event kept [] := by
  intro given
  obtain ⟨before, a, after, split, -⟩ := given
  simp at split

/-- The last entry is the event, or it leaves an earlier one in force. -/
theorem since_concat {α : Type} (event kept : α → Prop) (log : List α) (a : α) :
    Since event kept (log ++ [a]) ↔ event a ∨ Since event kept log ∧ kept a := by
  constructor
  · intro given
    obtain ⟨before, b, after, split, happened, left⟩ := given
    rcases List.eq_nil_or_concat after with rfl | ⟨earlier, c, rfl⟩
    · obtain ⟨-, same⟩ := List.append_inj' split rfl
      cases same
      exact Or.inl happened
    · rw [List.concat_eq_append, ← List.cons_append, ← List.append_assoc] at split
      obtain ⟨front, same⟩ := List.append_inj' split rfl
      cases same
      rw [List.concat_eq_append] at left
      exact Or.inr ⟨⟨before, b, earlier, front, happened, fun d member =>
        left d (List.mem_append_left _ member)⟩, left a (by simp)⟩
  · intro given
    rcases given with happened | ⟨⟨before, b, after, rfl, happened, left⟩, last⟩
    · exact ⟨log, a, [], rfl, happened, by simp⟩
    · refine ⟨before, b, after ++ [a], by simp, happened, ?_⟩
      intro d member
      rcases List.mem_append.mp member with member | member
      · exact left d member
      · rw [List.mem_singleton.mp member]
        exact last

end SafetyCenter.Ledger
