import SafetyCenter.Center.Operation

set_option autoImplicit false

namespace SafetyCenter

def Operation.isSubmission : Operation → Bool
  | .submitReport .. => true
  | _ => false

namespace Center

/-- The center after operations that are performed one after the other, and their stages. -/
def performAll (groups : Resolver) (s : Center) : List Operation → Center × List Stage
  | [] => (s, [])
  | op :: ops =>
    let outcome := op.perform groups s
    let rest := performAll groups outcome.center ops
    (rest.1, outcome.stages ++ rest.2)

theorem performAll_append (groups : Resolver) (s : Center) (first second : List Operation) :
    s.performAll groups (first ++ second) =
      (((s.performAll groups first).1.performAll groups second).1,
        (s.performAll groups first).2 ++ ((s.performAll groups first).1.performAll groups second).2) := by
  induction first generalizing s with
  | nil => rfl
  | cons op first ih =>
    rw [List.cons_append, performAll, ih, performAll]
    dsimp only
    rw [List.append_assoc]

def SameButMetrics (s t : Center) : Prop :=
  t = { s with metrics := t.metrics }

theorem SameButMetrics.trans {s t u : Center} (first : s.SameButMetrics t)
    (second : t.SameButMetrics u) : s.SameButMetrics u := by
  unfold SameButMetrics at first second ⊢
  rw [second, first]

/-- A submission shows the view to the observers of a group, or to nobody. -/
theorem stages_of_submission {op : Operation} (submission : op.isSubmission = true)
    (groups : Resolver) (s : Center) :
    (op.perform groups s).stages = [] ∨
      ∃ view error observers, (op.perform groups s).stages = [.deliver view error observers] := by
  cases op with
  | submitReport source report event user =>
    unfold Operation.perform submitReport forGroup ifActive
    dsimp only
    split
    · exact .inl rfl
    · split
      · split
        · exact .inl rfl
        · exact .inl rfl
        · exact .inr ⟨_, _, _, rfl⟩
      · exact .inl rfl
  | _ => cases submission

/-- A submission is taken as if nothing had been counted before. -/
theorem submitReport_sameButMetrics {s t : Center} (same : s.SameButMetrics t) (groups : Resolver)
    (source : SourceId) (report : Option Report) (user : UserId) :
    (s.submitReport groups source report user).center.SameButMetrics
        (t.submitReport groups source report user).center ∧
      (t.submitReport groups source report user).stages =
        (s.submitReport groups source report user).stages := by
  obtain ⟨metrics, rfl⟩ : ∃ metrics, t = { s with metrics } := ⟨t.metrics, same⟩
  unfold submitReport forGroup ifActive
  cases groups user with
  | none => exact ⟨rfl, rfl⟩
  | some g =>
    have catalogue : ({ s with metrics } : Center).catalogue = s.catalogue := rfl
    by_cases active : s.isActive = true
    · have active' : ({ s with metrics } : Center).isActive = true := active
      simp only [active, active', if_true, catalogue]
      cases (s.ledger.submit s.catalogue g ⟨source, user⟩ report).answer with
      | error e => exact ⟨rfl, rfl⟩
      | ok changed =>
        cases changed with
        | false => exact ⟨rfl, rfl⟩
        | true => exact ⟨rfl, rfl⟩
    · have inactive : ¬ ({ s with metrics } : Center).isActive = true := active
      simp only [active, inactive]
      exact ⟨rfl, rfl⟩

/-- So are submissions one after the other. -/
theorem performAll_sameButMetrics (groups : Resolver) {ops : List Operation}
    (submissions : ∀ op ∈ ops, op.isSubmission = true) {s t : Center} (same : s.SameButMetrics t) :
    (s.performAll groups ops).1.SameButMetrics (t.performAll groups ops).1 ∧
      (t.performAll groups ops).2 = (s.performAll groups ops).2 := by
  induction ops generalizing s t with
  | nil => exact ⟨same, rfl⟩
  | cons op ops ih =>
    have first : (op.perform groups s).center.SameButMetrics (op.perform groups t).center ∧
        (op.perform groups t).stages = (op.perform groups s).stages := by
      cases op with
      | submitReport source report event user =>
        exact submitReport_sameButMetrics same groups source report user
      | _ => cases submissions _ List.mem_cons_self
    obtain ⟨center, stages⟩ := ih (fun op' member => submissions op' (List.mem_cons_of_mem op member))
      first.1
    refine ⟨center, ?_⟩
    rw [performAll, performAll]
    dsimp only
    rw [first.2, stages]

end Center

end SafetyCenter
