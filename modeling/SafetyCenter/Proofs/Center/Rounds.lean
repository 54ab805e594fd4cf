import SafetyCenter.Center.Operation
import SafetyCenter.Proofs.Center.Progress

set_option autoImplicit false

namespace SafetyCenter

/-- Whether an operation opens a round: a refresh of an active center for a known user, a toggle with
a new value, or the toggle's first value. -/
def Operation.opensRound (groups : Resolver) (s : Center) : Operation → Bool
  | .requestRefresh _ user => (groups user).isSome && s.isActive
  | .followToggle value => s.enabled ≠ value
  | .applyInitial _ => true
  | _ => false

def Operation.round? (groups : Resolver) (s : Center) : Operation → Option Round
  | .requestRefresh reason user =>
    if s.isActive then
      (groups user).map fun g => .refresh reason (Center.refreshTargets s.catalogue g)
    else none
  | .followToggle value =>
    if s.enabled = value then none
    else some (.announce value (s.catalogue.sources.map (·.id)))
  | .applyInitial value => some (.announce value (s.catalogue.sources.map (·.id)))
  | _ => none

theorem Operation.opensRound_eq (groups : Resolver) (s : Center) (op : Operation) :
    op.opensRound groups s = (op.round? groups s).isSome := by
  cases op with
  | requestRefresh reason user =>
    cases active : s.isActive <;> simp [opensRound, round?, active]
  | followToggle value =>
    by_cases same : s.enabled = value <;> simp [opensRound, round?, same]
  | _ => rfl

namespace Center

variable {groups : Resolver} {s : Center}

theorem prompt_submitReport (s : Center) (source : SourceId) (report : Option Report)
    (user : UserId) : (s.submitReport groups source report user).Prompt := by
  refine forGroup_cases (prompt_refuse s _) fun g _ => ?_
  refine ifActive_cases (fun _ => prompt_ignore s _) fun _ => ?_
  dsimp only
  split
  · exact prompt_refuse _ _
  · exact prompt_ignore _ _
  · simp [Outcome.Prompt, deliveryFor, Stage.isRound]

theorem prompt_storedReport (s : Center) (source : SourceId) (user : UserId) :
    (s.storedReport source user).Prompt := by
  refine ifActive_cases (fun _ => prompt_ignore s _) fun _ => ?_
  split
  · exact prompt_refuse _ _
  · exact prompt_ignore _ _

theorem prompt_reportFailure (s : Center) (source : SourceId) (event : Event) (user : UserId) :
    (s.reportFailure groups source event user).Prompt := by
  refine forGroup_cases (prompt_refuse s _) fun g _ => ?_
  refine ifActive_cases (fun _ => prompt_ignore s _) fun _ => ?_
  dsimp only
  split
  · exact prompt_refuse _ _
  · split
    · simp [Outcome.Prompt, deliveryFor, Stage.isRound]
    · exact prompt_ignore _ _

theorem prompt_subscribe (s : Center) (observer : Observer) (user : UserId) :
    (s.subscribe groups observer user).Prompt := by
  refine forGroup_cases (prompt_refuse s _) fun g _ => ?_
  refine ifActive_cases (fun _ => prompt_ignore s _) fun _ => ?_
  split
  · exact prompt_ignore _ _
  · simp [Outcome.Prompt, Stage.isRound]

theorem prompt_changeCatalogue (s : Center) (replacement : Option Catalogue) :
    (s.changeCatalogue replacement).Prompt := by
  unfold changeCatalogue
  split
  · exact prompt_refuse _ _
  · simp [Outcome.Prompt]

end Center

namespace Operation

variable {groups : Resolver}

/-- Any other operation has no round in its tail. -/
theorem prompt_of_opensRound_eq_false (s : Center) {op : Operation}
    (none : op.opensRound groups s = false) : (op.perform groups s).Prompt := by
  cases op with
  | submitReport source report event user => exact s.prompt_submitReport source report user
  | storedReport source user => exact s.prompt_storedReport source user
  | reportFailure source event user => exact s.prompt_reportFailure source event user
  | requestRefresh reason user =>
    refine Center.forGroup_cases (s.prompt_refuse _) fun g found => ?_
    refine Center.ifActive_cases (fun _ => s.prompt_ignore _) fun active => ?_
    simp [opensRound, found, active] at none
  | showView user =>
    refine Center.forGroup_cases (s.prompt_refuse _) fun g _ => ?_
    exact Center.ifActive_cases (fun _ => s.prompt_ignore _) fun _ => s.prompt_ignore _
  | subscribe observer user => exact s.prompt_subscribe observer user
  | dismissIssue issue user => exact s.prompt_dismissIssue issue user
  | executeAction issue action user => exact s.prompt_executeAction issue action user
  | showCatalogue =>
    unfold perform Center.showCatalogue
    dsimp only
    split
    · exact Center.prompt_ignore _ _
    · exact Center.prompt_refuse _ _
  | overrideCatalogue c =>
    unfold perform Center.overrideCatalogue
    dsimp only
    split
    · exact Center.prompt_refuse _ _
    · exact Center.prompt_changeCatalogue _ _
  | resetCatalogue => exact s.prompt_changeCatalogue _
  | followToggle value =>
    have same : s.enabled = value := by simpa [opensRound] using none
    rw [perform, Center.followToggle, if_pos same]
    exact Center.prompt_ignore _ _
  | applyInitial value => cases none
  | start _ | unsubscribe _ _ | forgetReports | isActive => intro stage member; cases member

theorem prompt_of_round?_eq_none {s : Center} {op : Operation}
    (none : op.round? groups s = .none) : (op.perform groups s).Prompt := by
  refine prompt_of_opensRound_eq_false s ?_
  rw [opensRound_eq, none, Option.isSome_none]

/-- The round is all there is in the tail of an operation that opens one. -/
theorem stages_of_round? {s : Center} {op : Operation} {round : Round}
    (opens : op.round? groups s = some round) : (op.perform groups s).stages = [.round round] := by
  cases op with
  | requestRefresh reason user =>
    cases active : s.isActive with
    | false => simp [round?, active] at opens
    | true =>
      simp only [round?, active, if_true, Option.map_eq_some_iff] at opens
      obtain ⟨g, found, rfl⟩ := opens
      simp only [perform, Center.requestRefresh, Center.forGroup, found, Center.ifActive, active,
        if_true]
  | followToggle value =>
    by_cases same : s.enabled = value
    · simp [round?, same] at opens
    · simp only [round?, if_neg same, Option.some.injEq] at opens
      rw [← opens, perform, Center.followToggle, if_neg same]
      rfl
  | applyInitial value =>
    simp only [round?, Option.some.injEq] at opens
    rw [← opens]
    rfl
  | _ => cases opens

theorem stages_of_opensRound (s : Center) {op : Operation} (opens : op.opensRound groups s = true) :
    ∃ round, (op.perform groups s).stages = [.round round] := by
  rw [opensRound_eq] at opens
  obtain ⟨round, opened⟩ := Option.isSome_iff_exists.mp opens
  exact ⟨round, stages_of_round? opened⟩

end Operation

end SafetyCenter
