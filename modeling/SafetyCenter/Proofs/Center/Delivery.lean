import SafetyCenter.Proofs.Center.Locality
import SafetyCenter.Proofs.Ledger.Idempotence

set_option autoImplicit false

namespace SafetyCenter

def Stage.isDelivery : Stage → Bool
  | .deliver .. => true
  | .dispatch .. => false
  | .round _ => false

structure Center.SameSetting (s t : Center) : Prop where
  enabled : s.enabled = t.enabled
  declarations : s.declarations = t.declarations
  subscriptions : s.subscriptions = t.subscriptions

/-- What the outcome of an operation from a center tells the observers of a group. -/
inductive Outcome.Tells (s : Center) (g : ProfileGroup) (o : Outcome) : Prop where
  | nothing (setting : o.center.SameSetting s) (view : o.center.viewOf g = s.viewOf g)
      (silent : ∀ stage ∈ o.stages, stage.isDelivery = false)
  | everyone (setting : o.center.SameSetting s) (error : Option String) (tail : List Stage)
      (stages : o.stages = o.center.deliveryFor g error :: tail)
      (silent : ∀ stage ∈ tail, stage.isDelivery = false)

/-- What the outcome of an operation on what is tracked tells the observers of a group: it changed
what is tracked or has a warning, and all of them are shown the view as it is then, or neither is the
case, and nobody is shown anything. -/
inductive Outcome.Notifies (s : Center) (group : Option ProfileGroup) (warning : Option String)
    (o : Outcome) : Prop where
  | nobody (setting : o.center.SameSetting s) (same : o.center.ledger = s.ledger)
      (unwarned : warning = none ∨ o.answer ≠ .ok .done ∨ s.isActive = false)
      (silent : ∀ stage ∈ o.stages, stage.isDelivery = false)
  | observers (g : ProfileGroup) (found : group = some g) (active : s.isActive = true)
      (setting : o.center.SameSetting s)
      (due : ¬ s.ledger.Alike o.center.ledger ∨ (warning.isSome = true ∧ o.answer = .ok .done))
      (tail : List Stage) (stages : o.stages = o.center.deliveryFor g warning :: tail)
      (silent : ∀ stage ∈ tail, stage.isDelivery = false)

namespace Center

variable {groups : Resolver} {s : Center} {g : ProfileGroup} {group : Option ProfileGroup}
  {warning : Option String}

theorem SameSetting.refl (s : Center) : s.SameSetting s := ⟨rfl, rfl, rfl⟩

theorem SameSetting.isActive {s t : Center} (setting : s.SameSetting t) :
    s.isActive = t.isActive := by
  rw [Center.isActive, Center.isActive, setting.enabled, setting.declarations]

theorem sameSetting_withLedger {α : Type} (s : Center) (change : Ledger.Change α) :
    (s.withLedger change).SameSetting s := ⟨rfl, rfl, rfl⟩

theorem tells_refuse (s : Center) (g : ProfileGroup) (e : Error) : (s.refuse e).Tells s g :=
  .nothing (SameSetting.refl s) rfl (by simp [refuse])

theorem tells_ignore (s : Center) (g : ProfileGroup) (reply : Reply) :
    (s.ignore reply).Tells s g :=
  .nothing (SameSetting.refl s) rfl (by simp [ignore])

theorem notifies_refuse (s : Center) (e : Error) : (s.refuse e).Notifies s group warning :=
  .nobody (SameSetting.refl s) rfl (Or.inr (Or.inl (by simp [refuse]))) (by simp [refuse])

theorem notifies_ignore (s : Center) (reply : Reply) : (s.ignore reply).Notifies s group none :=
  .nobody (SameSetting.refl s) rfl (Or.inl rfl) (by simp [ignore])

theorem notifies_inactive (inactive : s.isActive = false) (reply : Reply) :
    (s.ignore reply).Notifies s group warning :=
  .nobody (SameSetting.refl s) rfl (Or.inr (Or.inr inactive)) (by simp [ignore])

/-- An operation that changes nothing and has no warning tells nobody. -/
theorem notifies_of_unchanged {α : Type} {change : Ledger.Change α} {o : Outcome}
    (same : change.ledger = s.ledger) (center : o.center = s.withLedger change)
    (silent : ∀ stage ∈ o.stages, stage.isDelivery = false) : o.Notifies s group none := by
  refine .nobody ?_ ?_ (Or.inl rfl) silent
  · rw [center]
    exact sameSetting_withLedger s change
  · rw [center]
    exact same

theorem notifies_submitReport (s : Center) (source : SourceId) (report : Option Report)
    (user : UserId) :
    (s.submitReport groups source report user).Notifies s (groups user) none := by
  refine forGroup_cases (notifies_refuse s _) ?_
  intro g found
  refine ifActive_cases (notifies_inactive · _) ?_
  intro active
  dsimp only
  split
  · rename_i e refused
    exact notifies_of_unchanged (Ledger.submit_of_unchanged (by simp [refused])) rfl
      (by simp [refuse])
  · rename_i same
    exact notifies_of_unchanged (Ledger.submit_of_unchanged (by simp [same])) rfl
      (by simp [ignore])
  · rename_i changed
    refine .observers g found active (sameSetting_withLedger s _) (Or.inl ?_) [] rfl (by simp)
    exact fun alike => Ledger.alike_submit_iff.mp alike changed

theorem notifies_reportFailure (s : Center) (source : SourceId) (event : Event) (user : UserId) :
    (s.reportFailure groups source event user).Notifies s (groups user)
      event.kind.failureMessage? := by
  refine forGroup_cases (notifies_refuse s _) ?_
  intro g found
  refine ifActive_cases (notifies_inactive · _) ?_
  intro active
  dsimp only
  split
  · rename_i e refused
    refine .nobody (sameSetting_withLedger s _)
      (Ledger.reportFailure_of_unchanged (by simp [refused])) ?_ (by simp [refuse])
    exact Or.inr (Or.inl (by simp [refuse]))
  · rename_i note taken
    have message : note.message = event.kind.failureMessage? := Ledger.message_of_note taken
    have changes := Ledger.alike_reportFailure_iff taken
    rw [← message]
    split
    · rename_i loud
      refine .observers g found active (sameSetting_withLedger s _) ?_ [] rfl (by simp)
      rcases Bool.or_eq_true_iff.mp loud with changed | warned
      · refine Or.inl fun alike => ?_
        have unchanged := changes.mp alike
        rw [changed] at unchanged
        cases unchanged
      · exact Or.inr ⟨warned, rfl⟩
    · rename_i quiet
      obtain ⟨unchanged, unwarned⟩ : note.changed = false ∧ note.message = none := by
        simpa using quiet
      rw [unwarned]
      refine notifies_of_unchanged (Ledger.reportFailure_of_unchanged ?_) rfl (by simp [ignore])
      intro other same
      rw [taken] at same
      cases same
      exact unchanged

theorem notifies_dismissIssue (s : Center) (text : String) (user : UserId) :
    (s.dismissIssue groups text user).Notifies s (groups user) none := by
  unfold dismissIssue
  split
  · exact notifies_refuse s _
  · rename_i id decoded
    refine forOwner_cases (notifies_refuse s _) (notifies_refuse s _) ?_
    intro g found owned
    refine ifActive_cases (notifies_inactive · _) ?_
    intro active
    dsimp only
    split
    · rename_i taken
      refine .observers g found active (sameSetting_withLedger s _) (Or.inl ?_) _ rfl ?_
      · intro alike
        have refused := Ledger.alike_dismiss_iff.mp alike
        rw [taken] at refused
        cases refused
      · unfold dismissalDispatch
        split
        · simp
        · simp [Stage.isDelivery]
    · rename_i refused
      have unchanged := Ledger.dismiss_of_unchanged (Bool.eq_false_iff.mpr refused)
      exact notifies_of_unchanged unchanged rfl (by simp [ignore])

theorem notifies_executeAction (s : Center) (issueText actionText : String) (user : UserId) :
    (s.executeAction groups issueText actionText user).Notifies s (groups user) none := by
  unfold executeAction
  split
  · exact notifies_refuse s _
  · split
    · exact notifies_refuse s _
    · rename_i id decoded
      split
      · exact notifies_refuse s _
      · refine forOwner_cases (notifies_refuse s _) (notifies_refuse s _) ?_
        intro g found owned
        refine ifActive_cases (notifies_inactive · _) ?_
        intro active
        split
        · exact notifies_ignore s _
        · dsimp only
          cases launched : (s.ledger.launch id).answer with
          | false =>
            have unchanged := Ledger.launch_of_unchanged launched
            exact notifies_of_unchanged unchanged rfl (by simp [Stage.isDelivery])
          | true =>
            refine .observers g found active (sameSetting_withLedger s _) (Or.inl ?_) _ rfl ?_
            · intro alike
              have refused := Ledger.alike_launch_iff.mp alike
              rw [launched] at refused
              cases refused
            · simp [Stage.isDelivery]

/-- Observers are told of what changed, whether or not it was a warning. -/
theorem tells_of_notifies {o : Outcome} (found : group = some g)
    (notifies : o.Notifies s group warning) : o.Tells s g := by
  cases notifies with
  | nobody setting same unwarned silent =>
    refine .nothing setting ?_ silent
    rw [viewOf, viewOf, same, catalogue, catalogue, setting.declarations]
  | observers h acts active setting due tail stages silent =>
    cases acts.symm.trans found
    exact .everyone setting warning tail stages silent

theorem tells_storedReport (s : Center) (g : ProfileGroup) (source : SourceId) (user : UserId) :
    (s.storedReport source user).Tells s g := by
  refine ifActive_cases (fun _ => tells_ignore s g _) fun _ => ?_
  split
  · exact tells_refuse s g _
  · exact tells_ignore s g _

theorem tells_requestRefresh (s : Center) (g : ProfileGroup) (reason : RefreshReason)
    (user : UserId) : (s.requestRefresh groups reason user).Tells s g := by
  refine forGroup_cases (tells_refuse s g _) fun _ _ => ?_
  refine ifActive_cases (fun _ => tells_ignore s g _) fun _ => ?_
  exact .nothing (SameSetting.refl s) rfl (by simp [Stage.isDelivery])

theorem tells_showView (s : Center) (g : ProfileGroup) (user : UserId) :
    (s.showView groups user).Tells s g := by
  refine forGroup_cases (tells_refuse s g _) fun _ _ => ?_
  exact ifActive_cases (fun _ => tells_ignore s g _) fun _ => tells_ignore s g _

/-- A new registration is shown the view, an old one is left as it is. -/
theorem subscribe_cases (s : Center) {user : UserId} (found : groups user = some g)
    (observer : Observer) :
    ((s.subscribe groups observer user).center = s ∧
      (s.subscribe groups observer user).stages = []) ∨
    (s.isActive = true ∧
      (s.subscribe groups observer user).center =
        { s with subscriptions := s.subscriptions.add observer user } ∧
      (s.subscribe groups observer user).stages = [.deliver (s.viewOf g) none [observer]]) := by
  simp only [subscribe, forGroup, found, ifActive]
  split
  · rename_i active
    split
    · exact Or.inl ⟨rfl, rfl⟩
    · exact Or.inr ⟨active, rfl, rfl⟩
  · exact Or.inl ⟨rfl, rfl⟩

theorem changeCatalogue_stages (s : Center) (replacement : Option Catalogue) :
    (s.changeCatalogue replacement).stages = [] := by
  unfold changeCatalogue
  split
  · rfl
  · rfl

end Center

namespace Operation

variable {groups : Resolver}

/-- An operation for a group tells the group's observers of what it changed, unless it is about a
registration. -/
theorem perform_tells (s : Center) {op : Operation} {user : UserId} {g : ProfileGroup}
    (acts : op.actor? = some user) (found : groups user = some g) :
    (op.perform groups s).Tells s g ∨ (∃ observer, op = .subscribe observer user) ∨
      ∃ observer, op = .unsubscribe observer user := by
  cases op with
  | submitReport source report event u =>
    cases acts
    exact Or.inl (Center.tells_of_notifies found (s.notifies_submitReport source report user))
  | storedReport source u => exact Or.inl (Center.tells_storedReport s g source u)
  | reportFailure source event u =>
    cases acts
    exact Or.inl (Center.tells_of_notifies found (s.notifies_reportFailure source event user))
  | requestRefresh reason u =>
    cases acts
    exact Or.inl (s.tells_requestRefresh g reason user)
  | showView u =>
    cases acts
    exact Or.inl (s.tells_showView g user)
  | subscribe observer u =>
    cases acts
    exact Or.inr (Or.inl ⟨observer, rfl⟩)
  | unsubscribe observer u =>
    cases acts
    exact Or.inr (Or.inr ⟨observer, rfl⟩)
  | dismissIssue issue u =>
    cases acts
    exact Or.inl (Center.tells_of_notifies found (s.notifies_dismissIssue issue user))
  | executeAction issue action u =>
    cases acts
    exact Or.inl (Center.tells_of_notifies found
      (s.notifies_executeAction issue action user))
  | start _ | showCatalogue | overrideCatalogue _ | resetCatalogue | forgetReports | isActive
  | followToggle _ | applyInitial _ => cases acts

/-- An operation of an unknown user comes to nothing. Only a registration can be ended. -/
theorem perform_unknown (s : Center) {op : Operation} {user : UserId}
    (acts : op.actor? = some user) (unknown : groups user = none) :
    ((op.perform groups s).center = s ∧ (op.perform groups s).stages = []) ∨
      ∃ observer, op = .unsubscribe observer user := by
  have refused : ∀ act : ProfileGroup → Outcome,
      s.forGroup groups user act = s.refuse (.unknownUser user) := by
    intro act
    rw [Center.forGroup, unknown]
  have refusal : ∀ e, (s.refuse e).center = s ∧ (s.refuse e).stages = [] := fun e => ⟨rfl, rfl⟩
  cases op with
  | unsubscribe observer u =>
    cases acts
    exact Or.inr ⟨observer, rfl⟩
  | storedReport source u =>
    refine Or.inl ⟨s.storedReport_center source u, ?_⟩
    simp only [perform, Center.storedReport, Center.ifActive]
    split
    · split
      · rfl
      · rfl
    · rfl
  | submitReport source report event u | reportFailure source event u | requestRefresh reason u
  | showView u | subscribe observer u =>
    cases acts
    refine Or.inl ?_
    show (s.forGroup groups user _).center = s ∧ (s.forGroup groups user _).stages = []
    rw [refused]
    exact refusal _
  | dismissIssue issue u =>
    cases acts
    refine Or.inl ?_
    simp only [perform, Center.dismissIssue, Center.forOwner, refused]
    split
    · exact refusal _
    · exact refusal _
  | executeAction issue action u =>
    cases acts
    refine Or.inl ?_
    simp only [perform, Center.executeAction, Center.forOwner, refused]
    split
    · exact refusal _
    · split
      · exact refusal _
      · split
        · exact refusal _
        · exact refusal _
  | start _ | showCatalogue | overrideCatalogue _ | resetCatalogue | forgetReports | isActive
  | followToggle _ | applyInitial _ => cases acts

/-- An operation that concerns the center as a whole delivers nothing. -/
theorem silent_of_common (s : Center) {op : Operation} (common : op.actor? = none) :
    ∀ stage ∈ (op.perform groups s).stages, stage.isDelivery = false := by
  cases op with
  | start loaded => simp [perform, Center.start]
  | showCatalogue =>
    simp only [perform, Center.showCatalogue]
    split
    · simp [Center.ignore]
    · simp [Center.refuse]
  | overrideCatalogue c =>
    simp only [perform, Center.overrideCatalogue]
    split
    · simp [Center.refuse]
    · simp [Center.changeCatalogue_stages]
  | resetCatalogue => simp [perform, Center.resetCatalogue, Center.changeCatalogue_stages]
  | forgetReports => simp [perform, Center.forgetReports]
  | isActive => simp [perform, Center.ignore]
  | followToggle value =>
    simp only [perform, Center.followToggle]
    split
    · simp [Center.ignore]
    · simp [Center.announcement, Stage.isDelivery]
  | applyInitial value => simp [perform, Center.applyInitial, Center.announcement, Stage.isDelivery]
  | _ => cases common

/-- An operation for no group at all delivers nothing. -/
theorem silent_of_no_group (s : Center) {op : Operation} (alone : op.actor?.bind groups = none) :
    ∀ stage ∈ (op.perform groups s).stages, stage.isDelivery = false := by
  cases acts : op.actor? with
  | none => exact silent_of_common s acts
  | some user =>
    rw [acts, Option.bind_some] at alone
    rcases perform_unknown s acts alone with ⟨-, stages⟩ | ⟨observer, rfl⟩
    · simp [stages]
    · simp [perform, Center.unsubscribe]

/-- The registrations that an operation's deliveries go through. -/
def addressed (groups : Resolver) (s : Center) (op : Operation) : List Registration :=
  match op with
  | .subscribe observer user => [⟨observer, user⟩]
  | _ =>
    match op.actor?.bind groups with
    | none => []
    | some g => s.subscriptions.registrations g

theorem addressed_of_group (s : Center) {op : Operation} {g : ProfileGroup}
    (acts : op.actor?.bind groups = some g) (ordinary : ∀ o u, op ≠ .subscribe o u) :
    op.addressed groups s = s.subscriptions.registrations g := by
  unfold addressed
  split
  · rename_i o u
    exact absurd rfl (ordinary o u)
  · rw [acts]

/-- A view is shown to the observers of the addressed registrations, in their order. -/
theorem observers_of_delivery (s : Center) {op : Operation} {view : View} {error : Option String}
    {observers : List Observer}
    (told : .deliver view error observers ∈ (op.perform groups s).stages) :
    observers = (op.addressed groups s).map (·.observer) := by
  cases acting : op.actor?.bind groups with
  | none =>
    have silent := silent_of_no_group s acting _ told
    cases silent
  | some g =>
    obtain ⟨user, acts, found⟩ := Option.bind_eq_some_iff.mp acting
    by_cases entering : ∃ o u, op = .subscribe o u
    · obtain ⟨o, u, rfl⟩ := entering
      cases acts
      have shown : Stage.deliver view error observers ∈ (s.subscribe groups o user).stages := told
      rcases Center.subscribe_cases s found o with ⟨-, stages⟩ | ⟨-, -, stages⟩
      · rw [stages] at shown
        simp at shown
      · rw [stages] at shown
        simp only [List.mem_singleton, Stage.deliver.injEq] at shown
        rw [shown.2.2]
        rfl
    · have ordinary : ∀ o u, op ≠ .subscribe o u := fun o u same => entering ⟨o, u, same⟩
      rw [addressed_of_group s acting ordinary, Subscriptions.map_observer_registrations]
      rcases perform_tells s acts found with tells | ⟨o, same⟩ | ⟨o, rfl⟩
      · cases tells with
        | nothing setting view silent =>
          have quiet := silent _ told
          cases quiet
        | everyone setting error' tail stages silent =>
          rw [stages, List.mem_cons] at told
          rcases told with same | later
          · simp only [Center.deliveryFor, Stage.deliver.injEq] at same
            rw [same.2.2, setting.subscriptions]
          · have quiet := silent _ later
            cases quiet
      · exact absurd same (ordinary o user)
      · simp [perform, Center.unsubscribe] at told

end Operation

end SafetyCenter
