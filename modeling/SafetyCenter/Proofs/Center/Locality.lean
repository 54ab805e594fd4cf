import SafetyCenter.Center.Operation
import SafetyCenter.Proofs.Ledger.Locality

set_option autoImplicit false

namespace SafetyCenter

/-- The groups share no member: whoever is found in a group is found to act for it. -/
structure Resolver.Partitions (groups : Resolver) : Prop where
  own : ∀ u g, groups u = some g → u ∈ g
  shared : ∀ u g, groups u = some g → ∀ v ∈ g, groups v = some g

/-- Members of a group act for it, and nobody else acts for a group with one of its members. -/
structure Resolver.SetsApart (groups : Resolver) (A : ProfileGroup) : Prop where
  inside : ∀ v ∈ A, groups v = some A
  outside : ∀ u g, groups u = some g → u ∉ A → ∀ v ∈ g, v ∉ A

theorem Resolver.Partitions.setsApart {groups : Resolver} (partitions : groups.Partitions)
    {u : UserId} {A : ProfileGroup} (acts : groups u = some A) : groups.SetsApart A where
  inside := partitions.shared u A acts
  outside := by
    intro w g found outside v member common
    have other : groups v = some g := partitions.shared w g found v member
    have same : groups v = some A := partitions.shared u A acts v common
    rw [same] at other
    cases other
    exact outside (partitions.own w A found)

theorem Resolver.partitions_single : Resolver.Partitions fun u => some (.single u) where
  own := by
    intro u g found
    cases found
    exact ProfileGroup.mem_single.mpr rfl
  shared := by
    intro u g found v member
    cases found
    rw [ProfileGroup.mem_single.mp member]

/-- The user whose call an operation is. The other operations concern the center as a whole. -/
def Operation.actor? : Operation → Option UserId
  | .submitReport _ _ _ user => some user
  | .storedReport _ user => some user
  | .reportFailure _ _ user => some user
  | .requestRefresh _ user => some user
  | .showView user => some user
  | .subscribe _ user => some user
  | .unsubscribe _ user => some user
  | .dismissIssue _ user => some user
  | .executeAction _ _ user => some user
  | _ => none

/-- Two centers are the same as far as the members of a group can tell: all but the places and the
registrations of others, and the counters. -/
structure Center.AgreeFor (A : ProfileGroup) (s t : Center) : Prop where
  enabled : s.enabled = t.enabled
  declarations : s.declarations = t.declarations
  ledger : ∀ place : Slot, place.user ∈ A → place.SameIn s.ledger t.ledger
  subscriptions : ∀ u ∈ A, s.subscriptions.of u = t.subscriptions.of u

namespace Center.AgreeFor

variable {A : ProfileGroup} {s t r : Center}

theorem refl (A : ProfileGroup) (s : Center) : s.AgreeFor A s :=
  ⟨rfl, rfl, fun place _ => Slot.SameIn.refl place s.ledger, fun _ _ => rfl⟩

theorem symm (agree : s.AgreeFor A t) : t.AgreeFor A s where
  enabled := agree.enabled.symm
  declarations := agree.declarations.symm
  ledger := fun place member => (agree.ledger place member).symm
  subscriptions := fun u member => (agree.subscriptions u member).symm

theorem trans (first : s.AgreeFor A t) (second : t.AgreeFor A r) : s.AgreeFor A r where
  enabled := first.enabled.trans second.enabled
  declarations := first.declarations.trans second.declarations
  ledger := fun place member => (first.ledger place member).trans (second.ledger place member)
  subscriptions := fun u member =>
    (first.subscriptions u member).trans (second.subscriptions u member)

theorem isActive (agree : s.AgreeFor A t) : s.isActive = t.isActive := by
  rw [Center.isActive, Center.isActive, agree.enabled, agree.declarations]

theorem catalogue (agree : s.AgreeFor A t) : s.catalogue = t.catalogue := by
  rw [Center.catalogue, Center.catalogue, agree.declarations]

theorem viewOf (agree : s.AgreeFor A t) : s.viewOf A = t.viewOf A := by
  rw [Center.viewOf, Center.viewOf, agree.catalogue]
  exact Ledger.view_congr agree.ledger t.catalogue

theorem ofGroup (agree : s.AgreeFor A t) :
    s.subscriptions.ofGroup A = t.subscriptions.ofGroup A := by
  unfold Subscriptions.ofGroup
  refine List.flatMap_congr fun u member => ?_
  rw [agree.subscriptions u member]

theorem deliveryFor (agree : s.AgreeFor A t) (error : Option String) :
    s.deliveryFor A error = t.deliveryFor A error := by
  rw [Center.deliveryFor, Center.deliveryFor, agree.viewOf, agree.ofGroup]

/-- A local operation on a member's place. -/
theorem withLedger {α : Type} {place : Slot} {act : Ledger → Ledger.Change α}
    (agree : s.AgreeFor A t) (isLocal : Ledger.Local place act) (member : place.user ∈ A) :
    (s.withLedger (act s.ledger)).AgreeFor A (t.withLedger (act t.ledger)) where
  enabled := agree.enabled
  declarations := agree.declarations
  ledger := fun k inside => isLocal.sameIn (agree.ledger place member) (agree.ledger k inside)
  subscriptions := agree.subscriptions

/-- A local operation on the place of somebody else. -/
theorem withLedger_frame {α : Type} {place : Slot} {act : Ledger → Ledger.Change α} (s : Center)
    (isLocal : Ledger.Local place act) (outside : place.user ∉ A) :
    (s.withLedger (act s.ledger)).AgreeFor A s where
  enabled := rfl
  declarations := rfl
  ledger := by
    intro k inside
    have elsewhere : k ≠ place := by
      intro same
      rw [same] at inside
      exact outside inside
    exact isLocal.frame s.ledger k elsewhere
  subscriptions := fun _ _ => rfl

theorem withLedger_clear (agree : s.AgreeFor A t) :
    (s.withLedger s.ledger.clear).AgreeFor A (t.withLedger t.ledger.clear) where
  enabled := agree.enabled
  declarations := agree.declarations
  ledger := fun place _ => Slot.SameIn.refl place ∅
  subscriptions := agree.subscriptions

end Center.AgreeFor

structure Outcome.AgreeFor (A : ProfileGroup) (o o' : Outcome) : Prop where
  center : o.center.AgreeFor A o'.center
  answer : o.answer = o'.answer
  stages : o.stages = o'.stages

namespace Center

variable {groups : Resolver} {A : ProfileGroup} {s t : Center}

theorem refuse_agree (agree : s.AgreeFor A t) (e : Error) :
    (s.refuse e).AgreeFor A (t.refuse e) :=
  ⟨agree, rfl, rfl⟩

theorem ignore_agree (agree : s.AgreeFor A t) (reply : Reply) :
    (s.ignore reply).AgreeFor A (t.ignore reply) :=
  ⟨agree, rfl, rfl⟩

theorem ifActive_agree {o o' : Outcome} (agree : s.AgreeFor A t) (reply : Reply)
    (rest : o.AgreeFor A o') : (s.ifActive reply o).AgreeFor A (t.ifActive reply o') := by
  unfold ifActive
  rw [agree.isActive]
  split
  · exact rest
  · exact ignore_agree agree reply

theorem forGroup_agree {act act' : ProfileGroup → Outcome} {user : UserId}
    (apart : groups.SetsApart A) (member : user ∈ A) (rest : (act A).AgreeFor A (act' A)) :
    (s.forGroup groups user act).AgreeFor A (t.forGroup groups user act') := by
  have acts := apart.inside user member
  rw [forGroup, forGroup, acts]
  exact rest

theorem forOwner_agree {act act' : ProfileGroup → Outcome} {caller target : UserId}
    (apart : groups.SetsApart A) (agree : s.AgreeFor A t) (member : caller ∈ A)
    (op : IssueOperation) (rest : target ∈ A → (act A).AgreeFor A (act' A)) :
    (s.forOwner groups caller target op act).AgreeFor A
      (t.forOwner groups caller target op act') := by
  unfold forOwner
  apply forGroup_agree apart member
  split
  · rename_i owned
    exact rest owned
  · exact refuse_agree agree _

theorem submitReport_agree (apart : groups.SetsApart A) (agree : s.AgreeFor A t)
    (source : SourceId) (report : Option Report) {user : UserId} (member : user ∈ A) :
    (s.submitReport groups source report user).AgreeFor A
      (t.submitReport groups source report user) := by
  unfold submitReport
  apply forGroup_agree apart member
  apply ifActive_agree agree
  have isLocal := Ledger.local_submit t.catalogue A ⟨source, user⟩ report
  have after := agree.withLedger isLocal member
  have answers := isLocal.answer s.ledger t.ledger (agree.ledger ⟨source, user⟩ member)
  rw [agree.catalogue]
  dsimp only at after answers ⊢
  rw [answers]
  split
  · exact refuse_agree after _
  · exact ignore_agree after _
  · exact ⟨after, rfl, by rw [after.deliveryFor]⟩

theorem storedReport_agree (agree : s.AgreeFor A t) (source : SourceId) {user : UserId}
    (member : user ∈ A) : (s.storedReport source user).AgreeFor A (t.storedReport source user) := by
  unfold storedReport
  apply ifActive_agree agree
  rw [agree.catalogue, Ledger.storedReport_congr (agree.ledger ⟨source, user⟩ member)]
  split
  · exact refuse_agree agree _
  · exact ignore_agree agree _

theorem reportFailure_agree (apart : groups.SetsApart A) (agree : s.AgreeFor A t)
    (source : SourceId) (event : Event) {user : UserId} (member : user ∈ A) :
    (s.reportFailure groups source event user).AgreeFor A
      (t.reportFailure groups source event user) := by
  unfold reportFailure
  apply forGroup_agree apart member
  apply ifActive_agree agree
  have isLocal := Ledger.local_reportFailure t.catalogue A ⟨source, user⟩ event
  have after := agree.withLedger isLocal member
  have answers := isLocal.answer s.ledger t.ledger (agree.ledger ⟨source, user⟩ member)
  rw [agree.catalogue]
  dsimp only at after answers ⊢
  rw [answers]
  split
  · exact refuse_agree after _
  · split
    · exact ⟨after, rfl, by rw [after.deliveryFor]⟩
    · exact ignore_agree after _

theorem requestRefresh_agree (apart : groups.SetsApart A) (agree : s.AgreeFor A t)
    (reason : RefreshReason) {user : UserId} (member : user ∈ A) :
    (s.requestRefresh groups reason user).AgreeFor A (t.requestRefresh groups reason user) := by
  unfold requestRefresh
  apply forGroup_agree apart member
  apply ifActive_agree agree
  exact ⟨agree, rfl, by rw [agree.catalogue]⟩

theorem showView_agree (apart : groups.SetsApart A) (agree : s.AgreeFor A t) {user : UserId}
    (member : user ∈ A) : (s.showView groups user).AgreeFor A (t.showView groups user) := by
  unfold showView
  apply forGroup_agree apart member
  apply ifActive_agree agree
  rw [agree.viewOf]
  exact ignore_agree agree _

theorem AgreeFor.assign (agree : s.AgreeFor A t) (user : UserId) (os : Distinct Observer) :
    AgreeFor A { s with subscriptions := s.subscriptions.assign user os }
      { t with subscriptions := t.subscriptions.assign user os } where
  enabled := agree.enabled
  declarations := agree.declarations
  ledger := agree.ledger
  subscriptions := by
    intro u member
    rw [Subscriptions.of_assign, Subscriptions.of_assign, agree.subscriptions u member]

theorem subscribe_agree (apart : groups.SetsApart A) (agree : s.AgreeFor A t)
    (observer : Observer) {user : UserId} (member : user ∈ A) :
    (s.subscribe groups observer user).AgreeFor A (t.subscribe groups observer user) := by
  unfold subscribe
  apply forGroup_agree apart member
  apply ifActive_agree agree
  have own := agree.subscriptions user member
  rw [Subscriptions.has, Subscriptions.has, own]
  split
  · exact ignore_agree agree _
  · have after := agree.assign user ((t.subscriptions.of user).insert observer)
    rw [Subscriptions.add, Subscriptions.add, own]
    refine ⟨after, rfl, ?_⟩
    dsimp only
    rw [after.viewOf]

theorem unsubscribe_agree (agree : s.AgreeFor A t) (observer : Observer) {user : UserId}
    (member : user ∈ A) :
    (s.unsubscribe observer user).AgreeFor A (t.unsubscribe observer user) := by
  have own := agree.subscriptions user member
  have after := agree.assign user ((t.subscriptions.of user).erase observer)
  unfold unsubscribe
  rw [Subscriptions.remove, Subscriptions.remove, Subscriptions.has, Subscriptions.has, own]
  exact ⟨after, rfl, rfl⟩

theorem dismissIssue_agree (apart : groups.SetsApart A) (agree : s.AgreeFor A t) (text : String)
    {user : UserId} (member : user ∈ A) :
    (s.dismissIssue groups text user).AgreeFor A (t.dismissIssue groups text user) := by
  unfold dismissIssue
  split
  · exact refuse_agree agree _
  · rename_i id decoded
    apply forOwner_agree apart agree member
    intro owned
    apply ifActive_agree agree
    have isLocal := Ledger.local_dismiss id
    have after := agree.withLedger isLocal owned
    have answers := isLocal.answer s.ledger t.ledger (agree.ledger id.slot owned)
    have issues := Ledger.issue?_congr (agree.ledger id.slot owned)
    dsimp only at after answers ⊢
    rw [answers, issues]
    split
    · exact ⟨after, rfl, by rw [after.deliveryFor]⟩
    · exact ignore_agree after _

theorem executeAction_agree (apart : groups.SetsApart A) (agree : s.AgreeFor A t)
    (issueText actionText : String) {user : UserId} (member : user ∈ A) :
    (s.executeAction groups issueText actionText user).AgreeFor A
      (t.executeAction groups issueText actionText user) := by
  unfold executeAction
  split
  · exact refuse_agree agree _
  · rename_i issue decoded
    split
    · exact refuse_agree agree _
    · rename_i id decodedAction
      split
      · exact refuse_agree agree _
      · rename_i matching
        have same : id.issue = issue := not_not.mp matching
        apply forOwner_agree apart agree member
        intro owned
        rw [← same] at owned
        apply ifActive_agree agree
        have isLocal := Ledger.local_launch id
        have after := agree.withLedger isLocal owned
        have answers := isLocal.answer s.ledger t.ledger (agree.ledger id.slot owned)
        have actions := Ledger.action?_congr (agree.ledger id.slot owned)
        dsimp only at after answers ⊢
        rw [answers, actions]
        split
        · exact ignore_agree agree _
        · exact ⟨after, rfl, by rw [after.deliveryFor]⟩

theorem showCatalogue_agree (agree : s.AgreeFor A t) :
    s.showCatalogue.AgreeFor A t.showCatalogue := by
  unfold showCatalogue
  rw [agree.declarations, agree.catalogue]
  split
  · exact ignore_agree agree _
  · exact refuse_agree agree _

theorem changeCatalogue_agree (agree : s.AgreeFor A t) (replacement : Option Catalogue) :
    (s.changeCatalogue replacement).AgreeFor A (t.changeCatalogue replacement) := by
  unfold changeCatalogue
  rw [agree.declarations]
  split
  · exact refuse_agree agree _
  · have after := agree.withLedger_clear
    exact ⟨⟨after.enabled, rfl, after.ledger, after.subscriptions⟩, rfl, rfl⟩

theorem overrideCatalogue_agree (agree : s.AgreeFor A t) (c : Catalogue) :
    (s.overrideCatalogue c).AgreeFor A (t.overrideCatalogue c) := by
  unfold overrideCatalogue
  split
  · exact refuse_agree agree _
  · exact changeCatalogue_agree agree _

theorem AgreeFor.setEnabled (agree : s.AgreeFor A t) (value : Bool) :
    (s.setEnabled value).AgreeFor A (t.setEnabled value) := by
  unfold Center.setEnabled
  split
  · exact ⟨rfl, agree.declarations, agree.ledger, agree.subscriptions⟩
  · have after := agree.withLedger_clear
    exact ⟨rfl, after.declarations, after.ledger, fun _ _ => rfl⟩

theorem AgreeFor.announcement (agree : s.AgreeFor A t) (value : Bool) :
    s.announcement value = t.announcement value := by
  rw [Center.announcement, Center.announcement, agree.catalogue]

theorem followToggle_agree (agree : s.AgreeFor A t) (value : Bool) :
    (s.followToggle value).AgreeFor A (t.followToggle value) := by
  unfold followToggle
  rw [agree.enabled]
  split
  · exact ignore_agree agree _
  · exact ⟨agree.setEnabled value, rfl, by rw [agree.announcement]⟩

theorem ifActive_frame {o : Outcome} (reply : Reply) (rest : o.center.AgreeFor A s) :
    (s.ifActive reply o).center.AgreeFor A s :=
  ifActive_cases (P := fun o => o.center.AgreeFor A s) (fun _ => AgreeFor.refl A s) fun _ => rest

theorem forGroup_frame {act : ProfileGroup → Outcome} {user : UserId}
    (rest : ∀ g, groups user = some g → (act g).center.AgreeFor A s) :
    (s.forGroup groups user act).center.AgreeFor A s :=
  forGroup_cases (P := fun o => o.center.AgreeFor A s) (AgreeFor.refl A s) rest

theorem forOwner_frame {act : ProfileGroup → Outcome} {caller target : UserId}
    (apart : groups.SetsApart A) (outside : caller ∉ A) (op : IssueOperation)
    (rest : target ∉ A → ∀ g, (act g).center.AgreeFor A s) :
    (s.forOwner groups caller target op act).center.AgreeFor A s :=
  forOwner_cases (P := fun o => o.center.AgreeFor A s) (AgreeFor.refl A s) (AgreeFor.refl A s)
    fun g acts owned => rest (apart.outside caller g acts outside target owned) g

theorem submitReport_frame (s : Center) (source : SourceId) (report : Option Report)
    {user : UserId} (outside : user ∉ A) :
    (s.submitReport groups source report user).center.AgreeFor A s := by
  unfold submitReport
  apply forGroup_frame
  intro g acts
  apply ifActive_frame
  have after := AgreeFor.withLedger_frame s
    (Ledger.local_submit s.catalogue g ⟨source, user⟩ report) outside
  dsimp only at after ⊢
  split
  · exact after
  · exact after
  · exact after

theorem storedReport_center (s : Center) (source : SourceId) (user : UserId) :
    (s.storedReport source user).center = s := by
  unfold storedReport ifActive
  split
  · split
    · rfl
    · rfl
  · rfl

theorem showCatalogue_center (s : Center) : s.showCatalogue.center = s := by
  unfold showCatalogue
  split
  · rfl
  · rfl

theorem reportFailure_frame (s : Center) (source : SourceId) (event : Event) {user : UserId}
    (outside : user ∉ A) : (s.reportFailure groups source event user).center.AgreeFor A s := by
  unfold reportFailure
  apply forGroup_frame
  intro g acts
  apply ifActive_frame
  have after := AgreeFor.withLedger_frame s
    (Ledger.local_reportFailure s.catalogue g ⟨source, user⟩ event) outside
  dsimp only at after ⊢
  split
  · exact after
  · split
    · exact after
    · exact after

theorem assign_frame (s : Center) {user : UserId} (outside : user ∉ A) (os : Distinct Observer) :
    AgreeFor A { s with subscriptions := s.subscriptions.assign user os } s where
  enabled := rfl
  declarations := rfl
  ledger := fun place _ => Slot.SameIn.refl place s.ledger
  subscriptions := by
    intro u member
    have other : user ≠ u := by
      intro same
      rw [same] at outside
      exact outside member
    rw [Subscriptions.of_assign, if_neg other]

theorem subscribe_frame (s : Center) (observer : Observer) {user : UserId} (outside : user ∉ A) :
    (s.subscribe groups observer user).center.AgreeFor A s := by
  unfold subscribe
  apply forGroup_frame
  intro g acts
  apply ifActive_frame
  split
  · exact AgreeFor.refl A s
  · exact assign_frame s outside _

theorem dismissIssue_frame (apart : groups.SetsApart A) (s : Center) (text : String)
    {user : UserId} (outside : user ∉ A) :
    (s.dismissIssue groups text user).center.AgreeFor A s := by
  unfold dismissIssue
  split
  · exact AgreeFor.refl A s
  · rename_i id decoded
    apply forOwner_frame apart outside
    intro foreign g
    apply ifActive_frame
    have after := AgreeFor.withLedger_frame s (Ledger.local_dismiss id) foreign
    dsimp only at after ⊢
    split
    · exact after
    · exact after

theorem executeAction_frame (apart : groups.SetsApart A) (s : Center)
    (issueText actionText : String) {user : UserId} (outside : user ∉ A) :
    (s.executeAction groups issueText actionText user).center.AgreeFor A s := by
  unfold executeAction
  split
  · exact AgreeFor.refl A s
  · rename_i issue decoded
    split
    · exact AgreeFor.refl A s
    · rename_i id decodedAction
      split
      · exact AgreeFor.refl A s
      · rename_i matching
        have same : id.issue = issue := not_not.mp matching
        apply forOwner_frame apart outside
        intro foreign g
        rw [← same] at foreign
        apply ifActive_frame
        have after := AgreeFor.withLedger_frame s (Ledger.local_launch id) foreign
        split
        · exact AgreeFor.refl A s
        · exact after

end Center

namespace Operation

variable {groups : Resolver} {A : ProfileGroup}

/-- An operation of a member, or of nobody, does the same to all that the group can tell. -/
theorem perform_agree (apart : groups.SetsApart A) {s t : Center} (agree : s.AgreeFor A t)
    (op : Operation) (inside : ∀ u, op.actor? = some u → u ∈ A) :
    (op.perform groups s).AgreeFor A (op.perform groups t) := by
  cases op with
  | start loaded =>
    have declarations : s.declarations.load loaded = t.declarations.load loaded := by
      rw [agree.declarations]
    refine ⟨⟨agree.enabled, declarations, agree.ledger, agree.subscriptions⟩, ?_, rfl⟩
    simp only [perform, Center.start, declarations]
  | submitReport source report event user =>
    exact Center.submitReport_agree apart agree source report (inside user rfl)
  | storedReport source user => exact Center.storedReport_agree agree source (inside user rfl)
  | reportFailure source event user =>
    exact Center.reportFailure_agree apart agree source event (inside user rfl)
  | requestRefresh reason user =>
    exact Center.requestRefresh_agree apart agree reason (inside user rfl)
  | showView user => exact Center.showView_agree apart agree (inside user rfl)
  | subscribe observer user =>
    exact Center.subscribe_agree apart agree observer (inside user rfl)
  | unsubscribe observer user => exact Center.unsubscribe_agree agree observer (inside user rfl)
  | dismissIssue issue user => exact Center.dismissIssue_agree apart agree issue (inside user rfl)
  | executeAction issue action user =>
    exact Center.executeAction_agree apart agree issue action (inside user rfl)
  | showCatalogue => exact Center.showCatalogue_agree agree
  | overrideCatalogue c => exact Center.overrideCatalogue_agree agree c
  | resetCatalogue => exact Center.changeCatalogue_agree agree none
  | forgetReports => exact ⟨agree.withLedger_clear, rfl, rfl⟩
  | isActive =>
    simp only [perform, agree.isActive]
    exact Center.ignore_agree agree _
  | followToggle value => exact Center.followToggle_agree agree value
  | applyInitial value =>
    refine ⟨agree.setEnabled value, rfl, ?_⟩
    simp only [perform, Center.applyInitial, agree.announcement]

/-- An operation of somebody else leaves all that the group can tell as it is. -/
theorem perform_frame (apart : groups.SetsApart A) (s : Center) {op : Operation} {user : UserId}
    (acts : op.actor? = some user) (outside : user ∉ A) :
    (op.perform groups s).center.AgreeFor A s := by
  cases op with
  | submitReport source report event u =>
    cases acts
    exact Center.submitReport_frame s source report outside
  | storedReport source u =>
    simp only [perform, Center.storedReport_center]
    exact Center.AgreeFor.refl A s
  | reportFailure source event u =>
    cases acts
    exact Center.reportFailure_frame s source event outside
  | requestRefresh reason u =>
    apply Center.forGroup_frame
    intro g found
    exact Center.ifActive_frame _ (Center.AgreeFor.refl A s)
  | showView u =>
    apply Center.forGroup_frame
    intro g found
    exact Center.ifActive_frame _ (Center.AgreeFor.refl A s)
  | subscribe observer u =>
    cases acts
    exact Center.subscribe_frame s observer outside
  | unsubscribe observer u =>
    cases acts
    exact Center.assign_frame s outside _
  | dismissIssue issue u =>
    cases acts
    exact Center.dismissIssue_frame apart s issue outside
  | executeAction issue action u =>
    cases acts
    exact Center.executeAction_frame apart s issue action outside
  | start _ | showCatalogue | overrideCatalogue _ | resetCatalogue | forgetReports | isActive
  | followToggle _ | applyInitial _ => cases acts

end Operation

end SafetyCenter
