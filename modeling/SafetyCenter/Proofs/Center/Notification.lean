import SafetyCenter.Proofs.Center.Sharing
import SafetyCenter.Proofs.Ledger.Idempotence

set_option autoImplicit false

namespace SafetyCenter

def Outcome.deliveries (o : Outcome) : List Stage :=
  o.stages.filter (·.isDelivery)

namespace Operation

/-- The caller of an operation on what is tracked. -/
def tracking? : Operation → Option UserId
  | .submitReport _ _ _ user => some user
  | .reportFailure _ _ user => some user
  | .dismissIssue _ user => some user
  | .executeAction _ _ user => some user
  | _ => none

/-- A source tells of a failure on an occasion that the user waits for. -/
inductive Warns : Operation → Prop where
  | refresh (source : SourceId) (event : Event) (user : UserId)
      (kind : event.kind = .refreshRequested) : Warns (.reportFailure source event user)
  | action (source : SourceId) (event : Event) (user : UserId)
      (kind : event.kind = .resolvingActionFailed) : Warns (.reportFailure source event user)

/-- What users are told of a failure. -/
def warning? : Operation → Option String
  | .reportFailure _ event _ => event.kind.failureMessage?
  | _ => none

theorem warning?_isSome_iff {op : Operation} : op.warning?.isSome = true ↔ op.Warns := by
  constructor
  · intro warned
    cases op with
    | reportFailure source event user =>
      cases kind : event.kind with
      | refreshRequested => exact .refresh source event user kind
      | resolvingActionFailed => exact .action source event user kind
      | sourceStateChanged | resolvingActionSucceeded | deviceLocaleChanged | deviceRebooted =>
        simp [warning?, kind, EventKind.failureMessage?] at warned
    | _ => cases warned
  · intro warns
    cases warns with
    | refresh source event user kind => simp [warning?, kind, EventKind.failureMessage?]
    | action source event user kind => simp [warning?, kind, EventKind.failureMessage?]

end Operation

theorem Outcome.deliveries_of_silent {o : Outcome}
    (silent : ∀ stage ∈ o.stages, stage.isDelivery = false) : o.deliveries = [] := by
  apply List.filter_eq_nil_iff.mpr
  intro stage member
  simp [silent stage member]

theorem Outcome.deliveries_of_stages {o : Outcome} {stage : Stage} {tail : List Stage}
    (stages : o.stages = stage :: tail) (shows : stage.isDelivery = true)
    (silent : ∀ other ∈ tail, other.isDelivery = false) : o.deliveries = [stage] := by
  rw [deliveries, stages, List.filter_cons_of_pos shows, List.filter_eq_nil_iff.mpr]
  intro other member
  simp [silent other member]

namespace Center

variable {groups : Resolver} {s : Center}

/-- An observer that is registered already is left as it is. -/
theorem subscribe_known {observer : Observer} {user : UserId}
    (known : observer ∈ s.subscriptions.of user) :
    (s.subscribe groups observer user).center = s ∧
      (s.subscribe groups observer user).deliveries = [] := by
  have has : s.subscriptions.has observer user = true := Subscriptions.has_eq_true.mpr known
  simp only [subscribe, has, if_pos]
  refine forGroup_cases (P := fun o => o.center = s ∧ o.deliveries = []) ⟨rfl, rfl⟩ fun g _ => ?_
  exact ifActive_cases (P := fun o => o.center = s ∧ o.deliveries = []) (fun _ => ⟨rfl, rfl⟩)
    fun _ => ⟨rfl, rfl⟩

/-- An observer is left as it is, or it is registered and shown the view. -/
theorem subscribe_delivers (s : Center) (observer : Observer) (user : UserId) :
    ((s.subscribe groups observer user).center = s ∧
      (s.subscribe groups observer user).deliveries = []) ∨
    ∃ g, groups user = some g ∧ s.isActive = true ∧
      (s.subscribe groups observer user).center =
        { s with subscriptions := s.subscriptions.add observer user } ∧
      (s.subscribe groups observer user).deliveries = [.deliver (s.viewOf g) none [observer]] := by
  cases found : groups user with
  | none =>
    have refused : s.subscribe groups observer user = s.refuse (.unknownUser user) := by
      simp only [subscribe, forGroup, found]
    rw [refused]
    exact Or.inl ⟨rfl, rfl⟩
  | some g =>
    rcases s.subscribe_cases found observer with ⟨same, stages⟩ | ⟨active, entered, stages⟩
    · rw [Outcome.deliveries, stages]
      exact Or.inl ⟨same, rfl⟩
    · rw [Outcome.deliveries, stages]
      exact Or.inr ⟨g, rfl, active, entered, rfl⟩

end Center

namespace Operation

variable {groups : Resolver}

theorem perform_notifies (groups : Resolver) (s : Center) {op : Operation} {user : UserId}
    (tracks : op.tracking? = some user) :
    (op.perform groups s).Notifies s (groups user) op.warning? := by
  cases op with
  | submitReport source report event u =>
    cases tracks
    exact s.notifies_submitReport source report user
  | reportFailure source event u =>
    cases tracks
    exact s.notifies_reportFailure source event user
  | dismissIssue text u =>
    cases tracks
    exact s.notifies_dismissIssue text user
  | executeAction issueText actionText u =>
    cases tracks
    exact s.notifies_executeAction issueText actionText user
  | _ => cases tracks

/-- An operation that is not on what is tracked has no deliveries to make, unless it registers an
observer. -/
theorem deliveries_of_untracking (s : Center) {op : Operation} (untracking : op.tracking? = none)
    (ordinary : ∀ o u, op ≠ .subscribe o u) : (op.perform groups s).deliveries = [] := by
  by_cases common : op.actor? = none
  · exact Outcome.deliveries_of_silent (silent_of_common s common)
  · cases op with
    | storedReport source user =>
      refine Center.ifActive_cases (P := (·.deliveries = [])) (fun _ => rfl) fun _ => ?_
      split
      · rfl
      · rfl
    | requestRefresh reason user =>
      refine Center.forGroup_cases (P := (·.deliveries = [])) rfl fun g _ => ?_
      exact Center.ifActive_cases (P := (·.deliveries = [])) (fun _ => rfl) fun _ => rfl
    | showView user =>
      refine Center.forGroup_cases (P := (·.deliveries = [])) rfl fun g _ => ?_
      exact Center.ifActive_cases (P := (·.deliveries = [])) (fun _ => rfl) fun _ => rfl
    | unsubscribe observer user => rfl
    | subscribe observer user => exact absurd rfl (ordinary observer user)
    | submitReport _ _ _ _ | reportFailure _ _ _ | dismissIssue _ _ | executeAction _ _ _ =>
      cases untracking
    | start _ | showCatalogue | overrideCatalogue _ | resetCatalogue | forgetReports | isActive
    | followToggle _ | applyInitial _ => exact absurd rfl common

/-- An operation on the center as a whole leaves the registrations as they are, or ends them all. -/
theorem subscriptions_of_common (groups : Resolver) (s : Center) {op : Operation}
    (common : op.actor? = none) :
    (op.perform groups s).center.subscriptions = ∅ ∨
      (op.perform groups s).center.subscriptions = s.subscriptions := by
  have turned : ∀ value, (s.setEnabled value).subscriptions = ∅ ∨
      (s.setEnabled value).subscriptions = s.subscriptions := by
    intro value
    cases value with
    | true => exact Or.inr rfl
    | false => exact Or.inl rfl
  have changed : ∀ replacement,
      (s.changeCatalogue replacement).center.subscriptions = s.subscriptions := by
    intro replacement
    unfold Center.changeCatalogue
    split
    · rfl
    · rfl
  cases op with
  | start loaded => exact Or.inr rfl
  | showCatalogue => exact Or.inr (congrArg Center.subscriptions s.showCatalogue_center)
  | overrideCatalogue c =>
    simp only [perform, Center.overrideCatalogue]
    split
    · exact Or.inr rfl
    · exact Or.inr (changed _)
  | resetCatalogue => exact Or.inr (changed none)
  | forgetReports => exact Or.inr rfl
  | isActive => exact Or.inr rfl
  | followToggle value =>
    simp only [perform, Center.followToggle]
    split
    · exact Or.inr rfl
    · exact turned value
  | applyInitial value => exact turned value
  | _ => cases common

/-- The observers of a user stay in the order in which they were registered: an operation leaves
them, ends registrations, or puts a new one behind them. -/
theorem perform_ordered (groups : Resolver) (s : Center) (op : Operation) (user : UserId) :
    ((op.perform groups s).center.subscriptions.of user).toList.Sublist
        (s.subscriptions.of user).toList ∨
      ∃ observer, op = .subscribe observer user ∧ observer ∉ s.subscriptions.of user ∧
        ((op.perform groups s).center.subscriptions.of user).toList =
          (s.subscriptions.of user).toList ++ [observer] := by
  have left : ∀ t : Center, t.subscriptions = s.subscriptions →
      (t.subscriptions.of user).toList.Sublist (s.subscriptions.of user).toList := by
    intro t same
    rw [same]
  have removed : ∀ observer v,
      ((s.unsubscribe observer v).center.subscriptions.of user).toList.Sublist
        (s.subscriptions.of user).toList := by
    intro observer v
    show ((s.subscriptions.remove observer v).of user).toList.Sublist _
    rw [Subscriptions.of_remove]
    split
    · exact List.filter_sublist
    · exact List.Sublist.refl _
  cases acts : op.actor? with
  | none =>
    refine Or.inl ?_
    rcases subscriptions_of_common groups s acts with ended | same
    · rw [ended]
      exact List.nil_sublist _
    · exact left _ same
  | some v =>
    cases found : groups v with
    | none =>
      refine Or.inl ?_
      rcases perform_unknown s acts found with ⟨same, -⟩ | ⟨observer, rfl⟩
      · exact left _ (congrArg Center.subscriptions same)
      · exact removed observer v
    | some g =>
      rcases perform_tells s acts found with tells | ⟨observer, rfl⟩ | ⟨observer, rfl⟩
      · refine Or.inl ?_
        cases tells with
        | nothing setting view silent => exact left _ setting.subscriptions
        | everyone setting error tail stages silent => exact left _ setting.subscriptions
      · by_cases known : observer ∈ s.subscriptions.of v
        · exact Or.inl (left _ (congrArg Center.subscriptions (Center.subscribe_known known).1))
        · rcases s.subscribe_delivers observer v with ⟨same, -⟩ | ⟨h, -, -, entered, -⟩
          · exact Or.inl (left _ (congrArg Center.subscriptions same))
          · by_cases own : v = user
            · subst own
              refine Or.inr ⟨observer, rfl, known, ?_⟩
              show ((s.subscribe groups observer v).center.subscriptions.of v).toList = _
              rw [entered, Subscriptions.of_add, if_pos rfl]
              exact Distinct.toList_insert_of_not_mem known
            · refine Or.inl ?_
              show ((s.subscribe groups observer v).center.subscriptions.of user).toList.Sublist _
              rw [entered, Subscriptions.of_add, if_neg own]
      · exact Or.inl (removed observer v)

end Operation

namespace Visit

/-- What an operation met asks for a round: it changed what is tracked, or it took a failure that
users are told of. -/
def Due (v : Visit) : Prop :=
  ¬ v.center.ledger.Alike v.outcome.center.ledger ∨
    (v.op.Warns ∧ v.center.isActive = true ∧ v.outcome.answer = .ok .done)

/-- An operation registered an observer for a user anew. -/
structure Registers (v : Visit) (observer : Observer) (user : UserId) : Prop where
  op : v.op = .subscribe observer user
  before : observer ∉ v.center.subscriptions.of user
  after : observer ∈ v.outcome.center.subscriptions.of user

/-- A view is what a user would be shown right after a critical section. -/
def ShowsTo (v : Visit) (user : UserId) (view : View) : Prop :=
  (v.outcome.center.showView v.groups user).answer = .ok (.view view)

/-- The rounds of deliveries that an operation is to make are those that are due. -/
structure Notified (v : Visit) : Prop where
  /-- one round to all registrations of the caller's group, the primary user's first -/
  told : ∀ user, v.op.tracking? = some user → v.Due → ∃ g view error, v.groups user = some g ∧
    v.ShowsTo user view ∧ v.outcome.deliveries = [.deliver view error
      ((v.outcome.center.subscriptions.registrations g).map (·.observer))] ∧
    error = v.op.warning? ∧ (error.isSome = true ↔ v.op.Warns)
  quiet : ∀ user, v.op.tracking? = some user → ¬ v.Due → v.outcome.deliveries = []
  welcomed : ∀ observer user, v.Registers observer user → ∃ view, v.ShowsTo user view ∧
    v.outcome.deliveries = [.deliver view none [observer]]
  silent : v.op.tracking? = none → (∀ observer user, ¬ v.Registers observer user) →
    v.outcome.deliveries = []
  /-- the registrations of a user are kept in the order in which they came -/
  ordered : ∀ user, (v.outcome.center.subscriptions.of user).toList.Sublist
      (v.center.subscriptions.of user).toList ∨
    ∃ observer, v.Registers observer user ∧ (v.outcome.center.subscriptions.of user).toList =
      (v.center.subscriptions.of user).toList ++ [observer]

theorem notified (v : Visit) : v.Notified where
  told := by
    intro user tracks due
    cases Operation.perform_notifies v.groups v.center tracks with
    | nobody setting same unwarned silent =>
      exfalso
      rcases due with changed | ⟨warns, active, taken⟩
      · exact changed (same ▸ Ledger.Alike.refl v.center.ledger)
      · rcases unwarned with none | refused | inactive
        · have warned := Operation.warning?_isSome_iff.mpr warns
          rw [none] at warned
          cases warned
        · exact refused taken
        · rw [active] at inactive
          cases inactive
    | observers g found active setting due' tail stages silent =>
      refine ⟨g, v.outcome.center.viewOf g, _, found, ?_, ?_, rfl, Operation.warning?_isSome_iff⟩
      · have on : v.outcome.center.isActive = true := setting.isActive.trans active
        rw [ShowsTo, Center.showView_of_group found, if_pos on]
      · rw [Subscriptions.map_observer_registrations]
        exact Outcome.deliveries_of_stages stages rfl silent
  quiet := by
    intro user tracks idle
    cases Operation.perform_notifies v.groups v.center tracks with
    | nobody setting same unwarned silent => exact Outcome.deliveries_of_silent silent
    | observers g found active setting due tail stages silent =>
      refine absurd ?_ idle
      rcases due with changed | ⟨warned, taken⟩
      · exact Or.inl changed
      · exact Or.inr ⟨Operation.warning?_isSome_iff.mp warned, active, taken⟩
  welcomed := by
    obtain ⟨groups, op, s⟩ := v
    intro observer user registers
    obtain ⟨rfl, before, after⟩ := registers
    rcases s.subscribe_delivers observer user with
      ⟨same, -⟩ | ⟨g, found, active, entered, deliveries⟩
    · have after' : observer ∈ (s.subscribe groups observer user).center.subscriptions.of user :=
        after
      rw [same] at after'
      exact absurd after' before
    · refine ⟨s.viewOf g, ?_, deliveries⟩
      have on : (s.subscribe groups observer user).center.isActive = true := by
        rw [entered]
        exact active
      show ((s.subscribe groups observer user).center.showView groups user).answer = _
      rw [Center.showView_of_group found, if_pos on, entered]
      rfl
  silent := by
    obtain ⟨groups, op, s⟩ := v
    intro untracking unregistered
    by_cases ordinary : ∀ o u, op ≠ .subscribe o u
    · exact Operation.deliveries_of_untracking s untracking ordinary
    · simp only [not_forall, not_not] at ordinary
      obtain ⟨observer, user, rfl⟩ := ordinary
      by_cases known : observer ∈ s.subscriptions.of user
      · exact (Center.subscribe_known known).2
      · rcases s.subscribe_delivers observer user with ⟨-, deliveries⟩ | ⟨g, -, -, entered, -⟩
        · exact deliveries
        · refine absurd ⟨rfl, known, ?_⟩ (unregistered observer user)
          show observer ∈ (s.subscribe groups observer user).center.subscriptions.of user
          rw [entered, Subscriptions.of_add, if_pos rfl]
          simp
  ordered := by
    intro user
    rcases v.op.perform_ordered v.groups v.center user with
      fewer | ⟨observer, op, unknown, last⟩
    · exact Or.inl fewer
    · refine Or.inr ⟨observer, ⟨op, unknown, ?_⟩, last⟩
      rw [← Distinct.mem_toList]
      exact last ▸ List.mem_append_right _ (List.mem_singleton.mpr rfl)

def posts (v : Visit) : List Post :=
  v.outcome.deliveries.flatMap (·.posts (v.op.actor?.bind v.groups))

theorem posts_task (v : Visit) : v.task.posts = v.posts := by
  rw [Task.posts, posts, Outcome.deliveries]
  show v.outcome.stages.flatMap (·.posts (v.op.actor?.bind v.groups)) = _
  induction v.outcome.stages with
  | nil => rfl
  | cons stage stages ih =>
    rw [List.flatMap_cons, ih]
    cases stage with
    | deliver view error observers => rfl
    | dispatch target user kind => rfl
    | round round => rfl

end Visit

/-- The posts of a call are taken out of those that the task had to make. -/
theorem Task.Makes.posts_perm {t t' : Task} {refreshId : Nat} {c : Call}
    (makes : t.Makes refreshId c t') :
    t.posts.Perm (c.posts t.group ++ t'.posts) := by
  cases makes with
  | deliver group view error before after o stages b =>
    simp only [Task.posts, Stage.posts, Call.posts, List.flatMap_cons, List.map_append,
      List.map_cons, List.append_assoc, List.cons_append, List.nil_append]
    exact List.perm_middle
  | dispatch group target user kind stages b => exact List.Perm.refl _
  | refresh group reason source user targets stages => exact List.Perm.refl _
  | announce group value source sources stages => exact List.Perm.refl _

theorem Task.Makes.group_eq {t t' : Task} {refreshId : Nat} {c : Call}
    (makes : t.Makes refreshId c t') : t'.group = t.group := by
  cases makes <;> rfl

theorem Task.Passes.group_eq {t t' : Task} (passes : t.Passes t') : t'.group = t.group := by
  cases passes <;> rfl

namespace Entry

def made (e : Entry) : List Post :=
  e.calls.flatMap (·.posts e.task.group)

/-- The posts made, those still to be made and those that were dropped are the ones that were due.
Only a cancelled operation has dropped any. -/
def Delivers (e : Entry) : Prop :=
  ∃ dropped, (e.made ++ e.task.posts ++ dropped).Perm e.visit.posts ∧
    (e.cancelled = false → dropped = [])

theorem delivers_begun (v : Visit) : (begun v).Delivers := by
  refine ⟨[], ?_, fun _ => rfl⟩
  rw [List.append_nil]
  exact List.Perm.of_eq v.posts_task

theorem Delivers.moves {e e' : Entry} (delivers : e.Delivers) (moves : e.Moves e') :
    e'.Delivers := by
  obtain ⟨dropped, same, whole⟩ := delivers
  cases moves with
  | call c t makes =>
    refine ⟨dropped, List.Perm.trans (List.Perm.append_right dropped ?_) same, whole⟩
    have made : ({ e with task := t, calls := e.calls ++ [c] } : Entry).made =
        e.made ++ c.posts e.task.group := by
      simp [Entry.made, makes.group_eq]
    rw [made, List.append_assoc]
    exact List.Perm.append_left e.made makes.posts_perm.symm
  | pass t passes =>
    refine ⟨dropped, ?_, whole⟩
    have made : ({ e with task := t } : Entry).made = e.made := by
      simp [Entry.made, passes.group_eq]
    rw [made]
    show (e.made ++ t.posts ++ dropped).Perm e.visit.posts
    rw [passes.posts_eq]
    exact same
  | acquire => exact ⟨dropped, same, whole⟩
  | cancel =>
    refine ⟨e.task.posts ++ dropped, ?_, fun kept => ?_⟩
    · have none_left : e.cancel.task.posts = [] := rfl
      rw [none_left, List.append_nil, ← List.append_assoc]
      exact same
    · cases kept

/-- An operation that has returned has made just the posts that were due. -/
theorem Delivers.of_returned {e : Entry} (delivers : e.Delivers) (returned : e.HasReturned) :
    e.made.Perm e.visit.posts := by
  obtain ⟨dropped, same, whole⟩ := delivers
  have none_left : e.task.posts = [] := by rw [Task.posts, returned.1, List.flatMap_nil]
  rwa [none_left, whole returned.2, List.append_nil, List.append_nil] at same

end Entry

/-- Whatever came about, the rounds in the tail of each operation are those that were due for what
it met, and what it has delivered and has still to deliver are these rounds and no more. -/
theorem Journal.Reachable.notifies {j : Journal} (reachable : j.Reachable) {e : Entry}
    (member : e ∈ j.entries) :
    e.visit.Notified ∧ e.Delivers ∧ (e.HasReturned → e.made.Perm e.visit.posts) := by
  have delivers := reachable.entries Entry.delivers_begun
    (fun _ _ before moves => before.moves moves) e member
  exact ⟨e.visit.notified, delivers, delivers.of_returned⟩

/-- An observer is registered, and a report comes. -/
theorem Journal.Reachable.notifies_of_report :
    let groups : Resolver := fun u => some (.single u)
    let report : Report := { session := "first", status := some ⟨"Lock", "None", .information⟩ }
    let start : Operation := .start (.ok ⟨[{ id := ⟨"lock"⟩ }]⟩)
    let submit : Operation :=
      .submitReport ⟨"lock"⟩ (some report) ⟨.deviceRebooted, none⟩ ⟨1⟩
    let before : Journal :=
      (Journal.enter { center := {} } groups start).enter groups (.subscribe ⟨"page"⟩ ⟨1⟩)
    let j := before.enter groups submit
    let e : Entry := .begun ⟨groups, submit, before.center⟩
    (j.Reachable ∧ e ∈ j.entries) ∧ e.visit.posts.map (·.observer) = [⟨"page"⟩] ∧
      e.visit.Notified ∧ e.Delivers ∧ (e.HasReturned → e.made.Perm e.visit.posts) := by
  intro groups report start submit before j e
  have reachable : j.Reachable :=
    (((Reachable.built true).step (.enter _ groups start)).step (.enter _ groups _)).step
      (.enter _ groups submit)
  have member : e ∈ j.entries := List.mem_append_right _ (List.mem_singleton.mpr rfl)
  exact ⟨⟨reachable, member⟩, by decide, reachable.notifies member⟩

end SafetyCenter
