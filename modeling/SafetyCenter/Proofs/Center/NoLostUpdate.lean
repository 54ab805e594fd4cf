import SafetyCenter.Proofs.Center.Interleaving

set_option autoImplicit false

namespace SafetyCenter

/-- All operations but those that forget the reports of everybody while registrations go on. -/
def Operation.SparesReports : Operation → Prop
  | .overrideCatalogue _ => False
  | .resetCatalogue => False
  | .forgetReports => False
  | _ => True

def Post.isFor (o : Observer) (g : ProfileGroup) (p : Post) : Bool :=
  p.observer = o && p.group = some g

/-- The view of the last post for an observer on behalf of a group. -/
def lastView (posts : List Post) (o : Observer) (g : ProfileGroup) : Option View :=
  (posts.filter (·.isFor o g)).getLast?.map (·.view)

/-- New posts all show one view, and the last one did so already or one of the new ones does. -/
theorem lastView_append {posts new : List Post} {o : Observer} {g : ProfileGroup} {v : View}
    (all : ∀ p ∈ new, p.isFor o g = true → p.view = v)
    (some_shows : lastView posts o g = some v ∨ ∃ p ∈ new, p.isFor o g = true) :
    lastView (posts ++ new) o g = some v := by
  unfold lastView
  rw [List.filter_append]
  by_cases none_new : new.filter (·.isFor o g) = []
  · rw [none_new, List.append_nil]
    rcases some_shows with old | ⟨p, member, shows⟩
    · exact old
    · have kept := List.mem_filter.mpr ⟨member, shows⟩
      rw [none_new] at kept
      simp at kept
  · rw [List.getLast?_append_of_ne_nil _ none_new, List.getLast?_eq_some_getLast none_new]
    obtain ⟨member, shows⟩ := List.mem_filter.mp (List.getLast_mem none_new)
    rw [Option.map_some, all _ member shows]

theorem posts_of_silent {stages : List Stage} (group : Option ProfileGroup)
    (silent : ∀ stage ∈ stages, stage.isDelivery = false) :
    stages.flatMap (·.posts group) = [] := by
  apply List.flatMap_eq_nil_iff.mpr
  intro stage member
  have quiet := silent stage member
  cases stage with
  | deliver view error observers => cases quiet
  | dispatch target user kind => rfl
  | round calls => rfl

theorem group_of_post {stages : List Stage} {group : Option ProfileGroup} {p : Post}
    (post : p ∈ stages.flatMap (·.posts group)) : p.group = group := by
  obtain ⟨stage, -, member⟩ := List.mem_flatMap.mp post
  cases stage with
  | deliver view error observers =>
    obtain ⟨o, -, rfl⟩ := List.mem_map.mp member
    rfl
  | dispatch target user kind => simp [Stage.posts] at member
  | round calls => simp [Stage.posts] at member

/-- The center is active, and the last post for an observer of a user shows the view of the user's
group as it is. -/
structure UpToDate (groups : Resolver) (s : Center) (captured : List Post) (r : Registration) :
    Prop where
  active : s.isActive = true
  shown : ∃ g, groups r.user = some g ∧ lastView captured r.observer g = some (s.viewOf g)

namespace Operation

variable {groups : Resolver}

def posts (groups : Resolver) (s : Center) (op : Operation) : List Post :=
  (op.perform groups s).stages.flatMap (·.posts (op.actor?.bind groups))

/-- An operation on the center as a whole ends all registrations, or it leaves them, and an active
center, as they are. -/
theorem perform_common (s : Center) {op : Operation} (common : op.actor? = none)
    (spares : op.SparesReports) :
    (op.perform groups s).center.subscriptions = ∅ ∨
      (op.perform groups s).center.subscriptions = s.subscriptions ∧
        (s.isActive = true → (op.perform groups s).center = s) := by
  have turned : ∀ value, (s.setEnabled value).subscriptions = ∅ ∨
      (s.setEnabled value).subscriptions = s.subscriptions ∧
        (s.isActive = true → s.setEnabled value = s) := by
    intro value
    cases value with
    | true =>
      refine Or.inr ⟨rfl, fun active => ?_⟩
      have on : s.enabled = true := (Bool.and_eq_true_iff.mp active).1
      rw [Center.setEnabled, if_pos rfl, ← on]
    | false => exact Or.inl rfl
  cases op with
  | start outcome =>
    refine Or.inr ⟨rfl, fun active => ?_⟩
    have loaded : s.declarations.isLoaded = true := (Bool.and_eq_true_iff.mp active).2
    simp only [perform, Center.start, Declarations.load_of_isLoaded loaded]
  | showCatalogue =>
    refine Or.inr ?_
    simp only [perform, Center.showCatalogue_center, implies_true, and_self]
  | isActive => exact Or.inr ⟨rfl, fun _ => rfl⟩
  | followToggle value =>
    simp only [perform, Center.followToggle]
    split
    · exact Or.inr ⟨rfl, fun _ => rfl⟩
    · exact turned value
  | applyInitial value => exact turned value
  | overrideCatalogue c => cases spares
  | resetCatalogue => cases spares
  | forgetReports => cases spares
  | _ => cases common

/-- Whoever is registered after an operation was so before, or has just been shown the view. -/
theorem registered_cases (s : Center) {op : Operation} (spares : op.SparesReports) {o : Observer}
    {u : UserId} (registered : o ∈ (op.perform groups s).center.subscriptions.of u) :
    o ∈ s.subscriptions.of u ∨
      (op = .subscribe o u ∧ ∃ g, groups u = some g ∧ s.isActive = true ∧
        (op.perform groups s).center = { s with subscriptions := s.subscriptions.add o u } ∧
        (op.perform groups s).stages = [.deliver (s.viewOf g) none [o]]) := by
  cases acts : op.actor? with
  | none =>
    refine Or.inl ?_
    rcases perform_common s acts spares with ended | ⟨kept, -⟩
    · rw [ended] at registered
      exact absurd registered (Distinct.not_mem_empty o)
    · rwa [kept] at registered
  | some v =>
    have ended : ∀ observer, op = .unsubscribe observer v → o ∈ s.subscriptions.of u := by
      intro observer same
      subst same
      have after : o ∈ (s.subscriptions.remove observer v).of u := registered
      rw [Subscriptions.of_remove] at after
      split at after
      · exact (Distinct.mem_erase.mp after).1
      · exact after
    cases found : groups v with
    | none =>
      refine Or.inl ?_
      rcases perform_unknown s acts found with ⟨same, -⟩ | ⟨observer, same⟩
      · rwa [same] at registered
      · exact ended observer same
    | some g =>
      rcases perform_tells s acts found with tells | ⟨observer, rfl⟩ | ⟨observer, same⟩
      · refine Or.inl ?_
        cases tells with
        | nothing setting view silent => rwa [setting.subscriptions] at registered
        | everyone setting error tail stages silent => rwa [setting.subscriptions] at registered
      · rcases Center.subscribe_cases s found observer with ⟨same, -⟩ | ⟨active, entered, stages⟩
        · refine Or.inl ?_
          simp only [perform, same] at registered
          exact registered
        · have after := registered
          simp only [perform, entered, Subscriptions.of_add] at after
          split at after
          · rename_i own
            subst own
            rcases Distinct.mem_insert.mp after with old | rfl
            · exact Or.inl old
            · exact Or.inr ⟨rfl, g, found, active, entered, stages⟩
          · exact Or.inl after
      · exact Or.inl (ended observer same)

end Operation

namespace UpToDate

variable {groups : Resolver} {s : Center} {captured : List Post} {r : Registration}

/-- Posts for other groups, or posts that show the view as it is, leave an observer up to date. -/
theorem extend {t : Center} {g : ProfileGroup} (upToDate : UpToDate groups s captured r)
    (acts : groups r.user = some g) (active : t.isActive = s.isActive)
    (view : t.viewOf g = s.viewOf g) {new : List Post}
    (all : ∀ p ∈ new, p.isFor r.observer g = true → p.view = s.viewOf g) :
    UpToDate groups t (captured ++ new) r := by
  obtain ⟨on, g', acts', last⟩ := upToDate
  rw [acts] at acts'
  cases acts'
  refine ⟨active.trans on, g, acts, ?_⟩
  rw [view]
  exact lastView_append all (Or.inl last)

/-- Operations for another group leave an observer up to date. -/
theorem perform_outside (partitions : groups.Partitions) (upToDate : UpToDate groups s captured r)
    {op : Operation} {u : UserId} {g : ProfileGroup} (acts : op.actor? = some u)
    (own : groups r.user = some g) (outside : u ∉ g) :
    UpToDate groups (op.perform groups s).center (captured ++ op.posts groups s) r := by
  have agree := op.perform_frame (partitions.setsApart own) s acts outside
  refine upToDate.extend own agree.isActive agree.viewOf ?_
  intro p post shows
  have group : p.group = groups u := by
    rw [group_of_post post, acts, Option.bind_some]
  have same : groups u = some g := by
    rw [← group]
    simpa [Post.isFor] using (Bool.and_eq_true_iff.mp shows).2
  exact absurd (partitions.own u g same) outside

/-- Operations for the observer's group show it the view if it changed. -/
theorem perform_inside (upToDate : UpToDate groups s captured r) {op : Operation} {u : UserId}
    {g : ProfileGroup} (acts : op.actor? = some u) (found : groups u = some g)
    (own : groups r.user = some g) (member : r.user ∈ g)
    (registered : r.observer ∈ (op.perform groups s).center.subscriptions.of r.user) :
    UpToDate groups (op.perform groups s).center (captured ++ op.posts groups s) r := by
  have group : op.actor?.bind groups = some g := by rw [acts, Option.bind_some, found]
  rcases Operation.perform_tells s acts found with tells | ⟨observer, rfl⟩ | ⟨observer, rfl⟩
  · cases tells with
    | nothing setting view silent =>
      refine upToDate.extend own setting.isActive view ?_
      simp [Operation.posts, posts_of_silent _ silent]
    | everyone setting error tail stages silent =>
      have posts : op.posts groups s =
          ((op.perform groups s).center.deliveryFor g error).posts (some g) := by
        rw [Operation.posts, stages, List.flatMap_cons, posts_of_silent _ silent, List.append_nil,
          group]
      refine ⟨setting.isActive.trans upToDate.active, g, own, ?_⟩
      rw [posts]
      apply lastView_append
      · intro p post shows
        obtain ⟨o, -, rfl⟩ := List.mem_map.mp post
        rfl
      · refine Or.inr ⟨⟨some g, r.observer, _, error⟩, List.mem_map.mpr ⟨r.observer, ?_, rfl⟩, ?_⟩
        · exact List.mem_flatMap.mpr ⟨r.user, member, registered⟩
        · simp [Post.isFor]
  · rcases Center.subscribe_cases s found observer with ⟨same, stages⟩ | ⟨on, entered, stages⟩
    · have posts : (Operation.subscribe observer u).posts groups s = [] := by
        simp only [Operation.posts, Operation.perform, stages, List.flatMap_nil]
      simp only [Operation.perform, same, posts, List.append_nil]
      exact upToDate
    · have posts : (Operation.subscribe observer u).posts groups s =
          [⟨some g, observer, s.viewOf g, none⟩] := by
        simp only [Operation.posts, Operation.perform, stages, group]
        rfl
      simp only [Operation.perform, entered, posts]
      refine upToDate.extend (t := { s with subscriptions := s.subscriptions.add observer u })
        own rfl rfl ?_
      intro p post shows
      rw [List.mem_singleton.mp post]
  · have posts : (Operation.unsubscribe observer u).posts groups s = [] := rfl
    rw [posts]
    refine upToDate.extend (t := { s with subscriptions := s.subscriptions.remove observer u })
      own rfl rfl ?_
    intro p post shows
    simp at post

/-- A new registration is shown the view. -/
theorem subscribed {o : Observer} {u : UserId} {g : ProfileGroup} (found : groups u = some g)
    (active : s.isActive = true)
    (entered : (s.subscribe groups o u).center =
      { s with subscriptions := s.subscriptions.add o u })
    (stages : (s.subscribe groups o u).stages = [.deliver (s.viewOf g) none [o]]) :
    UpToDate groups (s.subscribe groups o u).center
      (captured ++ (Operation.subscribe o u).posts groups s) ⟨o, u⟩ := by
  have posts : (Operation.subscribe o u).posts groups s =
      [⟨some g, o, s.viewOf g, none⟩] := by
    simp only [Operation.posts, Operation.perform, stages, Operation.actor?, Option.bind_some,
      found]
    rfl
  rw [entered, posts]
  refine ⟨active, g, found, ?_⟩
  apply lastView_append
  · intro p post shows
    rw [List.mem_singleton.mp post]
    rfl
  · exact Or.inr ⟨_, List.mem_singleton.mpr rfl, by simp [Post.isFor]⟩

/-- An operation keeps all registered observers up to date. -/
theorem perform (partitions : groups.Partitions) {op : Operation} (spares : op.SparesReports)
    (before : ∀ r : Registration, r.observer ∈ s.subscriptions.of r.user →
      UpToDate groups s captured r)
    (registered : r.observer ∈ (op.perform groups s).center.subscriptions.of r.user) :
    UpToDate groups (op.perform groups s).center (captured ++ op.posts groups s) r := by
  rcases op.registered_cases s spares registered with old | ⟨rfl, g, found, active, entered, stages⟩
  · have upToDate := before r old
    obtain ⟨-, g, own, -⟩ := before r old
    cases acts : op.actor? with
    | none =>
      rcases op.perform_common s acts spares with ended | ⟨-, same⟩
      · rw [ended] at registered
        exact absurd registered (Distinct.not_mem_empty _)
      · have posts : op.posts groups s = [] := posts_of_silent _ (op.silent_of_common s acts)
        rw [same upToDate.active, posts, List.append_nil]
        exact upToDate
    | some u =>
      by_cases inside : u ∈ g
      · have found : groups u = some g := partitions.shared r.user g own u inside
        exact perform_inside upToDate acts found own (partitions.own r.user g own) registered
      · exact perform_outside partitions upToDate acts own inside
  · exact subscribed found active entered stages

end UpToDate

/-- What observers are shown: the center, and the posts captured and made so far, in order. -/
structure System where
  center : Center
  captured : List Post
  made : List Post

namespace Journal

def captured (j : Journal) : List Post :=
  j.visits.flatMap (·.task.posts)

def Current (groups : Resolver) (j : Journal) : Prop :=
  ∀ r : Registration, r.observer ∈ j.center.subscriptions.of r.user →
    UpToDate groups j.center j.captured r

variable {groups : Resolver} {j : Journal}

theorem captured_enter (j : Journal) (groups : Resolver) (op : Operation) :
    (j.enter groups op).captured = j.captured ++ op.posts groups j.center := by
  rw [captured, visits_enter, List.flatMap_append, List.flatMap_singleton]
  rfl

theorem Reachable.current (partitions : groups.Partitions) (reachable : j.Reachable)
    (spares : ∀ v ∈ j.visits, v.groups = groups ∧ v.op.SparesReports) : j.Current groups := by
  induction reachable with
  | built enabled =>
    intro r registered
    exact absurd registered (Distinct.not_mem_empty r.observer)
  | @step j j' before next ih =>
    rcases next.center_cases with ⟨resolver, op, rfl⟩ | ⟨same, metrics, center⟩
    · rw [visits_enter, List.forall_mem_append, List.forall_mem_singleton] at spares
      obtain ⟨earlier, rfl, permitted⟩ := spares
      intro r registered
      rw [captured_enter]
      exact UpToDate.perform partitions permitted (ih earlier) registered
    · -- only the counters change
      rw [Current, captured, same, center]
      intro r registered
      have upToDate := ih (same ▸ spares) r registered
      exact ⟨upToDate.active, upToDate.shown⟩

end Journal

namespace Timeline

/-- The group that the operation with a number was made for. -/
def group? (k : Timeline) (n : Nat) : Option ProfileGroup :=
  k.journal.visits[n]?.bind fun v => v.op.actor?.bind v.groups

/-- The posts of the calls that succeeded, in order. -/
def made (k : Timeline) : List Post :=
  k.log.flatMap fun x => if x.2 then x.1.call.posts (k.group? x.1.operation) else []

def system (k : Timeline) : System :=
  { center := k.journal.center, captured := k.journal.captured, made := k.made }

end Timeline

namespace System

/-- What can come about when all operations have a given property and one resolver. -/
def Reachable (groups : Resolver) (allowed : Operation → Prop) (sys : System) : Prop :=
  ∃ k : Timeline, k.Reachable ∧ (∀ v ∈ k.journal.visits, v.groups = groups ∧ allowed v.op) ∧
    k.system = sys

variable {groups : Resolver} {sys : System}

/-- The last view captured for a registered observer on behalf of the user's group is the one that
the user would be shown now. If all captured views were taken in order, the observer has it. -/
theorem no_lost_update (partitions : groups.Partitions)
    (reachable : sys.Reachable groups Operation.SparesReports) {o : Observer} {u : UserId}
    (registered : o ∈ sys.center.subscriptions.of u) :
    ∃ g view, groups u = some g ∧
      (sys.center.showView groups u).answer = .ok (.view view) ∧
      lastView sys.captured o g = some view ∧
      (sys.made.filter (·.isFor o g) = sys.captured.filter (·.isFor o g) →
        lastView sys.made o g = some view) := by
  obtain ⟨k, came, spares, rfl⟩ := reachable
  obtain ⟨active, g, own, last⟩ :=
    Journal.Reachable.current partitions ⟨k, came, rfl⟩ spares ⟨o, u⟩ registered
  refine ⟨g, k.journal.center.viewOf g, own, ?_, last, fun same => ?_⟩
  · simp only [Timeline.system, Center.showView, Center.forGroup, own, Center.ifActive, active,
      if_pos]
    rfl
  · rw [lastView, same]
    exact last

/-- A user who is alone registers an observer and gets a report, which the observer is shown. -/
theorem no_lost_update_of_report :
    let groups : Resolver := fun u => some (.single u)
    let report : Report := { session := "first", status := some ⟨"Lock", "No lock", .information⟩ }
    ∃ k : Timeline, k.journal.visits.map (fun v => (v.groups, v.op)) =
        [(groups, .start (.ok ⟨[{ id := ⟨"lock"⟩ }]⟩)), (groups, .subscribe ⟨"page"⟩ ⟨1⟩),
          (groups, .submitReport ⟨"lock"⟩ (some report) ⟨.deviceRebooted, none⟩ ⟨1⟩)] ∧
      k.system.made.length = 2 ∧ k.system.made = k.system.captured ∧
      groups.Partitions ∧ k.system.Reachable groups Operation.SparesReports ∧
      ⟨"page"⟩ ∈ k.system.center.subscriptions.of ⟨1⟩ ∧
      ∃ g view, groups ⟨1⟩ = some g ∧
        (k.system.center.showView groups ⟨1⟩).answer = .ok (.view view) ∧
        lastView k.system.captured ⟨"page"⟩ g = some view ∧
        (k.system.made.filter (·.isFor ⟨"page"⟩ g) = k.system.captured.filter (·.isFor ⟨"page"⟩ g) →
          lastView k.system.made ⟨"page"⟩ g = some view) := by
  intro groups report
  have built : Timeline.Reachable { journal := { center := {} } } := .built true
  have entered := ((built.step (.enter _ groups (.start (.ok ⟨[{ id := ⟨"lock"⟩ }]⟩)))).step
    (.enter _ groups (.subscribe ⟨"page"⟩ ⟨1⟩))).step
    (.enter _ groups (.submitReport ⟨"lock"⟩ (some report) ⟨.deviceRebooted, none⟩ ⟨1⟩))
  have shown := entered.step
    (.call _ [_] [_] _ _ _ true rfl (.deliver _ _ _ [] [] ⟨"page"⟩ [] false))
  have updated := shown.step
    (.call _ [_, _] [] _ _ _ true rfl (.deliver _ _ _ [] [] ⟨"page"⟩ [] false))
  have partitions : groups.Partitions := Resolver.partitions_single
  obtain ⟨k, came, visited, two, same, registered⟩ : ∃ k : Timeline, k.Reachable ∧
      k.journal.visits.map (fun v => (v.groups, v.op)) =
        [(groups, .start (.ok ⟨[{ id := ⟨"lock"⟩ }]⟩)), (groups, .subscribe ⟨"page"⟩ ⟨1⟩),
          (groups, .submitReport ⟨"lock"⟩ (some report) ⟨.deviceRebooted, none⟩ ⟨1⟩)] ∧
      k.system.made.length = 2 ∧ k.system.made = k.system.captured ∧
      ⟨"page"⟩ ∈ k.system.center.subscriptions.of ⟨1⟩ := ⟨_, updated, rfl, rfl, rfl, by decide⟩
  have spares : ∀ v ∈ k.journal.visits, v.groups = groups ∧ v.op.SparesReports := by
    intro v member
    have pair := List.mem_map_of_mem (f := fun v : Visit => (v.groups, v.op)) member
    simp only [visited, List.mem_cons, List.not_mem_nil, or_false, Prod.mk.injEq] at pair
    rcases pair with ⟨resolver, op⟩ | ⟨resolver, op⟩ | ⟨resolver, op⟩ <;>
      exact ⟨resolver, op ▸ trivial⟩
  have reachable : k.system.Reachable groups Operation.SparesReports := ⟨k, came, spares, rfl⟩
  exact ⟨k, visited, two, same, partitions, reachable, registered,
    no_lost_update partitions reachable registered⟩

end System

end SafetyCenter
