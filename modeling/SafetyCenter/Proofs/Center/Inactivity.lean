import SafetyCenter.Proofs.Center.Setting

set_option autoImplicit false

namespace SafetyCenter

namespace Center

structure HoldsNothing (s : Center) : Prop where
  ledger : s.ledger = ∅
  subscriptions : s.subscriptions = ∅

def Tidy (s : Center) : Prop :=
  s.isActive = false → s.HoldsNothing

theorem isActive_eq_false_iff (s : Center) :
    s.isActive = false ↔ s.enabled = false ∨ s.declarations.isLoaded = false := by
  rw [isActive, Bool.and_eq_false_iff]

theorem Tidy.counted {s : Center} (tidy : s.Tidy) (metrics : Metrics) :
    Tidy { s with metrics } := by
  intro inactive
  obtain ⟨ledger, subscriptions⟩ := tidy inactive
  exact ⟨ledger, subscriptions⟩

section Inactive

variable {groups : Resolver} {s : Center}

theorem ifActive_inactive (inactive : s.isActive = false) (reply : Reply) (o : Outcome) :
    (s.ifActive reply o).center = s := by
  rw [ifActive, inactive]
  rfl

theorem forGroup_inactive (inactive : s.isActive = false) (user : UserId) (reply : Reply)
    (act : ProfileGroup → Outcome) :
    (s.forGroup groups user fun g => s.ifActive reply (act g)).center = s := by
  unfold forGroup
  split
  · rfl
  · exact ifActive_inactive inactive reply _

theorem forOwner_inactive (inactive : s.isActive = false) (caller target : UserId)
    (op : IssueOperation) (reply : Reply) (act : ProfileGroup → Outcome) :
    (s.forOwner groups caller target op fun g => s.ifActive reply (act g)).center = s := by
  unfold forOwner forGroup
  split
  · rfl
  · dsimp only
    split
    · exact ifActive_inactive inactive reply _
    · rfl

end Inactive

theorem tidy_of_isActive {s : Center} (active : s.isActive = true) : s.Tidy := by
  intro inactive
  rw [active] at inactive
  cases inactive

theorem HoldsNothing.tidy {s : Center} (nothing : s.HoldsNothing) : s.Tidy := fun _ => nothing

end Center

namespace Operation

variable {groups : Resolver} {s : Center}

/-- What is asked for a user's sake changes nothing while the center is not active. Only a
registration can be ended. -/
theorem perform_inactive (inactive : s.isActive = false) {op : Operation} {user : UserId}
    (acts : op.actor? = some user) :
    (op.perform groups s).center = s ∨ ∃ observer, op = .unsubscribe observer user := by
  cases op with
  | submitReport source report event u => exact Or.inl (Center.forGroup_inactive inactive _ _ _)
  | storedReport source u => exact Or.inl (Center.ifActive_inactive inactive _ _)
  | reportFailure source event u => exact Or.inl (Center.forGroup_inactive inactive _ _ _)
  | requestRefresh reason u => exact Or.inl (Center.forGroup_inactive inactive _ _ _)
  | showView u => exact Or.inl (Center.forGroup_inactive inactive _ _ _)
  | subscribe observer u => exact Or.inl (Center.forGroup_inactive inactive _ _ _)
  | unsubscribe observer u =>
    cases acts
    exact Or.inr ⟨observer, rfl⟩
  | dismissIssue text u =>
    refine Or.inl ?_
    simp only [perform, Center.dismissIssue]
    split
    · rfl
    · exact Center.forOwner_inactive inactive _ _ _ _ _
  | executeAction issueText actionText u =>
    refine Or.inl ?_
    simp only [perform, Center.executeAction]
    split
    · rfl
    · split
      · rfl
      · split
        · rfl
        · exact Center.forOwner_inactive inactive _ _ _ _ _
  | start _ | showCatalogue | overrideCatalogue _ | resetCatalogue | forgetReports | isActive
  | followToggle _ | applyInitial _ => cases acts

theorem perform_isActive (s : Center) {op : Operation} {user : UserId}
    (acts : op.actor? = some user) : (op.perform groups s).center.isActive = s.isActive := by
  obtain ⟨enabled, declarations⟩ := perform_setting groups s acts
  rw [Center.isActive, Center.isActive, enabled, declarations]

end Operation

/-- From one center to the next, nothing is brought in without activity, and everything is thrown
out where the activity ends. -/
structure Center.Settles (s t : Center) : Prop where
  asleep : s.isActive = false → s.HoldsNothing → t.HoldsNothing
  awake : s.isActive = true → t.isActive = true ∨ t.HoldsNothing

namespace Center

theorem Settles.refl (s : Center) : s.Settles s :=
  ⟨fun _ nothing => nothing, Or.inl⟩

theorem Settles.tidy {s t : Center} (settles : s.Settles t) (tidy : s.Tidy) : t.Tidy := by
  cases active : s.isActive with
  | false => exact (settles.asleep active (tidy active)).tidy
  | true =>
    rcases settles.awake active with still | nothing
    · exact tidy_of_isActive still
    · exact nothing.tidy

theorem settles_start (s : Center) (loaded : Except Error Catalogue) :
    s.Settles (s.start loaded).center where
  asleep := fun _ nothing => ⟨nothing.ledger, nothing.subscriptions⟩
  awake := by
    intro active
    obtain ⟨enabled, there⟩ := Bool.and_eq_true_iff.mp active
    have still : (s.declarations.load loaded).isLoaded = true := by
      rw [Declarations.load_of_isLoaded there]
      exact there
    exact Or.inl (Bool.and_eq_true_iff.mpr ⟨enabled, still⟩)

theorem settles_setEnabled (s : Center) (value : Bool) : s.Settles (s.setEnabled value) := by
  cases value with
  | false => exact ⟨fun _ _ => ⟨rfl, rfl⟩, fun _ => Or.inr ⟨rfl, rfl⟩⟩
  | true =>
    refine ⟨fun _ nothing => ⟨nothing.ledger, nothing.subscriptions⟩, fun active => Or.inl ?_⟩
    exact Bool.and_eq_true_iff.mpr ⟨rfl, (Bool.and_eq_true_iff.mp active).2⟩

theorem settles_changeCatalogue (s : Center) (replacement : Option Catalogue) :
    s.Settles (s.changeCatalogue replacement).center := by
  unfold changeCatalogue Declarations.replace
  cases s.declarations with
  | pending => exact Settles.refl s
  | failed => exact Settles.refl s
  | loaded base earlier =>
    refine ⟨fun _ nothing => ⟨rfl, nothing.subscriptions⟩, fun active => Or.inl ?_⟩
    exact Bool.and_eq_true_iff.mpr ⟨(Bool.and_eq_true_iff.mp active).1, rfl⟩

end Center

theorem Subscriptions.remove_empty (o : Observer) (u : UserId) :
    (∅ : Subscriptions).remove o u = ∅ := rfl

namespace Operation

variable {groups : Resolver}

theorem perform_settles (s : Center) (op : Operation) :
    s.Settles (op.perform groups s).center := by
  cases acts : op.actor? with
  | some user =>
    -- users neither begin nor end the activity, and without it they bring nothing in
    refine ⟨fun inactive nothing => ?_, fun active => Or.inl ?_⟩
    · rcases perform_inactive inactive acts with same | ⟨observer, rfl⟩
      · rw [same]
        exact nothing
      · refine ⟨nothing.ledger, ?_⟩
        show s.subscriptions.remove observer _ = ∅
        rw [nothing.subscriptions, Subscriptions.remove_empty]
    · rw [perform_isActive s acts, active]
  | none =>
    cases op with
    | start loaded => exact s.settles_start loaded
    | showCatalogue =>
      rw [perform, s.showCatalogue_center]
      exact Center.Settles.refl s
    | overrideCatalogue c =>
      rw [perform, Center.overrideCatalogue]
      split
      · exact Center.Settles.refl s
      · exact s.settles_changeCatalogue _
    | resetCatalogue => exact s.settles_changeCatalogue none
    | forgetReports => exact ⟨fun _ nothing => ⟨rfl, nothing.subscriptions⟩, Or.inl⟩
    | isActive => exact Center.Settles.refl s
    | followToggle value =>
      rw [perform, Center.followToggle]
      split
      · exact Center.Settles.refl s
      · exact s.settles_setEnabled value
    | applyInitial value => exact s.settles_setEnabled value
    | _ => cases acts

end Operation

namespace Journal

theorem Reachable.tidy {j : Journal} (reachable : j.Reachable) :
    j.center.Tidy ∧ ∀ v ∈ j.visits, v.center.Tidy :=
  reachable.centers (Q := fun _ => True) (fun _ _ => ⟨rfl, rfl⟩)
    (fun _ metrics tidy => tidy.counted metrics)
    (fun _ s op _ tidy => (op.perform_settles s).tidy tidy) (fun _ _ => trivial)

/-- However operations interleave, the center holds nothing while the toggle is off or no catalogue
is there. So a critical section that finds it like that, in particular one that turns the toggle on
or brings the catalogue, leaves a center that holds nothing. -/
theorem inactive_holds_nothing {j : Journal} (reachable : j.Reachable) :
    (j.center.enabled = false ∨ j.center.declarations.isLoaded = false →
      j.center.HoldsNothing) ∧
    ∀ v ∈ j.visits, v.center.enabled = false ∨ v.center.declarations.isLoaded = false →
      v.outcome.center.HoldsNothing := by
  obtain ⟨now, past⟩ := reachable.tidy
  constructor
  · intro inactive
    exact now (j.center.isActive_eq_false_iff.mpr inactive)
  · intro v member inactive
    have asleep := v.center.isActive_eq_false_iff.mpr inactive
    exact (v.op.perform_settles v.center).asleep asleep (past v member asleep)

/-- A center with a report and an observer is turned off, and on again. -/
theorem inactive_holds_nothing_of_switched_off :
    let groups : Resolver := fun u => some (.single u)
    let weak : Issue := { key := "weak", severity := .recommendation }
    let report : Report := { session := "first", issues := [weak] }
    let started := enter { center := {} } groups (.start (.ok ⟨[{ id := ⟨"lock"⟩ }]⟩))
    let watched := started.enter groups (.subscribe ⟨"page"⟩ ⟨1⟩)
    let reported := watched.enter groups
      (.submitReport ⟨"lock"⟩ (some report) ⟨.deviceRebooted, none⟩ ⟨1⟩)
    let off := reported.enter groups (.followToggle false)
    let on := off.enter groups (.followToggle true)
    on.Reachable ∧ ¬ reported.center.HoldsNothing ∧ off.center.enabled = false ∧
      on.center.isActive = true ∧ on.center.HoldsNothing := by
  intro groups weak report started watched reported off on
  have built : Reachable { center := {} } := .built true
  have switched : on.Reachable :=
    ((((built.step (.enter _ groups (.start _))).step (.enter _ groups (.subscribe _ _))).step
      (.enter _ groups (.submitReport _ _ _ _))).step (.enter _ groups (.followToggle _))).step
      (.enter _ groups (.followToggle _))
  have held : ¬ reported.center.HoldsNothing := fun nothing =>
    absurd nothing.subscriptions (by decide)
  have last : (⟨groups, .followToggle true, off.center⟩ : Visit) ∈ on.visits := by
    rw [visits_enter]
    exact List.mem_append_right _ (List.mem_singleton_self _)
  exact ⟨switched, held, rfl, rfl, (inactive_holds_nothing switched).2 _ last (Or.inl rfl)⟩

end Journal

end SafetyCenter
