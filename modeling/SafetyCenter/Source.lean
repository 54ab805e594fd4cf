import SafetyCenter.ProfileGroup

namespace SafetyCenter

inductive SourceKind where
  /-- shown only; never reports and is never refreshed -/
  | static
  /-- reports a status and issues -/
  | dynamic
  /-- reports issues; a status it reports is ignored -/
  | issueOnly
  deriving Repr, DecidableEq, Inhabited

inductive ProfileScope where
  | primaryOnly
  | allProfiles
  deriving Repr, DecidableEq, Inhabited

structure Source where
  id : SourceId
  kind : SourceKind := .dynamic
  profile : ProfileScope := .primaryOnly
  title : String := ""
  deriving Repr, DecidableEq, Inhabited

namespace Source

def isStatic (s : Source) : Bool :=
  s.kind = .static

/-- Whether a source covers a user within a group. -/
def covers (s : Source) (g : ProfileGroup) (u : UserId) : Bool :=
  match s.profile with
  | .primaryOnly => g.primary = u
  | .allProfiles => u ∈ g

/-- The members of a group that a source covers, the primary user first. -/
def coveredUsers (s : Source) (g : ProfileGroup) : List UserId :=
  g.users.filter (s.covers g)

@[simp] theorem mem_coveredUsers {s : Source} {g : ProfileGroup} {u : UserId} :
    u ∈ s.coveredUsers g ↔ u ∈ g ∧ s.covers g u = true := by
  simp [coveredUsers]

/-- A covered user is a member of the group. -/
theorem mem_of_covers {s : Source} {g : ProfileGroup} {u : UserId} (h : s.covers g u = true) :
    u ∈ g := by
  unfold covers at h
  split at h
  · exact ProfileGroup.mem_iff.2 (Or.inl (of_decide_eq_true h).symm)
  · exact of_decide_eq_true h

end Source

end SafetyCenter
