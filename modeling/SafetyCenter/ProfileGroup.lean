import SafetyCenter.Distinct
import SafetyCenter.Id

namespace SafetyCenter

/-- A primary user and its profiles, all different. -/
structure ProfileGroup where
  primary : UserId
  profiles : List UserId
  nodup : (primary :: profiles).Nodup
  deriving DecidableEq

namespace ProfileGroup

/-- The group of a primary user and profiles; repeats and the primary user itself are dropped. -/
def ofProfiles (primary : UserId) (profiles : List UserId) : ProfileGroup where
  primary := primary
  profiles := ((Distinct.ofList profiles).erase primary).toList
  nodup := List.nodup_cons.2
    ⟨fun h => (Distinct.mem_erase.1 h).2 rfl, ((Distinct.ofList profiles).erase primary).nodup⟩

def single (user : UserId) : ProfileGroup where
  primary := user
  profiles := []
  nodup := by simp

def users (g : ProfileGroup) : List UserId :=
  g.primary :: g.profiles

theorem nodup_users (g : ProfileGroup) : g.users.Nodup := g.nodup

instance : Membership UserId ProfileGroup := ⟨fun g u => u ∈ g.users⟩

instance (u : UserId) (g : ProfileGroup) : Decidable (u ∈ g) :=
  inferInstanceAs (Decidable (u ∈ g.users))

@[simp] theorem mem_users {u : UserId} {g : ProfileGroup} : u ∈ g.users ↔ u ∈ g := Iff.rfl

theorem mem_iff {u : UserId} {g : ProfileGroup} : u ∈ g ↔ u = g.primary ∨ u ∈ g.profiles :=
  List.mem_cons

@[simp] theorem mem_ofProfiles {u primary : UserId} {profiles : List UserId} :
    u ∈ ofProfiles primary profiles ↔ u = primary ∨ u ∈ profiles := by
  rw [mem_iff]
  by_cases h : u = primary
  · simp [ofProfiles, h]
  · simp [ofProfiles, h]

@[simp] theorem mem_single {u user : UserId} : u ∈ single user ↔ u = user := by
  simp [mem_iff, single]

def manages (g : ProfileGroup) (u : UserId) : Bool :=
  u ∈ g.profiles

def text (g : ProfileGroup) : String :=
  let profiles := g.profiles.map fun u => "UserId(" ++ u.text ++ ")"
  "ProfileGroup(primary=" ++ g.primary.text ++ ", profiles=[" ++ ", ".intercalate profiles ++ "])"

/-- A fixed list of groups. Of two groups with a common user the later one counts for it. -/
abbrev Directory := List ProfileGroup

/-- The last group of a directory that has a user. -/
def Directory.find? (groups : Directory) (u : UserId) : Option ProfileGroup :=
  groups.reverse.find? (u ∈ ·)

/-- The group that is found for a user has the user. -/
theorem Directory.mem_of_find? {groups : Directory} {u : UserId} {g : ProfileGroup}
    (h : groups.find? u = some g) : g ∈ groups ∧ u ∈ g :=
  ⟨List.mem_reverse.1 (List.mem_of_find?_eq_some h), by simpa using List.find?_some h⟩

end ProfileGroup

/-- Answers which group a user acts for; no answer means that the user is unknown. -/
abbrev Resolver := UserId → Option ProfileGroup

end SafetyCenter
