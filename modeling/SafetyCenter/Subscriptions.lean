import SafetyCenter.Assoc
import SafetyCenter.Distinct
import SafetyCenter.ProfileGroup

namespace SafetyCenter

/-- A receiver of views. Two observers are the same if their names are. -/
structure Observer where
  name : String
  deriving Repr, DecidableEq, Inhabited

structure Registration where
  observer : Observer
  user : UserId
  deriving DecidableEq

/-- The observers of each user. A user without observers has no key. -/
structure Subscriptions where
  observers : Assoc UserId (Distinct Observer) := ∅
  deriving DecidableEq, Inhabited

namespace Subscriptions

instance : EmptyCollection Subscriptions := ⟨{}⟩

def of (s : Subscriptions) (u : UserId) : Distinct Observer :=
  (s.observers.get? u).getD ∅

def has (s : Subscriptions) (o : Observer) (u : UserId) : Bool :=
  o ∈ s.of u

def assign (s : Subscriptions) (u : UserId) (os : Distinct Observer) : Subscriptions :=
  if os.toList.isEmpty then ⟨s.observers.erase u⟩ else ⟨s.observers.put u os⟩

def add (s : Subscriptions) (o : Observer) (u : UserId) : Subscriptions :=
  s.assign u ((s.of u).insert o)

def remove (s : Subscriptions) (o : Observer) (u : UserId) : Subscriptions :=
  s.assign u ((s.of u).erase o)

def removeUser (s : Subscriptions) (u : UserId) : Subscriptions :=
  s.assign u ∅

@[simp] theorem has_eq_true {s : Subscriptions} {o : Observer} {u : UserId} :
    s.has o u = true ↔ o ∈ s.of u := by
  simp [has]

@[simp] theorem of_assign (s : Subscriptions) (u u' : UserId) (os : Distinct Observer) :
    (s.assign u os).of u' = if u = u' then os else s.of u' := by
  unfold assign
  split
  · rename_i h
    have hos : os = ∅ := Distinct.ext (List.isEmpty_iff.1 h)
    by_cases hu : u = u' <;> simp [of, hu, hos]
  · by_cases hu : u = u' <;> simp [of, hu]

theorem of_add (s : Subscriptions) (o : Observer) (u u' : UserId) :
    (s.add o u).of u' = if u = u' then (s.of u').insert o else s.of u' := by
  by_cases h : u = u' <;> simp [add, h]

theorem of_remove (s : Subscriptions) (o : Observer) (u u' : UserId) :
    (s.remove o u).of u' = if u = u' then (s.of u').erase o else s.of u' := by
  by_cases h : u = u' <;> simp [remove, h]

def size (s : Subscriptions) : Nat :=
  s.observers.entries.foldl (fun n e => n + e.2.size) 0

def isEmpty (s : Subscriptions) : Bool :=
  s.observers.isEmpty

/-- The observers of a group: those of each member in turn, the primary user first. -/
def ofGroup (s : Subscriptions) (g : ProfileGroup) : List Observer :=
  g.users.flatMap fun u => (s.of u).toList

/-- The registrations of a group's members, the primary user's first. -/
def registrations (s : Subscriptions) (g : ProfileGroup) : List Registration :=
  g.users.flatMap fun u => (s.of u).toList.map fun o => ⟨o, u⟩

theorem map_observer_registrations (s : Subscriptions) (g : ProfileGroup) :
    (s.registrations g).map (·.observer) = s.ofGroup g := by
  simp [registrations, ofGroup, List.map_flatMap, Function.comp_def]

theorem mem_registrations {s : Subscriptions} {g : ProfileGroup} {r : Registration} :
    r ∈ s.registrations g ↔ r.user ∈ g ∧ r.observer ∈ s.of r.user := by
  simp only [registrations, List.mem_flatMap, List.mem_map, ProfileGroup.mem_users,
    Distinct.mem_toList]
  constructor
  · intro given
    obtain ⟨u, member, o, registered, rfl⟩ := given
    exact ⟨member, registered⟩
  · intro given
    obtain ⟨member, registered⟩ := given
    exact ⟨r.user, member, r.observer, registered, rfl⟩

def text (s : Subscriptions) : String :=
  let counts := s.observers.entries.map fun e =>
    "UserId(" ++ e.1.text ++ "): " ++ toString e.2.size
  "ListenerRegistry \x7b observers: \x7b" ++ ", ".intercalate counts ++ "\x7d \x7d"

end Subscriptions

end SafetyCenter
