import Mathlib.Data.List.Induction
import Mathlib.Data.List.Nodup
import SafetyCenter.Proofs.Ledger.Run
import SafetyCenter.Subscriptions

set_option autoImplicit false

namespace SafetyCenter.Subscriptions

open Ledger (Since not_since_nil since_concat)

inductive Request where
  | add (observer : Observer) (user : UserId)
  | remove (observer : Observer) (user : UserId)
  | removeUser (user : UserId)
  | clear

namespace Request

def perform (s : Subscriptions) : Request → Subscriptions
  | .add o u => s.add o u
  | .remove o u => s.remove o u
  | .removeUser u => s.removeUser u
  | .clear => ∅

/-- Whether the one registration that a request names begins or ends with it. -/
def answer? (s : Subscriptions) : Request → Option Bool
  | .add o u => some (!s.has o u)
  | .remove o u => some (s.has o u)
  | .removeUser _ => none
  | .clear => none

/-- Whether a request leaves the registration of an observer for a user as it is if it is there. -/
def spares (o : Observer) (u : UserId) : Request → Bool
  | .add _ _ => true
  | .remove o' u' => !(o' = o ∧ u' = u)
  | .removeUser u' => u' ≠ u
  | .clear => false

end Request

def run (s : Subscriptions) (log : List Request) : Subscriptions :=
  log.foldl Request.perform s

/-- The last request that concerns an observer and a user is to register the one for the other. -/
def Registered (log : List Request) (o : Observer) (u : UserId) : Prop :=
  Since (· = .add o u) (·.spares o u = true) log

/-- The registration in force began with the request at a place: it was asked for there, was not there
before, and was not ended since. -/
structure BeganAt (log : List Request) (o : Observer) (u : UserId) (n : Nat) : Prop where
  asked : log[n]? = some (.add o u)
  fresh : ¬ Registered (log.take n) o u
  kept : ∀ r ∈ log.drop (n + 1), r.spares o u = true

/-- Two observers of a user in the order in which their registrations began. -/
def BeganBefore (log : List Request) (u : UserId) (o o' : Observer) : Prop :=
  ∃ m n, BeganAt log o u m ∧ BeganAt log o' u n ∧ m < n

/-- Two registrations in the order of a group: by user, the primary user first, and for the same user
by when they began. -/
def Precedes (log : List Request) (g : ProfileGroup) (r r' : Registration) : Prop :=
  [r.user, r'.user].Sublist g.users ∨
    r.user = r'.user ∧ BeganBefore log r.user r.observer r'.observer

section Log

variable {log : List Request} {o : Observer} {u : UserId}

theorem registered_concat (r : Request) :
    Registered (log ++ [r]) o u ↔ r = .add o u ∨ Registered log o u ∧ r.spares o u = true :=
  since_concat _ _ log r

/-- One more request leaves it as it is when a registration began, unless it ends it. -/
theorem BeganAt.concat {n : Nat} (began : BeganAt log o u n) {r : Request}
    (spared : r.spares o u = true) : BeganAt (log ++ [r]) o u n := by
  obtain ⟨inside, -⟩ := List.getElem?_eq_some_iff.mp began.asked
  refine ⟨?_, ?_, ?_⟩
  · rw [List.getElem?_append_left inside]
    exact began.asked
  · rw [List.take_append_of_le_length (Nat.le_of_lt inside)]
    exact began.fresh
  · rw [List.drop_append_of_le_length inside, List.forall_mem_append, List.forall_mem_singleton]
    exact ⟨began.kept, spared⟩

/-- A registration that was not there begins with the request for it. -/
theorem beganAt_length (fresh : ¬ Registered log o u) :
    BeganAt (log ++ [.add o u]) o u log.length where
  asked := by simp
  fresh := by
    rw [List.take_left]
    exact fresh
  kept := by simp

theorem BeganAt.lt_length {n : Nat} (began : BeganAt log o u n) : n < log.length :=
  (List.getElem?_eq_some_iff.mp began.asked).1

/-- Whatever is registered began with some request. -/
theorem Registered.exists_beganAt (registered : Registered log o u) : ∃ n, BeganAt log o u n := by
  induction log using List.reverseRecOn with
  | nil => exact absurd registered (not_since_nil _ _)
  | append_singleton log r ih =>
    by_cases earlier : Registered log o u
    · obtain ⟨n, began⟩ := ih earlier
      refine ⟨n, began.concat ?_⟩
      rcases (registered_concat r).mp registered with rfl | ⟨-, spared⟩
      · rfl
      · exact spared
    · rcases (registered_concat r).mp registered with rfl | ⟨there, -⟩
      · exact ⟨log.length, beganAt_length earlier⟩
      · exact absurd there earlier

end Log

section Step

variable (s : Subscriptions) (r : Request) (u : UserId)

/-- What a request does to the observers of a user: it puts a new one behind them, or it leaves those
whose registrations it does not end. -/
theorem perform_cases :
    (∃ o, r = .add o u ∧ o ∉ s.of u ∧ ((r.perform s).of u).toList = (s.of u).toList ++ [o]) ∨
      ((∀ o, r = .add o u → o ∈ s.of u) ∧
        ((r.perform s).of u).toList = (s.of u).toList.filter (r.spares · u)) := by
  cases r with
  | add o v =>
    have all : (s.of u).toList.filter ((Request.add o v).spares · u) = (s.of u).toList :=
      List.filter_eq_self.mpr fun _ _ => rfl
    rw [all, Request.perform, of_add]
    by_cases own : v = u
    · subst own
      rw [if_pos rfl]
      by_cases known : o ∈ s.of v
      · rw [Distinct.insert_of_mem known]
        refine .inr ⟨fun o' same => ?_, rfl⟩
        cases same
        exact known
      · exact .inl ⟨o, rfl, known, Distinct.toList_insert_of_not_mem known⟩
    · rw [if_neg own]
      refine .inr ⟨fun o' same => ?_, rfl⟩
      cases same
      exact absurd rfl own
  | remove o v =>
    refine .inr ⟨fun _ same => Request.noConfusion same, ?_⟩
    rw [Request.perform, of_remove]
    by_cases own : v = u
    · simp [own, Request.spares, Distinct.erase, eq_comm]
    · rw [if_neg own]
      exact (List.filter_eq_self.mpr fun _ _ => by simp [Request.spares, own]).symm
  | removeUser v =>
    refine .inr ⟨fun _ same => Request.noConfusion same, ?_⟩
    rw [Request.perform, removeUser, of_assign]
    by_cases own : v = u
    · simp [own, Request.spares]
    · rw [if_neg own]
      exact (List.filter_eq_self.mpr fun _ _ => by simp [Request.spares, own]).symm
  | clear =>
    refine .inr ⟨fun _ same => Request.noConfusion same, ?_⟩
    exact (List.filter_eq_nil_iff.mpr fun _ _ => Bool.false_ne_true).symm

end Step

/-- No user is kept without observers. -/
def Tight (s : Subscriptions) : Prop :=
  ∀ e ∈ s.observers.entries, e.2.toList ≠ []

section Tight

variable {s : Subscriptions}

theorem tight_empty : (∅ : Subscriptions).Tight := by
  intro e member
  cases member

theorem Tight.assign (tight : s.Tight) (u : UserId) (os : Distinct Observer) :
    (s.assign u os).Tight := by
  unfold Subscriptions.assign
  split
  · intro e member
    exact tight e (List.mem_filter.mp member).1
  · rename_i some_observer
    intro e member
    rcases Assoc.eq_or_mem_of_mem_put member with rfl | before
    · simpa using some_observer
    · exact tight e before

theorem Tight.perform (tight : s.Tight) (r : Request) : (r.perform s).Tight := by
  cases r with
  | add o u => exact tight.assign u _
  | remove o u => exact tight.assign u _
  | removeUser u => exact tight.assign u _
  | clear => exact tight_empty

/-- The registrations of users with the observers of each. -/
def listed (es : List (UserId × Distinct Observer)) : List Registration :=
  es.flatMap fun e => e.2.toList.map fun o => ⟨o, e.1⟩

/-- No registration is listed twice where no user is. -/
theorem nodup_listed {es : List (UserId × Distinct Observer)} (users : (es.map Prod.fst).Nodup) :
    (listed es).Nodup := by
  refine List.nodup_flatMap.mpr ⟨fun e _ => ?_, ?_⟩
  · exact List.Nodup.map (fun o o' same => congrArg Registration.observer same) e.2.nodup
  · refine (List.pairwise_map.mp users).imp fun {e e'} apart r first second => apart ?_
    obtain ⟨o, -, rfl⟩ := List.mem_map.mp first
    obtain ⟨o', -, same⟩ := List.mem_map.mp second
    exact (congrArg Registration.user same).symm

def all (s : Subscriptions) : List Registration :=
  listed s.observers.entries

theorem mem_all {r : Registration} : r ∈ s.all ↔ r.observer ∈ s.of r.user := by
  unfold all listed of
  rw [List.mem_flatMap]
  constructor
  · intro given
    obtain ⟨⟨u, os⟩, kept, member⟩ := given
    obtain ⟨o, registered, rfl⟩ := List.mem_map.mp member
    rw [Assoc.get?_eq_some_iff.mpr kept]
    exact registered
  · intro registered
    cases found : s.observers.get? r.user with
    | none =>
      rw [found] at registered
      exact absurd registered (Distinct.not_mem_empty _)
    | some os =>
      rw [found] at registered
      exact ⟨(r.user, os), Assoc.get?_eq_some_iff.mp found,
        List.mem_map.mpr ⟨r.observer, registered, rfl⟩⟩

theorem foldl_size (es : List (UserId × Distinct Observer)) (n : Nat) :
    es.foldl (fun n e => n + e.2.size) n = n + (listed es).length := by
  induction es generalizing n with
  | nil => rfl
  | cons e es ih =>
    rw [List.foldl_cons, ih, Nat.add_assoc]
    simp only [listed, List.flatMap_cons, List.length_append, List.length_map, Distinct.size]

theorem length_all (s : Subscriptions) : s.all.length = s.size := by
  rw [size, foldl_size, Nat.zero_add, all]

theorem nodup_all (s : Subscriptions) : s.all.Nodup :=
  nodup_listed s.observers.nodup

/-- The same registrations are the same number of them. -/
theorem size_congr {t : Subscriptions} (same : ∀ o u, o ∈ t.of u ↔ o ∈ s.of u) :
    t.size = s.size := by
  have perm : t.all.Perm s.all := (List.perm_ext_iff_of_nodup t.nodup_all s.nodup_all).mpr fun r => by
    rw [mem_all, mem_all, same]
  rw [← length_all, ← length_all, perm.length_eq]

/-- One registration more. -/
theorem size_eq_add_one {t : Subscriptions} {o : Observer} {u : UserId} (fresh : o ∉ s.of u)
    (more : ∀ o' u', o' ∈ t.of u' ↔ (o' = o ∧ u' = u) ∨ o' ∈ s.of u') : t.size = s.size + 1 := by
  have new : (⟨o, u⟩ : Registration) ∉ s.all := mt mem_all.mp fresh
  have perm : t.all.Perm (⟨o, u⟩ :: s.all) :=
    (List.perm_ext_iff_of_nodup t.nodup_all (List.nodup_cons.mpr ⟨new, s.nodup_all⟩)).mpr fun r => by
      rw [mem_all, more, List.mem_cons, mem_all, Registration.mk.injEq]
  rw [← length_all, ← length_all, perm.length_eq, List.length_cons]

/-- A request for one registration is answered that it made a difference exactly if it did. -/
theorem size_perform {r : Request} {changed : Bool} (answered : r.answer? s = some changed) :
    changed = true ↔ (r.perform s).size ≠ s.size := by
  cases r with
  | add o u =>
    cases answered
    by_cases known : o ∈ s.of u
    · have same : (s.add o u).size = s.size := size_congr fun o' u' => by
        rw [of_add]
        split
        · rename_i own
          rw [← own, Distinct.insert_of_mem known]
        · rfl
      simp [Request.perform, same, known]
    · have more : (s.add o u).size = s.size + 1 := size_eq_add_one known fun o' u' => by
        by_cases own : u = u' <;> simp [of_add, own, or_comm, eq_comm]
      simp [Request.perform, more, has, known]
  | remove o u =>
    cases answered
    by_cases known : o ∈ s.of u
    · have fresh : o ∉ (s.remove o u).of u := by simp [of_remove]
      have fewer : s.size = (s.remove o u).size + 1 := size_eq_add_one fresh fun o' u' => by
        by_cases own : u = u'
        · subst own
          by_cases this : o' = o
          · simp [this, known]
          · simp [of_remove, this]
        · simp [of_remove, own, Ne.symm own]
      simp [Request.perform, fewer, known]
    · have same : (s.remove o u).size = s.size := size_congr fun o' u' => by
        rw [of_remove]
        split
        · rename_i own
          rw [← own, Distinct.erase_of_not_mem known]
        · rfl
      simp [Request.perform, same, known]
  | removeUser u => cases answered
  | clear => cases answered

/-- Where no user is kept without observers, nobody is registered exactly if no user is kept. -/
theorem Tight.isEmpty_iff (tight : s.Tight) : s.isEmpty = true ↔ s.size = 0 := by
  rw [← length_all, List.length_eq_zero_iff, isEmpty, Assoc.isEmpty, List.isEmpty_iff]
  constructor
  · intro none
    rw [all, none]
    rfl
  · intro none
    rw [all, listed, List.flatMap_eq_nil_iff] at none
    refine List.eq_nil_iff_forall_not_mem.mpr fun e kept => tight e kept ?_
    exact List.map_eq_nil_iff.mp (none e kept)

end Tight

theorem nodup_registrations (s : Subscriptions) (g : ProfileGroup) : (s.registrations g).Nodup := by
  have users : ((g.users.map fun u => (u, s.of u)).map Prod.fst).Nodup := by
    rw [List.map_map, Function.comp_def, List.map_id']
    exact g.nodup_users
  have same : s.registrations g = listed (g.users.map fun u => (u, s.of u)) := by
    rw [listed, List.flatMap_map, registrations]
  rw [same]
  exact nodup_listed users

/-- Subscriptions hold what a log of requests made of them. -/
structure Recorded (s : Subscriptions) (log : List Request) : Prop where
  registered : ∀ o u, o ∈ s.of u ↔ Registered log o u
  ordered : ∀ u, (s.of u).toList.Pairwise (BeganBefore log u)
  tight : s.Tight

section Recorded

variable {s : Subscriptions} {log : List Request}

theorem recorded_empty : Recorded ∅ [] where
  registered := by
    intro o u
    exact iff_of_false (Distinct.not_mem_empty o) (not_since_nil _ _)
  ordered := fun u => List.Pairwise.nil
  tight := tight_empty

/-- Two registrations that a request leaves stay in their order. -/
theorem BeganBefore.concat {u : UserId} {o o' : Observer} (before : BeganBefore log u o o')
    {r : Request} (spared : r.spares o u = true) (spared' : r.spares o' u = true) :
    BeganBefore (log ++ [r]) u o o' := by
  obtain ⟨m, n, began, began', earlier⟩ := before
  exact ⟨m, n, began.concat spared, began'.concat spared', earlier⟩

theorem Recorded.perform (recorded : Recorded s log) (r : Request) :
    Recorded (r.perform s) (log ++ [r]) where
  registered := by
    intro o u
    rw [registered_concat, ← recorded.registered, ← Distinct.mem_toList]
    rcases perform_cases s r u with ⟨o', rfl, new, now⟩ | ⟨known, now⟩
    · rw [now, List.mem_append, List.mem_singleton, Distinct.mem_toList]
      simp [Request.spares, or_comm, eq_comm]
    · rw [now, List.mem_filter, Distinct.mem_toList]
      refine ⟨.inr, fun given => given.elim (fun asked => ⟨known o asked, ?_⟩) id⟩
      rw [asked]
      rfl
  ordered := by
    intro u
    rcases perform_cases s r u with ⟨o, rfl, new, now⟩ | ⟨-, now⟩
    · rw [now, List.pairwise_append]
      refine ⟨(recorded.ordered u).imp fun before => before.concat rfl rfl,
        List.pairwise_singleton _ _, fun o' there o'' last => ?_⟩
      rw [List.mem_singleton.mp last]
      obtain ⟨m, began⟩ := ((recorded.registered o' u).mp there).exists_beganAt
      exact ⟨m, log.length, began.concat rfl,
        beganAt_length (mt (recorded.registered o u).mpr new), began.lt_length⟩
    · rw [now]
      refine List.Pairwise.imp_of_mem (fun first second before => ?_)
        ((recorded.ordered u).sublist List.filter_sublist)
      exact before.concat (List.mem_filter.mp first).2 (List.mem_filter.mp second).2
  tight := recorded.tight.perform r

theorem recorded_run (log : List Request) : Recorded ((∅ : Subscriptions).run log) log := by
  induction log using List.reverseRecOn with
  | nil => exact recorded_empty
  | append_singleton log r ih =>
    rw [run, List.foldl_append]
    exact ih.perform r

end Recorded

/-- What subscriptions answer is what a log of requests makes of them. -/
structure Reflects (s : Subscriptions) (log : List Request) : Prop where
  has : ∀ o u, s.has o u = true ↔ Registered log o u
  /-- a registration begins with a request for it exactly if it is not there -/
  begins : ∀ o u, (Request.add o u).answer? s = some true ↔ ¬ Registered log o u
  /-- a registration ends with a request for that exactly if it is there -/
  ends : ∀ o u, (Request.remove o u).answer? s = some true ↔ Registered log o u
  /-- what is answered is whether there are then more, or fewer, registrations -/
  changes : ∀ r changed, Request.answer? s r = some changed →
    (changed = true ↔ (r.perform s).size ≠ s.size)
  /-- the observers of a group are those of the registrations of its users, each once and in order -/
  ofGroup : ∀ g, ∃ rs : List Registration, s.ofGroup g = rs.map (·.observer) ∧ rs.Nodup ∧
    (∀ r, r ∈ rs ↔ r.user ∈ g ∧ Registered log r.observer r.user) ∧ rs.Pairwise (Precedes log g)
  size : ∃ rs : List Registration, s.size = rs.length ∧ rs.Nodup ∧
    ∀ r, r ∈ rs ↔ Registered log r.observer r.user
  isEmpty : s.isEmpty = true ↔ s.size = 0

/-- The registrations of a group stand in the order of its users and, for each, of their beginnings. -/
theorem Recorded.pairwise_registrations {s : Subscriptions} {log : List Request}
    (recorded : Recorded s log) (g : ProfileGroup) :
    (s.registrations g).Pairwise (Precedes log g) := by
  unfold registrations
  refine List.pairwise_flatMap.mpr ⟨fun u _ => ?_, ?_⟩
  · exact List.pairwise_map.mpr ((recorded.ordered u).imp fun before => .inr ⟨rfl, before⟩)
  · refine List.pairwise_iff_forall_sublist.mpr fun {u u'} order r first r' second => .inl ?_
    obtain ⟨o, -, rfl⟩ := List.mem_map.mp first
    obtain ⟨o', -, rfl⟩ := List.mem_map.mp second
    exact order

/-- From nothing, any sequence of requests leaves subscriptions that answer as the log says. -/
theorem run_reflects (log : List Request) : Reflects ((∅ : Subscriptions).run log) log where
  has := by
    intro o u
    rw [has_eq_true, (recorded_run log).registered]
  begins := by
    intro o u
    rw [← (recorded_run log).registered, Request.answer?, Option.some.injEq, Bool.not_eq_true',
      ← Bool.not_eq_true, has_eq_true]
  ends := by
    intro o u
    rw [← (recorded_run log).registered, Request.answer?, Option.some.injEq, has_eq_true]
  changes := fun _ _ answered => size_perform answered
  ofGroup := by
    intro g
    refine ⟨_, (map_observer_registrations _ g).symm, nodup_registrations _ g, fun r => ?_,
      (recorded_run log).pairwise_registrations g⟩
    rw [mem_registrations, (recorded_run log).registered]
  size := by
    refine ⟨_, (length_all _).symm, nodup_all _, fun r => ?_⟩
    rw [mem_all, (recorded_run log).registered]
  isEmpty := (recorded_run log).tight.isEmpty_iff

end SafetyCenter.Subscriptions
