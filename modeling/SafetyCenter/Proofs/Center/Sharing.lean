import SafetyCenter.Proofs.Center.Journal
import SafetyCenter.Proofs.View.Ranking

set_option autoImplicit false

namespace SafetyCenter

def View.Mentions (v : View) (u : UserId) : Prop :=
  (∃ e ∈ v.entries, e.user = u) ∨ ∃ i ∈ v.issues, i.id.user = u

namespace Ledger

/-- The view of a group shows nothing of anybody else. -/
theorem mem_of_mentions {l : Ledger} {c : Catalogue} {g : ProfileGroup} {u : UserId}
    (mentioned : (l.view c g).Mentions u) : u ∈ g := by
  rcases mentioned with ⟨e, member, rfl⟩ | ⟨i, member, rfl⟩
  · obtain ⟨⟨s, w⟩, pair, made⟩ := List.mem_filterMap.mp member
    have user : e.user = w := congrArg Slot.user (place_of_entryOf? made)
    rw [user]
    exact Source.mem_of_covers (Catalogue.mem_reportingPairs.mp pair).2.2
  · have listed := (View.keepFirst_sublist _).subset (View.mem_rankIssues.mp member)
    obtain ⟨⟨s, w⟩, pair, inside⟩ := List.mem_flatMap.mp listed
    have user : i.id.user = w := congrArg Slot.user (slot_of_mem_shownIssues inside)
    rw [user]
    exact Source.mem_of_covers (Catalogue.mem_reportingPairs.mp pair).2.2

end Ledger

namespace ProfileGroup.Directory

variable {groups : Directory} {g : ProfileGroup} {u v : UserId}

/-- A group behind all places of a group has a user. -/
def Supersedes (groups : Directory) (g : ProfileGroup) (v : UserId) : Prop :=
  ∃ before after, groups = before ++ g :: after ∧ g ∉ after ∧ ∃ h ∈ after, v ∈ h

theorem exists_last_place (listed : g ∈ groups) :
    ∃ before after, groups = before ++ g :: after ∧ g ∉ after := by
  obtain ⟨behind, front, split, last⟩ :=
    List.eq_append_cons_of_mem (List.mem_reverse.mpr listed)
  refine ⟨front.reverse, behind.reverse, ?_, ?_⟩
  · rw [← List.reverse_reverse groups, split]
    simp
  · simpa using last

theorem find?_append (front back : Directory) (u : UserId) :
    find? (front ++ back) u = (find? back u).or (find? front u) := by
  rw [find?, List.reverse_append, List.find?_append]
  rfl

theorem find?_eq_none_iff : groups.find? u = none ↔ ∀ h ∈ groups, u ∉ h := by
  simp [find?]

/-- Whoever is in a group of the directory is found in some group. -/
theorem exists_find? (listed : g ∈ groups) (member : v ∈ g) :
    ∃ h, groups.find? v = some h := by
  refine Option.ne_none_iff_exists'.mp fun absent => ?_
  exact find?_eq_none_iff.mp absent g listed member

/-- A member of a listed group acts for it unless a group behind it has the member. -/
theorem find?_member_iff (listed : g ∈ groups) (member : v ∈ g) :
    groups.find? v = some g ↔ ¬ groups.Supersedes g v := by
  have own : find? [g] v = some g := by
    simp [find?, member]
  constructor
  · intro found superseded
    obtain ⟨before, after, rfl, last, h, behind, other⟩ := superseded
    obtain ⟨k, later⟩ := exists_find? behind other
    rw [find?_append, ← List.singleton_append, find?_append, later] at found
    cases found
    exact last (mem_of_find? later).1
  · intro kept
    obtain ⟨before, after, rfl, last⟩ := exists_last_place listed
    have without : find? after v = none := find?_eq_none_iff.mpr fun h behind other =>
      kept ⟨before, after, rfl, last, h, behind, other⟩
    rw [find?_append, ← List.singleton_append, find?_append, without, own]
    rfl

/-- Where groups with a common member are the same group, every member acts for it. -/
theorem partitions_find?
    (apart : ∀ g ∈ groups, ∀ h ∈ groups, ∀ u, u ∈ g → u ∈ h → g = h) :
    Resolver.Partitions groups.find? where
  own := fun _ _ found => (mem_of_find? found).2
  shared := by
    intro u g found v member
    have listed := (mem_of_find? found).1
    refine (find?_member_iff listed member).mpr fun superseded => ?_
    obtain ⟨before, after, rfl, last, h, behind, other⟩ := superseded
    have same := apart g listed h (by simp [behind]) v member other
    exact last (same ▸ behind)

end ProfileGroup.Directory

namespace Center

theorem showView_of_group {groups : Resolver} {s : Center} {u : UserId} {g : ProfileGroup}
    (found : groups u = some g) :
    (s.showView groups u).answer = .ok (.view (if s.isActive then s.viewOf g else {})) := by
  rw [showView, forGroup, found]
  dsimp only
  rw [ifActive]
  split
  · rfl
  · rfl

/-- The members of the group that a user acts for share the user's view, except those that a group
behind it has. And if the user is shown something of somebody, it is a member of the group, and one
who has the user in a group of its own unless it is such an exception. -/
theorem members_share_view (s : Center) {groups : ProfileGroup.Directory} {u : UserId}
    {g : ProfileGroup} (found : groups.find? u = some g) :
    (∀ v ∈ g,
      (∃ h, groups.find? v = some h ∧ v ∈ h) ∧
      (groups.find? v = some g ↔ ¬ groups.Supersedes g v) ∧
      (¬ groups.Supersedes g v →
        (s.showView groups.find? v).answer = (s.showView groups.find? u).answer)) ∧
    ∀ view, (s.showView groups.find? u).answer = .ok (.view view) → ∀ v, view.Mentions v →
      v ∈ g ∧ (¬ groups.Supersedes g v → ∃ h, groups.find? v = some h ∧ u ∈ h) := by
  obtain ⟨listed, own⟩ := ProfileGroup.Directory.mem_of_find? found
  have acts : ∀ v ∈ g, ¬ groups.Supersedes g v → groups.find? v = some g := fun v member =>
    (ProfileGroup.Directory.find?_member_iff listed member).mpr
  constructor
  · intro v member
    refine ⟨?_, ProfileGroup.Directory.find?_member_iff listed member, fun kept => ?_⟩
    · obtain ⟨h, other⟩ := ProfileGroup.Directory.exists_find? listed member
      exact ⟨h, other, (ProfileGroup.Directory.mem_of_find? other).2⟩
    · rw [showView_of_group (acts v member kept), showView_of_group found]
  · intro view shown v mentioned
    rw [showView_of_group found] at shown
    cases shown
    have member : v ∈ g := by
      split at mentioned
      · exact Ledger.mem_of_mentions mentioned
      · rcases mentioned with ⟨e, inside, -⟩ | ⟨i, inside, -⟩
        · cases inside
        · cases inside
    exact ⟨member, fun kept => ⟨g, acts v member kept, own⟩⟩

/-- Two groups apart from each other, and a report for a profile of the first. -/
theorem members_share_view_of_profile :
    let groups : ProfileGroup.Directory := [.ofProfiles ⟨1⟩ [⟨2⟩], .single ⟨3⟩]
    let lock : Source := { id := ⟨"lock"⟩, profile := .allProfiles }
    let report : Report := { session := "first", status := some ⟨"Lock", "Fine", .information⟩ }
    let started := ((Operation.start (.ok ⟨[lock]⟩)).perform groups.find? {}).center
    let s := ((Operation.submitReport lock.id (some report) ⟨.deviceRebooted, none⟩ ⟨2⟩).perform
      groups.find? started).center
    groups.find? ⟨1⟩ = some (.ofProfiles ⟨1⟩ [⟨2⟩]) ∧
      (s.showView groups.find? ⟨1⟩).answer = .ok (.view (s.viewOf (.ofProfiles ⟨1⟩ [⟨2⟩]))) ∧
      (s.viewOf (.ofProfiles ⟨1⟩ [⟨2⟩])).Mentions ⟨2⟩ ∧
      (s.showView groups.find? ⟨2⟩).answer = (s.showView groups.find? ⟨1⟩).answer := by
  intro groups lock report started s
  have found : groups.find? ⟨1⟩ = some (.ofProfiles ⟨1⟩ [⟨2⟩]) := by decide
  have member : (⟨2⟩ : UserId) ∈ ProfileGroup.ofProfiles ⟨1⟩ [⟨2⟩] := by decide
  have mentioned : (s.viewOf (.ofProfiles ⟨1⟩ [⟨2⟩])).Mentions ⟨2⟩ := Or.inl (by decide)
  obtain ⟨-, acts, shares⟩ := (members_share_view s found).1 ⟨2⟩ member
  exact ⟨found, rfl, mentioned, shares (acts.mp (by decide))⟩

/-- A user is a profile in one group and the primary user of another one behind it. It acts for the
other one and is shown another view than the primary user of the first, who is shown what is
reported for it. -/
theorem overlapping_groups_do_not_share :
    let first : ProfileGroup := .ofProfiles ⟨1⟩ [⟨2⟩]
    let second : ProfileGroup := .ofProfiles ⟨2⟩ [⟨3⟩]
    let groups : ProfileGroup.Directory := [first, second]
    let lock : Source := { id := ⟨"lock"⟩, profile := .allProfiles }
    let report : Report := { session := "first", status := some ⟨"Lock", "Fine", .information⟩ }
    let started := Journal.enter { center := {} } groups.find? (.start (.ok ⟨[lock]⟩))
    let submitted : Journal → UserId → Journal := fun j u =>
      j.enter groups.find? (.submitReport lock.id (some report) ⟨.deviceRebooted, none⟩ u)
    let s := (submitted (submitted started ⟨1⟩) ⟨2⟩).center
    (submitted (submitted started ⟨1⟩) ⟨2⟩).Reachable ∧
      groups.find? ⟨1⟩ = some first ∧ ⟨2⟩ ∈ first ∧
      groups.find? ⟨2⟩ = some second ∧ second ≠ first ∧ ⟨1⟩ ∉ second ∧
      (s.showView groups.find? ⟨1⟩).answer = .ok (.view (s.viewOf first)) ∧
      (s.showView groups.find? ⟨2⟩).answer = .ok (.view (s.viewOf second)) ∧
      s.viewOf first ≠ s.viewOf second ∧ (s.viewOf first).Mentions ⟨2⟩ := by
  intro first second groups lock report started submitted s
  have built : Journal.Reachable { center := {} } := .built true
  have reachable : (submitted (submitted started ⟨1⟩) ⟨2⟩).Reachable :=
    ((built.step (.enter _ groups.find? (.start _))).step (.enter _ groups.find? _)).step
      (.enter _ groups.find? _)
  exact ⟨reachable, by decide, by decide, by decide, by decide, by decide, rfl, rfl, by decide,
    Or.inl (by decide)⟩

end Center

end SafetyCenter
