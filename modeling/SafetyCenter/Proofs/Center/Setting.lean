import Mathlib.Data.List.Nodup
import SafetyCenter.Catalogue.File
import SafetyCenter.Proofs.Center.Delivery
import SafetyCenter.Proofs.Center.Journal

set_option autoImplicit false

namespace SafetyCenter

namespace Catalogue

open Report (Keyed keyed_cons_iff)

theorem sourceFault?_eq_none_iff (seen : List SourceId) (sources : List Source) :
    sourceFault? seen sources = none ↔
      Keyed (·.id.name) sources ∧ ∀ s ∈ sources, s.id.name ∉ seen.map (·.name) := by
  -- each source that passes joins those seen, so these vary
  induction sources generalizing seen with
  | nil => simp [sourceFault?, Report.keyed_nil]
  | cons s ss ih =>
    rw [keyed_cons_iff]
    have known : s.id ∈ seen ↔ s.id.name ∈ seen.map (·.name) := by
      constructor
      · exact List.mem_map_of_mem
      · intro member
        obtain ⟨id, inside, same⟩ := List.mem_map.mp member
        cases id
        cases same
        exact inside
    unfold sourceFault?
    split
    · rename_i empty
      simp [empty]
    · rename_i named
      split
      · rename_i twice
        simp [known.mp twice]
      · rename_i fresh
        rw [ih]
        simp only [named, mt known.mpr fresh, not_false_eq_true, true_and, List.map_cons, ne_eq]

/-- A catalogue without faults has sources, and each has a name of its own. -/
theorem fault?_eq_none_iff (c : Catalogue) :
    c.fault? = none ↔ c.sources ≠ [] ∧ Keyed (·.id.name) c.sources := by
  unfold fault?
  split
  · rename_i empty
    simp [List.isEmpty_iff.mp empty]
  · rename_i some_source
    rw [sourceFault?_eq_none_iff]
    simpa using fun _ => some_source

/-- A catalogue without faults declares no source twice. -/
theorem nodup_ids {c : Catalogue} (faultless : c.fault? = none) : (c.sources.map (·.id)).Nodup := by
  have names : (c.sources.map (·.id.name)).Nodup := ((c.fault?_eq_none_iff).mp faultless).2.distinct
  apply List.Nodup.of_map SourceId.name
  rwa [List.map_map]

theorem fault?_of_checked {c c' : Catalogue} (accepted : c.checked = .ok c') :
    c'.fault? = none := by
  unfold checked at accepted
  split at accepted
  · cases accepted
  · rename_i faultless
    cases accepted
    exact faultless

/-- What the loaders at hand come to: a catalogue that is its own loader, or a file. -/
inductive OwnLoad : Except Error Catalogue → Prop where
  | catalogue (c : Catalogue) : OwnLoad c.checked
  | file (f : Option File) : OwnLoad (load f)

theorem OwnLoad.faultless {loaded : Except Error Catalogue} (own : OwnLoad loaded) {c : Catalogue}
    (success : loaded = .ok c) : c.fault? = none := by
  cases own with
  | catalogue c' => exact fault?_of_checked success
  | file f =>
    unfold load at success
    split at success
    · cases success
    · cases success
    · split at success
      · cases success
      · exact fault?_of_checked success

end Catalogue

/-- No catalogue that is or may come into force has a fault. -/
def Declarations.Faultless : Declarations → Prop
  | .loaded base replacement =>
    base.fault? = none ∧ ∀ c, replacement = some c → c.fault? = none
  | _ => True

namespace Declarations

theorem Faultless.load {d : Declarations} (faultless : d.Faultless)
    {outcome : Except Error Catalogue} (sources : ∀ c, outcome = .ok c → c.fault? = none) :
    (d.load outcome).Faultless := by
  cases d with
  | pending =>
    cases outcome with
    | error e => trivial
    | ok c => exact ⟨sources c rfl, nofun⟩
  | failed => trivial
  | loaded base replacement => exact faultless

theorem Faultless.replace {d d' : Declarations} (faultless : d.Faultless)
    {replacement : Option Catalogue} (sources : ∀ c, replacement = some c → c.fault? = none)
    (success : d.replace replacement = .ok d') : d'.Faultless := by
  cases d with
  | pending => cases success
  | failed => cases success
  | loaded base earlier =>
    cases success
    exact ⟨faultless.1, sources⟩

theorem Faultless.current {d : Declarations} (faultless : d.Faultless)
    (loaded : d.isLoaded = true) : d.current.fault? = none := by
  cases d with
  | pending => cases loaded
  | failed => cases loaded
  | loaded base replacement =>
    cases replacement with
    | none => exact faultless.1
    | some c => exact faultless.2 c rfl

end Declarations

def Operation.LoadsOwn : Operation → Prop
  | .start loaded => Catalogue.OwnLoad loaded
  | _ => True

namespace Center

theorem declarations_setEnabled (s : Center) (value : Bool) :
    (s.setEnabled value).declarations = s.declarations := by
  cases value <;> rfl

theorem faultless_changeCatalogue {s : Center} (faultless : s.declarations.Faultless)
    {replacement : Option Catalogue} (sources : ∀ c, replacement = some c → c.fault? = none) :
    (s.changeCatalogue replacement).center.declarations.Faultless := by
  unfold changeCatalogue
  split
  · exact faultless
  · rename_i declarations success
    exact faultless.replace sources success

end Center

namespace Operation

variable {groups : Resolver}

/-- What is asked for a user's sake leaves the toggle and the declarations as they are. -/
theorem perform_setting (groups : Resolver) (s : Center) {op : Operation} {user : UserId}
    (acts : op.actor? = some user) :
    (op.perform groups s).center.enabled = s.enabled ∧
      (op.perform groups s).center.declarations = s.declarations := by
  cases found : groups user with
  | none =>
    rcases perform_unknown s acts found with ⟨same, -⟩ | ⟨observer, rfl⟩
    · rw [same]
      exact ⟨rfl, rfl⟩
    · exact ⟨rfl, rfl⟩
  | some g =>
    rcases perform_tells s acts found with tells | ⟨observer, rfl⟩ | ⟨observer, rfl⟩
    · cases tells with
      | nothing setting view silent => exact ⟨setting.enabled, setting.declarations⟩
      | everyone setting error tail stages silent => exact ⟨setting.enabled, setting.declarations⟩
    · rcases s.subscribe_cases found observer with ⟨same, -⟩ | ⟨-, entered, -⟩
      · simp only [perform, same, and_self]
      · simp only [perform, entered, and_self]
    · exact ⟨rfl, rfl⟩

theorem perform_faultless (s : Center) (op : Operation) (own : op.LoadsOwn)
    (faultless : s.declarations.Faultless) :
    (op.perform groups s).center.declarations.Faultless := by
  cases acts : op.actor? with
  | some user =>
    rw [(perform_setting groups s acts).2]
    exact faultless
  | none =>
    cases op with
    | start loaded => exact faultless.load fun c success => own.faultless success
    | showCatalogue =>
      rw [perform, s.showCatalogue_center]
      exact faultless
    | overrideCatalogue c =>
      rw [perform, Center.overrideCatalogue]
      split
      · exact faultless
      · rename_i c' accepted
        refine Center.faultless_changeCatalogue faultless fun c'' same => ?_
        cases same
        exact Catalogue.fault?_of_checked accepted
    | resetCatalogue =>
      refine Center.faultless_changeCatalogue faultless fun c none_given => ?_
      cases none_given
    | forgetReports => exact faultless
    | isActive => exact faultless
    | followToggle value =>
      rw [perform, Center.followToggle]
      split
      · exact faultless
      · rw [s.declarations_setEnabled]
        exact faultless
    | applyInitial value =>
      rw [perform, Center.applyInitial, s.declarations_setEnabled]
      exact faultless
    | _ => cases acts

end Operation

/-- However the center came about, if all loads were those of the loaders at hand, the declarations
have no fault. -/
theorem Journal.Reachable.faultless {j : Journal} (reachable : j.Reachable)
    (own : ∀ v ∈ j.visits, v.op.LoadsOwn) : j.center.declarations.Faultless :=
  (reachable.centers (P := fun s => s.declarations.Faultless) (fun _ => trivial)
    (fun _ _ faultless => faultless) (fun _ s op => op.perform_faultless s) own).1

end SafetyCenter
