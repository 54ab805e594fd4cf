import Mathlib.Data.List.Induction
import SafetyCenter.Catalogue
import SafetyCenter.Proofs.Ledger.Run

set_option autoImplicit false

namespace SafetyCenter.Declarations

open Ledger (Since not_since_nil since_concat)

variable {σ : Type}

/-- Answers with a catalogue or why there is none. Asking may change the world that it looks at. -/
abbrev Loader (σ : Type) := σ → Except Error Catalogue × σ

/-- Loads with a loader, which is not asked if a load was made before. -/
def loadFrom (loader : Loader σ) (world : σ) : Declarations → Declarations × σ
  | .pending => (load (loader world).1 .pending, (loader world).2)
  | .failed => (.failed, world)
  | .loaded base replacement => (.loaded base replacement, world)

/-- Not to ask the loader makes no difference to what is declared. -/
theorem fst_loadFrom (loader : Loader σ) (world : σ) (d : Declarations) :
    (d.loadFrom loader world).1 = d.load (loader world).1 := by
  cases d with
  | pending => rfl
  | failed => rfl
  | loaded _ _ => rfl

inductive Request (σ : Type) where
  | load (loader : Loader σ)
  | override (c : Catalogue)
  | reset

/-- What a request is answered if it is not refused. -/
inductive Reply where
  /-- whether a catalogue is there -/
  | loaded (there : Bool)
  | replaced
  deriving DecidableEq

/-- Declarations and the world that loaders look at. -/
structure Setting (σ : Type) where
  declarations : Declarations
  world : σ

structure Step (σ : Type) where
  after : Setting σ
  answer : Except Error Reply

def Setting.exchange (s : Setting σ) (replacement : Option Catalogue) : Step σ :=
  match s.declarations.replace replacement with
  | .error e => ⟨s, .error e⟩
  | .ok declarations => ⟨{ s with declarations }, .ok .replaced⟩

namespace Request

def perform (s : Setting σ) : Request σ → Step σ
  | .load loader =>
    let (declarations, world) := s.declarations.loadFrom loader s.world
    ⟨⟨declarations, world⟩, .ok (.loaded declarations.isLoaded)⟩
  | .override c => s.exchange (some c)
  | .reset => s.exchange none

def isLoad : Request σ → Bool
  | .load _ => true
  | .override _ => false
  | .reset => false

/-- The answer to a request, by whether a catalogue is there. -/
def answerIf (there : Bool) : Request σ → Except Error Reply
  | .load _ => .ok (.loaded there)
  | .override _ => if there then .ok .replaced else .error notLoaded
  | .reset => if there then .ok .replaced else .error notLoaded

def standIn (before : Option Catalogue) : Request σ → Option Catalogue
  | .load _ => before
  | .override c => some c
  | .reset => none

end Request

def run (s : Setting σ) (log : List (Request σ)) : Setting σ :=
  log.foldl (fun s r => (r.perform s).after) s

def answers (s : Setting σ) : List (Request σ) → List (Except Error Reply)
  | [] => []
  | r :: log => (r.perform s).answer :: answers (r.perform s).after log

/-- The last that was asked, loads apart, is to put a catalogue in the place of the loaded one. -/
def StandsIn (log : List (Request σ)) (c : Catalogue) : Prop :=
  Since (· = .override c) (·.isLoad = true) log

theorem run_append (s : Setting σ) (first second : List (Request σ)) :
    run s (first ++ second) = run (run s first) second :=
  List.foldl_append

theorem answers_append (s : Setting σ) (first second : List (Request σ)) :
    answers s (first ++ second) = answers s first ++ answers (run s first) second := by
  induction first generalizing s with
  | nil => rfl
  | cons r first ih => exact congrArg (List.cons _) (ih (r.perform s).after)

/-- The declarations with something else standing in for what was loaded, if anything was. -/
def withStandIn (change : Option Catalogue → Option Catalogue) : Declarations → Declarations
  | .loaded base replacement => .loaded base (change replacement)
  | .pending => .pending
  | .failed => .failed

section StandIn

variable (d : Declarations) (f g : Option Catalogue → Option Catalogue)

theorem withStandIn_id : d.withStandIn (fun before => before) = d := by
  cases d with
  | loaded base replacement => rfl
  | pending | failed => rfl

theorem withStandIn_withStandIn :
    (d.withStandIn f).withStandIn g = d.withStandIn fun before => g (f before) := by
  cases d with
  | loaded base replacement => rfl
  | pending | failed => rfl

@[simp] theorem isLoaded_withStandIn : (d.withStandIn f).isLoaded = d.isLoaded := by
  cases d with
  | loaded base replacement => rfl
  | pending | failed => rfl

theorem withStandIn_eq_pending_iff : d.withStandIn f = .pending ↔ d = .pending := by
  cases d with
  | loaded base replacement => simp [withStandIn]
  | pending | failed => simp [withStandIn]

end StandIn

/-- A request that is not the first load asks no loader. Without a catalogue it has no effect, and
with one it says at most what stands in for that. -/
theorem perform_of_late (s : Setting σ) {r : Request σ}
    (late : s.declarations ≠ .pending ∨ r.isLoad = false) :
    r.perform s = ⟨{ s with declarations := s.declarations.withStandIn (r.standIn ·) },
      r.answerIf s.declarations.isLoaded⟩ := by
  obtain ⟨d, world⟩ := s
  cases r with
  | load loader =>
    cases d with
    | pending => simp [Request.isLoad] at late
    | loaded | failed => rfl
  | override | reset =>
    cases d with
    | loaded base replacement => rfl
    | pending | failed => rfl

/-- Requests without a first load among them ask no loader, and find the same there all along. -/
theorem run_of_late (s : Setting σ) {log : List (Request σ)}
    (late : s.declarations ≠ .pending ∨ ∀ r ∈ log, r.isLoad = false) :
    run s log = { s with
        declarations := s.declarations.withStandIn fun before => log.foldl Request.standIn before } ∧
      answers s log = log.map (·.answerIf s.declarations.isLoaded) := by
  induction log generalizing s with
  | nil =>
    constructor
    · simp only [run, List.foldl_nil, withStandIn_id]
    · rfl
  | cons r log ih =>
    have first := perform_of_late s (late.imp_right fun quiet => quiet r List.mem_cons_self)
    have later : (r.perform s).after.declarations ≠ .pending ∨ ∀ r ∈ log, r.isLoad = false := by
      rw [first]
      exact late.imp (mt (withStandIn_eq_pending_iff _ _).mp)
        fun quiet r member => quiet r (List.mem_cons_of_mem _ member)
    obtain ⟨ended, answered⟩ := ih _ later
    rw [first] at ended answered
    constructor
    · rw [run, List.foldl_cons, ← run, first, ended]
      simp only [withStandIn_withStandIn, List.foldl_cons]
    · rw [answers, first, answered, isLoaded_withStandIn, List.map_cons]

theorem foldl_standIn_eq_some_iff (log : List (Request σ)) (c : Catalogue) :
    log.foldl Request.standIn none = some c ↔ StandsIn log c := by
  induction log using List.reverseRecOn with
  | nil => exact iff_of_false (Option.some_ne_none c).symm (not_since_nil _ _)
  | append_singleton log r ih =>
    rw [List.foldl_append, List.foldl_cons, List.foldl_nil, StandsIn, since_concat, ← StandsIn, ← ih]
    cases r with
    | load loader => simp [Request.standIn, Request.isLoad]
    | override | reset => simp [Request.standIn, Request.isLoad]

/-- What requests come to of which none is a load. -/
structure NeverLoaded (world : σ) (log : List (Request σ)) : Prop where
  /-- nothing is declared, and no loader was asked -/
  unchanged : run ⟨.pending, world⟩ log = ⟨.pending, world⟩
  isLoaded : (run ⟨.pending, world⟩ log).declarations.isLoaded = false
  answers : answers ⟨.pending, world⟩ log = log.map fun _ => .error notLoaded

/-- What requests come to of which some come before the first load and others after it. -/
structure LoadedOnce (world : σ) (before : List (Request σ)) (loader : Loader σ)
    (after : List (Request σ)) (s : Setting σ) (answers : List (Except Error Reply)) : Prop where
  /-- no loader but that of the first load was asked -/
  asked : s.world = (loader world).2
  /-- a catalogue is there if the first load had one, and never otherwise -/
  isLoaded : s.declarations.isLoaded = (loader world).1.isOk
  /-- before the first load everything is refused; every load is answered as the first one is, and
  the rest is refused if that had no catalogue -/
  answers : answers = before.map (fun _ => .error notLoaded) ++
    (.load loader :: after).map (·.answerIf (loader world).1.isOk)
  /-- what is refused after the first load has no effect -/
  failed : (loader world).1.isOk = false → s.declarations = .failed
  /-- the catalogue put in the place of the loaded one last is in force -/
  replaced : ∀ base, (loader world).1 = .ok base → ∀ c, StandsIn after c → s.declarations.current = c
  /-- without one, the loaded one is -/
  original : ∀ base, (loader world).1 = .ok base → (∀ c, ¬ StandsIn after c) →
    s.declarations.current = base

theorem neverLoaded (world : σ) {log : List (Request σ)} (quiet : ∀ r ∈ log, r.isLoad = false) :
    NeverLoaded world log := by
  obtain ⟨ended, answered⟩ := run_of_late ⟨.pending, world⟩ (.inr quiet)
  refine ⟨ended, by rw [ended]; rfl, answered.trans (List.map_congr_left fun r member => ?_)⟩
  cases r with
  | load loader => cases quiet _ member
  | override | reset => rfl

/-- After the first load the declarations are what it made of them, but for what stands in. -/
theorem run_load (world : σ) {before : List (Request σ)} (loader : Loader σ)
    (after : List (Request σ)) (quiet : ∀ r ∈ before, r.isLoad = false) :
    run ⟨.pending, world⟩ (before ++ .load loader :: after) =
        ⟨(load (loader world).1 .pending).withStandIn
          fun earlier => after.foldl Request.standIn earlier, (loader world).2⟩ ∧
      answers ⟨.pending, world⟩ (before ++ .load loader :: after) =
        before.map (fun _ => .error notLoaded) ++
          (.load loader :: after).map (·.answerIf (load (loader world).1 .pending).isLoaded) := by
  have never := neverLoaded world quiet
  have late : load (loader world).1 .pending ≠ .pending ∨ ∀ r ∈ after, r.isLoad = false := by
    left
    cases (loader world).1 with
    | ok base => exact Declarations.noConfusion
    | error e => exact Declarations.noConfusion
  obtain ⟨ended, answered⟩ :=
    run_of_late ⟨load (loader world).1 .pending, (loader world).2⟩ late
  constructor
  · rw [run_append, never.unchanged]
    exact ended
  · rw [answers_append, never.unchanged, never.answers, List.map_cons, ← answered]
    rfl

/-- Only the first load counts, and only its loader is asked. As long as no load was made, or if the
first one had no catalogue, there is none, and nothing can be put in its place. If it had one, there
always is, and the one put in its place last is in force, or itself. -/
theorem loads_once (world : σ) :
    (∀ log : List (Request σ), (∀ r ∈ log, r.isLoad = false) → NeverLoaded world log) ∧
    ∀ (before : List (Request σ)) (loader : Loader σ) (after : List (Request σ)),
      (∀ r ∈ before, r.isLoad = false) →
      LoadedOnce world before loader after
        (run ⟨.pending, world⟩ (before ++ .load loader :: after))
        (answers ⟨.pending, world⟩ (before ++ .load loader :: after)) := by
  refine ⟨fun log quiet => neverLoaded world quiet, fun before loader after quiet => ?_⟩
  obtain ⟨ended, answered⟩ := run_load world loader after quiet
  have there : (load (loader world).1 .pending).isLoaded = (loader world).1.isOk := by
    cases (loader world).1 with
    | ok base => rfl
    | error e => rfl
  have current : ∀ base, (loader world).1 = .ok base →
      ((load (loader world).1 .pending).withStandIn
        fun earlier => after.foldl Request.standIn earlier).current =
        (after.foldl Request.standIn none).getD base := by
    intro base outcome
    rw [outcome]
    rfl
  rw [there] at answered
  rw [ended, answered]
  refine ⟨rfl, by rw [isLoaded_withStandIn, there], rfl, fun lacking => ?_,
    fun base outcome c standsIn => ?_, fun base outcome absent => ?_⟩
  · cases outcome : (loader world).1 with
    | ok base =>
      rw [outcome] at lacking
      cases lacking
    | error e => rfl
  · rw [current base outcome, (foldl_standIn_eq_some_iff after c).mpr standsIn, Option.getD_some]
  · have original : after.foldl Request.standIn none = Option.none :=
      Option.eq_none_iff_forall_ne_some.mpr fun c standsIn =>
        absent c ((foldl_standIn_eq_some_iff after c).mp standsIn)
    rw [current base outcome, original, Option.getD_none]

/-- A replacement that comes too early, a load, a second one that would fail, and a replacement. The
world counts how often a loader was asked. -/
theorem loads_once_of_two_loads :
    let lock : Catalogue := ⟨[{ id := ⟨"lock"⟩ }]⟩
    let scan : Catalogue := ⟨[{ id := ⟨"scan"⟩ }]⟩
    let before : List (Request Nat) := [.override lock]
    let loader : Loader Nat := fun asked => (.ok lock, asked + 1)
    let after : List (Request Nat) :=
      [.load fun asked => (.error .missingPath, asked + 1), .override scan, .load loader]
    let s := run ⟨.pending, 0⟩ (before ++ .load loader :: after)
    (∀ r ∈ before, r.isLoad = false) ∧ NeverLoaded 0 before ∧ s.world = 1 ∧
      s.declarations.isLoaded = true ∧ s.declarations.current = scan := by
  intro lock scan before loader after s
  have quiet : ∀ r ∈ before, r.isLoad = false := List.forall_mem_singleton.mpr rfl
  have standsIn : StandsIn after scan :=
    ⟨after.take 1, .override scan, [.load loader], rfl, rfl, List.forall_mem_singleton.mpr rfl⟩
  have once := (loads_once 0).2 before loader after quiet
  exact ⟨quiet, (loads_once 0).1 before quiet, once.asked, once.isLoaded,
    once.replaced lock rfl scan standsIn⟩

end SafetyCenter.Declarations
