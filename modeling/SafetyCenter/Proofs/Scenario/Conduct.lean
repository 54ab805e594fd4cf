import SafetyCenter.Scenario.World

set_option autoImplicit false

namespace SafetyCenter

namespace Scenario

/-- What collaborators do when they are called, by the names under which behaviours are looked up:
how a call ends, and the steps that are taken at the first call from now on, the one after, and so
on. -/
abbrev Conduct := String → Option (Manner × (Nat → List Step))

namespace Conduct

def key? (h : Conduct) (c : Call) : Option String :=
  (behaviourKeys c).find? fun key => (h key).isSome

def answer (h : Conduct) (c : Call) : Manner × (Nat → List Step) :=
  ((h.key? c).bind h).getD (.succeed, fun _ => [])

def manner (h : Conduct) (c : Call) : Manner :=
  (h.answer c).1

/-- The steps that the receiver of a call takes before it answers. -/
def steps (h : Conduct) (c : Call) : List Step :=
  (h.answer c).2 0

def after (h : Conduct) (c : Call) : Conduct := fun key =>
  if h.key? c = some key then
    (h key).map fun (manner, steps) => (manner, fun n => steps (n + 1))
  else h key

def stepsOf : Conduct → List Call → List (List Step)
  | _, [] => []
  | h, c :: cs => h.steps c :: stepsOf (h.after c) cs

/-- Whoever takes no steps at the next call takes none later. -/
def Wearing (h : Conduct) : Prop :=
  ∀ key manner steps, h key = some (manner, steps) → steps 0 = [] → ∀ n, steps n = []

/-- Observers only take or refuse what they are shown. -/
def ObserversListen (h : Conduct) : Prop :=
  ∀ o view error, h.steps (.deliver o view error) = []

/-- The observers and the dispatch sink answer at once, and do nothing else. -/
def AnswersAtOnce (h : Conduct) : Prop :=
  ∀ c : Call, c.isToSource = false →
    h.steps c = [] ∧ (h.manner c = .succeed ∨ h.manner c = .fail)

variable {h : Conduct} {c : Call}

theorem answer_of_key? {key : String} {manner : Manner} {steps : Nat → List Step}
    (found : h.key? c = some key) (behaves : h key = some (manner, steps)) :
    h.answer c = (manner, steps) := by
  rw [answer, found, Option.bind_some, behaves, Option.getD_some]

/-- A call finds its answer under the name that it finds something under. -/
theorem exists_of_key? {key : String} (found : h.key? c = some key) :
    ∃ manner steps, h key = some (manner, steps) :=
  let ⟨(manner, steps), behaves⟩ := Option.isSome_iff_exists.mp
    (List.find?_some (p := fun key => (h key).isSome) found)
  ⟨manner, steps, behaves⟩

/-- A call leaves it as it is where everybody's answers are found. -/
theorem key?_after (h : Conduct) (c c' : Call) : (h.after c).key? c' = h.key? c' := by
  unfold key?
  congr 1
  funext key
  unfold after
  split
  · rw [Option.isSome_map]
  · rfl

/-- After a call, whoever answered it answers as at the call after. -/
theorem answer_after (h : Conduct) (c c' : Call) :
    (h.after c).answer c' = h.answer c' ∨
      (h.after c).answer c' = ((h.answer c').1, fun n => (h.answer c').2 (n + 1)) := by
  have same := key?_after h c c'
  cases found : h.key? c' with
  | none =>
    left
    rw [answer, answer, same, found, Option.bind_none, Option.bind_none]
  | some key =>
    obtain ⟨manner, steps, behaves⟩ := exists_of_key? found
    rw [answer_of_key? found behaves]
    by_cases used : h.key? c = some key
    · right
      refine answer_of_key? (same.trans found) ?_
      rw [after, if_pos used, behaves, Option.map_some]
    · left
      refine answer_of_key? (same.trans found) ?_
      rw [after, if_neg used, behaves]

/-- A call leaves it as it is how anybody ends calls. -/
@[simp] theorem manner_after (h : Conduct) (c c' : Call) :
    (h.after c).manner c' = h.manner c' := by
  rcases answer_after h c c' with same | next
  · rw [manner, same, manner]
  · rw [manner, next, manner]

/-- What is found for a call wears as everything does. -/
theorem Wearing.steps_eq_nil (wearing : h.Wearing) (quiet : h.steps c = []) (n : Nat) :
    (h.answer c).2 n = [] := by
  cases found : h.key? c with
  | none => rw [answer, found]; rfl
  | some key =>
    obtain ⟨manner, steps, behaves⟩ := exists_of_key? found
    rw [Conduct.steps] at quiet
    rw [answer_of_key? found behaves] at quiet ⊢
    exact wearing key manner steps behaves quiet n

/-- Whoever takes no steps takes none after other calls. -/
theorem Wearing.steps_after (wearing : h.Wearing) {c' : Call} (quiet : h.steps c' = []) (c : Call) :
    (h.after c).steps c' = [] := by
  rcases answer_after h c c' with same | next
  · rw [steps, same]
    exact quiet
  · rw [steps, next]
    exact wearing.steps_eq_nil quiet 1

/-- A call that is answered without steps leaves everybody's conduct as it is. -/
theorem Wearing.after_eq_self (wearing : h.Wearing) (quiet : h.steps c = []) : h.after c = h := by
  funext key
  unfold after
  split
  · rename_i found
    obtain ⟨manner, steps, behaves⟩ := exists_of_key? found
    have none : steps = fun _ => [] := by
      funext n
      have none := wearing.steps_eq_nil quiet n
      rwa [answer_of_key? found behaves] at none
    rw [behaves, Option.map_some, none]
  · rfl

theorem Wearing.observersListen_after (wearing : h.Wearing) (listen : h.ObserversListen)
    (c : Call) : (h.after c).ObserversListen :=
  fun o view error => wearing.steps_after (listen o view error) c

theorem Wearing.answersAtOnce_after (wearing : h.Wearing) (atOnce : h.AnswersAtOnce) (c : Call) :
    (h.after c).AnswersAtOnce := by
  intro c' outward
  obtain ⟨quiet, quick⟩ := atOnce c' outward
  exact ⟨wearing.steps_after quiet c, by rwa [manner_after]⟩

end Conduct

namespace World

def conduct (w : World) : Conduct := fun key =>
  (w.behaviours.get? key).map fun (b, used) =>
    (b.manner, fun n => if used + n < b.times then b.steps else [])

theorem wearing_conduct (w : World) : w.conduct.Wearing := by
  intro key manner steps behaves none n
  obtain ⟨⟨b, used⟩, -, same⟩ := Option.map_eq_some_iff.mp behaves
  simp only [Prod.mk.injEq] at same
  obtain ⟨-, rfl⟩ := same
  dsimp only at none ⊢
  split
  · rename_i more
    rwa [if_pos (by omega)] at none
  · rfl

/-- The behaviour that answers a call, and its name, are what the conduct is looked up by. -/
theorem findSome?_behaviours (w : World) (keys : List String) :
    (keys.findSome? fun key => (w.behaviours.get? key).map fun b => (key, b)) =
      (keys.find? fun key => (w.conduct key).isSome).bind fun key =>
        (w.behaviours.get? key).map fun b => (key, b) := by
  induction keys with
  | nil => rfl
  | cons key keys ih =>
    cases found : w.behaviours.get? key with
    | none => simpa [conduct, found] using ih
    | some b => simp [conduct, found]

/-- What starting a call does to a world. -/
theorem startCall_fst (w : World) (c : Call) :
    (w.startCall c).1 =
      { w with
        behaviours := (w.startCall c).1.behaviours
        events := .call c :: w.events } := by
  unfold startCall see
  dsimp only
  split <;> rfl

/-- A call is answered by what its receiver conducts itself by, and uses that up. -/
theorem startCall_conduct (w : World) (c : Call) :
    (w.startCall c).2.steps = w.conduct.steps c ∧ (w.startCall c).2.manner = w.conduct.manner c ∧
      (w.startCall c).1.conduct = w.conduct.after c := by
  unfold startCall see
  dsimp only
  rw [findSome?_behaviours, ← Conduct.key?]
  cases found : w.conduct.key? c with
  | none =>
    have same : w.conduct.answer c = (.succeed, fun _ => []) := by
      rw [Conduct.answer, found]
      rfl
    refine ⟨?_, ?_, ?_⟩
    · rw [Conduct.steps, same]
      rfl
    · rw [Conduct.manner, same]
      rfl
    · funext key
      rw [Conduct.after, found, if_neg (Option.some_ne_none key).symm]
      rfl
  | some key =>
    obtain ⟨manner, steps, behaves⟩ := Conduct.exists_of_key? found
    obtain ⟨⟨b, used⟩, stored, same⟩ := Option.map_eq_some_iff.mp behaves
    simp only [Prod.mk.injEq] at same
    obtain ⟨rfl, rfl⟩ := same
    simp only [Conduct.steps, Conduct.manner, Conduct.answer_of_key? found behaves,
      Option.bind_some, stored, Option.map_some, Nat.add_zero]
    refine ⟨?_, ?_, ?_⟩
    · split
      · rfl
      · rfl
    · split
      · rfl
      · rfl
    · funext key'
      simp only [conduct, Conduct.after, found, Assoc.get?_put, Option.some.injEq]
      split
      · rename_i same
        subst same
        simp only [stored, Option.map_some, Nat.add_assoc, Nat.add_comm 1]
      · rfl

/-- Where only behaviours of sources are set, everybody else succeeds at once. The names of these
behaviours start with `refresh` or `enabled`. -/
theorem answer_outward {w : World}
    (sources : ∀ key ∈ w.behaviours.keys, key.toList.head? = some 'r' ∨ key.toList.head? = some 'e')
    {c : Call} (outward : c.isToSource = false) : w.conduct.answer c = (.succeed, fun _ => []) := by
  have first : ∀ key ∈ behaviourKeys c,
      key.toList.head? = some 'd' ∨ key.toList.head? = some 'o' := by
    intro key member
    cases c with
    | refresh | announce => cases outward
    | dispatch target user kind =>
      rw [List.mem_singleton.mp member]
      exact .inl (by simp)
    | deliver observer view error =>
      rw [List.mem_singleton.mp member]
      exact .inr (by simp)
  have nowhere : w.conduct.key? c = none := List.find?_eq_none.mpr fun key member => by
    have absent : key ∉ w.behaviours.keys := by
      intro known
      rcases sources key known with letter | letter
      · rcases first key member with other | other <;> simp [letter] at other
      · rcases first key member with other | other <;> simp [letter] at other
    rw [conduct, Assoc.get?_of_not_mem_keys absent]
    exact Bool.false_ne_true
  rw [Conduct.answer, nowhere]
  rfl

theorem observersListen_of_sources {w : World}
    (sources : ∀ key ∈ w.behaviours.keys,
      key.toList.head? = some 'r' ∨ key.toList.head? = some 'e') : w.conduct.ObserversListen :=
  fun o view error => by rw [Conduct.steps, answer_outward sources rfl]

theorem answersAtOnce_of_sources {w : World}
    (sources : ∀ key ∈ w.behaviours.keys,
      key.toList.head? = some 'r' ∨ key.toList.head? = some 'e') : w.conduct.AnswersAtOnce :=
  fun c outward => by
    rw [Conduct.steps, Conduct.manner, answer_outward sources outward]
    exact ⟨rfl, .inl rfl⟩

end World

end Scenario

end SafetyCenter
