import SafetyCenter.Tree.Path

set_option autoImplicit false

namespace SafetyCenter.Tree

/-- Only between two steps a path may end without another one. -/
theorem readSteps_ne_nil {part : PathPart} (inside : part ≠ .between) (cs : List Char) :
    readSteps part cs ≠ some [] := by
  intro none
  -- Each answer has a step in front, or is that of reading on inside of a step.
  fun_induction readSteps part cs <;> simp_all

/-- A key at the end of a path is all that was read of it. -/
theorem readSteps_key_nil {read : List Char} {steps : List Step}
    (parsed : readSteps (.key read) [] = some steps) :
    steps = [.key (String.ofList read.reverse)] := by
  rw [readSteps.eq_def] at parsed
  cases read with
  | nil => cases parsed
  | cons c read =>
    cases parsed
    rfl

/-- A character behind the start of a key belongs to it, or ends it in front of a key or of an item. -/
theorem readSteps_key_cons {read cs : List Char} {c : Char} {steps : List Step}
    (parsed : readSteps (.key read) (c :: cs) = some steps) :
    readSteps (.key (c :: read)) cs = some steps ∨
      ∃ rest, steps = .key (String.ofList read.reverse) :: rest ∧
        (c = '.' ∧ readSteps (.key []) cs = some rest ∨ readSteps (.item []) cs = some rest) := by
  rw [readSteps] at parsed
  split at parsed
  · exact .inl parsed
  · split at parsed
    · cases parsed
    · split at parsed
      · rename_i point
        obtain ⟨rest, ended, rfl⟩ := Option.map_eq_some_iff.mp parsed
        exact .inr ⟨rest, rfl, .inl ⟨point, ended⟩⟩
      · split at parsed
        · obtain ⟨rest, ended, rfl⟩ := Option.map_eq_some_iff.mp parsed
          exact .inr ⟨rest, rfl, .inr ended⟩
        · cases parsed

/-- While a key is read the next step is a key. -/
theorem key_of_readSteps {read cs : List Char} {step : Step} {steps : List Step}
    (parsed : readSteps (.key read) cs = some (step :: steps)) : ∃ key, step = .key key := by
  induction cs generalizing read with
  | nil =>
    cases readSteps_key_nil parsed
    exact ⟨_, rfl⟩
  | cons c cs ih =>
    rcases readSteps_key_cons parsed with more | ⟨rest, same, -⟩
    · exact ih more
    · cases same
      exact ⟨_, rfl⟩

/-- Behind an opening bracket the next step is an item. -/
theorem item_of_readSteps {read cs : List Char} {step : Step} {steps : List Step}
    (parsed : readSteps (.item read) cs = some (step :: steps)) : ∃ place, step = .item place := by
  induction cs generalizing read with
  | nil => cases parsed
  | cons c cs ih =>
    rw [readSteps] at parsed
    split at parsed
    · split at parsed
      · obtain ⟨rest, -, same⟩ := Option.map_eq_some_iff.mp parsed
        cases same
        exact ⟨_, rfl⟩
      · cases parsed
    · exact ih parsed

/-- A single key is all characters that are left. -/
theorem chars_of_readSteps_key {read cs : List Char} {key : String}
    (parsed : readSteps (.key read) cs = some [.key key]) : read.reverse ++ cs = key.toList := by
  induction cs generalizing read with
  | nil =>
    cases readSteps_key_nil parsed
    rw [List.append_nil, String.toList_ofList]
  | cons c cs ih =>
    rcases readSteps_key_cons parsed with more | ⟨rest, same, ⟨-, ended⟩ | ended⟩
    · rw [← ih more, List.reverse_cons, List.append_assoc, List.singleton_append]
    · cases same
      exact absurd ended (readSteps_ne_nil (by simp) cs)
    · cases same
      exact absurd ended (readSteps_ne_nil (by simp) cs)

theorem chars_of_readSteps_keys {read cs : List Char} {key key' : String}
    (parsed : readSteps (.key read) cs = some [.key key, .key key']) :
    read.reverse ++ cs = key.toList ++ '.' :: key'.toList := by
  induction cs generalizing read with
  | nil => cases readSteps_key_nil parsed
  | cons c cs ih =>
    rcases readSteps_key_cons parsed with more | ⟨rest, same, ⟨rfl, ended⟩ | ended⟩
    · rw [← ih more, List.reverse_cons, List.append_assoc, List.singleton_append]
    · cases same
      rw [String.toList_ofList, ← chars_of_readSteps_key ended, List.reverse_nil, List.nil_append]
    · cases same
      obtain ⟨place, impossible⟩ := item_of_readSteps ended
      cases impossible

/-- A path is read from its first character on, as a key. -/
theorem readSteps_key_of_start {cs : List Char} {steps : List Step}
    (parsed : readSteps .start cs = some steps) :
    ∃ c rest, cs = c :: rest ∧ readSteps (.key [c]) rest = some steps := by
  cases cs with
  | nil => cases parsed
  | cons c rest =>
    rw [readSteps] at parsed
    split at parsed
    · exact ⟨c, rest, rfl, parsed⟩
    · cases parsed

/-- Every path starts with a key. -/
theorem exists_stepsOf (s : String) : ∃ key steps, stepsOf s = .key key :: steps := by
  unfold stepsOf
  cases parsed : readSteps .start s.toList with
  | none => exact ⟨s, [], rfl⟩
  | some steps =>
    obtain ⟨c, rest, -, parsed⟩ := readSteps_key_of_start parsed
    cases steps with
    | nil => exact absurd parsed (readSteps_ne_nil (by simp) rest)
    | cons step steps =>
      obtain ⟨key, rfl⟩ := key_of_readSteps parsed
      exact ⟨key, steps, rfl⟩

/-- A path of two keys is these keys with a point between them. -/
theorem chars_of_stepsOf {s key key' : String} (steps : stepsOf s = [.key key, .key key']) :
    s.toList = key.toList ++ '.' :: key'.toList := by
  unfold stepsOf at steps
  cases parsed : readSteps .start s.toList with
  | none =>
    rw [parsed] at steps
    cases steps
  | some read =>
    rw [parsed, Option.getD_some] at steps
    subst steps
    obtain ⟨c, rest, chars, parsed⟩ := readSteps_key_of_start parsed
    rw [chars]
    exact chars_of_readSteps_keys parsed

end SafetyCenter.Tree
