import SafetyCenter.Proofs.Tree.Overlay
import SafetyCenter.Settings.Layers

set_option autoImplicit false

namespace SafetyCenter.Settings

theorem eq_of_pointed {cs : List Char} (free : '.' ∉ pointed cs) : pointed cs = cs := by
  fun_induction pointed cs with
  | case1 cs ih => exact absurd List.mem_cons_self free
  | case2 c cs other ih => rw [ih fun member => free (List.mem_cons_of_mem c member)]
  | case3 => rfl

/-- The only point stands for itself or for two underscores. -/
theorem cases_of_pointed {cs before after : List Char}
    (same : pointed cs = before ++ '.' :: after) (free : '.' ∉ before) (free' : '.' ∉ after) :
    cs = before ++ '.' :: after ∨ cs = before ++ '_' :: '_' :: after := by
  fun_induction pointed cs generalizing before with
  | case1 cs ih =>
    cases before with
    | nil =>
      cases same
      exact .inr (by rw [eq_of_pointed free']; rfl)
    | cons b before =>
      rw [List.cons_append, List.cons.injEq] at same
      exact absurd (same.1 ▸ List.mem_cons_self) free
  | case2 c cs other ih =>
    cases before with
    | nil =>
      cases same
      exact .inl (by rw [eq_of_pointed free']; rfl)
    | cons b before =>
      rw [List.cons_append, List.cons.injEq] at same
      obtain ⟨rfl, same⟩ := same
      have rest := ih same fun member => free (List.mem_cons_of_mem c member)
      exact rest.imp (congrArg (c :: ·)) (congrArg (c :: ·))
  | case3 => cases before <;> cases same

theorem mem_of_mem_pointed {cs : List Char} {c : Char} (member : c ∈ pointed cs) :
    c = '.' ∨ c ∈ cs := by
  fun_induction pointed cs with
  | case1 cs ih =>
    rcases List.mem_cons.mp member with rfl | later
    · exact .inl rfl
    · exact (ih later).imp_right fun member => List.mem_cons_of_mem _ (List.mem_cons_of_mem _ member)
  | case2 d cs other ih =>
    rcases List.mem_cons.mp member with rfl | later
    · exact .inr List.mem_cons_self
    · exact (ih later).imp_right (List.mem_cons_of_mem d)
  | case3 => cases member

theorem lowerChar_lowerChar (c : Char) : Tree.lowerChar (Tree.lowerChar c) = Tree.lowerChar c := by
  have letters : ∀ n < 26, Tree.lowerChar (Char.ofNat (n + 65 + 32)) = Char.ofNat (n + 65 + 32) := by
    decide
  have kelvin : Tree.lowerChar '\u212a' = 'k' := by decide
  by_cases upper : 'A' ≤ c ∧ c ≤ 'Z'
  · have other : c ≠ '\u212a' := by
      rintro rfl
      exact absurd upper.2 (by decide)
    have low : 65 ≤ c.toNat := upper.1
    have high : c.toNat ≤ 90 := upper.2
    have same : Tree.lowerChar c = Char.ofNat (c.toNat - 65 + 65 + 32) := by
      rw [Tree.lowerChar, if_neg other, Numeral.lower, if_pos (by simpa using upper),
        Nat.sub_add_cancel low]
    rw [same]
    exact letters _ (by omega)
  · by_cases sign : c = '\u212a'
    · rw [sign, kelvin]
      decide
    · have same : Tree.lowerChar c = c := by
        rw [Tree.lowerChar, if_neg sign, Numeral.lower, if_neg (by simpa using upper)]
      rw [same, same]

theorem lower_eq_self {s : String} (lowered : ∀ c ∈ s.toList, Tree.lowerChar c = c) :
    Tree.lower s = s := by
  rw [Tree.lower, List.map_congr_left lowered, List.map_id', String.ofList_toList]

theorem isScalar_variableValue (s : String) : (variableValue s).isScalar = true := by
  unfold variableValue
  split
  · rfl
  · rfl
  · split
    · rfl
    · split <;> rfl

/-- A variable is named for a setting: in lower case, its name is the prefix, the section and the
setting, with two underscores between the last two; a point stands for these as well. -/
def Name.IsGivenBy (n : Name) (name : String) : Prop :=
  ∃ between ∈ ["__", "."],
    Tree.lower name = variablePrefix ++ n.path.1 ++ between ++ n.path.2

theorem variablePath?_eq_some_iff {name path : String} :
    variablePath? name = some path ↔
      ∃ rest, (Tree.lower name).toList = variablePrefix.toList ++ rest ∧
        path = String.ofList (pointed rest) := by
  unfold variablePath?
  dsimp only
  constructor
  · intro named
    split at named
    · rename_i starts
      obtain ⟨rest, same⟩ := List.isPrefixOf_iff_prefix.mp starts
      obtain rfl := Option.some.inj named
      exact ⟨rest, same.symm, by rw [← same, List.drop_left]⟩
    · cases named
  · rintro ⟨rest, same, rfl⟩
    rw [same, if_pos (List.isPrefixOf_iff_prefix.mpr (List.prefix_append _ rest)), List.drop_left]

/-- Whatever a variable is called, the path that it means is in lower case. -/
theorem lowered_of_mem_pointed {name : String} {start rest : List Char}
    (same : (Tree.lower name).toList = start ++ rest) :
    ∀ c ∈ pointed rest, Tree.lowerChar c = c := by
  intro c member
  rcases mem_of_mem_pointed member with rfl | member
  · decide
  · have among : c ∈ (Tree.lower name).toList := same ▸ List.mem_append_right start member
    rw [Tree.lower, String.toList_ofList] at among
    obtain ⟨d, -, rfl⟩ := List.mem_map.mp among
    exact lowerChar_lowerChar d

/-- The path to a setting reads as its section and its key. -/
theorem Name.stepsOf_path (n : Name) :
    Tree.stepsOf (String.ofList (n.path.1.toList ++ '.' :: n.path.2.toList)) =
        [.key n.path.1, .key n.path.2] ∧
      Tree.lower n.path.1 = n.path.1 ∧ Tree.lower n.path.2 = n.path.2 := by
  cases n <;> decide

/-- The names of variables for a setting are those that mean the path to it. -/
theorem Name.isGivenBy_iff {n : Name} {name : String} :
    n.IsGivenBy name ↔ ∃ path key key' : String, variablePath? name = some path ∧
      Tree.stepsOf path = [.key key, .key key'] ∧
        Tree.lower key = n.path.1 ∧ Tree.lower key' = n.path.2 := by
  constructor
  · rintro ⟨between, among, same⟩
    have points : pointed (n.path.1.toList ++ between.toList ++ n.path.2.toList) =
        n.path.1.toList ++ '.' :: n.path.2.toList := by
      simp only [List.mem_cons, List.not_mem_nil, or_false] at among
      rcases among with rfl | rfl <;> cases n <;> decide
    have spelled : (Tree.lower name).toList = variablePrefix.toList ++
        (n.path.1.toList ++ between.toList ++ n.path.2.toList) := by
      rw [same]
      simp only [String.toList_append, List.append_assoc]
    refine ⟨_, n.path.1, n.path.2, variablePath?_eq_some_iff.mpr ⟨_, spelled, rfl⟩, ?_⟩
    rw [points]
    exact n.stepsOf_path
  · rintro ⟨path, key, key', meant, steps, first, second⟩
    obtain ⟨rest, same, rfl⟩ := variablePath?_eq_some_iff.mp meant
    have lowered := lowered_of_mem_pointed same
    have chars := Tree.chars_of_stepsOf steps
    rw [String.toList_ofList] at chars
    rw [chars, List.forall_mem_append, List.forall_mem_cons] at lowered
    rw [← lower_eq_self lowered.1, ← lower_eq_self lowered.2.2, first, second] at chars
    have free : '.' ∉ n.path.1.toList ∧ '.' ∉ n.path.2.toList := by cases n <;> decide
    rcases cases_of_pointed chars free.1 free.2 with rfl | rfl
    · refine ⟨".", by simp, String.toList_inj.mp ?_⟩
      rw [same]
      simp only [String.toList_append, List.append_assoc]
      rfl
    · refine ⟨"__", by simp, String.toList_inj.mp ?_⟩
      rw [same]
      simp only [String.toList_append, List.append_assoc]
      rfl

/-- Variables give a setting nothing but what their texts mean, and only those that are named for it
and have a text give it anything. -/
theorem mem_given_variableLayer_iff {n : Name} {env : List (String × String)} {v : Tree}
    (scalar : v.isScalar = true) :
    v ∈ Tree.given [n.path.1, n.path.2] (variableLayer env) ↔
      ∃ e ∈ env, e.2 ≠ "" ∧ n.IsGivenBy e.1 ∧ v = variableValue e.2 := by
  simp only [Tree.given, variableLayer, List.mem_flatMap, List.mem_filterMap, Tree.spelledOut]
  constructor
  · rintro ⟨x, ⟨e, member, entry⟩, gives⟩
    split at entry
    · cases entry
    · rename_i text
      obtain ⟨path, meant, rfl⟩ := Option.map_eq_some_iff.mp entry
      obtain ⟨rfl, keys, steps, lowered⟩ :=
        (Tree.mem_valuesAt_nest (isScalar_variableValue e.2) scalar).mp gives
      obtain ⟨key, rest, rfl, first, lowered⟩ := List.map_eq_cons_iff.mp lowered
      obtain ⟨key', rest, rfl, second, lowered⟩ := List.map_eq_cons_iff.mp lowered
      cases List.map_eq_nil_iff.mp lowered
      have named := Name.isGivenBy_iff.mpr ⟨path, key, key', meant, steps, first, second⟩
      exact ⟨e, member, text, named, rfl⟩
  · rintro ⟨e, member, text, named, rfl⟩
    obtain ⟨path, key, key', meant, steps, first, second⟩ := Name.isGivenBy_iff.mp named
    refine ⟨(path, variableValue e.2), ⟨e, member, by rw [if_neg text, meant]; rfl⟩, ?_⟩
    refine (Tree.mem_valuesAt_nest (isScalar_variableValue e.2) scalar).mpr ⟨rfl, [key, key'], steps, ?_⟩
    rw [← first, ← second]
    rfl

end SafetyCenter.Settings
