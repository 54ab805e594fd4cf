import SafetyCenter.Proofs.Tree.Path

/-!
What stands in a tree after entries were laid over it. An entry is spelled out as a tree with a single
branch, along the path that its key is. Where the entries give tables along a path of keys, and at its
end values that are neither lists nor tables, the value at the path is the last one that they give
there, and the one that was there before if they give none.
-/

set_option autoImplicit false

namespace SafetyCenter.Tree

def isTable : Tree → Bool
  | .table _ => true
  | _ => false

def isScalar : Tree → Bool
  | .list _ | .table _ => false
  | _ => true

/-- The value at the end of a path of keys. -/
def at? : List String → Tree → Option Tree
  | [], t => some t
  | key :: path, t => (t.get? key).bind (at? path)

/-- The values at the end of a path of keys, the case of letters aside. Keys of one table that differ
in nothing else lead to several. -/
def valuesAt : List String → Tree → List Tree
  | [], t => [t]
  | key :: path, t => t.entries.flatMap fun e => if lower e.1 = key then valuesAt path e.2 else []

/-- A value behind steps, as a value in front of them. -/
def nest (value : Tree) : List Step → Tree
  | [] => value
  | .key key :: steps => .table [(key, nest value steps)]
  | .item _ :: steps => .list [nest value steps]

/-- An entry as a tree with a single branch. Its key is a path. -/
def spelledOut (e : String × Tree) : Tree :=
  nest e.2 (stepsOf e.1)

/-- The values that entries give at a path of keys, in their order. -/
def given (path : List String) (layer : List (String × Tree)) : List Tree :=
  layer.flatMap fun e => (spelledOut e).valuesAt path

/-- There are tables along a path of keys, and what is at its end is neither a list nor a table. -/
def Plain : List String → Tree → Prop
  | [], t => t.isScalar = true
  | key :: path, t => t.isTable = true ∧ ∀ e ∈ t.entries, lower e.1 = key → Plain path e.2

theorem mem_valuesAt_cons {key : String} {path : List String} {t v : Tree} :
    v ∈ t.valuesAt (key :: path) ↔
      ∃ e ∈ t.entries, lower e.1 = key ∧ v ∈ e.2.valuesAt path := by
  simp only [valuesAt, List.mem_flatMap, List.mem_ite_nil_right]

theorem isTable_spelledOut (e : String × Tree) : (spelledOut e).isTable = true := by
  obtain ⟨key, steps, same⟩ := exists_stepsOf e.1
  rw [spelledOut, same]
  rfl

theorem eq_table_of_isTable {v : Tree} (table : v.isTable = true) : v = .table v.entries := by
  cases v with
  | table es => rfl
  | _ => cases table

theorem entries_of_isScalar {v : Tree} (scalar : v.isScalar = true) : v.entries = [] := by
  cases v with
  | table es => cases scalar
  | _ => rfl

/-- A single branch that ends in a scalar leads to that scalar alone, along its own keys. -/
theorem mem_valuesAt_nest {path : List String} {steps : List Step} {v w : Tree}
    (scalar : v.isScalar = true) (scalar' : w.isScalar = true) :
    w ∈ (nest v steps).valuesAt path ↔
      w = v ∧ ∃ keys : List String, steps = keys.map .key ∧ keys.map lower = path := by
  induction path generalizing steps with
  | nil =>
    simp only [List.map_eq_nil_iff, valuesAt, List.mem_singleton]
    cases steps with
    | nil => simp [nest]
    | cons step steps =>
      constructor
      · rintro rfl
        cases step <;> cases scalar'
      · rintro ⟨-, keys, same, rfl⟩
        cases same
  | cons key path ih =>
    rw [mem_valuesAt_cons]
    match steps with
    | [] =>
      constructor
      · rintro ⟨e, member, -⟩
        rw [nest, entries_of_isScalar scalar] at member
        cases member
      · rintro ⟨-, keys, same, lowered⟩
        rw [List.map_eq_nil_iff.mp same.symm] at lowered
        cases lowered
    | .item _ :: steps =>
      constructor
      · rintro ⟨e, member, -⟩
        cases member
      · rintro ⟨-, keys, same, lowered⟩
        cases keys <;> cases same
    | .key k :: steps =>
      simp only [nest, entries, List.mem_singleton, exists_eq_left, ih]
      constructor
      · rintro ⟨here, rfl, keys, rfl, rfl⟩
        exact ⟨rfl, k :: keys, rfl, by rw [List.map_cons, here]⟩
      · rintro ⟨rfl, keys, same, lowered⟩
        cases keys with
        | nil => cases same
        | cons k' keys =>
          cases same
          cases lowered
          exact ⟨rfl, rfl, keys, rfl, rfl⟩

/-- Entries are plain along a path of two keys if at the first one there are tables only, and at the
second one no lists and tables. -/
theorem plain_of_given {key key' : String} {layer : List (String × Tree)}
    (sections : ∀ v ∈ given [key] layer, v.isTable = true)
    (values : ∀ v ∈ given [key, key'] layer, v.isScalar = true) :
    ∀ e ∈ layer, Plain [key, key'] (spelledOut e) := by
  intro e member
  refine ⟨isTable_spelledOut e, fun f first same => ⟨?_, fun g second same' => ?_⟩⟩
  · refine sections f.2 (List.mem_flatMap.mpr ⟨e, member, mem_valuesAt_cons.mpr ?_⟩)
    exact ⟨f, first, same, List.mem_singleton_self f.2⟩
  · refine values g.2 (List.mem_flatMap.mpr ⟨e, member, mem_valuesAt_cons.mpr ?_⟩)
    refine ⟨f, first, same, mem_valuesAt_cons.mpr ?_⟩
    exact ⟨g, second, same', List.mem_singleton_self g.2⟩

/-! Putting and merging at one key. -/

theorem get?_put (t : Tree) (key k : String) (value : Tree) :
    (t.put key value).get? k = if lower key = k then some value else t.get? k :=
  Assoc.lookup_putEntry (lower key) k value t.entries

/-- What becomes of an old value when a new one is merged into it. -/
def mergedInto (old : Option Tree) : Tree → Tree
  | .table es => mergeAll (old.getD (.table [])) es
  | value => value

theorem mergedInto_of_isScalar {value : Tree} (scalar : value.isScalar = true) (old : Option Tree) :
    mergedInto old value = value := by
  cases value with
  | table es => cases scalar
  | _ => rfl

theorem merge_eq_put (t : Tree) (key : String) (value : Tree) :
    t.merge key value = t.put key (mergedInto (t.get? (lower key)) value) := by
  cases value <;> simp only [merge, mergedInto]

theorem mergeAll_eq_foldl (t : Tree) (es : List (String × Tree)) :
    mergeAll t es = es.foldl (fun t e => t.merge e.1 e.2) t := by
  induction es generalizing t with
  | nil => rw [mergeAll, List.foldl_nil]
  | cons e es ih => rw [mergeAll, ih, List.foldl_cons]

/-- What becomes of an old value when a new one is laid over it at the end of steps. -/
def laidOver (old : Option Tree) (value : Tree) : List Step → Tree
  | [] => mergedInto old value
  | steps => setAt (old.getD .nothing) value steps

/-- A first step to a key leaves the other keys alone. -/
theorem setAt_key (t : Tree) (value : Tree) (key : String) (steps : List Step) :
    t.setAt value (.key key :: steps) = t.put key (laidOver (t.get? (lower key)) value steps) := by
  cases steps with
  | nil => exact merge_eq_put t key value
  | cons step steps => rfl

/-- A fold in which each member gives values at a path: the last value counts. -/
theorem at?_foldl {α : Type} {path : List String} {change : Tree → α → Tree}
    {gives : α → List Tree} {xs : List α}
    (each : ∀ x ∈ xs, ∀ t, (change t x).at? path = (gives x).getLast?.or (t.at? path)) (t : Tree) :
    (xs.foldl change t).at? path = (xs.flatMap gives).getLast?.or (t.at? path) := by
  induction xs generalizing t with
  | nil => rfl
  | cons x xs ih =>
    rw [List.forall_mem_cons] at each
    rw [List.foldl_cons, ih each.2, each.1, List.flatMap_cons, List.getLast?_append, Option.or_assoc]

/-- A first step to a key, for what comes behind that key. -/
theorem at?_setAt_key {path : List String} {key k : String} {value : Tree} {steps : List Step}
    (behind : lower k = key → ∀ old : Option Tree, (laidOver old value steps).at? path =
      ((nest value steps).valuesAt path).getLast?.or (old.bind (at? path)))
    (t : Tree) :
    (t.setAt value (.key k :: steps)).at? (key :: path) =
      ((nest value (.key k :: steps)).valuesAt (key :: path)).getLast?.or (t.at? (key :: path)) := by
  have single : (nest value (.key k :: steps)).valuesAt (key :: path) =
      if lower k = key then (nest value steps).valuesAt path else [] := by
    simp only [nest, valuesAt, entries, List.flatMap_cons, List.flatMap_nil, List.append_nil]
  rw [setAt_key, at?, get?_put, single]
  by_cases here : lower k = key
  · subst here
    rw [if_pos rfl, if_pos rfl, Option.bind_some, behind rfl, at?]
  · rw [if_neg here, if_neg here, List.getLast?_nil, Option.none_or, at?]

/-- What is behind a key after entries were merged into a tree. -/
theorem at?_mergeAll {key : String} {path : List String} {es : List (String × Tree)}
    (behind : ∀ e ∈ es, lower e.1 = key → ∀ old : Option Tree, (mergedInto old e.2).at? path =
      (e.2.valuesAt path).getLast?.or (old.bind (at? path)))
    (t : Tree) :
    (mergeAll t es).at? (key :: path) =
      ((table es).valuesAt (key :: path)).getLast?.or (t.at? (key :: path)) := by
  rw [mergeAll_eq_foldl]
  refine at?_foldl (fun e member t => ?_) t
  have below : lower e.1 = key → ∀ old : Option Tree, (laidOver old e.2 []).at? path =
      ((nest e.2 []).valuesAt path).getLast?.or (old.bind (at? path)) := behind e member
  have one := at?_setAt_key below t
  simpa only [setAt, nest, valuesAt, entries, List.flatMap_cons, List.flatMap_nil,
    List.append_nil] using one

/-- What is at a path after a value was laid over an old one. -/
theorem at?_laidOver {path : List String} {value : Tree} {steps : List Step}
    (plain : Plain path (nest value steps)) (old : Option Tree) :
    (laidOver old value steps).at? path =
      ((nest value steps).valuesAt path).getLast?.or (old.bind (at? path)) := by
  -- The steps take the first keys of the path, and the fields of the value the others. Only a value
  -- that is not merged can be at the end.
  induction path generalizing value steps old with
  | nil =>
    match steps with
    | [] => exact congrArg some (mergedInto_of_isScalar plain old)
    | .item _ :: _ => cases plain
    | .key _ :: _ => cases plain
  | cons key path ih =>
    obtain ⟨isTable, branches⟩ := plain
    match steps with
    | [] =>
      obtain ⟨es, rfl⟩ : ∃ es, value = .table es := ⟨_, eq_table_of_isTable isTable⟩
      show (mergeAll (old.getD (.table [])) es).at? (key :: path) = _
      rw [at?_mergeAll]
      · cases old <;> rfl
      · intro e member here
        have below : Plain path (nest e.2 []) := branches e member here
        exact ih below
    | .item _ :: _ => cases isTable
    | .key k :: steps =>
      have below := branches (k, nest value steps) List.mem_cons_self
      show ((old.getD .nothing).setAt value (.key k :: steps)).at? (key :: path) = _
      rw [at?_setAt_key fun here => ih (below here)]
      cases old <;> rfl

/-- What is at a path after entries were laid over a tree. -/
theorem at?_overlay {path : List String} {layer : List (String × Tree)}
    (plain : ∀ e ∈ layer, Plain path (spelledOut e)) (t : Tree) :
    (t.overlay layer).at? path = (given path layer).getLast?.or (t.at? path) := by
  refine at?_foldl (fun e member t => ?_) t
  have laid : t.setAt e.2 (stepsOf e.1) = laidOver (some t) e.2 (stepsOf e.1) := by
    obtain ⟨key, steps, same⟩ := exists_stepsOf e.1
    rw [same]
    rfl
  rw [laid, at?_laidOver (plain e member)]
  rfl

end SafetyCenter.Tree
