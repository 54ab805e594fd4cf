import Mathlib.Data.List.Induction
import SafetyCenter.Proofs.Settings.Variable

set_option autoImplicit false

namespace SafetyCenter.Settings

/-- Names of settings with their values. A name is a path from a section to a setting, or the name of a
section whose value has the settings. -/
abbrev Layer := List (String × Tree)

/-- Every section that the layer gives is a table, and every setting that it gives is neither a list
nor a table. -/
structure Layer.Plain (l : Layer) : Prop where
  sections : ∀ n : Name, ∀ v ∈ Tree.given [n.path.1] l, v.isTable = true
  settings : ∀ n : Name, ∀ v ∈ Tree.given [n.path.1, n.path.2] l, v.isScalar = true

def Name.all : List Name :=
  [.sourceTimeout, .observerTimeout, .actionTimeout, .cataloguePath]

theorem Name.mem_all (n : Name) : n ∈ all := by
  cases n <;> decide

instance (l : Layer) : Decidable l.Plain :=
  decidable_of_iff
    (∀ n ∈ Name.all, (∀ v ∈ Tree.given [n.path.1] l, v.isTable = true) ∧
      ∀ v ∈ Tree.given [n.path.1, n.path.2] l, v.isScalar = true)
    ⟨fun plain => ⟨fun n => (plain n n.mem_all).1, fun n => (plain n n.mem_all).2⟩,
      fun plain n _ => ⟨plain.sections n, plain.settings n⟩⟩

/-- The value that a layer gives to a setting, if it gives any. It gives more than one only if two of
its names are the same path but for the case of letters; then the last one counts. -/
def given? (n : Name) (l : Layer) : Option Tree :=
  (Tree.given [n.path.1, n.path.2] l).getLast?

def Name.standard : Name → Tree
  | .sourceTimeout => .int ({} : Settings).sourceTimeout
  | .observerTimeout => .int ({} : Settings).observerTimeout
  | .actionTimeout => .int ({} : Settings).actionTimeout
  | .cataloguePath => .nothing

/-- The value that counts for a setting, of layers with the highest one first. -/
def inForce (n : Name) : List Layer → Tree
  | [] => n.standard
  | l :: below => (given? n l).getD (inForce n below)

/-- Downwards to the first layer that gives the setting anything, two stacks of layers are alike: they
give it the same value there, or none at all. What lies below may differ. -/
inductive AgreeOn (n : Name) : List Layer → List Layer → Prop
  | given {l l' : Layer} {below below' : List Layer} {v : Tree} :
      given? n l = some v → given? n l' = some v → AgreeOn n (l :: below) (l' :: below')
  | passed {l l' : Layer} {below below' : List Layer} :
      given? n l = none → given? n l' = none → AgreeOn n below below' →
        AgreeOn n (l :: below) (l' :: below')
  | standard : AgreeOn n [] []

theorem AgreeOn.inForce_eq {n : Name} {ls ls' : List Layer} (agree : AgreeOn n ls ls') :
    inForce n ls = inForce n ls' := by
  induction agree with
  | given first second => rw [inForce, inForce, first, second, Option.getD_some, Option.getD_some]
  | passed first second below ih => rw [inForce, inForce, first, second, ih]
  | standard => rfl

/-- Stacks that have a layer in common agree above where they agree below it. -/
theorem AgreeOn.shared {n : Name} {below below' : List Layer} (l : Layer)
    (agree : AgreeOn n below below') : AgreeOn n (l :: below) (l :: below') := by
  cases gives : given? n l with
  | none => exact .passed gives gives agree
  | some v => exact .given gives gives

/-- The settings have what a value means for one of them. -/
def Takes (s : Settings) (v : Tree) : Name → Prop
  | .sourceTimeout => v.nat? = some s.sourceTimeout
  | .observerTimeout => v.nat? = some s.observerTimeout
  | .actionTimeout => v.nat? = some s.actionTimeout
  | .cataloguePath => pathOfTree? v = some s.cataloguePath

instance (s : Settings) (v : Tree) (n : Name) : Decidable (s.Takes v n) :=
  match n with
  | .sourceTimeout => inferInstanceAs (Decidable (v.nat? = some s.sourceTimeout))
  | .observerTimeout => inferInstanceAs (Decidable (v.nat? = some s.observerTimeout))
  | .actionTimeout => inferInstanceAs (Decidable (v.nat? = some s.actionTimeout))
  | .cataloguePath => inferInstanceAs (Decidable (pathOfTree? v = some s.cataloguePath))

/-- The settings that have what a value for each means. -/
def ofValues? (value : Name → Tree) : Option Settings := do
  return {
    sourceTimeout := ← (value .sourceTimeout).nat?
    observerTimeout := ← (value .observerTimeout).nat?
    actionTimeout := ← (value .actionTimeout).nat?
    cataloguePath := ← pathOfTree? (value .cataloguePath) }

theorem ofValues?_eq_some_iff {value : Name → Tree} {s : Settings} :
    ofValues? value = some s ↔ ∀ n, s.Takes (value n) n := by
  unfold ofValues?
  simp only [Option.bind_eq_bind, Option.bind_eq_some_iff, Option.pure_def, Option.some.injEq]
  constructor
  · rintro ⟨source, readSource, observer, readObserver, action, readAction, path, readPath, rfl⟩ n
    cases n
    · exact readSource
    · exact readObserver
    · exact readAction
    · exact readPath
  · intro takes
    exact ⟨_, takes .sourceTimeout, _, takes .observerTimeout, _, takes .actionTimeout,
      _, takes .cataloguePath, rfl⟩

/-- A tree that has something at a key is a table, and its fields are what is at their names. -/
theorem fields?_of_get? {t : Tree} {key : String} {v : Tree} (present : t.get? key = some v)
    (names : List String) : t.fields? names = some (names.map t.get?) := by
  cases t with
  | table es => rfl
  | _ => cases present

/-- Settings are read from a tree with a value for each, section by section. -/
theorem ofTree?_of_at? {t : Tree} {value : Name → Tree}
    (stands : ∀ n : Name, t.at? [n.path.1, n.path.2] = some (value n)) :
    ofTree? t = ofValues? value := by
  have parts : ∀ n : Name, ∃ part, t.get? n.path.1 = some part ∧
      part.get? n.path.2 = some (value n) := by
    intro n
    obtain ⟨part, present, below⟩ := Option.bind_eq_some_iff.mp (stands n)
    obtain ⟨v, there, same⟩ := Option.bind_eq_some_iff.mp below
    cases same
    exact ⟨part, present, there⟩
  obtain ⟨broadcast, hasBroadcast, source⟩ := parts .sourceTimeout
  obtain ⟨delivery, hasDelivery, observer⟩ := parts .observerTimeout
  obtain ⟨delivery', hasDelivery', action⟩ := parts .actionTimeout
  obtain ⟨sources, hasSources, path⟩ := parts .cataloguePath
  -- Both stand in the same section.
  cases hasDelivery.symm.trans hasDelivery'
  simp only [Name.path] at *
  unfold ofTree? ofValues?
  simp only [fields?_of_get? hasBroadcast, List.map_cons, List.map_nil, hasBroadcast, hasDelivery,
    hasSources, Tree.orElse, fields?_of_get? source, fields?_of_get? observer, fields?_of_get? path,
    source, observer, action, path, Option.bind_eq_bind, Option.bind_some, Option.pure_def]

/-! Laying the layers over the defaults. -/

theorem Layer.Plain.at?_overlay {l : Layer} (plain : l.Plain) (n : Name) (t : Tree) :
    (t.overlay l).at? [n.path.1, n.path.2] = (given? n l).or (t.at? [n.path.1, n.path.2]) :=
  Tree.at?_overlay (Tree.plain_of_given (plain.sections n) (plain.settings n)) t

theorem at?_standard (n : Name) : (tree {}).at? [n.path.1, n.path.2] = some n.standard := by
  cases n <;> rfl

theorem at?_foldl_overlay {layers : List Layer} (plain : ∀ l ∈ layers, l.Plain) (n : Name) :
    (layers.foldl Tree.overlay (tree {})).at? [n.path.1, n.path.2] =
      some (inForce n layers.reverse) := by
  -- The layer that is laid over last is the first one that counts.
  induction layers using List.reverseRecOn with
  | nil => exact at?_standard n
  | append_singleton layers l ih =>
    have below := ih fun l member => plain l (List.mem_append_left _ member)
    have top : l.Plain := plain l (List.mem_append_right _ (List.mem_singleton_self l))
    rw [List.foldl_append, List.foldl_cons, List.foldl_nil, top.at?_overlay, below,
      List.reverse_append, List.reverse_singleton, List.singleton_append, inForce, Option.or_some]

theorem zeroTimeout?_eq_none_iff (s : Settings) :
    s.zeroTimeout? = none ↔
      0 < s.sourceTimeout ∧ 0 < s.observerTimeout ∧ 0 < s.actionTimeout := by
  simp only [zeroTimeout?, Nat.pos_iff_ne_zero]
  grind

theorem checked_eq_ok_iff {s s' : Settings} :
    s.checked = .ok s' ↔
      s = s' ∧ 0 < s'.sourceTimeout ∧ 0 < s'.observerTimeout ∧ 0 < s'.actionTimeout := by
  rw [← zeroTimeout?_eq_none_iff, checked]
  cases zero : s.zeroTimeout? with
  | none =>
    constructor
    · rintro ⟨⟩
      exact ⟨rfl, zero⟩
    · rintro ⟨rfl, -⟩
      rfl
  | some n =>
    constructor
    · rintro ⟨⟩
    · rintro ⟨rfl, none⟩
      cases zero.symm.trans none

structure Origin where
  /-- the override file -/
  override : File
  /-- the file that the environment names -/
  named : File
  /-- the variables -/
  env : List (String × String)

namespace Origin

def load (o : Origin) : Except Error Settings :=
  Settings.load o.override o.named o.env

/-- The layers, the highest one first; none if a file that was asked for does not exist or is no
document. -/
def layers? (o : Origin) : Option (List Layer) := do
  let override ← o.override.layer?
  let named ← o.named.layer?
  return [variableLayer o.env, named, override]

def Plain (o : Origin) : Prop :=
  ∀ layers, o.layers? = some layers → ∀ l ∈ layers, Layer.Plain l

/-- The settings are read from the values that count, and checked then. -/
theorem load_eq {o : Origin} {layers : List Layer} (plain : ∀ l ∈ layers, Layer.Plain l)
    (readable : o.layers? = some layers) :
    o.load = (ofValues? fun n => inForce n layers).elim (.error .unreadableSettings) checked := by
  obtain ⟨override, hasOverride, rest⟩ := Option.bind_eq_some_iff.mp readable
  obtain ⟨named, hasNamed, same⟩ := Option.bind_eq_some_iff.mp rest
  cases same
  have upwards : ∀ l ∈ [override, named, variableLayer o.env], Layer.Plain l :=
    fun l member => plain l (List.mem_reverse.mpr member)
  have read : ofTree? (layered [override, named] o.env) =
      ofValues? fun n => inForce n [variableLayer o.env, named, override] :=
    ofTree?_of_at? (at?_foldl_overlay upwards)
  have asTree : o.load =
      (ofTree? (layered [override, named] o.env)).elim (.error .unreadableSettings) checked := by
    unfold load Settings.load
    rw [hasOverride, hasNamed]
    dsimp only
    cases ofTree? (layered [override, named] o.env) <;> rfl
  rw [asTree, read]

theorem layers?_of_load {o : Origin} {s : Settings} (loaded : o.load = .ok s) :
    ∃ layers, o.layers? = some layers := by
  unfold load Settings.load at loaded
  cases override : o.override.layer? with
  | none =>
    rw [override] at loaded
    cases loaded
  | some first =>
    cases named : o.named.layer? with
    | none =>
      rw [override, named] at loaded
      cases loaded
    | some second => exact ⟨_, by rw [layers?, override, named]; rfl⟩

/-- What loads has what the value that counts for each setting means, and its timeouts are positive. -/
theorem load_eq_ok_iff {o : Origin} (plain : o.Plain) {s : Settings} :
    o.load = .ok s ↔
      ∃ layers, o.layers? = some layers ∧ (∀ n, s.Takes (inForce n layers) n) ∧
        0 < s.sourceTimeout ∧ 0 < s.observerTimeout ∧ 0 < s.actionTimeout := by
  constructor
  · intro loaded
    obtain ⟨layers, readable⟩ := layers?_of_load loaded
    rw [load_eq (plain layers readable) readable] at loaded
    cases read : ofValues? fun n => inForce n layers with
    | none =>
      rw [read] at loaded
      cases loaded
    | some s' =>
      rw [read] at loaded
      obtain ⟨rfl, positive⟩ := checked_eq_ok_iff.mp loaded
      exact ⟨layers, readable, ofValues?_eq_some_iff.mp read, positive⟩
  · rintro ⟨layers, readable, takes, positive⟩
    have read := ofValues?_eq_some_iff.mpr takes
    rw [load_eq (plain layers readable) readable, read]
    exact checked_eq_ok_iff.mpr ⟨rfl, positive⟩

/-- What comes of loading depends on the values that count, and on nothing below them. -/
theorem load_congr {o o' : Origin} {layers layers' : List Layer} (plain : o.Plain) (plain' : o'.Plain)
    (readable : o.layers? = some layers) (readable' : o'.layers? = some layers')
    (agree : ∀ n, AgreeOn n layers layers') : o.load = o'.load := by
  have same : (fun n => inForce n layers) = fun n => inForce n layers' :=
    funext fun n => (agree n).inForce_eq
  rw [load_eq (plain layers readable) readable, load_eq (plain' layers' readable') readable', same]

end Origin

/-- Of plain layers each setting has what the value of the highest layer that gives it means: a variable
with a text, else the file that the environment names, else the override file, else the default. They
load exactly if the files that were asked for can be read, the four values mean something, and no
timeout is zero. Layers below the one that counts for a setting make no difference to what comes of
loading. The variables that count for a setting are those that are named for it and have a text. -/
theorem Origin.highest_layer_counts {o : Origin} (plain : o.Plain) :
    (∀ s : Settings, o.load = .ok s ↔
      ∃ layers, o.layers? = some layers ∧ (∀ n, s.Takes (inForce n layers) n) ∧
        0 < s.sourceTimeout ∧ 0 < s.observerTimeout ∧ 0 < s.actionTimeout) ∧
    (∀ o' : Origin, o'.Plain → ∀ layers layers' : List Layer,
      o.layers? = some layers → o'.layers? = some layers' →
        (∀ n, AgreeOn n layers layers') → o.load = o'.load) ∧
    ∀ (n : Name) (v : Tree), v.isScalar = true →
      (v ∈ Tree.given [n.path.1, n.path.2] (variableLayer o.env) ↔
        ∃ e ∈ o.env, e.2 ≠ "" ∧ n.IsGivenBy e.1 ∧ v = variableValue e.2) := by
  refine ⟨fun s => load_eq_ok_iff plain, ?_, fun n v scalar => mem_given_variableLayer_iff scalar⟩
  intro o' plain' layers layers' readable readable' agree
  exact load_congr plain plain' readable readable' agree

/-- The override file gives a timeout a text that is no number, and the file over it hides that. -/
theorem Origin.highest_layer_counts_of_hidden_text :
    let named : File := .present "[BROADCAST]\nSource_timeout_in_ms = 100\n"
    let env : List (String × String) :=
      [("SAFETY_BROKER__BROADCAST__SOURCE_TIMEOUT_IN_MS", ""),
        ("safety_broker__delivery__action_timeout_in_ms", "7"), ("HOME", "/")]
    let o : Origin := ⟨.present "[broadcast]\nsource_timeout_in_ms = \"soon\"\n", named, env⟩
    let o' : Origin := ⟨.unnamed, named, env⟩
    o.Plain ∧ o'.Plain ∧ o.load = .ok ⟨100, 1000, 7, none⟩ ∧ o.load = o'.load := by
  intro named env o o'
  let first : Layer := o.override.layer?.get (by decide +kernel)
  let second : Layer := named.layer?.get (by decide +kernel)
  let third : Layer := variableLayer env
  have hasFirst : o.override.layer? = some first := (Option.some_get _).symm
  have hasSecond : named.layer? = some second := (Option.some_get _).symm
  have readable : o.layers? = some [third, second, first] := by
    rw [layers?, hasFirst, hasSecond]
    rfl
  have readable' : o'.layers? = some [third, second, []] := by
    rw [layers?, hasSecond]
    rfl
  -- One evaluation for all, as each of them reads both files.
  have facts : (∀ l ∈ [third, second, first, []], l.Plain) ∧
      (∀ n ∈ Name.all, (⟨100, 1000, 7, none⟩ : Settings).Takes (inForce n [third, second, first]) n) ∧
      (given? .sourceTimeout second).isSome = true ∧
      ∀ n ∈ Name.all, n ≠ .sourceTimeout → (given? n first).isNone = true := by decide +kernel
  clear_value first second third
  obtain ⟨plainLayers, counts, hides, others⟩ := facts
  have plain : o.Plain := by
    intro layers read l member
    cases read.symm.trans readable
    have among : [third, second, first] ⊆ [third, second, first, []] := by simp
    exact plainLayers l (among member)
  have plain' : o'.Plain := by
    intro layers read l member
    cases read.symm.trans readable'
    have among : [third, second, []] ⊆ [third, second, first, []] := by simp
    exact plainLayers l (among member)
  have agree : ∀ n, AgreeOn n [third, second, first] [third, second, []] := by
    intro n
    refine .shared third ?_
    by_cases source : n = .sourceTimeout
    · subst source
      exact .given (Option.some_get hides).symm (Option.some_get hides).symm
    · have absent := Option.isNone_iff_eq_none.mp (others n n.mem_all source)
      exact .shared second (.passed absent rfl .standard)
  obtain ⟨taken, independent, -⟩ := highest_layer_counts plain
  refine ⟨plain, plain', (taken _).mpr ⟨_, readable, fun n => counts n n.mem_all, ?_⟩, ?_⟩
  · decide
  · exact independent o' plain' _ _ readable readable' agree

end SafetyCenter.Settings
