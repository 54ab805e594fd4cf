namespace SafetyCenter

/-- Pairs of a key and a value, each key at most once. -/
structure Assoc (κ ν : Type) where
  entries : List (κ × ν)
  nodup : (entries.map Prod.fst).Nodup

namespace Assoc

variable {κ ν : Type}

instance [DecidableEq κ] [DecidableEq ν] : DecidableEq (Assoc κ ν) := fun a b =>
  if h : a.entries = b.entries then
    isTrue (by cases a; cases b; cases h; rfl)
  else
    isFalse (fun hab => h (hab ▸ rfl))

def empty : Assoc κ ν := ⟨[], List.nodup_nil⟩

instance : EmptyCollection (Assoc κ ν) := ⟨empty⟩
instance : Inhabited (Assoc κ ν) := ⟨empty⟩

/-- The keys, in the order in which they were first put. -/
def keys (m : Assoc κ ν) : List κ := m.entries.map Prod.fst

def isEmpty (m : Assoc κ ν) : Bool := m.entries.isEmpty

variable [DecidableEq κ]

def lookup (k : κ) : List (κ × ν) → Option ν
  | [] => none
  | (k', v) :: es => if k' = k then some v else lookup k es

/-- Replaces the value of a key where it stands, or appends the pair. -/
def putEntry (k : κ) (v : ν) : List (κ × ν) → List (κ × ν)
  | [] => [(k, v)]
  | (k', v') :: es => if k' = k then (k, v) :: es else (k', v') :: putEntry k v es

theorem map_fst_putEntry (k : κ) (v : ν) (es : List (κ × ν)) :
    (putEntry k v es).map Prod.fst =
      if k ∈ es.map Prod.fst then es.map Prod.fst else es.map Prod.fst ++ [k] := by
  induction es with
  | nil => simp [putEntry]
  | cons e es ih =>
    obtain ⟨k', v'⟩ := e
    by_cases h : k' = k
    · simp [putEntry, h]
    · have h' : ¬ k = k' := fun hk => h hk.symm
      simp only [putEntry, h, if_false, List.map_cons, ih, List.mem_cons, h', false_or]
      split <;> simp

theorem nodup_putEntry {k : κ} {v : ν} {es : List (κ × ν)} (h : (es.map Prod.fst).Nodup) :
    ((putEntry k v es).map Prod.fst).Nodup := by
  rw [map_fst_putEntry]
  split
  · exact h
  · rename_i hk
    rw [List.nodup_append]
    exact ⟨h, by simp, fun a ha b hb hab => hk (by
      rw [← List.mem_singleton.1 hb, ← hab]; exact ha)⟩

def get? (m : Assoc κ ν) (k : κ) : Option ν := lookup k m.entries

def put (m : Assoc κ ν) (k : κ) (v : ν) : Assoc κ ν :=
  ⟨putEntry k v m.entries, nodup_putEntry m.nodup⟩

def erase (m : Assoc κ ν) (k : κ) : Assoc κ ν :=
  ⟨m.entries.filter (·.1 ≠ k), m.nodup.sublist (List.filter_sublist.map _)⟩

def putAll (m : Assoc κ ν) (es : List (κ × ν)) : Assoc κ ν :=
  es.foldl (fun m e => m.put e.1 e.2) m

/-- The map that gives each key its last value in a list of pairs. -/
def ofList (es : List (κ × ν)) : Assoc κ ν :=
  putAll ∅ es

theorem get?_of_not_mem_keys {m : Assoc κ ν} {k : κ} (absent : k ∉ m.keys) : m.get? k = none := by
  obtain ⟨es, nodup⟩ := m
  unfold keys at absent
  unfold get?
  dsimp only at absent ⊢
  clear nodup
  induction es with
  | nil => rfl
  | cons e es ih =>
    rw [List.map_cons, List.mem_cons, not_or] at absent
    rw [lookup, if_neg (Ne.symm absent.1), ih absent.2]

/-- A key has the value that its pair gives it. -/
theorem get?_eq_some_iff {m : Assoc κ ν} {k : κ} {v : ν} :
    m.get? k = some v ↔ (k, v) ∈ m.entries := by
  obtain ⟨es, nodup⟩ := m
  show lookup k es = some v ↔ (k, v) ∈ es
  induction es with
  | nil => simp [lookup]
  | cons e es ih =>
    obtain ⟨j, w⟩ := e
    rw [List.map_cons, List.nodup_cons] at nodup
    by_cases here : j = k
    · subst here
      rw [lookup, if_pos rfl, Option.some.injEq, List.mem_cons]
      constructor
      · rintro rfl
        exact .inl rfl
      · rintro (same | later)
        · cases same
          rfl
        · exact absurd (List.mem_map_of_mem later) nodup.1
    · rw [lookup, if_neg here, ih nodup.2, List.mem_cons]
      simp [Ne.symm here]

@[simp] theorem get?_empty (k : κ) : (∅ : Assoc κ ν).get? k = none := rfl

theorem lookup_putEntry (k k' : κ) (v : ν) (es : List (κ × ν)) :
    lookup k' (putEntry k v es) = if k = k' then some v else lookup k' es := by
  induction es with
  | nil => simp [putEntry, lookup]
  | cons e es ih =>
    obtain ⟨j, w⟩ := e
    by_cases h : j = k
    · subst h
      by_cases hk : j = k' <;> simp [putEntry, lookup, hk]
    · simp only [putEntry, h, if_false, lookup, ih]
      by_cases hj : j = k'
      · have : ¬ k = k' := fun hk => h (hj.trans hk.symm)
        simp [hj, this]
      · simp [hj]

@[simp] theorem get?_put (m : Assoc κ ν) (k k' : κ) (v : ν) :
    (m.put k v).get? k' = if k = k' then some v else m.get? k' :=
  lookup_putEntry k k' v m.entries

theorem eq_or_mem_of_mem_putEntry {k : κ} {v : ν} {es : List (κ × ν)} {e : κ × ν}
    (member : e ∈ putEntry k v es) : e = (k, v) ∨ e ∈ es := by
  induction es with
  | nil => exact .inl (List.mem_singleton.mp member)
  | cons f es ih =>
    obtain ⟨j, w⟩ := f
    unfold putEntry at member
    split at member
    · exact (List.mem_cons.mp member).imp_right (List.mem_cons_of_mem _)
    · rcases List.mem_cons.mp member with rfl | later
      · exact .inr List.mem_cons_self
      · exact (ih later).imp_right (List.mem_cons_of_mem _)

/-- A pair is the one that was put, or was there before. -/
theorem eq_or_mem_of_mem_put {m : Assoc κ ν} {k : κ} {v : ν} {e : κ × ν}
    (member : e ∈ (m.put k v).entries) : e = (k, v) ∨ e ∈ m.entries :=
  eq_or_mem_of_mem_putEntry member

theorem lookup_filter_ne (k k' : κ) (es : List (κ × ν)) :
    lookup k' (es.filter (·.1 ≠ k)) = if k = k' then none else lookup k' es := by
  induction es with
  | nil => simp [lookup]
  | cons e es ih =>
    obtain ⟨j, w⟩ := e
    rw [List.filter_cons]
    by_cases h : j = k
    · subst h
      by_cases hk : j = k' <;> simpa [lookup, hk] using ih
    · by_cases hj : j = k'
      · have hk : ¬ k = k' := fun hk => h (hj.trans hk.symm)
        rw [if_pos (by simpa using h)]
        simp [lookup, hj, hk]
      · simpa [h, lookup, hj] using ih

@[simp] theorem get?_erase (m : Assoc κ ν) (k k' : κ) :
    (m.erase k).get? k' = if k = k' then none else m.get? k' :=
  lookup_filter_ne k k' m.entries

end Assoc

end SafetyCenter
