namespace SafetyCenter

/-- A list in which no element occurs twice. -/
structure Distinct (α : Type) where
  toList : List α
  nodup : toList.Nodup
  deriving DecidableEq

namespace Distinct

variable {α : Type}

instance : Membership α (Distinct α) := ⟨fun s a => a ∈ s.toList⟩

@[simp] theorem mem_toList {a : α} {s : Distinct α} : a ∈ s.toList ↔ a ∈ s := Iff.rfl

@[ext] theorem ext {s t : Distinct α} (h : s.toList = t.toList) : s = t := by
  cases s; cases t; cases h; rfl

def empty : Distinct α := ⟨[], List.nodup_nil⟩

instance : EmptyCollection (Distinct α) := ⟨empty⟩
instance : Inhabited (Distinct α) := ⟨empty⟩

@[simp] theorem toList_empty : (∅ : Distinct α).toList = [] := rfl

@[simp] theorem not_mem_empty (a : α) : ¬ a ∈ (∅ : Distinct α) := List.not_mem_nil

def size (s : Distinct α) : Nat := s.toList.length

@[simp] theorem size_empty : (∅ : Distinct α).size = 0 := rfl

def filter (p : α → Bool) (s : Distinct α) : Distinct α :=
  ⟨s.toList.filter p, s.nodup.filter p⟩

@[simp] theorem toList_filter (p : α → Bool) (s : Distinct α) :
    (s.filter p).toList = s.toList.filter p := rfl

@[simp] theorem mem_filter {p : α → Bool} {s : Distinct α} {a : α} :
    a ∈ s.filter p ↔ a ∈ s ∧ p a = true := List.mem_filter

theorem nodup_append_singleton {l : List α} {a : α} (h : l.Nodup) (ha : a ∉ l) :
    (l ++ [a]).Nodup := by
  rw [List.nodup_append]
  exact ⟨h, by simp, fun b hb c hc hbc => by
    rw [List.mem_singleton.1 hc] at hbc
    exact ha (hbc ▸ hb)⟩

variable [DecidableEq α]

instance (a : α) (s : Distinct α) : Decidable (a ∈ s) :=
  inferInstanceAs (Decidable (a ∈ s.toList))

/-- Appends an element unless it is there already. -/
def insert (s : Distinct α) (a : α) : Distinct α :=
  if h : a ∈ s.toList then s else ⟨s.toList ++ [a], nodup_append_singleton s.nodup h⟩

theorem insert_of_mem {s : Distinct α} {a : α} (h : a ∈ s) : s.insert a = s :=
  dif_pos h

theorem toList_insert_of_not_mem {s : Distinct α} {a : α} (h : a ∉ s) :
    (s.insert a).toList = s.toList ++ [a] := by
  have h' : a ∉ s.toList := h
  simp [insert, h']

@[simp] theorem mem_insert {s : Distinct α} {a b : α} : b ∈ s.insert a ↔ b ∈ s ∨ b = a := by
  by_cases h : a ∈ s
  · rw [insert_of_mem h]
    exact ⟨Or.inl, fun hb => hb.elim id (fun hb => hb ▸ h)⟩
  · rw [← mem_toList, toList_insert_of_not_mem h]
    simp

theorem size_insert_of_not_mem {s : Distinct α} {a : α} (h : a ∉ s) :
    (s.insert a).size = s.size + 1 := by
  simp [size, toList_insert_of_not_mem h]

def erase (s : Distinct α) (a : α) : Distinct α :=
  s.filter (· ≠ a)

@[simp] theorem mem_erase {s : Distinct α} {a b : α} : b ∈ s.erase a ↔ b ∈ s ∧ b ≠ a := by
  simp [erase]

theorem erase_of_not_mem {s : Distinct α} {a : α} (absent : a ∉ s) : s.erase a = s := by
  apply ext
  rw [erase, toList_filter, List.filter_eq_self]
  intro b member
  exact decide_eq_true fun same => absent (same ▸ member)

/-- The elements of a list, each where it first occurs. -/
def ofList (l : List α) : Distinct α :=
  l.foldl insert ∅

theorem mem_foldl_insert {l : List α} {s : Distinct α} {a : α} :
    a ∈ l.foldl insert s ↔ a ∈ s ∨ a ∈ l := by
  induction l generalizing s with
  | nil => simp
  | cons b l ih => rw [List.foldl_cons, ih, mem_insert, List.mem_cons, or_assoc]

@[simp] theorem mem_ofList {l : List α} {a : α} : a ∈ ofList l ↔ a ∈ l := by
  simp [ofList, mem_foldl_insert]

end Distinct

end SafetyCenter
