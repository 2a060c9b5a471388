import Mathlib.Data.List.Sort
import Mathlib.Order.Basic

/-!
# Maps in the order of their keys

An `OrderedMap` is a list of pairs. `put` keeps it `Sorted`, and then `find` reads it as a map
(`find_put`): each key has at most one pair (`filter_key`), so that a walk over the list meets what
`find` finds, once.
-/

namespace OrderedMap

variable {κ α : Type} [LinearOrder κ]

def find (m : List (κ × α)) (k : κ) : Option α := (m.find? fun p => p.1 = k).map (·.2)

def put : List (κ × α) → κ → α → List (κ × α)
  | [], k, a => [(k, a)]
  | (l, b) :: m, k, a =>
    if k < l then (k, a) :: (l, b) :: m
    else if k = l then (k, a) :: m
    else (l, b) :: put m k a

def Sorted (m : List (κ × α)) : Prop := m.Pairwise fun p q => p.1 < q.1

variable {m : List (κ × α)} {k l : κ} {a b : α}

@[simp] theorem find_nil (k : κ) : find ([] : List (κ × α)) k = none := rfl

theorem find_cons (p : κ × α) (m : List (κ × α)) (k : κ) :
    find (p :: m) k = if p.1 = k then some p.2 else find m k := by
  unfold find
  by_cases h : p.1 = k <;> simp [h]

theorem find_eq_none_of_lt (h : ∀ p ∈ m, k < p.1) : find m k = none := by
  unfold find
  rw [Option.map_eq_none_iff, List.find?_eq_none]
  intro p hp
  simpa using (h p hp).ne'

/-- The keys are those that were there, and the one that is put. -/
theorem key_of_mem_put {p : κ × α} (h : p ∈ put m k a) : p.1 = k ∨ p.1 ∈ m.map (·.1) := by
  induction m with
  | nil => exact .inl (by rw [List.mem_singleton.1 h])
  | cons q m ih =>
    obtain ⟨l, b⟩ := q
    unfold put at h
    split at h
    · rcases List.mem_cons.1 h with rfl | h
      · exact .inl rfl
      · exact .inr (List.mem_map_of_mem h)
    · split at h
      · rcases List.mem_cons.1 h with rfl | h
        · exact .inl rfl
        · exact .inr (List.mem_cons_of_mem _ (List.mem_map_of_mem h))
      · rcases List.mem_cons.1 h with rfl | h
        · exact .inr (List.mem_cons_self ..)
        · exact (ih h).imp_right (List.mem_cons_of_mem _)

theorem Sorted.put (h : Sorted m) (k : κ) (a : α) : Sorted (put m k a) := by
  induction m with
  | nil => exact List.pairwise_singleton _ _
  | cons q m ih =>
    obtain ⟨l, b⟩ := q
    obtain ⟨hhead, htail⟩ := List.pairwise_cons.1 h
    unfold OrderedMap.put
    split
    · rename_i hlt
      refine List.pairwise_cons.2 ⟨fun p hp => ?_, h⟩
      rcases List.mem_cons.1 hp with rfl | hp
      · exact hlt
      · exact hlt.trans (hhead p hp)
    · rename_i hnlt
      split
      · rename_i heq
        subst heq
        exact List.pairwise_cons.2 ⟨hhead, htail⟩
      · rename_i hne
        refine List.pairwise_cons.2 ⟨fun p hp => ?_, ih htail⟩
        rcases key_of_mem_put hp with hkey | hkey
        · exact hkey ▸ lt_of_le_of_ne (not_lt.1 hnlt) (Ne.symm hne)
        · obtain ⟨q, hq, hqp⟩ := List.mem_map.1 hkey
          exact hqp ▸ hhead q hq

theorem find_put (h : Sorted m) : find (put m k a) l = if k = l then some a else find m l := by
  induction m with
  | nil => rw [put, find_cons]
  | cons q m ih =>
    obtain ⟨j, b⟩ := q
    obtain ⟨hhead, htail⟩ := List.pairwise_cons.1 h
    unfold put
    split
    · rw [find_cons]
    · rename_i hnlt
      split
      · rename_i heq
        subst heq
        rw [find_cons, find_cons]
        by_cases hl : k = l <;> simp [hl]
      · rename_i hne
        rw [find_cons, find_cons, ih htail]
        by_cases hj : j = l
        · have hk : ¬ k = l := fun he => hne (he.trans hj.symm)
          simp [hj, hk]
        · simp [hj]

/-- A walk over the map meets a key at its place only. -/
theorem filter_key (h : Sorted m) (k : κ) :
    m.filter (fun p => p.1 = k) = ((find m k).map fun a => (k, a)).toList := by
  induction m with
  | nil => rfl
  | cons q m ih =>
    obtain ⟨j, b⟩ := q
    obtain ⟨hhead, htail⟩ := List.pairwise_cons.1 h
    rw [find_cons]
    by_cases hj : j = k
    · subst hj
      have hrest : m.filter (fun p => p.1 = j) = [] := by
        rw [ih htail, find_eq_none_of_lt hhead]
        rfl
      simp [hrest]
    · simp [hj, ih htail]

theorem find_map {β : Type} (f : κ × α → β) (m : List (κ × α)) (k : κ) :
    find (m.map fun p => (p.1, f p)) k = (find m k).map fun a => f (k, a) := by
  induction m with
  | nil => rfl
  | cons q m ih =>
    rw [List.map_cons, find_cons, find_cons, ih]
    by_cases hq : q.1 = k
    · subst hq
      simp
    · simp [hq]

theorem Sorted.map {β : Type} (h : Sorted m) (f : κ × α → β) :
    Sorted (m.map fun p => (p.1, f p)) := List.pairwise_map.2 h

end OrderedMap
