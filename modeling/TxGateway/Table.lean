/-!
# Finite tables

A table holds at most one value for each key and keeps the order in which keys first came in.
Lookups after an update are described by `get?_set` and `get?_erase`.
-/

namespace TxGateway

namespace Entries

variable {κ α : Type} [DecidableEq κ]

/-- The value stored under a key. -/
def get? (k : κ) : List (κ × α) → Option α
  | [] => none
  | (j, a) :: rest => if j = k then some a else get? k rest

/-- Replaces the value of a key in its place, or adds the key at the end. -/
def set (k : κ) (a : α) : List (κ × α) → List (κ × α)
  | [] => [(k, a)]
  | (j, b) :: rest => if j = k then (j, a) :: rest else (j, b) :: set k a rest

theorem mem_keys_set (k : κ) (a : α) (es : List (κ × α)) (j : κ) :
    j ∈ (set k a es).map Prod.fst ↔ j = k ∨ j ∈ es.map Prod.fst := by
  induction es with
  | nil => simp [set]
  | cons e rest ih =>
    obtain ⟨i, b⟩ := e
    by_cases h : i = k
    · subst h; simp [set]
    · simp only [set, h, if_false, List.map_cons, List.mem_cons, ih]
      constructor
      · rintro (h1 | h1 | h1) <;> simp [h1]
      · rintro (h1 | h1 | h1) <;> simp [h1]

theorem nodup_set (k : κ) (a : α) (es : List (κ × α)) (h : (es.map Prod.fst).Nodup) :
    ((set k a es).map Prod.fst).Nodup := by
  induction es with
  | nil => simp [set]
  | cons e rest ih =>
    obtain ⟨i, b⟩ := e
    simp only [List.map_cons, List.nodup_cons] at h
    by_cases hik : i = k
    · subst hik; simpa [set] using h
    · simp only [set, hik, if_false, List.map_cons, List.nodup_cons]
      refine ⟨?_, ih h.2⟩
      rw [mem_keys_set]
      rintro (h1 | h1)
      · exact hik h1
      · exact h.1 h1

theorem get?_set (k : κ) (a : α) (es : List (κ × α)) (j : κ) :
    get? j (set k a es) = if j = k then some a else get? j es := by
  induction es with
  | nil =>
    by_cases h : j = k
    · simp [set, get?, h]
    · simp [set, get?, h, Ne.symm h]
  | cons e rest ih =>
    obtain ⟨i, b⟩ := e
    by_cases hik : i = k
    · subst hik
      by_cases h : j = i
      · simp [set, get?, h]
      · simp [set, get?, h, Ne.symm h]
    · by_cases hij : i = j
      · subst hij
        simp [set, get?, hik]
      · simp only [set, hik, if_false, get?, hij, ih]

theorem get?_filter (p : κ × α → Bool) (es : List (κ × α)) (h : (es.map Prod.fst).Nodup)
    (k : κ) : get? k (es.filter p) = (get? k es).filter fun a => p (k, a) := by
  induction es with
  | nil => rfl
  | cons e rest ih =>
    obtain ⟨i, b⟩ := e
    simp only [List.map_cons, List.nodup_cons] at h
    by_cases hik : i = k
    · subst hik
      have hrest : get? i rest = none := by
        have hmem := h.1
        clear ih h
        induction rest with
        | nil => rfl
        | cons e rest ih =>
          obtain ⟨j, c⟩ := e
          simp only [List.map_cons, List.mem_cons, not_or] at hmem
          simp [get?, Ne.symm hmem.1, ih hmem.2]
      by_cases hp : p (i, b)
      · simp [hp, get?, Option.filter]
      · simp [hp, get?, ih h.2, hrest, Option.filter]
    · by_cases hp : p (i, b)
      · simp [hp, get?, hik, ih h.2]
      · simp [hp, get?, hik, ih h.2]

end Entries

/-- Values by key, in the order in which the keys first came in. -/
structure Table (κ α : Type) where
  /-- The keys with their values. -/
  entries : List (κ × α) := []
  /-- No key occurs twice. -/
  nodup : (entries.map Prod.fst).Nodup := by simp

namespace Table

variable {κ α : Type} [DecidableEq κ]

/-- The table without entries. -/
def empty : Table κ α := {}

instance : EmptyCollection (Table κ α) := ⟨empty⟩

instance : Inhabited (Table κ α) := ⟨empty⟩

/-- The value stored under a key. -/
def get? (t : Table κ α) (k : κ) : Option α := Entries.get? k t.entries

/-- Whether a key has a value. -/
def contains (t : Table κ α) (k : κ) : Bool := (t.get? k).isSome

/-- Stores a value under a key, in place of an earlier one. -/
def set (t : Table κ α) (k : κ) (a : α) : Table κ α :=
  ⟨Entries.set k a t.entries, Entries.nodup_set k a t.entries t.nodup⟩

/-- Keeps the entries that satisfy a predicate. -/
def filter (t : Table κ α) (p : κ → α → Bool) : Table κ α :=
  ⟨t.entries.filter fun e => p e.1 e.2,
    t.nodup.sublist (List.Sublist.map _ List.filter_sublist)⟩

/-- Removes a key. -/
def erase (t : Table κ α) (k : κ) : Table κ α := t.filter fun j _ => j ≠ k

/-- The keys in the order in which they first came in. -/
def keys (t : Table κ α) : List κ := t.entries.map Prod.fst

/-- The values in the order of their keys. -/
def values (t : Table κ α) : List α := t.entries.map Prod.snd

/-- How many keys have a value. -/
def size (t : Table κ α) : Nat := t.entries.length

@[simp] theorem get?_empty (k : κ) : (∅ : Table κ α).get? k = none := rfl

theorem get?_set (t : Table κ α) (k : κ) (a : α) (j : κ) :
    (t.set k a).get? j = if j = k then some a else t.get? j :=
  Entries.get?_set k a t.entries j

@[simp] theorem get?_set_self (t : Table κ α) (k : κ) (a : α) : (t.set k a).get? k = some a := by
  simp [get?_set]

theorem get?_filter (t : Table κ α) (p : κ → α → Bool) (k : κ) :
    (t.filter p).get? k = (t.get? k).filter (p k) :=
  Entries.get?_filter _ t.entries t.nodup k

theorem get?_erase (t : Table κ α) (k j : κ) :
    (t.erase k).get? j = if j = k then none else t.get? j := by
  rw [erase, get?_filter]
  by_cases h : j = k
  · cases t.get? j <;> simp [Option.filter, h]
  · cases t.get? j <;> simp [Option.filter, h]

end Table

end TxGateway
