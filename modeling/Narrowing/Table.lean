import Narrowing.Key
/-!
# Insertion-ordered tables

Properties, class members and the fields of a shape are tables from keys that keep the order
in which a key was first put.  Putting a key again replaces its value in place.
-/

namespace Narrowing

/-- Entries in the order in which their keys were first put. -/
abbrev Table (α : Type) : Type := List (Key × α)

namespace Table

variable {α : Type}

/-- The value under a key. -/
def find? (key : Key) (table : Table α) : Option α := List.lookup key table

/-- The keys in order. -/
def keys (table : Table α) : List Key := table.map Prod.fst

/-- Puts a value under a key: in place of the old value, or else at the end. -/
def put (key : Key) (value : α) : Table α → Table α
  | [] => [(key, value)]
  | entry :: rest =>
    if entry.1 = key then (key, value) :: rest else entry :: put key value rest

/-! ### What a key holds after a put -/

theorem find?_cons (key : Key) (entry : Key × α) (rest : Table α) :
    find? key (entry :: rest) = if entry.1 = key then some entry.2 else find? key rest := by
  obtain ⟨k, value⟩ := entry
  by_cases h : k = key
  · simp [find?, h]
  · have hne : (key == k) = false := by simpa using fun e : key = k => h e.symm
    simp [find?, List.lookup_cons, h, hne]

@[simp] theorem find?_put_self (key : Key) (value : α) (table : Table α) :
    find? key (put key value table) = some value := by
  induction table with
  | nil => simp [put, find?_cons]
  | cons entry rest ih =>
    by_cases h : entry.1 = key
    · simp [put, find?_cons, h]
    · simp [put, find?_cons, h, ih]

theorem find?_put_of_ne {key other : Key} (h : other ≠ key) (value : α) (table : Table α) :
    find? other (put key value table) = find? other table := by
  have hne : key ≠ other := h.symm
  induction table with
  | nil => simp [put, find?_cons, hne]
  | cons entry rest ih =>
    by_cases he : entry.1 = key
    · simp [put, find?_cons, he, hne]
    · simp [put, find?_cons, he, ih]

/-! ### Keys -/

@[simp] theorem keys_nil : keys ([] : Table α) = [] := rfl

@[simp] theorem keys_cons (entry : Key × α) (rest : Table α) :
    keys (entry :: rest) = entry.1 :: keys rest := rfl

theorem isSome_find?_iff (key : Key) (table : Table α) :
    (find? key table).isSome ↔ key ∈ keys table := by
  induction table with
  | nil => simp [find?]
  | cons entry rest ih =>
    by_cases h : entry.1 = key
    · simp [find?_cons, h]
    · have hne : key ≠ entry.1 := fun e => h e.symm
      simp [find?_cons, h, hne, ih]

/-- A put keeps the keys and their order, and adds the key at the end if it is new. -/
theorem keys_put (key : Key) (value : α) (table : Table α) :
    keys (put key value table) =
      if key ∈ keys table then keys table else keys table ++ [key] := by
  induction table with
  | nil => simp [put]
  | cons entry rest ih =>
    by_cases h : entry.1 = key
    · simp [put, h]
    · have hne : key ≠ entry.1 := fun e => h e.symm
      by_cases hm : key ∈ keys rest <;> simp [put, h, hne, ih, hm]

theorem nodup_keys_put {key : Key} {value : α} {table : Table α} (h : (keys table).Nodup) :
    (keys (put key value table)).Nodup := by
  rw [keys_put]
  split
  · exact h
  · next hm =>
    refine List.nodup_append.mpr ⟨h, by simp, ?_⟩
    intro a ha b hb hab
    rw [List.mem_singleton.mp hb] at hab
    exact hm (hab ▸ ha)

end Table

end Narrowing
