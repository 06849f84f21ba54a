/-!
Entries in ascending order of their keys.

A JSON object has one entry per key and is written in key order. `Keyed α`
is the list of those entries: `insert` puts an entry where its key belongs
and takes the place of an earlier one with the same key, so lists that come
from `ofList` never hold a key twice.
-/

namespace DeclSchema

/-- Entries under text keys, kept in ascending key order. -/
abbrev Keyed (α : Type) := List (String × α)

namespace Keyed

variable {α : Type}

def insert (key : String) (value : α) : Keyed α → Keyed α
  | [] => [(key, value)]
  | (k, v) :: rest =>
      if key < k then (key, value) :: (k, v) :: rest
      else if key = k then (key, value) :: rest
      else (k, v) :: insert key value rest

/-- The entries of a list in key order; of two with one key the later stays. -/
def ofList (entries : List (String × α)) : Keyed α :=
  entries.foldl (fun kept e => insert e.1 e.2 kept) []

def get? (entries : Keyed α) (key : String) : Option α :=
  entries.lookup key

theorem ofList_append_singleton (entries : List (String × α)) (e : String × α) :
    ofList (entries ++ [e]) = insert e.1 e.2 (ofList entries) := by
  simp [ofList]

theorem insert_ne_nil (key : String) (value : α) (entries : Keyed α) :
    insert key value entries ≠ [] := by
  cases entries with
  | nil => simp [insert]
  | cons e rest =>
      simp only [insert]
      split
      · simp
      · split <;> simp

theorem mem_of_mem_insert {key : String} {value : α} {entries : Keyed α} {e : String × α}
    (h : e ∈ insert key value entries) : e = (key, value) ∨ e ∈ entries := by
  induction entries with
  | nil => simpa [insert] using h
  | cons kept rest ih =>
      simp only [insert] at h
      split at h
      · simpa using h
      · split at h
        · rcases List.mem_cons.mp h with h | h
          · exact .inl h
          · exact .inr (List.mem_cons_of_mem _ h)
        · rcases List.mem_cons.mp h with h | h
          · exact .inr (List.mem_cons.mpr (.inl h))
          · rcases ih h with h | h
            · exact .inl h
            · exact .inr (List.mem_cons_of_mem _ h)

theorem mem_of_mem_foldl_insert {entries : List (String × α)} {kept : Keyed α} {e : String × α}
    (h : e ∈ entries.foldl (fun kept e => insert e.1 e.2 kept) kept) : e ∈ entries ∨ e ∈ kept := by
  induction entries generalizing kept with
  | nil => exact .inr h
  | cons first rest ih =>
      rcases ih h with h | h
      · exact .inl (List.mem_cons_of_mem _ h)
      · rcases mem_of_mem_insert h with h | h
        · exact .inl (List.mem_cons.mpr (.inl h))
        · exact .inr h

theorem mem_of_mem_ofList {entries : List (String × α)} {e : String × α} (h : e ∈ ofList entries) :
    e ∈ entries := by
  rcases mem_of_mem_foldl_insert h with h | h
  · exact h
  · cases h

theorem ofList_ne_nil {entries : List (String × α)} (h : entries ≠ []) : ofList entries ≠ [] := by
  rw [← List.dropLast_concat_getLast h, ofList_append_singleton]
  exact insert_ne_nil _ _ _

@[simp] theorem get?_insert_self (key : String) (value : α) (entries : Keyed α) :
    (insert key value entries).get? key = some value := by
  induction entries with
  | nil => simp [insert, get?]
  | cons e rest ih =>
      obtain ⟨k, v⟩ := e
      simp only [insert]
      split
      · simp [get?]
      · split
        · simp [get?]
        · next hne =>
            have : (key == k) = false := by simpa using hne
            simpa [get?, List.lookup_cons, this] using ih

theorem get?_insert_of_ne {key other : String} (h : other ≠ key) (value : α)
    (entries : Keyed α) : (insert key value entries).get? other = entries.get? other := by
  have hb : (other == key) = false := by simpa using h
  induction entries with
  | nil => simp [insert, get?, List.lookup_cons, hb]
  | cons e rest ih =>
      obtain ⟨k, v⟩ := e
      simp only [insert]
      split
      · simp [get?, List.lookup_cons, hb]
      · split
        · next hk => subst hk; simp [get?, List.lookup_cons, hb]
        · simp only [get?, List.lookup_cons] at ih ⊢
          rw [ih]

end Keyed

end DeclSchema
