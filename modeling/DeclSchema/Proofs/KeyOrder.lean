import DeclSchema.Keyed
import Mathlib.Data.List.Dedup
import Mathlib.Data.List.Induction
import Mathlib.Data.String.Basic

/-!
Entries in key order, whatever order they came in.

`insert` looks for the place of a key from the front, so the entries of
`ofList` are in ascending order of their keys and no key comes twice. Two
things follow. Of a list in which no key comes twice nothing is lost, and
the order of that list does not matter: there is only one way to put its
entries in key order (`ofList_eq_of_perm`). Of any other list the last
entry of each key is kept (`get?_ofList`), and there are as many entries
left as there were different keys (`length_ofList`).
-/

namespace DeclSchema.Keyed

variable {α : Type} {key : String} {value : α} {entries others : List (String × α)}

/-- Each key is less than all that come after it. -/
def Sorted (entries : Keyed α) : Prop :=
  entries.Pairwise fun a b => a.1 < b.1

theorem Sorted.insert (h : Sorted entries) (key : String) (value : α) :
    Sorted (Keyed.insert key value entries) := by
  induction entries with
  | nil => simp [Keyed.insert, Sorted]
  | cons e rest ih =>
      obtain ⟨k, v⟩ := e
      have hrest : Sorted rest := h.of_cons
      have hless : ∀ e ∈ rest, k < e.1 := fun e he => List.rel_of_pairwise_cons h he
      rw [Keyed.insert]
      split
      · next hlt =>
          refine List.pairwise_cons.mpr ⟨fun e he => ?_, h⟩
          rcases List.mem_cons.mp he with rfl | he
          · exact hlt
          · exact hlt.trans (hless e he)
      · next hnot =>
          split
          · next heq =>
              subst heq
              exact List.pairwise_cons.mpr ⟨hless, hrest⟩
          · next hne =>
              refine List.pairwise_cons.mpr ⟨fun e he => ?_, ih hrest⟩
              rcases mem_of_mem_insert he with rfl | he
              · exact lt_of_le_of_ne (not_lt.mp hnot) (Ne.symm hne)
              · exact hless e he

theorem sorted_ofList (entries : List (String × α)) : Sorted (ofList entries) := by
  induction entries using List.reverseRecOn with
  | nil => exact List.Pairwise.nil
  | append_singleton entries e ih =>
      rw [ofList_append_singleton]
      exact ih.insert e.1 e.2

theorem Sorted.nodup_keys (h : Sorted entries) : (entries.map (·.1)).Nodup :=
  List.pairwise_map.mpr (h.imp ne_of_lt)

/-- A new key takes the place of nothing. -/
theorem insert_perm_of_not_mem (h : key ∉ entries.map (·.1)) :
    (insert key value entries).Perm ((key, value) :: entries) := by
  induction entries with
  | nil => exact .refl _
  | cons e rest ih =>
      obtain ⟨k, v⟩ := e
      rw [List.map_cons, List.mem_cons, not_or] at h
      rw [insert]
      split
      · exact .refl _
      · rw [if_neg h.1]
        exact ((ih h.2).cons (k, v)).trans (.swap ..)

theorem mem_keys_insert {other : String} :
    other ∈ (insert key value entries).map (·.1) ↔ other = key ∨ other ∈ entries.map (·.1) := by
  induction entries with
  | nil => simp [insert]
  | cons e rest ih =>
      obtain ⟨k, v⟩ := e
      rw [insert]
      split
      · simp
      · split
        · next heq => simp [heq]
        · rw [List.map_cons, List.mem_cons, ih, List.map_cons, List.mem_cons]
          exact or_left_comm

theorem mem_keys_ofList : key ∈ (ofList entries).map (·.1) ↔ key ∈ entries.map (·.1) := by
  induction entries using List.reverseRecOn with
  | nil => rfl
  | append_singleton entries e ih =>
      rw [ofList_append_singleton, mem_keys_insert, ih]
      simp [or_comm]

/-- As many entries are kept as there are different keys. -/
theorem length_ofList (entries : List (String × α)) :
    (ofList entries).length = (entries.map (·.1)).dedup.length := by
  have hkeys : ((ofList entries).map (·.1)).Perm (entries.map (·.1)).dedup := by
    rw [List.perm_ext_iff_of_nodup (sorted_ofList entries).nodup_keys (List.nodup_dedup _)]
    intro key
    rw [mem_keys_ofList, List.mem_dedup]
  rw [← hkeys.length_eq, List.length_map]

/-- Where no key comes twice nothing is lost. -/
theorem ofList_perm (h : (entries.map (·.1)).Nodup) : (ofList entries).Perm entries := by
  induction entries using List.reverseRecOn with
  | nil => exact .refl _
  | append_singleton entries e ih =>
      rw [List.map_append, List.nodup_append] at h
      obtain ⟨hentries, -, hnew⟩ := h
      have hkey : e.1 ∉ (ofList entries).map (·.1) := by
        rw [mem_keys_ofList]
        intro hmem
        exact hnew e.1 hmem e.1 (by simp) rfl
      have hinsert : (insert e.1 e.2 (ofList entries)).Perm (e :: ofList entries) :=
        insert_perm_of_not_mem hkey
      rw [ofList_append_singleton]
      exact hinsert.trans (((ih hentries).cons e).trans (List.perm_append_singleton e entries).symm)

/-- Where no key comes twice the order of the entries does not matter. -/
theorem ofList_eq_of_perm (h : entries.Perm others) (hkeys : (entries.map (·.1)).Nodup) :
    ofList entries = ofList others := by
  have hothers : (others.map (·.1)).Nodup := (h.map _).nodup_iff.mp hkeys
  refine List.Perm.eq_of_pairwise ?_ (sorted_ofList entries) (sorted_ofList others) ?_
  · intro a b _ _ hab hba
    exact absurd hba hab.asymm
  · exact (ofList_perm hkeys).trans (h.trans (ofList_perm hothers).symm)

/-- Of the entries under a key the last is kept. -/
theorem get?_ofList (entries : List (String × α)) (key : String) :
    (ofList entries).get? key = entries.reverse.lookup key := by
  induction entries using List.reverseRecOn with
  | nil => rfl
  | append_singleton entries e ih =>
      rw [ofList_append_singleton, List.reverse_concat, List.lookup_cons]
      by_cases hkey : key = e.1
      · subst hkey
        simp
      · have hne : (key == e.1) = false := by simpa using hkey
        rw [get?_insert_of_ne hkey, ih, hne]

theorem get?_map {β : Type} (f : α → β) (entries : Keyed α) (key : String) :
    Keyed.get? (entries.map fun e => (e.1, f e.2)) key = (entries.get? key).map f := by
  induction entries with
  | nil => rfl
  | cons e rest ih =>
      obtain ⟨k, v⟩ := e
      simp only [get?, List.map_cons, List.lookup_cons] at ih ⊢
      split
      · rfl
      · exact ih

end DeclSchema.Keyed
