import DeclSchema.Name
import Mathlib

/-!
The shape of a camel-case spelling.

Whatever a name is made of, its words are runs of ASCII letters and digits
and none of them is empty. Within ASCII both changes of case are one
character for one character and keep letters and digits what they are. So
the camel-case spelling of any text is empty or starts with a lower-case
letter or a digit, and nothing but letters and digits follows.
-/

namespace DeclSchema.Name

open Text

variable {c : Char} {s w current : List Char}

/-! ### Case within ASCII -/

theorem toNat_lt_of_isAlphanum (h : c.isAlphanum) : c.toNat < 0x80 := by
  simp only [Char.isAlphanum, Char.isAlpha, Char.isUpper, Char.isLower, Char.isDigit,
    UInt32.le_iff_toNat_le, Char.toNat_val] at h
  grind

theorem isLower_or_isDigit_toLower (h : c.isAlphanum) :
    c.toLower.isLower ∨ c.toLower.isDigit := by
  rw [Char.isLower_toLower_eq_isAlpha]
  by_cases hc : c.isAlpha
  · exact .inl hc
  · have hsame : c.toLower = c := Char.toLower_eq_of_not_isUpper (by simp_all [Char.isAlpha])
    rw [hsame]
    exact .inr (by simpa [Char.isAlphanum, hc] using h)

theorem isAlphanum_of_isLower_or_isDigit (h : c.isLower ∨ c.isDigit) : c.isAlphanum := by
  rcases h with h | h <;> simp [Char.isAlphanum, Char.isAlpha, h]

theorem isAlphanum_toLower (h : c.isAlphanum) : c.toLower.isAlphanum :=
  isAlphanum_of_isLower_or_isDigit (isLower_or_isDigit_toLower h)

theorem isAlphanum_toUpper (h : c.isAlphanum) : c.toUpper.isAlphanum := by
  by_cases hc : c.isLower
  · simp [Char.isAlphanum, Char.isAlpha, hc]
  · rwa [Char.toUpper_eq_of_not_isLower hc]

/-! ### Words -/

/-- A run of at least one letter or digit. -/
def IsWord (w : List Char) : Prop :=
  w ≠ [] ∧ ∀ c ∈ w, c.isAlphanum

theorem isWord_singleton (h : c.isAlphanum) : IsWord [c] := by
  simpa [IsWord] using h

theorem IsWord.concat (hw : IsWord w) (h : c.isAlphanum) : IsWord (w ++ [c]) := by
  refine ⟨by simp, fun d hd => ?_⟩
  rcases List.mem_append.mp hd with hd | hd
  · exact hw.2 d hd
  · rw [List.mem_singleton.mp hd]
    exact h

/-- The walk only ever closes a word that it has begun, so each is a run of
letters and digits if the one it starts in is. -/
theorem isWord_of_mem_wordsFrom (hcurrent : current ≠ [] → IsWord current)
    (h : w ∈ wordsFrom current s) : IsWord w := by
  induction s generalizing current with
  | nil =>
      rw [wordsFrom] at h
      split at h
      · cases h
      · next hne =>
          rw [List.mem_singleton.mp h]
          exact hcurrent (by simpa using hne)
  | cons c rest ih =>
      rw [wordsFrom] at h
      split at h
      · split at h
        · exact ih (by simp) h
        · next hne =>
            rcases List.mem_cons.mp h with rfl | h
            · exact hcurrent (by simpa using hne)
            · exact ih (by simp) h
      · next hc =>
          have hc : c.isAlphanum := by simpa using hc
          split at h
          · exact ih (fun _ => isWord_singleton hc) h
          · next prev hprev =>
              have hbegun : IsWord current := hcurrent (by rintro rfl; cases hprev)
              split at h
              · rcases List.mem_cons.mp h with rfl | h
                · exact hbegun
                · exact ih (fun _ => isWord_singleton hc) h
              · exact ih (fun _ => hbegun.concat hc) h

theorem isWord_of_mem_words (h : w ∈ words s) : IsWord w :=
  isWord_of_mem_wordsFrom (by simp) h

/-! ### Words joined -/

theorem isAlphanum_of_mem_capitalChars (hs : ∀ c ∈ s, c.isAlphanum) (h : c ∈ capitalChars s) :
    c.isAlphanum := by
  cases s with
  | nil => cases h
  | cons first rest =>
      rw [List.forall_mem_cons] at hs
      rw [capitalChars, upper_of_ascii (toNat_lt_of_isAlphanum hs.1), List.singleton_append] at h
      rcases List.mem_cons.mp h with rfl | h
      · exact isAlphanum_toUpper hs.1
      · exact hs.2 c h

/-- The text is empty, or a lower-case letter or a digit and then letters and
digits, all of them ASCII. -/
def IsKey (s : List Char) : Prop :=
  s = [] ∨ ∃ first rest, s = first :: rest ∧ (first.isLower ∨ first.isDigit) ∧
    ∀ c ∈ rest, c.isAlphanum

theorem isKey_joinCamel {ws : List (List Char)} (hws : ∀ w ∈ ws, IsWord w) :
    IsKey (joinCamel ws) := by
  cases ws with
  | nil => exact .inl rfl
  | cons word later =>
      rw [List.forall_mem_cons] at hws
      obtain ⟨⟨hne, hword⟩, hlater⟩ := hws
      obtain ⟨first, rest, rfl⟩ := List.exists_cons_of_ne_nil hne
      rw [List.forall_mem_cons] at hword
      refine .inr ⟨first.toLower, _, rfl, isLower_or_isDigit_toLower hword.1, fun c hc => ?_⟩
      rcases List.mem_append.mp hc with hc | hc
      · obtain ⟨d, hd, rfl⟩ := List.mem_map.mp hc
        exact isAlphanum_toLower (hword.2 d hd)
      · obtain ⟨w, hw, hc⟩ := List.mem_flatMap.mp hc
        refine isAlphanum_of_mem_capitalChars (fun d hd => ?_) hc
        obtain ⟨e, he, rfl⟩ := List.mem_map.mp hd
        exact isAlphanum_toLower ((hlater w hw).2 e he)

theorem isKey_camelCase (name : String) : IsKey (camelCase name).toList := by
  rw [camelCase, String.toList_ofList]
  exact isKey_joinCamel fun _ => isWord_of_mem_words

end DeclSchema.Name
