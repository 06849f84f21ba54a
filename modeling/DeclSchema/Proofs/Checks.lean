import DeclSchema.Error

/-!
What a check lets through, and what it blames.

Work is done in stages, of which the first that fails decides. A check is
such a stage. If it passes, its value is of the right form: the two tests
of the check for identifiers, first for blank text and then for the form,
come to the form alone, since no identifier is blank. If it fails, the
error names the field that was checked.
-/

namespace DeclSchema

/-! ### Stages -/

section Stages

variable {ε α β : Type} {x : Except ε α} {f : α → Except ε β}

theorem bind_eq_ok_iff {b : β} : x >>= f = .ok b ↔ ∃ a, x = .ok a ∧ f a = .ok b := by
  cases x <;> simp [bind, Except.bind]

theorem bind_eq_error_iff {e : ε} :
    x >>= f = .error e ↔ x = .error e ∨ ∃ a, x = .ok a ∧ f a = .error e := by
  cases x <;> simp [bind, Except.bind]

theorem seq_eq_ok_iff {x : Except ε Unit} {y : Except ε β} {b : β} :
    (x >>= fun _ => y) = .ok b ↔ x = .ok () ∧ y = .ok b := by
  cases x <;> simp [bind, Except.bind]

theorem seq_eq_error_iff {x : Except ε Unit} {y : Except ε β} {e : ε} :
    (x >>= fun _ => y) = .error e ↔ x = .error e ∨ x = .ok () ∧ y = .error e := by
  cases x <;> simp [bind, Except.bind]

end Stages

namespace Check

variable {field value : String} {e : Error}

/-! ### Identifiers -/

/-- The text is of the form `[A-Za-z_][A-Za-z0-9_]*`. -/
def IsIdentifier (value : String) : Prop :=
  ∃ first rest, value.toList = first :: rest ∧ (first.isAlpha ∨ first = '_') ∧
    ∀ c ∈ rest, c.isAlphanum ∨ c = '_'

theorem isIdentifier_iff : isIdentifier value.toList = true ↔ IsIdentifier value := by
  unfold IsIdentifier
  cases value.toList with
  | nil => simp [isIdentifier]
  | cons first rest =>
      simp only [isIdentifier, startsIdentifier, continuesIdentifier, Bool.and_eq_true,
        Bool.or_eq_true, beq_iff_eq, List.all_eq_true]
      constructor
      · intro h
        exact ⟨first, rest, rfl, h⟩
      · rintro ⟨first, rest, heq, h⟩
        cases heq
        exact h

theorem toNat_of_isAlpha {c : Char} (h : c.isAlpha) : 0x41 ≤ c.toNat ∧ c.toNat ≤ 0x7A := by
  rcases (Bool.or_eq_true _ _).mp h with hupper | hlower
  · obtain ⟨hfrom, hto⟩ : 'A'.val ≤ c.val ∧ c.val ≤ 'Z'.val := of_decide_eq_true hupper
    exact ⟨hfrom, Nat.le_trans hto (by decide)⟩
  · obtain ⟨hfrom, hto⟩ := (Bool.and_eq_true _ _).mp hlower
    have hfrom : 'a'.val ≤ c.val := of_decide_eq_true hfrom
    exact ⟨Nat.le_trans (by decide) hfrom, of_decide_eq_true hto⟩

/-- No identifier starts with a blank character. -/
theorem isBlank_eq_false {c : Char} (h : c.isAlpha ∨ c = '_') : Text.isBlank c = false := by
  have hcode : 0x41 ≤ c.toNat ∧ c.toNat ≤ 0x7A := by
    rcases h with h | rfl
    · exact toNat_of_isAlpha h
    · decide
  simp only [Text.isBlank, Text.blankRanges, List.any_cons, List.any_nil, Bool.or_eq_false_iff,
    Bool.and_eq_false_iff, decide_eq_false_iff_not, Nat.not_le, and_true]
  omega

theorem nonBlank_of_isIdentifier (h : IsIdentifier value) : nonBlank field value = .ok () := by
  obtain ⟨first, rest, hvalue, hfirst, -⟩ := h
  have hblank : Text.allBlank value = false := by
    simp [Text.allBlank, hvalue, isBlank_eq_false hfirst]
  rw [nonBlank, hblank]
  rfl

/-- The check passes exactly the identifiers. -/
theorem identifier_eq_ok_iff : identifier field value = .ok () ↔ IsIdentifier value := by
  rw [identifier, seq_eq_ok_iff]
  constructor
  · rintro ⟨-, hform⟩
    split at hform
    · next hid => exact isIdentifier_iff.mp hid
    · cases hform
  · intro h
    exact ⟨nonBlank_of_isIdentifier h, by rw [if_pos (isIdentifier_iff.mpr h)]⟩

theorem optional_eq_ok_iff {check : String → Except Error Unit} {v : Option String} :
    optional check v = .ok () ↔ ∀ value, v = some value → check value = .ok () := by
  cases v <;> simp [optional]

/-! ### Blame -/

/-- The error says that a value of the field is wrong. -/
def Blames (field : String) (e : Error) : Prop :=
  ∃ value reason, e = .invalidValue field value reason

theorem blames_of_nonBlank (h : nonBlank field value = .error e) : Blames field e := by
  unfold nonBlank at h
  split at h
  · cases h
    exact ⟨_, _, rfl⟩
  · cases h

theorem blames_of_identifier (h : identifier field value = .error e) : Blames field e := by
  rw [identifier, seq_eq_error_iff] at h
  rcases h with h | ⟨-, h⟩
  · exact blames_of_nonBlank h
  · split at h
    · cases h
    · cases h
      exact ⟨_, _, rfl⟩

theorem blames_of_path (h : path field value = .error e) : Blames field e := by
  rw [path, seq_eq_error_iff] at h
  rcases h with h | ⟨-, h⟩
  · exact blames_of_nonBlank h
  · split at h
    · cases h
      exact ⟨_, _, rfl⟩
    · cases h

theorem blames_of_optional {check : String → Except Error Unit} {v : Option String}
    (hcheck : ∀ {value}, check value = .error e → Blames field e)
    (h : optional check v = .error e) : Blames field e := by
  cases v with
  | none => cases h
  | some value => exact hcheck h

theorem Blames.severity (h : Blames field e) : e.severity = .high := by
  obtain ⟨value, reason, rfl⟩ := h
  rfl

end Check

end DeclSchema
