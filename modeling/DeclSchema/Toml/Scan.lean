import DeclSchema.Toml.Value

/-!
Reading from the front of a text.

A reader takes something from the front of a list of characters and leaves
the rest, which is shorter. That it is shorter is part of what a reader
gives back (`Taken`), so readers that call each other end by the length of
what is left. Blanks, line ends and comments are skipped by functions that
cannot fail; a character that may not stand in a comment ends it, and is
then found by whatever reads on from there.
-/

namespace DeclSchema.Toml

/-- What a reader took from the front of `s`, and the rest. -/
structure Taken (α : Type) (s : List Char) where
  value : α
  rest : List Char
  shorter : rest.length < s.length

def Taken.map {α β : Type} {s : List Char} (t : Taken α s) (f : α → β) : Taken β s :=
  ⟨f t.value, t.rest, t.shorter⟩

def Taken.within {α β : Type} {inner s : List Char} (t : Taken α inner)
    (h : inner.length ≤ s.length) (f : α → β) : Taken β s :=
  ⟨f t.value, t.rest, Nat.lt_of_lt_of_le t.shorter h⟩

def fail {α : Type} (cause : Cause) (s : List Char) : Except Fault α :=
  .error ⟨cause, s.length⟩

def isBlank (c : Char) : Bool :=
  c == ' ' || c == '\t'

/-- A character that can stand for itself in a comment or a text: any but the
control characters, of which the tab is allowed. -/
def isPlain (c : Char) : Bool :=
  c == '\t' || (0x20 ≤ c.toNat && c.toNat != 0x7F)

def skipBlanks (s : List Char) : List Char :=
  s.dropWhile isBlank

def skipSpace : List Char → List Char
  | ' ' :: rest => skipSpace rest
  | '\t' :: rest => skipSpace rest
  | '\n' :: rest => skipSpace rest
  | '\r' :: '\n' :: rest => skipSpace rest
  | s => s

def skipComment : List Char → List Char
  | '#' :: rest => rest.dropWhile isPlain
  | s => s

theorem length_dropWhile_le (p : Char → Bool) (s : List Char) :
    (s.dropWhile p).length ≤ s.length :=
  (List.dropWhile_sublist p).length_le

theorem length_skipBlanks_le (s : List Char) : (skipBlanks s).length ≤ s.length :=
  length_dropWhile_le isBlank s

theorem length_skipSpace_le (s : List Char) : (skipSpace s).length ≤ s.length := by
  fun_induction skipSpace s <;> simp_all <;> omega

theorem length_skipComment_le (s : List Char) : (skipComment s).length ≤ s.length := by
  fun_cases skipComment s
  · exact Nat.le_succ_of_le (length_dropWhile_le isPlain _)
  · exact Nat.le_refl _

def skipLines (s : List Char) : List Char :=
  match s with
  | ' ' :: rest => skipLines rest
  | '\t' :: rest => skipLines rest
  | '\n' :: rest => skipLines rest
  | '\r' :: '\n' :: rest => skipLines rest
  | '#' :: rest =>
      have := length_dropWhile_le isPlain rest
      skipLines (rest.dropWhile isPlain)
  | s => s
termination_by s.length

theorem length_skipLines_le (s : List Char) : (skipLines s).length ≤ s.length := by
  fun_induction skipLines s <;> simp_all <;> omega

theorem length_lt_of_skipBlanks {s r : List Char} {c : Char} (h : skipBlanks s = c :: r) :
    r.length < s.length := by
  have := length_skipBlanks_le s
  simp only [h, List.length_cons] at this
  omega

theorem length_lt_of_skipLines {s r : List Char} {c : Char} (h : skipLines s = c :: r) :
    r.length < s.length := by
  have := length_skipLines_le s
  simp only [h, List.length_cons] at this
  omega

def word? (p : Char → Bool) : (s : List Char) → Option (Taken (List Char) s)
  | [] => none
  | c :: r =>
      if p c then
        some ⟨c :: r.takeWhile p, r.dropWhile p, Nat.lt_succ_of_le (length_dropWhile_le p r)⟩
      else none

/-- What may stand between the parts of an assignment, as a way over it. -/
structure Gap where
  skip : List Char → List Char
  length_le : ∀ s, (skip s).length ≤ s.length

def Gap.blanks : Gap := ⟨skipBlanks, length_skipBlanks_le⟩

def Gap.lines : Gap := ⟨skipLines, length_skipLines_le⟩

theorem Gap.length_lt {gap : Gap} {s r : List Char} {c : Char} (h : gap.skip s = c :: r) :
    r.length < s.length := by
  have := gap.length_le s
  simp only [h, List.length_cons] at this
  omega

def endLine (s : List Char) : Except Fault { rest : List Char // rest.length ≤ s.length } :=
  let after := skipComment (skipBlanks s)
  have hle : after.length ≤ s.length :=
    Nat.le_trans (length_skipComment_le _) (length_skipBlanks_le s)
  match after with
  | [] => .ok ⟨[], Nat.zero_le _⟩
  | '\n' :: rest => .ok ⟨rest, by simp only [List.length_cons] at hle; omega⟩
  | '\r' :: '\n' :: rest => .ok ⟨rest, by simp only [List.length_cons] at hle; omega⟩
  | _ => fail .unexpected after

end DeclSchema.Toml
