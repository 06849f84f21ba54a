import DeclSchema.Toml.Scan

/-!
Text in quotes.

Four kinds of quotes are told apart. In double quotes a backslash starts an
escape, in single quotes nothing does. Three quotes in a row open a text
that may go over several lines; the line end right after them does not
belong to it, and up to two quotes may stand right before the three that
close it. In three double quotes a backslash at the end of a line joins it
to the next character that is neither blank nor a line end.
-/

namespace DeclSchema.Toml

def hexDigit? (c : Char) : Option Nat :=
  if c.isDigit then some (c.toNat - 48)
  else if 'a' ≤ c && c ≤ 'f' then some (c.toNat - 87)
  else if 'A' ≤ c && c ≤ 'F' then some (c.toNat - 55)
  else none

def hexNumber? (digits : List Char) : Option Nat :=
  digits.foldlM (fun n c => (hexDigit? c).map (16 * n + ·)) 0

def numberedChar? (n : Nat) (s : List Char) : Option Char :=
  if s.length < n then none
  else
    match hexNumber? (s.take n) with
    | some code => if code.isValidChar then some (Char.ofNat code) else none
    | none => none

theorem lt_length_append (front r : List Char) (h : 0 < front.length := by decide) :
    r.length < (front ++ r).length := by
  rw [List.length_append]
  omega

/-- The character that an escape stands for whose letter is followed by `n`
hexadecimal digits. -/
def numberedEscape (letter : Char) (n : Nat) (r : List Char) :
    Except Fault (Taken Char (letter :: r)) :=
  match numberedChar? n r with
  | some c => .ok ⟨c, r.drop n, Nat.lt_succ_of_le (List.drop_sublist n r).length_le⟩
  | none => fail .badEscape r

def escape (s : List Char) : Except Fault (Taken Char s) :=
  match s with
  | 'b' :: r => .ok ⟨'\x08', r, Nat.lt_succ_self _⟩
  | 't' :: r => .ok ⟨'\t', r, Nat.lt_succ_self _⟩
  | 'n' :: r => .ok ⟨'\n', r, Nat.lt_succ_self _⟩
  | 'f' :: r => .ok ⟨'\x0c', r, Nat.lt_succ_self _⟩
  | 'r' :: r => .ok ⟨'\r', r, Nat.lt_succ_self _⟩
  | 'e' :: r => .ok ⟨'\x1b', r, Nat.lt_succ_self _⟩
  | '"' :: r => .ok ⟨'"', r, Nat.lt_succ_self _⟩
  | '\\' :: r => .ok ⟨'\\', r, Nat.lt_succ_self _⟩
  | 'x' :: r => numberedEscape 'x' 2 r
  | 'u' :: r => numberedEscape 'u' 4 r
  | 'U' :: r => numberedEscape 'U' 8 r
  | s => fail .badEscape s

/-- What follows a backslash that joins lines, from the next character that
is neither blank nor a line end on. -/
def joinedLine? (s : List Char) : Option (List Char) :=
  match skipBlanks s with
  | '\n' :: r => some (skipSpace r)
  | '\r' :: '\n' :: r => some (skipSpace r)
  | _ => none

theorem length_joinedLine?_le {s rest : List Char} (h : joinedLine? s = some rest) :
    rest.length ≤ s.length := by
  have hb := length_skipBlanks_le s
  unfold joinedLine? at h
  split at h
  · next r hr =>
      have := length_skipSpace_le r
      simp only [Option.some.injEq] at h
      simp only [hr, List.length_cons] at hb
      subst h
      omega
  · next r hr =>
      have := length_skipSpace_le r
      simp only [Option.some.injEq] at h
      simp only [hr, List.length_cons] at hb
      subst h
      omega
  · simp at h

/-- The text in double quotes, from after the opening one on. -/
def basicBody (s : List Char) : Except Fault (Taken (List Char) s) :=
  match s with
  | [] => fail .unclosedText []
  | '"' :: r => .ok ⟨[], r, Nat.lt_succ_self _⟩
  | '\\' :: r => do
      let e ← escape r
      have h : e.rest.length < r.length + 1 := Nat.lt_succ_of_lt e.shorter
      let t ← basicBody e.rest
      return t.within (Nat.le_of_lt h) (e.value :: ·)
  | c :: r =>
      if isPlain c then do
        let t ← basicBody r
        return t.within (Nat.le_succ _) (c :: ·)
      else fail .unexpected (c :: r)
termination_by s.length

def basicBlock (s : List Char) : Except Fault (Taken (List Char) s) :=
  match s with
  | [] => fail .unclosedText []
  | '"' :: '"' :: '"' :: '"' :: '"' :: r => .ok ⟨['"', '"'], r, lt_length_append [_, _, _, _, _] r⟩
  | '"' :: '"' :: '"' :: '"' :: r => .ok ⟨['"'], r, lt_length_append [_, _, _, _] r⟩
  | '"' :: '"' :: '"' :: r => .ok ⟨[], r, lt_length_append [_, _, _] r⟩
  | '\\' :: r =>
      match h : joinedLine? r with
      | some rest => do
          have h : rest.length < r.length + 1 := Nat.lt_succ_of_le (length_joinedLine?_le h)
          let t ← basicBlock rest
          return t.within (Nat.le_of_lt h) id
      | none => do
          let e ← escape r
          have h : e.rest.length < r.length + 1 := Nat.lt_succ_of_lt e.shorter
          let t ← basicBlock e.rest
          return t.within (Nat.le_of_lt h) (e.value :: ·)
  | '\r' :: '\n' :: r => do
      let t ← basicBlock r
      return t.within (Nat.le_add_right _ 2) fun v => '\r' :: '\n' :: v
  | c :: r =>
      if isPlain c || c == '\n' then do
        let t ← basicBlock r
        return t.within (Nat.le_succ _) (c :: ·)
      else fail .unexpected (c :: r)
termination_by s.length

def literalBody (s : List Char) : Except Fault (Taken (List Char) s) :=
  match s with
  | [] => fail .unclosedText []
  | '\'' :: r => .ok ⟨[], r, Nat.lt_succ_self _⟩
  | c :: r =>
      if isPlain c then do
        let t ← literalBody r
        return t.within (Nat.le_succ _) (c :: ·)
      else fail .unexpected (c :: r)

def literalBlock (s : List Char) : Except Fault (Taken (List Char) s) :=
  match s with
  | [] => fail .unclosedText []
  | '\'' :: '\'' :: '\'' :: '\'' :: '\'' :: r =>
      .ok ⟨['\'', '\''], r, lt_length_append [_, _, _, _, _] r⟩
  | '\'' :: '\'' :: '\'' :: '\'' :: r => .ok ⟨['\''], r, lt_length_append [_, _, _, _] r⟩
  | '\'' :: '\'' :: '\'' :: r => .ok ⟨[], r, lt_length_append [_, _, _] r⟩
  | '\r' :: '\n' :: r => do
      let t ← literalBlock r
      return t.within (Nat.le_add_right _ 2) fun v => '\r' :: '\n' :: v
  | c :: r =>
      if isPlain c || c == '\n' then do
        let t ← literalBlock r
        return t.within (Nat.le_succ _) (c :: ·)
      else fail .unexpected (c :: r)

def dropLineEnd : List Char → List Char
  | '\n' :: r => r
  | '\r' :: '\n' :: r => r
  | s => s

theorem length_dropLineEnd_le (s : List Char) : (dropLineEnd s).length ≤ s.length := by
  fun_cases dropLineEnd s <;> grind

def lineText? (s : List Char) : Option (Except Fault (Taken String s)) :=
  match s with
  | '"' :: r => some ((basicBody r).map (·.within (Nat.le_succ _) String.ofList))
  | '\'' :: r => some ((literalBody r).map (·.within (Nat.le_succ _) String.ofList))
  | _ => none

def quotedText? (s : List Char) : Option (Except Fault (Taken String s)) :=
  match s with
  | '"' :: '"' :: '"' :: r =>
      have h := Nat.le_trans (length_dropLineEnd_le r) (Nat.le_add_right _ 3)
      some ((basicBlock (dropLineEnd r)).map (·.within h String.ofList))
  | '\'' :: '\'' :: '\'' :: r =>
      have h := Nat.le_trans (length_dropLineEnd_le r) (Nat.le_add_right _ 3)
      some ((literalBlock (dropLineEnd r)).map (·.within h String.ofList))
  | s => lineText? s

end DeclSchema.Toml
