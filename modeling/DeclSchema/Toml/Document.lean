import DeclSchema.Toml.Scalar

/-!
Documents, line by line.

A line opens a table, opens one more table under a shared header, or gives
a value to a key. Values may nest; how deep is bounded by `maxDepth`. A
document is its lines in order. A header chooses the table that the lines
after it add to; before the first header that is the document itself.
-/

namespace DeclSchema.Toml

/-- How deep arrays and tables in braces may be nested, and how many parts a
key may have. -/
def maxDepth : Nat := 80

def inBareKey (c : Char) : Bool :=
  c.isAlphanum || c == '_' || c == '-'

def bareKey? (s : List Char) : Option (Taken String s) :=
  (word? inBareKey s).map fun t => t.map String.ofList

def simpleKey (s : List Char) : Except Fault (Taken String s) :=
  (lineText? s <|> (bareKey? s).map Except.ok).getD (fail .unexpected s)

def keyParts (s : List Char) : Except Fault (Taken KeyPath s) := do
  let first ← simpleKey s
  match h : skipBlanks first.rest with
  | '.' :: r =>
      have hr : (skipBlanks r).length < s.length :=
        Nat.lt_of_le_of_lt (length_skipBlanks_le r)
          (Nat.lt_trans (length_lt_of_skipBlanks h) first.shorter)
      let more ← keyParts (skipBlanks r)
      return more.within (Nat.le_of_lt hr) fun k => ⟨first.value :: k.parents, k.name⟩
  | _ => return first.map fun name => ⟨[], name⟩
termination_by s.length

def keyPath (s : List Char) : Except Fault (Taken KeyPath s) := do
  let key ← keyParts s
  if key.value.full.length ≤ maxDepth then return key else fail .tooDeep s

def keyEquals (gap : Gap) (s : List Char) : Except Fault (Taken KeyPath s) := do
  let key ← keyPath s
  match h : gap.skip key.rest with
  | '=' :: r =>
      return ⟨key.value, gap.skip r,
        Nat.lt_of_le_of_lt (gap.length_le r) (Nat.lt_trans (gap.length_lt h) key.shorter)⟩
  | r => fail .unexpected r

mutual

def value (depth : Nat) (s : List Char) : Except Fault (Taken Value s) :=
  match s, depth with
  | '[' :: r, depth + 1 => do
      let t ← elements depth r
      return t.within (Nat.le_succ _) .array
  | '\x7b' :: r, depth + 1 => do
      let t ← members depth r []
      return t.within (Nat.le_succ _) (.table .inline)
  | '[' :: r, 0 => fail .tooDeep ('[' :: r)
  | '\x7b' :: r, 0 => fail .tooDeep ('\x7b' :: r)
  | s, _ =>
      match quotedText? s with
      | some read => read.map (·.map .text)
      | none => Scalar.read s
termination_by 2 * s.length

/-- The elements of an array, from after its bracket or a comma on to after
its closing bracket. -/
def elements (depth : Nat) (s : List Char) : Except Fault (Taken (List Value) s) := do
  match h : skipLines s with
  | ']' :: r => return ⟨[], r, length_lt_of_skipLines h⟩
  | s' =>
      have hs : s'.length ≤ s.length := h ▸ length_skipLines_le s
      let v ← value depth s'
      have hv : v.rest.length < s.length := Nat.lt_of_lt_of_le v.shorter hs
      match h' : skipLines v.rest with
      | ']' :: r => return ⟨[v.value], r, Nat.lt_trans (length_lt_of_skipLines h') hv⟩
      | ',' :: r =>
          have hr : r.length < s.length := Nat.lt_trans (length_lt_of_skipLines h') hv
          let more ← elements depth r
          return more.within (Nat.le_of_lt hr) (v.value :: ·)
      | r => fail .unexpected r
termination_by 2 * s.length + 1

/-- The entries of a table in braces, from after its brace or a comma on to
after its closing brace, put behind the entries before them. -/
def members (depth : Nat) (s : List Char) (before : Entries) :
    Except Fault (Taken Entries s) := do
  match h : skipLines s with
  | '\x7d' :: r => return ⟨before, r, length_lt_of_skipLines h⟩
  | s' =>
      let key ← keyEquals .lines s'
      have hk : key.rest.length < s.length :=
        Nat.lt_of_lt_of_le key.shorter (h ▸ length_skipLines_le s)
      let v ← value depth key.rest
      have hv : v.rest.length < s.length := Nat.lt_trans v.shorter hk
      let entries ← (before.assignInline key.value v.value).mapError fun cause => ⟨cause, s'.length⟩
      match h' : skipLines v.rest with
      | '\x7d' :: r => return ⟨entries, r, Nat.lt_trans (length_lt_of_skipLines h') hv⟩
      | ',' :: r =>
          have hr : r.length < s.length := Nat.lt_trans (length_lt_of_skipLines h') hv
          let more ← members depth r entries
          return more.within (Nat.le_of_lt hr) id
      | r => fail .unexpected r
termination_by 2 * s.length + 1

end

inductive Line where
  | openTable (key : KeyPath)
  | openElement (key : KeyPath)
  | assign (key : KeyPath) (value : Value)
  deriving Repr

def bracketed (s : List Char) : Except Fault (Taken KeyPath s) := do
  let key ← keyPath (skipBlanks s)
  match h : skipBlanks key.rest with
  | ']' :: r =>
      return ⟨key.value, r, Nat.lt_trans (length_lt_of_skipBlanks h)
        (Nat.lt_of_lt_of_le key.shorter (length_skipBlanks_le s))⟩
  | r => fail .unexpected r

def line (s : List Char) : Except Fault (Taken Line s) :=
  match s with
  | '[' :: '[' :: r => do
      let key ← bracketed r
      match h : key.rest with
      | ']' :: rest =>
          have hr : rest.length + 1 < r.length := by simpa [h] using key.shorter
          return ⟨.openElement key.value, rest, by simp only [List.length_cons]; omega⟩
      | rest => fail .unexpected rest
  | '[' :: r => do
      let key ← bracketed r
      return key.within (Nat.le_succ _) .openTable
  | s => do
      let key ← keyEquals .blanks s
      let v ← value maxDepth key.rest
      return v.within (Nat.le_of_lt key.shorter) (.assign key.value)

def lines (s : List Char) : Except Fault (List (Nat × Line)) := do
  match h : skipLines s with
  | [] => return []
  | s' =>
      let l ← line s'
      let next ← endLine l.rest
      have : next.val.length < s.length :=
        Nat.lt_of_le_of_lt next.property
          (Nat.lt_of_lt_of_le l.shorter (h ▸ length_skipLines_le s))
      let more ← lines next.val
      return (s'.length, l.value) :: more
termination_by s.length

/-! ### Whole documents -/

/-- A document while it is read: the table that lines add to, and all
entries so far. -/
structure Document where
  current : List String
  entries : Entries

namespace Document

def start : Document :=
  ⟨[], []⟩

def addLine (d : Document) : Line → Except Cause Document
  | .openTable key => return ⟨key.full, ← d.entries.openTable key⟩
  | .openElement key => return ⟨key.full, ← d.entries.openElement key⟩
  | .assign key value =>
      return ⟨d.current, ← Entries.updateAt .implied Entries.headerEnters
        (fun _ entries => entries.assignLine key value) d.current .header d.entries⟩

def addLineAt (d : Document) (l : Nat × Line) : Except Fault Document :=
  (d.addLine l.2).mapError fun cause => ⟨cause, l.1⟩

end Document

def dropMark : List Char → List Char
  | '\uFEFF' :: rest => rest
  | s => s

def read (text : String) : Except Fault Entries := do
  let all ← lines (dropMark text.toList)
  return (← all.foldlM Document.addLineAt .start).entries

end DeclSchema.Toml
