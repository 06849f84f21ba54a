/-!
Values of a TOML document, and how tables of them are built.

Of a number or a point in time only as much is kept as a reader of
settings can ask: whether it is in range. Tables remember how they came to
be, because that decides whether a later line may add to them.

A key is a path: the tables on the way and a name in the last of them. A
table that is missing on the way is made. One that is there may be entered
only if the kind of line that wants to enter it may add to it, and no name
may be given twice.
-/

namespace DeclSchema.Toml

inductive Origin where
  | header
  /-- A header named it on the way to another table. -/
  | implied
  /-- A dotted key named it on the way to another key. -/
  | dotted
  | inline
  | inlineDotted
  deriving DecidableEq, Repr

inductive Value where
  | text (s : String)
  | boolean (b : Bool)
  | integer (n : Int)
  | float (inRange : Bool)
  | moment
  | array (elements : List Value)
  | table (origin : Origin) (entries : List (String × Value))
  /-- Tables that share a header in double brackets, the newest first. -/
  | tables (elements : List (List (String × Value)))
  deriving Repr, Inhabited

abbrev Entries := List (String × Value)

mutual

/-- The value can be passed over by a reader that does not ask for it: its
numbers are in the range that readers are offered. -/
def Value.inRange : Value → Bool
  | .integer n => -(Nat.pow 2 127 : Int) ≤ n && n < (Nat.pow 2 128 : Int)
  | .float ok => ok
  | .array elements => Value.allInRange elements
  | .table _ entries => Value.entriesInRange entries
  | .tables elements => Value.tablesInRange elements
  | _ => true

def Value.allInRange : List Value → Bool
  | [] => true
  | v :: rest => v.inRange && Value.allInRange rest

def Value.entriesInRange : List (String × Value) → Bool
  | [] => true
  | (_, v) :: rest => v.inRange && Value.entriesInRange rest

def Value.tablesInRange : List (List (String × Value)) → Bool
  | [] => true
  | entries :: rest => Value.entriesInRange entries && Value.tablesInRange rest

end

inductive Cause where
  | unexpected
  | unclosedText
  | badEscape
  | badScalar (word : String)
  | tooDeep
  | duplicateKey (key : String)
  | notATable (key : String)
  | wrongType (key : String)
  | outOfRange (key : String)
  deriving DecidableEq, Repr

structure Fault where
  cause : Cause
  left : Nat
  deriving DecidableEq, Repr

namespace Cause

def message : Cause → String
  | unexpected => "unexpected character or end of text"
  | unclosedText => "text without its closing quotes"
  | badEscape => "unknown escape in a text"
  | badScalar word => "invalid value " ++ word
  | tooDeep => "arrays, tables or the parts of a key are nested too deeply"
  | duplicateKey key => "duplicate key " ++ key
  | notATable key => "value of " ++ key ++ " cannot be extended"
  | wrongType key => "invalid type for " ++ key
  | outOfRange key => "number out of range in " ++ key

end Cause

def Fault.message (f : Fault) (text : String) : String :=
  let chars := text.toList
  let before := chars.take (chars.length - f.left)
  let line := before.count '\n' + 1
  let column := (before.reverse.takeWhile (· != '\n')).length + 1
  "TOML parse error at line " ++ toString line ++ ", column " ++ toString column ++ "\n" ++
    f.cause.message ++ "\n"

/-! ### Tables from keys and headers -/

structure KeyPath where
  parents : List String
  name : String
  deriving DecidableEq, Repr

def KeyPath.full (k : KeyPath) : List String :=
  k.parents ++ [k.name]

namespace Entries

def replace (key : String) (value : Value) (entries : Entries) : Entries :=
  entries.map fun e => if e.1 == key then (key, value) else e

def add (key : String) (value : Value) (entries : Entries) : Except Cause Entries :=
  match entries.lookup key with
  | some _ => .error (.duplicateKey key)
  | none => .ok (entries ++ [(key, value)])

/-- The entries after `change` was made to the table at the end of a path.
Missing tables on the way are made with the origin `fresh`, and tables that
are there are entered if `enter` allows it. Of tables that share a header
the newest is meant. -/
def updateAt (fresh : Origin) (enter : Origin → Bool)
    (change : Origin → Entries → Except Cause Entries) :
    List String → Origin → Entries → Except Cause Entries
  | [], origin, entries => change origin entries
  | key :: path, _, entries =>
      match entries.lookup key with
      | none => do
          let made ← updateAt fresh enter change path fresh []
          return entries ++ [(key, .table fresh made)]
      | some (.table origin inner) =>
          if enter origin then do
            let changed ← updateAt fresh enter change path origin inner
            return replace key (.table origin changed) entries
          else .error (.duplicateKey key)
      | some (.tables (newest :: older)) => do
          let changed ← updateAt fresh enter change path .header newest
          return replace key (.tables (changed :: older)) entries
      | some _ => .error (.notATable key)

/-- The entries after a value was given to a key, in a table whose dotted keys
make tables with the origin `fresh`. A dotted key ends in a table that dotted
keys made. -/
def assign (fresh : Origin) (enter : Origin → Bool) (key : KeyPath) (value : Value)
    (entries : Entries) : Except Cause Entries :=
  let change (origin : Origin) (entries : Entries) : Except Cause Entries :=
    if key.parents.isEmpty || origin == fresh then add key.name value entries
    else .error (.duplicateKey key.name)
  updateAt fresh enter change key.parents .header entries

def assignInline (key : KeyPath) (value : Value) (entries : Entries) : Except Cause Entries :=
  assign .inlineDotted (· == .inlineDotted) key value entries

def assignLine (key : KeyPath) (value : Value) (entries : Entries) : Except Cause Entries :=
  assign .dotted (fun o => o == .implied || o == .dotted) key value entries

def headerEnters (o : Origin) : Bool :=
  o != .inline && o != .inlineDotted

def openTable (key : KeyPath) (entries : Entries) : Except Cause Entries :=
  let change (_ : Origin) (entries : Entries) : Except Cause Entries :=
    match entries.lookup key.name with
    | none => .ok (entries ++ [(key.name, .table .header [])])
    | some (.table .implied inner) => .ok (replace key.name (.table .header inner) entries)
    | some _ => .error (.duplicateKey key.name)
  updateAt .implied headerEnters change key.parents .header entries

def openElement (key : KeyPath) (entries : Entries) : Except Cause Entries :=
  let change (_ : Origin) (entries : Entries) : Except Cause Entries :=
    match entries.lookup key.name with
    | none => .ok (entries ++ [(key.name, .tables [[]])])
    | some (.tables older) => .ok (replace key.name (.tables ([] :: older)) entries)
    | some _ => .error (.duplicateKey key.name)
  updateAt .implied headerEnters change key.parents .header entries

end Entries

end DeclSchema.Toml
