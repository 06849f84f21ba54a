import DeclSchema.FieldType
import DeclSchema.Name

/-!
Declarations of C records and functions, and the catalog that holds them.

A catalog keeps records in the order of their last registration: a record
that is registered again under its name loses its old place and its old
fields. Functions are kept as they come, since C lets a name stand for
several functions.

A record is looked up by a name in two rounds. The first finds a record
with that very name or alias, the second one whose title it is; each round
takes the first record in catalog order.
-/

namespace DeclSchema

/-- A named member of a record, or an argument of a function. -/
structure FieldDecl where
  name : String
  type : FieldType
  deriving DecidableEq, Repr

structure RecordDecl where
  name : String
  scope : Option String := none
  aliases : List String := []
  fields : List FieldDecl
  deriving DecidableEq, Repr

structure FunctionDecl where
  name : String
  scope : Option String := none
  arguments : List FieldDecl
  result : Option FieldType
  deriving DecidableEq, Repr

def RecordDecl.answersTo (r : RecordDecl) (name : String) : Bool :=
  r.name == name || r.aliases.contains name

namespace FunctionDecl

def qualifiedName (f : FunctionDecl) : String :=
  match f.scope with
  | some scope => scope ++ "::" ++ f.name
  | none => f.name

/-- The function as C declares it, without its result: `initCar(car *)`. -/
def signature (f : FunctionDecl) : String :=
  f.qualifiedName ++ "(" ++
    String.intercalate ", " (f.arguments.map fun a => a.type.spelling) ++ ")"

end FunctionDecl

structure Catalog where
  records : List RecordDecl := []
  functions : List FunctionDecl := []
  deriving DecidableEq, Repr

namespace Catalog

def empty : Catalog := {}

/-- The catalog with the record at its end, in place of an earlier one of
the same name. -/
def addRecord (c : Catalog) (r : RecordDecl) : Catalog :=
  { c with records := c.records.filter (fun old => old.name != r.name) ++ [r] }

def addFunction (c : Catalog) (f : FunctionDecl) : Catalog :=
  { c with functions := c.functions ++ [f] }

inductive Registration where
  | record (r : RecordDecl)
  | function (f : FunctionDecl)
  deriving DecidableEq, Repr

def register (c : Catalog) : Registration → Catalog
  | .record r => c.addRecord r
  | .function f => c.addFunction f

def registerAll (c : Catalog) (rs : List Registration) : Catalog :=
  rs.foldl register c

/-- The record that a name stands for: the first one with that name or
alias, or else the first one with that title. -/
def find? (c : Catalog) (name : String) : Option RecordDecl :=
  match c.records.find? (·.answersTo name) with
  | some r => some r
  | none => c.records.find? fun r => Name.title r.name == name

theorem mem_of_find? {c : Catalog} {name : String} {r : RecordDecl} (h : c.find? name = some r) :
    r ∈ c.records := by
  unfold find? at h
  split at h
  · next s hs =>
      obtain rfl : s = r := by simpa using h
      exact List.mem_of_find?_eq_some hs
  · exact List.mem_of_find?_eq_some h

end Catalog

end DeclSchema
