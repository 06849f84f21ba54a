import DeclSchema.Error
import DeclSchema.Log.Event
import DeclSchema.Mapping

/-!
Schema documents for a whole catalog.

Every record and every function is tried by itself. What maps goes into
the document; what does not becomes an `Unmapped` entry that says which
type is to blame. The entries come in catalog order, records first, and
never stop the document from being written unless it is asked for
strictly.
-/

namespace DeclSchema

structure Unmapped where
  name : String
  /-- Where in a function the type to blame stands: `-1` for the result, the
  index for an argument, as far as 32 bits hold it. Nothing for a record. -/
  position : Option Int32
  cause : String
  /-- The function's signature, or the record's field. Nothing for a record
  with no fields. -/
  context : Option String
  deriving DecidableEq, Repr

def resultPosition : Int32 := -1

structure Options where
  title : String
  /-- A name of the record to write. Without it, the last one that maps. -/
  root : Option String
  deriving DecidableEq, Repr

def defaultTitle : String := "Model"

structure Output where
  document : Document
  unmapped : List Unmapped
  deriving Repr

namespace Catalog

def recordSchema (c : Catalog) (r : RecordDecl) : Except Unmapped RecordSchema :=
  match mapFields c [] r with
  | .ok properties => .ok ⟨Name.title r.name, properties⟩
  | .error fault => .error ⟨r.name, none, fault.cause, fault.field⟩

/-- The first argument from index `i` on that has no schema, and the type to
blame for it. -/
def unmappedArgument (c : Catalog) (i : Nat) : List FieldDecl → Option (Nat × String)
  | [] => none
  | a :: rest =>
      match mapType c [] a.type with
      | .error cause => some (i, cause)
      | .ok _ => c.unmappedArgument (i + 1) rest

/-- Why a function's types have no schema. The result is tried before the
arguments. -/
def functionFault (c : Catalog) (f : FunctionDecl) : Option Unmapped :=
  match f.result.map (mapType c []) with
  | some (.error cause) => some ⟨f.name, some resultPosition, cause, some f.signature⟩
  | _ =>
      match c.unmappedArgument 0 f.arguments with
      | some (i, cause) => some ⟨f.name, some (.ofNat i), cause, some f.signature⟩
      | none => none

def mappedRecords (c : Catalog) : List (RecordDecl × RecordSchema) :=
  c.records.filterMap fun r =>
    match c.recordSchema r with
    | .ok schema => some (r, schema)
    | .error _ => none

def recordFault (c : Catalog) (r : RecordDecl) : Option Unmapped :=
  match c.recordSchema r with
  | .ok _ => none
  | .error u => some u

def unmapped (c : Catalog) : List Unmapped :=
  c.records.filterMap c.recordFault ++ c.functions.filterMap c.functionFault

/-- The document about one record, or about the last record that maps. When
none maps it is an object with no properties, under the chosen title. -/
def generate (c : Catalog) (o : Options) : Except Error Output := do
  let schema ←
    match o.root with
    | some root =>
        match c.find? root with
        | none => .error (.unknownType root)
        | some r =>
            match c.mappedRecords.find? fun m => m.1.name == r.name with
            | some m => .ok m.2
            | none => .error (.unmapped [r.name])
    | none =>
        match c.mappedRecords.getLast? with
        | some m => .ok m.2
        | none => .ok ⟨o.title, []⟩
  return ⟨.single schema, c.unmapped⟩

/-- The document about every record that maps, each under its title. The
root of the options does not matter. -/
def generateAll (c : Catalog) (o : Options) : Output :=
  ⟨.definitions o.title (Keyed.ofList (c.mappedRecords.map fun m => (Name.title m.1.name, m.2))),
    c.unmapped⟩

end Catalog

def Output.strict (out : Output) : Except Error Document :=
  if out.unmapped.isEmpty then .ok out.document
  else .error (.unmapped (out.unmapped.map (·.name)))

def Catalog.generateStrict (c : Catalog) (o : Options) : Except Error Document := do
  (← c.generate o).strict

/-! ### What is told while a document is made -/

def Unmapped.positionText (u : Unmapped) : String :=
  match u.position with
  | some i => "Some(" ++ toString i ++ ")"
  | none => "None"

namespace Catalog

def recordEvent (c : Catalog) (r : RecordDecl) : Log.Event :=
  match c.recordSchema r with
  | .ok _ => ⟨.debug, .schema, "mapped record", [("record", r.name)]⟩
  | .error u => ⟨.warn, .schema, "unable to map record", [("record", u.name), ("arg", u.cause)]⟩

def functionEvent (c : Catalog) (f : FunctionDecl) : Option Log.Event :=
  (c.functionFault f).map fun u =>
    ⟨.warn, .schema, "unable to map function",
      [("function", u.name), ("position", u.positionText), ("arg", u.cause)]⟩

def generateEvents (c : Catalog) : List Log.Event :=
  c.records.map c.recordEvent ++ c.functions.filterMap c.functionEvent

def generateAllEvents (c : Catalog) (o : Options) : List Log.Event :=
  match o.root with
  | some root =>
      ⟨.warn, .schema, "root is ignored when rendering every record", [("root", root)]⟩ ::
        c.generateEvents
  | none => c.generateEvents

end Catalog

end DeclSchema
