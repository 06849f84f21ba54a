import DeclSchema.Text.Classes

/-!
What can go wrong, in the program's own words.

An `Error` is a cause. Its wording, its category, how bad it is and what
helps against it are functions of the cause, so that each text stands in
one place.

The checks on values that come from outside fail with such an error, and
each takes the name of the field for it. Those for identifiers and paths
refuse blank text first, with the error of the check for blank text.
-/

namespace DeclSchema

inductive Error where
  /-- An argument that has to be there, or has to hold text, does not. -/
  | invalidArgument (argument : String)
  | unknownType (name : String)
  | unmapped (names : List String)
  | io (text : String)
  | serialization (text : String)
  | toml (text : String)
  | conflictingSettings (field message : String)
  | invalidValue (field value reason : String)
  deriving DecidableEq, Repr

inductive Category where
  | argument
  | mapping
  | configuration
  | system
  deriving DecidableEq, Repr

/-- How bad an error is, mildest first. -/
inductive Severity where
  | low
  | medium
  | high
  | critical
  deriving DecidableEq, Repr

namespace Category

def name : Category → String
  | argument => "Argument"
  | mapping => "Mapping"
  | configuration => "Configuration"
  | system => "System"

end Category

namespace Severity

def name : Severity → String
  | low => "Low"
  | medium => "Medium"
  | high => "High"
  | critical => "Critical"

def rank : Severity → Nat
  | low => 0
  | medium => 1
  | high => 2
  | critical => 3

def worse (a b : Severity) : Severity :=
  if a.rank < b.rank then b else a

def worst : List Severity → Option Severity
  | [] => none
  | s :: rest => some (rest.foldl worse s)

def exitCode : Severity → Nat
  | low => 0
  | medium => 2
  | high => 1
  | critical => 3

end Severity

namespace Error

def message : Error → String
  | invalidArgument a => "Invalid argument: `" ++ a ++ "` must be a non-null, live reference"
  | unknownType name => "Unknown type: " ++ name
  | unmapped names =>
      "Unable to map the following elements: " ++ String.intercalate ", " names
  | io text => "IO error: " ++ text
  | serialization text => "Serialization error: " ++ text
  | toml text => "TOML parsing error: " ++ text
  | conflictingSettings field message =>
      "Configuration error in '" ++ field ++ "': " ++ message
  | invalidValue field value reason =>
      "Invalid value '" ++ value ++ "' for '" ++ field ++ "': " ++ reason

def category : Error → Category
  | invalidArgument _ => .argument
  | unknownType _ => .mapping
  | unmapped _ => .mapping
  | io _ => .system
  | serialization _ => .system
  | toml _ => .configuration
  | conflictingSettings _ _ => .configuration
  | invalidValue _ _ _ => .configuration

/-- How bad the error is. Declarations with no schema are the mildest: what
has a schema can still be written. -/
def severity : Error → Severity
  | unmapped _ => .medium
  | unknownType _ => .high
  | toml _ => .high
  | conflictingSettings _ _ => .high
  | invalidValue _ _ _ => .high
  | invalidArgument _ => .critical
  | io _ => .critical
  | serialization _ => .critical

def suggestion : Error → String
  | invalidArgument _ => "Pass a pointer to a live, initialized instance"
  | unknownType _ => "Run with --list to see the declared record names"
  | unmapped _ => "Drop --strict to emit the mappable part of the schema"
  | toml _ => "Check the TOML syntax of the configuration file"
  | conflictingSettings _ _ => "Check the TOML syntax of the configuration file"
  | invalidValue _ _ _ => "Use a valid C identifier for type and module names"
  | io _ => "Check that the file exists and is readable"
  | serialization _ => "Report this as a bug"

def friendly : Error → String
  | unknownType name => "No record named '" ++ name ++ "' is declared"
  | unmapped names =>
      toString names.length ++ " declaration(s) could not be mapped to JSON Schema"
  | e => e.message

end Error

/-! ### Checks on values that come from outside -/

namespace Check

def startsIdentifier (c : Char) : Bool :=
  c.isAlpha || c == '_'

def continuesIdentifier (c : Char) : Bool :=
  c.isAlphanum || c == '_'

/-- The text is a C identifier: a letter or underscore, then letters, digits
and underscores, all of them ASCII. -/
def isIdentifier : List Char → Bool
  | [] => false
  | c :: rest => startsIdentifier c && rest.all continuesIdentifier

def nonBlank (field value : String) : Except Error Unit :=
  if Text.allBlank value then
    .error (.invalidValue field value "Value cannot be empty or whitespace-only")
  else .ok ()

def identifier (field value : String) : Except Error Unit := do
  nonBlank field value
  if isIdentifier value.toList then .ok ()
  else
    .error (.invalidValue field value "Value must be a C identifier ([A-Za-z_][A-Za-z0-9_]*)")

def path (field value : String) : Except Error Unit := do
  nonBlank field value
  if value.toList.contains '\x00' then
    .error (.invalidValue field value "Path contains null bytes")
  else .ok ()

/-- A check on a value that may be missing, which is then fine. -/
def optional (check : String → Except Error Unit) : Option String → Except Error Unit
  | none => .ok ()
  | some value => check value

end Check

end DeclSchema
