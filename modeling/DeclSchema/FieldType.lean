/-!
The types a C declaration can give to a field, an argument or a result, and
their C spelling.

A type is a stack of layers (pointer, sequence, fixed array) over a leaf.
Some leaves have a schema of their own, a `record` leaf refers to a
declared record by one of its names, and an `unsupported` leaf is a type
that is known by its spelling only and has no schema.
-/

namespace DeclSchema

inductive Primitive where
  | bool
  | int8
  | int16
  | int32
  | int64
  | float
  | double
  | char
  deriving DecidableEq, Repr, Inhabited

namespace Primitive

def spelling : Primitive → String
  | bool => "bool"
  | int8 => "signed char"
  | int16 => "short"
  | int32 => "int"
  | int64 => "long long"
  | float => "float"
  | double => "double"
  | char => "char"

end Primitive

inductive FieldType where
  | primitive (p : Primitive)
  /-- `char *`: text that ends at its zero byte. -/
  | cString
  | charArray (length : Nat)
  | array (element : FieldType)
  /-- `T[n]`. One `long long` is a point in time. -/
  | fixedArray (element : FieldType) (length : Nat)
  | record (name : String)
  | pointer (target : FieldType)
  /-- A type with a name and no visible layout. -/
  | opaqueType (name : String)
  /-- A type that has no schema, known by its C spelling. -/
  | unsupported (spelling : String)
  deriving DecidableEq, Repr, Inhabited

namespace FieldType

def spelling : FieldType → String
  | primitive p => p.spelling
  | cString => "char *"
  | charArray n => "char[" ++ toString n ++ "]"
  | array e => "std::vector<" ++ e.spelling ++ ">"
  | fixedArray e n => e.spelling ++ "[" ++ toString n ++ "]"
  | record name => name
  | pointer t => t.spelling ++ " *"
  | opaqueType name => name
  | unsupported s => s

/-- What is left of a type under its pointer and array layers. -/
def leaf : FieldType → FieldType
  | array e => e.leaf
  | fixedArray e _ => e.leaf
  | pointer t => t.leaf
  | t => t

end FieldType

end DeclSchema
