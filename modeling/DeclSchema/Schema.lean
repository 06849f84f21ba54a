import DeclSchema.FieldType
import DeclSchema.Json

/-!
JSON Schema, as far as C declarations need it.

`Node` is the schema of one type. A whole schema document is either the
schema of one record, under its title, or all mappable records at once
under `definitions`.
-/

namespace DeclSchema

inductive Node where
  | boolean
  | int8
  | int16
  | int32
  | int64
  | float
  | double
  | text
  /-- Text of at most so many bytes. -/
  | boundedText (maxLength : Nat)
  | timestamp
  | array (items : Node)
  /-- An object about whose properties nothing is said. -/
  | anyObject
  | object (properties : List (String × Node))
  deriving Repr

def epoch : String := "1970-01-01T00:00:00.000Z"

def Primitive.toNode : Primitive → Node
  | .bool => .boolean
  | .int8 => .int8
  | .int16 => .int16
  | .int32 => .int32
  | .int64 => .int64
  | .float => .float
  | .double => .double
  | .char => .text

namespace Node

def plain (type : String) : Json :=
  Json.ofEntries [("type", .text type)]

def formatted (type format : String) : Json :=
  Json.ofEntries [("type", .text type), ("format", .text format)]

mutual

def toJson : Node → Json
  | boolean => plain "boolean"
  | int8 => formatted "integer" "int8"
  | int16 => formatted "integer" "int16"
  | int32 => formatted "integer" "int32"
  | int64 => formatted "integer" "int64"
  | float => formatted "number" "float"
  | double => formatted "number" "double"
  | text => plain "string"
  | boundedText n => Json.ofEntries [("type", .text "string"), ("maxLength", .number n)]
  | timestamp =>
      Json.ofEntries
        [("type", .text "string"), ("format", .text "date-time"), ("default", .text epoch)]
  | array items => Json.ofEntries [("type", .text "array"), ("items", items.toJson)]
  | anyObject => plain "object"
  | object properties =>
      Json.ofEntries [("type", .text "object"), ("properties", .object (entriesToJson properties))]

def entriesToJson : List (String × Node) → List (String × Json)
  | [] => []
  | (k, n) :: rest => (k, n.toJson) :: entriesToJson rest

end

end Node

structure RecordSchema where
  title : String
  properties : Keyed Node
  deriving Repr

def RecordSchema.toJson (r : RecordSchema) : Json :=
  Json.ofEntries
    [("title", .text r.title), ("type", .text "object"),
      ("properties", .object (Node.entriesToJson r.properties))]

inductive Document where
  | single (schema : RecordSchema)
  | definitions (title : String) (schemas : Keyed RecordSchema)
  deriving Repr

def Document.toJson : Document → Json
  | single schema => schema.toJson
  | definitions title schemas =>
      Json.ofEntries
        [("title", .text title), ("type", .text "object"),
          ("definitions", .object (schemas.map fun e => (e.1, e.2.toJson)))]

end DeclSchema
