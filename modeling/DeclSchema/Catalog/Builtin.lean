import DeclSchema.Catalog
import DeclSchema.Declared.Integers
import DeclSchema.Declared.Storage

/-!
The declarations that the program knows by itself.

A record can also be registered by its type alone. The wrapper has a
declaration for every scalar it can wrap, the other records have one each.
-/

namespace DeclSchema

namespace Catalog

def int : FieldType := .primitive .int32

/-- The record around one scalar: `typeWrapper<int>`. -/
def wrapperDecl (p : Primitive) : RecordDecl where
  name := "typeWrapper<" ++ p.spelling ++ ">"
  fields := [⟨"myType", .primitive p⟩]

def packetDecl : RecordDecl where
  name := "myStruct"
  aliases := ["MY_STRUCT"]
  fields := [⟨"id", int⟩, ⟨"payload", .charArray Declared.Packet.payloadSize⟩]

def namedValueDecl : RecordDecl where
  name := "myRec"
  scope := some "myMath"
  fields := [⟨"name", .cString⟩, ⟨"value", int⟩]

def carDecl : RecordDecl where
  name := "car"
  aliases := ["CAR_TYPE", "obfuscatedCar"]
  fields := [⟨"modelName", .charArray Declared.Car.modelNameSize⟩, ⟨"weight", .primitive .double⟩]

def builtinRegistrations : List Registration :=
  [ .record (wrapperDecl .int32),
    .function
      { name := "twFun"
        arguments := [⟨"wrappedInt", .pointer (.record "typeWrapper<int>")⟩]
        result := none },
    .function
      { name := "vectorFun"
        arguments := [⟨"iv", .pointer (.array int)⟩]
        result := some int },
    .record packetDecl,
    .function
      { name := "myPayload"
        arguments := [⟨"", .pointer (.record "MY_STRUCT")⟩]
        result := some .cString },
    .function
      { name := "sum"
        scope := some "myMath"
        arguments := [⟨"", int⟩, ⟨"", int⟩]
        result := some int },
    .record namedValueDecl,
    .function
      { name := "doSomethingToThis"
        scope := some "myMath::myRec"
        arguments := []
        result := none },
    .function
      { name := "initRec"
        scope := some "myMath"
        arguments := [⟨"", .pointer (.record "myRec")⟩]
        result := some int },
    .record carDecl,
    .function
      { name := "initCar"
        arguments := [⟨"", .pointer (.record "car")⟩]
        result := none },
    .function
      { name := "doThingToCar"
        arguments := [⟨"car", .pointer (.record "obfuscatedCar")⟩]
        result := none } ]

def builtin : Catalog :=
  empty.registerAll builtinRegistrations

end Catalog

/-! ### Types that tell how C declares them -/

open Declared

class Scalar (α : Type) where
  primitive : Primitive

instance : Scalar Bool := ⟨.bool⟩

instance : Scalar Int8 := ⟨.int8⟩

instance : Scalar Int16 := ⟨.int16⟩

instance : Scalar Int32 := ⟨.int32⟩

instance : Scalar Int64 := ⟨.int64⟩

instance : Scalar Float32 := ⟨.float⟩

instance : Scalar Float := ⟨.double⟩

/-- A type that is declared as a record. -/
class Described (α : Type) where
  decl : RecordDecl

namespace Catalog

instance {α : Type} [Scalar α] : Described (Wrapper α) := ⟨wrapperDecl (Scalar.primitive α)⟩

instance : Described Packet := ⟨packetDecl⟩

instance : Described NamedValue := ⟨namedValueDecl⟩

instance : Described Car := ⟨carDecl⟩

def Registration.ofType (α : Type) [Described α] : Registration :=
  .record (Described.decl α)

end Catalog

end DeclSchema
