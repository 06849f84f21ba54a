import DeclSchema.Error

/-!
The entry points for callers from C.

An entry point takes a pointer. A null pointer breaks its contract, and
since no entry point can report that to its caller, the process stops with
a line that names the entry point and the argument. The one exception is
the release of a sequence, which accepts null and does nothing.

A pointer is modelled by what it points to: `none` is null.
-/

namespace DeclSchema.Declared

/-- An entry point: its C symbol and the name of its pointer argument. -/
structure EntryPoint where
  symbol : String
  argument : String
  acceptsNull : Bool := false
  deriving DecidableEq, Repr

inductive Call (α : Type) where
  | returned (value : α)
  | aborted (symbol : String) (cause : Error)
  deriving DecidableEq, Repr

/-- What the pointer points to, or the error that names the argument. -/
def require {α : Type} (argument : String) : Option α → Except Error α
  | some a => .ok a
  | none => .error (.invalidArgument argument)

namespace Call

def bind {α β : Type} (call : Call α) (next : α → Call β) : Call β :=
  match call with
  | returned a => next a
  | aborted symbol cause => aborted symbol cause

def complaint {α : Type} : Call α → String
  | returned _ => ""
  | aborted symbol cause => "middle-c: " ++ symbol ++ ": " ++ cause.message ++ "\n"

def exitCode {α : Type} : Call α → Option Nat
  | returned _ => some 0
  | aborted _ _ => none

def signal {α : Type} : Call α → Option Nat
  | returned _ => none
  | aborted _ _ => some 6

end Call

namespace EntryPoint

def call {α β : Type} (e : EntryPoint) (pointer : Option α) (body : α → β) : Call β :=
  match require e.argument pointer with
  | .ok a => .returned (body a)
  | .error cause => .aborted e.symbol cause

@[simp] theorem call_some {α β : Type} (e : EntryPoint) (a : α) (body : α → β) :
    e.call (some a) body = .returned (body a) := rfl

def callNull (e : EntryPoint) : Call Unit :=
  if e.acceptsNull then .returned () else e.call none fun (u : Unit) => u

def increment : EntryPoint := { symbol := "twFun", argument := "wrappedInt" }
def sequencePush : EntryPoint := { symbol := "ivec_push", argument := "iv" }
def sequenceLength : EntryPoint := { symbol := "ivec_len", argument := "iv" }
def sequenceFree : EntryPoint := { symbol := "ivec_free", argument := "iv", acceptsNull := true }
def sequenceSum : EntryPoint := { symbol := "vectorFun", argument := "iv" }
def payload : EntryPoint := { symbol := "myPayload", argument := "rec" }
def resetNamedValue : EntryPoint := { symbol := "myMath_initRec", argument := "rec" }
def addNameLength : EntryPoint :=
  { symbol := "myMath_myRec_doSomethingToThis", argument := "this" }
def initCar : EntryPoint := { symbol := "initCar", argument := "car" }
def addWeight : EntryPoint := { symbol := "doThingToCar", argument := "car" }

def all : List EntryPoint :=
  [increment, sequencePush, sequenceLength, sequenceFree, sequenceSum, payload, resetNamedValue,
    addNameLength, initCar, addWeight]

def ofSymbol? (symbol : String) : Option EntryPoint :=
  all.find? (·.symbol == symbol)

end EntryPoint

end DeclSchema.Declared
