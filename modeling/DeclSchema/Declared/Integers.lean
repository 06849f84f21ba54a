import DeclSchema.Declared.EntryPoint

/-!
Records and sequences of 32-bit integers.

Sums go round at the ends of the range; only `checkedSum` gives no answer
there. The same holds of the counter in a `Wrapper`, of the sum of a
sequence and of the value of a `NamedValue`.

A caller from C holds a sequence by a handle, which is null before the
first `create` and after a `free`. Every other operation needs a live
handle. The name of a `NamedValue` is a view of bytes that belong to
someone else, so all that the record does with it is to measure it.
-/

namespace DeclSchema.Declared

def sum (a b : Int32) : Int32 :=
  a + b

def checkedSum (a b : Int32) : Option Int32 :=
  let exact := a.toInt + b.toInt
  if Int32.minValue.toInt ≤ exact ∧ exact ≤ Int32.maxValue.toInt then some (.ofInt exact)
  else none

structure Wrapper (α : Type) where
  value : α
  deriving DecidableEq, Repr

namespace Wrapper

def increment (w : Wrapper Int32) : Wrapper Int32 :=
  ⟨w.value + 1⟩

def incrementEntry (w : Option (Wrapper Int32)) : Call (Wrapper Int32) :=
  EntryPoint.increment.call w increment

end Wrapper

/-! ### Sequences behind a handle -/

abbrev IntSequence := Array Int32

def IntSequence.sum (s : IntSequence) : Int32 :=
  s.foldl (· + ·) 0

/-- A pointer to a sequence: `none` is null. -/
abbrev Handle := Option IntSequence

namespace Handle

def create : Handle :=
  some #[]

def push (h : Handle) (value : Int32) : Call Handle :=
  EntryPoint.sequencePush.call h fun s => some (s.push value)

def length (h : Handle) : Call Nat :=
  EntryPoint.sequenceLength.call h fun s => s.size

def sum (h : Handle) : Call Int32 :=
  EntryPoint.sequenceSum.call h IntSequence.sum

/-- The handle after its sequence was released. Null may be released too. -/
def free (_ : Handle) : Call Handle :=
  .returned none

inductive Step where
  | create
  | push (value : Int32)
  | free
  deriving DecidableEq, Repr

def step (h : Handle) : Step → Call Handle
  | .create => .returned create
  | .push value => h.push value
  | .free => h.free

def run (h : Handle) : List Step → Call Handle
  | [] => .returned h
  | s :: rest => (h.step s).bind fun h => h.run rest

end Handle

/-! ### A name and a value -/

structure NamedValue where
  name : Option (List UInt8)
  value : Int32
  deriving DecidableEq, Repr

namespace NamedValue

def blank : NamedValue :=
  ⟨none, 0⟩

def nameLength (r : NamedValue) : Nat :=
  match r.name with
  | some bytes => bytes.length
  | none => 0

def addNameLength (r : NamedValue) : NamedValue :=
  { r with value := r.value + Int32.ofNat r.nameLength }

def resetStatus : Int32 := 0

def reset (_ : NamedValue) : NamedValue × Int32 :=
  (blank, resetStatus)

def addNameLengthEntry (r : Option NamedValue) : Call NamedValue :=
  EntryPoint.addNameLength.call r addNameLength

def resetEntry (r : Option NamedValue) : Call (NamedValue × Int32) :=
  EntryPoint.resetNamedValue.call r reset

/-- The way an operation is called: by itself, or as its entry point for
callers from C. -/
inductive Via where
  | direct
  | entry
  deriving DecidableEq, Repr

inductive Step where
  | new (name : Option (List UInt8)) (value : Int32)
  | setName (name : Option (List UInt8))
  | setValue (value : Int32)
  | addNameLength (via : Via)
  | reset (via : Via)
  deriving DecidableEq, Repr

/-- The record after one operation, and the status if the operation has
one. -/
def step (r : NamedValue) : Step → Call (NamedValue × Option Int32)
  | .new name value => .returned (⟨name, value⟩, none)
  | .setName name => .returned ({ r with name := name }, none)
  | .setValue value => .returned ({ r with value := value }, none)
  | .addNameLength .direct => .returned (r.addNameLength, none)
  | .addNameLength .entry =>
      (addNameLengthEntry (some r)).bind fun r => .returned (r, none)
  | .reset .direct => .returned (r.reset.1, some r.reset.2)
  | .reset .entry =>
      (resetEntry (some r)).bind fun result => .returned (result.1, some result.2)

def run (r : NamedValue) : List Step → Call NamedValue
  | [] => .returned r
  | s :: rest => (r.step s).bind fun result => result.1.run rest

end NamedValue

end DeclSchema.Declared
