import DeclSchema.Declared.EntryPoint

/-!
Records that are kept as bytes.

C keeps text in a buffer of fixed size and ends it with a zero byte. What
stands after that byte is not part of the text, and a buffer with no zero
byte, or with bytes before it that are not UTF-8, holds no text.

Callers may write any bytes into the payload of a `Packet`. Text is put
there with at least one zero byte behind it, so that it can be read back,
and it clears whatever stood there before. A `Car` is storage that belongs
to the caller: a model name of 80 bytes, then the weight as a 64-bit binary
floating-point number with its lowest byte first. It is kept as the bytes
that it is, and the weight is read from them and written back when it
changes.
-/

namespace DeclSchema.Declared

/-! ### Buffers -/

abbrev Buffer (n : Nat) := Vector UInt8 n

namespace Buffer

variable {n : Nat}

def filled (n : Nat) (byte : UInt8) : Buffer n :=
  Vector.replicate n byte

/-- The buffer with bytes put over it from `start` on. -/
def write (b : Buffer n) (start : Nat) : List UInt8 → Buffer n
  | [] => b
  | byte :: rest => write (b.setIfInBounds start byte) (start + 1) rest

def beforeZero (b : Buffer n) : Option (List UInt8) :=
  if b.toList.contains 0 then some (b.toList.takeWhile (· != 0)) else none

def decode? (bytes : List UInt8) : Option String :=
  String.fromUTF8? ⟨bytes.toArray⟩

/-- The text in the buffer, up to its first zero byte. -/
def text? (b : Buffer n) : Option String :=
  b.beforeZero.bind decode?

def encode (text : String) : List UInt8 :=
  text.toUTF8.data.toList

end Buffer

/-! ### An id and a payload -/

structure Packet where
  id : Int32
  payload : Buffer 80
  deriving DecidableEq, Repr

namespace Packet

def payloadSize : Nat := 80

def new (id : Int32) : Packet :=
  ⟨id, Buffer.filled 80 0⟩

/-- The text can be put into a payload: it leaves room for a zero byte and
holds none itself. -/
def fits (text : String) : Bool :=
  decide ((Buffer.encode text).length < payloadSize) && !(Buffer.encode text).contains 0

/-- The packet with a text as its payload and zero bytes behind it. A text
that does not fit changes nothing. -/
def setText (p : Packet) (text : String) : Except Error Packet :=
  if fits text then .ok { p with payload := (Buffer.filled 80 0).write 0 (Buffer.encode text) }
  else .error (.invalidArgument "text")

def text? (p : Packet) : Option String :=
  p.payload.text?

def write (p : Packet) (start : Nat) (bytes : List UInt8) : Packet :=
  { p with payload := p.payload.write start bytes }

def writeEntry (p : Option Packet) (start : Nat) (bytes : List UInt8) : Call Packet :=
  EntryPoint.payload.call p fun p => p.write start bytes

end Packet

/-! ### A car -/

/-- The bits of a 64-bit floating-point number that is not a number. -/
def isNaNBits (bits : UInt64) : Bool :=
  (bits &&& 0x7FFFFFFFFFFFFFFF) > 0x7FF0000000000000

/-- The bits of the sum of two floating-point numbers. A first operand that
is not a number stays what it is, with its quiet bit set. -/
def addBits (bits : UInt64) (step : Float) : UInt64 :=
  if isNaNBits bits then bits ||| 0x0008000000000000 else (Float.ofBits bits + step).toBits

def wordBytes (word : UInt64) : List UInt8 :=
  (List.range 8).map fun i => (word >>> (8 * i).toUInt64).toUInt8

def wordOfBytes (bytes : List UInt8) : UInt64 :=
  bytes.foldr (fun byte word => (word <<< 8) ||| byte.toUInt64) 0

structure Car where
  storage : Buffer 88
  deriving DecidableEq, Repr

namespace Car

/-- The size of a model name in bytes, which is also where the weight
starts. -/
def modelNameSize : Nat := 80

def weightStep : Float := 1.0

def blank : Car :=
  ⟨Buffer.filled 88 0⟩

def modelNameBuffer (c : Car) : Buffer 80 :=
  (c.storage.take 80).cast (by decide)

def modelName? (c : Car) : Option String :=
  c.modelNameBuffer.text?

def weightBits (c : Car) : UInt64 :=
  wordOfBytes (c.storage.toList.drop modelNameSize)

def write (c : Car) (start : Nat) (bytes : List UInt8) : Car :=
  ⟨c.storage.write start bytes⟩

def init (_ : Car) : Car :=
  blank

def addWeight (c : Car) : Car :=
  c.write modelNameSize (wordBytes (addBits c.weightBits weightStep))

def initEntry (c : Option Car) : Call Car :=
  EntryPoint.initCar.call c init

def addWeightEntry (c : Option Car) : Call Car :=
  EntryPoint.addWeight.call c addWeight

end Car

/-! ### Where the fields of a record stand

Fields stand in order, each at the first place that its alignment allows.
The record is aligned like its most demanding field, and its size is
rounded up to its alignment, so that records can stand in an array. -/

structure Shape where
  size : Nat
  align : Nat
  deriving DecidableEq, Repr

namespace Shape

def int8 : Shape := ⟨1, 1⟩
def int32 : Shape := ⟨4, 4⟩
def double : Shape := ⟨8, 8⟩
def pointer : Shape := ⟨8, 8⟩

def chars (n : Nat) : Shape := ⟨n, 1⟩

end Shape

/-- The least multiple of `align` from `n` on. -/
def roundUp (n align : Nat) : Nat :=
  (n + (align - 1)) / align * align

structure Layout where
  offsets : List Nat
  shape : Shape
  deriving DecidableEq, Repr

namespace Layout

/-- The offsets of fields when `used` bytes stand before them, and the end
of the last one. -/
def place (used : Nat) : List Shape → List Nat × Nat
  | [] => ([], used)
  | s :: rest =>
      let start := roundUp used s.align
      let later := place (start + s.size) rest
      (start :: later.1, later.2)

def ofFields (fields : List Shape) : Layout :=
  let placed := place 0 fields
  let align := fields.foldl (fun a s => max a s.align) 1
  ⟨placed.1, roundUp placed.2 align, align⟩

def wrapper (s : Shape) : Layout := ofFields [s]

def packet : Layout := ofFields [.int32, .chars Packet.payloadSize]

def namedValue : Layout := ofFields [.pointer, .int32]

def car : Layout := ofFields [.chars Car.modelNameSize, .double]

end Layout

end DeclSchema.Declared
