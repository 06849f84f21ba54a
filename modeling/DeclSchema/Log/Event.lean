import DeclSchema.Json

/-!
Events worth telling while the program works, and the lines they become.

An event has a level, which says how urgent it is, and a source, the part
of the program that tells it. A line of text gives the level in five
columns, the message and the details. Characters that could steer a
terminal are written by number in the message. The other form of a line is
a compact JSON document.
-/

namespace DeclSchema.Log

inductive Level where
  | error
  | warn
  | info
  | debug
  | trace
  deriving DecidableEq, Repr

namespace Level

def name : Level → String
  | error => "ERROR"
  | warn => "WARN"
  | info => "INFO"
  | debug => "DEBUG"
  | trace => "TRACE"

def rank : Level → Nat
  | error => 1
  | warn => 2
  | info => 3
  | debug => 4
  | trace => 5

end Level

inductive Source where
  | program
  | settings
  | schema
  deriving DecidableEq, Repr

/-- The path by which filters know a part: parts of a part come after it. -/
def Source.path : Source → String
  | program => "middle_c"
  | settings => "middle_c::config"
  | schema => "middle_c::schema"

structure Event where
  level : Level
  source : Source
  message : String
  details : List (String × String) := []
  deriving Repr

/-- The event tells something under a name. The message is told under a name
of its own. -/
def Event.tells (e : Event) (name : String) : Bool :=
  name == "message" || e.details.any (·.1 == name)

/-! ### Lines -/

def harmless (c : Char) : List Char :=
  if c == '\x1b' || c == '\x07' || c == '\x08' || c == '\x0c' || c == '\x7f' then
    let digits := Nat.toDigits 16 c.toNat
    '\\' :: 'x' :: (List.replicate (2 - digits.length) '0' ++ digits)
  else if 0x80 ≤ c.toNat && c.toNat ≤ 0x9f then
    '\\' :: 'u' :: '\x7b' :: (Nat.toDigits 16 c.toNat ++ ['\x7d'])
  else [c]

namespace Event

def toText (e : Event) : String :=
  String.ofList (List.replicate (5 - e.level.name.length) ' ') ++ e.level.name ++ " " ++
    String.ofList (e.message.toList.flatMap harmless) ++
    String.join (e.details.map fun d => " " ++ d.1 ++ "=" ++ d.2) ++ "\n"

def toJsonLine (e : Event) : String :=
  let fields := ("message", Json.text e.message) :: e.details.map fun d => (d.1, Json.text d.2)
  (Json.ofEntries [("level", .text e.level.name), ("fields", Json.ofEntries fields)]).compact ++
    "\n"

end Event

end DeclSchema.Log
