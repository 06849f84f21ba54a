import DeclSchema.Keyed

/-!
JSON documents and their text.

A schema and a log line are made of text, natural numbers and objects, and
nothing else of JSON occurs in them. Objects are kept in key order, so a
document has one text in each of the two layouts: `compact`, with no space
at all, and `pretty`, with one entry per line and two spaces per level.
-/

namespace DeclSchema

inductive Json where
  | text (s : String)
  | number (n : Nat)
  | object (entries : List (String × Json))
  deriving Repr

namespace Json

def ofEntries (entries : List (String × Json)) : Json :=
  object (Keyed.ofList entries)

def fourHex (n : Nat) : List Char :=
  let digits := Nat.toDigits 16 n
  List.replicate (4 - digits.length) '0' ++ digits

/-- How a character stands inside a JSON text. Only the quote, the backslash
and the first 32 control characters cannot stand for themselves. -/
def escapedChar (c : Char) : List Char :=
  match c with
  | '"' => ['\\', '"']
  | '\\' => ['\\', '\\']
  | '\x08' => ['\\', 'b']
  | '\t' => ['\\', 't']
  | '\n' => ['\\', 'n']
  | '\x0c' => ['\\', 'f']
  | '\r' => ['\\', 'r']
  | c => if c.toNat < 0x20 then '\\' :: 'u' :: fourHex c.toNat else [c]

def literal (s : String) : String :=
  String.ofList ('"' :: (s.toList.flatMap escapedChar ++ ['"']))

/-- Where the two layouts differ: in what stands before an entry at a level
and before the brace that closes the entries of a level, and in what stands
between a key and its value. -/
structure Layout where
  line : Nat → String
  colon : String

def Layout.compact : Layout := ⟨fun _ => "", ":"⟩

def Layout.pretty : Layout :=
  ⟨fun level => String.ofList ('\n' :: List.replicate (2 * level) ' '), ": "⟩

def Layout.entry (l : Layout) (level : Nat) (key value : String) : String :=
  l.line level ++ literal key ++ l.colon ++ value

mutual

def writeAt (l : Layout) (level : Nat) : Json → String
  | text s => literal s
  | number n => toString n
  | object [] => "\x7b\x7d"
  | object ((k, v) :: rest) =>
      "\x7b" ++ l.entry (level + 1) k (writeAt l (level + 1) v) ++ writeRest l (level + 1) rest ++
        l.line level ++ "\x7d"

/-- The entries that follow another one. -/
def writeRest (l : Layout) (level : Nat) : List (String × Json) → String
  | [] => ""
  | (k, v) :: rest => "," ++ l.entry level k (writeAt l level v) ++ writeRest l level rest

end

def compact (j : Json) : String :=
  j.writeAt .compact 0

def pretty (j : Json) : String :=
  j.writeAt .pretty 0

end Json

end DeclSchema
