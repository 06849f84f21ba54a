import DeclSchema.Text.Upper

/-!
Words of a C name, and the two spellings made of them.

C code spells one name in many ways: `model_name`, `MODEL_NAME`,
`modelName`. All of them are the words `model` and `name`, and a schema
writes them as `modelName` for a property and `ModelName` for a title.

A word is a run of ASCII letters and digits. Every other character
separates words and is dropped. Inside a run a new word starts at a
lower-case letter after a digit (`x1|y`), at an upper-case letter after a
lower-case letter or a digit (`model|Name`), and at an upper-case letter
after an upper-case one when a lower-case letter follows, so that an
acronym ends before the word after it (`HTTP|Server`). `startsWord` is
this rule; `wordsFrom` walks the text with it.
-/

namespace DeclSchema.Name

open Text

/-- With `prev` right before it in the same run and `next` right after it,
the letter or digit `c` starts a new word. -/
def startsWord (prev c : Char) (next : Option Char) : Bool :=
  (c.isLower && prev.isDigit) ||
    (c.isUpper && (prev.isLower || prev.isDigit || (prev.isUpper && next.any Char.isLower)))

/-- The words of `current ++ s`, where `current` is the part read so far of
the word that `s` may go on with. -/
def wordsFrom (current : List Char) : List Char → List (List Char)
  | [] => if current.isEmpty then [] else [current]
  | c :: rest =>
      if !c.isAlphanum then
        if current.isEmpty then wordsFrom [] rest else current :: wordsFrom [] rest
      else
        match current.getLast? with
        | none => wordsFrom [c] rest
        | some prev =>
            if startsWord prev c rest.head? then current :: wordsFrom [c] rest
            else wordsFrom (current ++ [c]) rest

def words (s : List Char) : List (List Char) :=
  wordsFrom [] s

def capitalChars : List Char → List Char
  | [] => []
  | c :: rest => upper c ++ rest

/-- The words joined, the first in lower case and each later one in lower
case with a capital. -/
def joinCamel : List (List Char) → List Char
  | [] => []
  | first :: later =>
      first.map Char.toLower ++ later.flatMap fun w => capitalChars (w.map Char.toLower)

def camelChars (s : List Char) : List Char :=
  joinCamel (words s)

def camelCase (s : String) : String :=
  String.ofList (camelChars s.toList)

def upperFirst (s : String) : String :=
  String.ofList (capitalChars s.toList)

def title (s : String) : String :=
  upperFirst (camelCase s)

end DeclSchema.Name
