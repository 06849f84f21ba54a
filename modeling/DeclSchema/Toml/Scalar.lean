import DeclSchema.Toml.Quoted

/-!
Values that are written without quotes and brackets.

Such a value is one word: a boolean, a number or a moment. A moment is a
date, a time, or a date and a time with an offset or without one; a date
and a time may also stand as two words with one space between them. The
reader checks that each part of a moment is in its range and that the month
has the day. Seconds may be left out, and may be 60.
-/

namespace DeclSchema.Toml

namespace Moment

/-- The number that the first `n` characters write, which are all digits,
and what follows them. -/
def digits? (n : Nat) (s : List Char) : Option (Nat × List Char) :=
  let front := s.take n
  if front.length == n && front.all Char.isDigit then
    some (front.foldl (fun v c => 10 * v + (c.toNat - 48)) 0, s.drop n)
  else none

def isLeap (year : Nat) : Bool :=
  (year % 4 == 0 && year % 100 != 0) || year % 400 == 0

def daysIn (year month : Nat) : Nat :=
  match month with
  | 2 => if isLeap year then 29 else 28
  | 4 | 6 | 9 | 11 => 30
  | 1 | 3 | 5 | 7 | 8 | 10 | 12 => 31
  | _ => 0

def date? (s : List Char) : Option (List Char) :=
  match digits? 4 s with
  | some (year, '-' :: s) =>
      match digits? 2 s with
      | some (month, '-' :: s) =>
          match digits? 2 s with
          | some (day, s) => if 1 ≤ day && day ≤ daysIn year month then some s else none
          | none => none
      | _ => none
  | _ => none

def fraction? (s : List Char) : Option (List Char) :=
  match s with
  | '.' :: c :: rest => if c.isDigit then some (rest.dropWhile Char.isDigit) else none
  | '.' :: [] => none
  | s => some s

def seconds? (s : List Char) : Option (List Char) :=
  match s with
  | ':' :: s =>
      match digits? 2 s with
      | some (second, s) => if second ≤ 60 then fraction? s else none
      | none => none
  | s => some s

def clock? (s : List Char) : Option (List Char) :=
  match digits? 2 s with
  | some (hour, ':' :: s) =>
      match digits? 2 s with
      | some (minute, s) => if hour ≤ 23 && minute ≤ 59 then some s else none
      | none => none
  | _ => none

def time? (s : List Char) : Option (List Char) :=
  (clock? s).bind seconds?

def isOffset (s : List Char) : Bool :=
  match s with
  | [] => true
  | ['Z'] => true
  | ['z'] => true
  | '+' :: s => clock? s == some []
  | '-' :: s => clock? s == some []
  | _ => false

def isDate (s : List Char) : Bool :=
  date? s == some []

def isMoment (s : List Char) : Bool :=
  match date? s with
  | some [] => true
  | some (c :: rest) => (c == 'T' || c == 't' || c == ' ') && (time? rest).any isOffset
  | none => time? s == some []

end Moment

namespace Scalar

/-- The digits of a text in which single underscores may stand between
digits. -/
def groups? (isDigit : Char → Bool) : List Char → Option (List Char)
  | [] => none
  | [c] => if isDigit c then some [c] else none
  | c :: '_' :: rest => if isDigit c then (groups? isDigit rest).map (c :: ·) else none
  | c :: rest => if isDigit c then (groups? isDigit rest).map (c :: ·) else none

def number (base : Nat) (digits : List Char) : Nat :=
  digits.foldl (fun n c => base * n + (hexDigit? c).getD 0) 0

def decimal? (s : List Char) : Option (List Char) :=
  match groups? Char.isDigit s with
  | some ('0' :: _ :: _) => none
  | digits => digits

def sign : List Char → Int × List Char
  | '-' :: s => (-1, s)
  | '+' :: s => (1, s)
  | s => (1, s)

def based? (s : List Char) : Option Nat :=
  match s with
  | '0' :: 'x' :: s => (groups? (fun c => (hexDigit? c).isSome) s).map (number 16)
  | '0' :: 'o' :: s => (groups? (fun c => '0' ≤ c && c ≤ '7') s).map (number 8)
  | '0' :: 'b' :: s => (groups? (fun c => c == '0' || c == '1') s).map (number 2)
  | _ => none

def integer? (s : List Char) : Option Int :=
  match based? s with
  | some n => some n
  | none => (decimal? (sign s).2).map fun digits => (sign s).1 * number 10 digits

/-- The least number that is rounded to infinity in 64-bit floating-point
arithmetic: the middle between the greatest finite one and the next power
of two. -/
def overflow : Nat := Nat.pow 2 1024 - Nat.pow 2 970

/-- The number `digits * 10 ^ exponent` is below `overflow`. The number of
digits alone decides unless it is near 309. -/
def belowOverflow (digits : List Char) (exponent : Int) : Bool :=
  let digits := digits.dropWhile (· == '0')
  let size := digits.length + exponent
  if digits.isEmpty || size < 300 then true
  else if 310 < size then false
  else if 0 ≤ exponent then number 10 digits * Nat.pow 10 exponent.toNat < overflow
  else number 10 digits < overflow * Nat.pow 10 (-exponent).toNat

def cutAt (p : Char → Bool) (s : List Char) : List Char × Option (List Char) :=
  match s.dropWhile (fun c => !p c) with
  | [] => (s, none)
  | _ :: after => (s.takeWhile (fun c => !p c), some after)

def exponent? (s : List Char) : Option Int :=
  (groups? Char.isDigit (sign s).2).map fun digits => (sign s).1 * number 10 digits

def decimalFloat? (s : List Char) : Option Bool :=
  let (mantissa, after) := cutAt (fun c => c == 'e' || c == 'E') s
  let (whole, fraction) := cutAt (· == '.') mantissa
  if after.isNone && fraction.isNone then none
  else do
    let whole ← decimal? whole
    let fraction ← match fraction with
      | some f => groups? Char.isDigit f
      | none => some []
    let exponent ← match after with
      | some e => exponent? e
      | none => some 0
    return belowOverflow (whole ++ fraction) (exponent - fraction.length)

def float? (s : List Char) : Option Bool :=
  let unsigned := (sign s).2
  if unsigned == ['i', 'n', 'f'] || unsigned == ['n', 'a', 'n'] then some true
  else decimalFloat? unsigned

def ofWord? (s : List Char) : Option Value :=
  if s == ['t', 'r', 'u', 'e'] then some (.boolean true)
  else if s == ['f', 'a', 'l', 's', 'e'] then some (.boolean false)
  else if Moment.isMoment s then some .moment
  else
    match integer? s with
    | some n => some (.integer n)
    | none => (float? s).map .float

def inWord (c : Char) : Bool :=
  !(isBlank c || c == '\n' || c == '\r' || c == ',' || c == ']' || c == '\x7d' || c == '#')

def accept {s : List Char} (word : Taken (List Char) s) : Except Fault (Taken Value s) :=
  match ofWord? word.value with
  | some v => .ok (word.map fun _ => v)
  | none => fail (.badScalar (String.ofList word.value)) s

/-- The two words of a date and a time as one, if the first is a date and a
digit follows the space behind it. -/
def dateAndTime? {s : List Char} (word : Taken (List Char) s) : Option (Taken (List Char) s) :=
  match h : word.rest with
  | ' ' :: r =>
      if Moment.isDate word.value && (r.head?.map Char.isDigit).getD false then
        have hr : r.length ≤ s.length := by
          have := word.shorter
          rw [h, List.length_cons] at this
          omega
        (word? inWord r).map fun time => time.within hr fun t => word.value ++ ' ' :: t
      else none
  | _ => none

def read (s : List Char) : Except Fault (Taken Value s) :=
  match word? inWord s with
  | some word => accept ((dateAndTime? word).getD word)
  | none => fail .unexpected s

end Scalar

end DeclSchema.Toml
