import DeclSchema.Log.Event
import DeclSchema.Text.Classes

/-!
Which events are written.

A filter is a list of directives with commas between them. A directive
gives a level, and says for which events: for those of one target, which
is a part of a program and all parts of it, or for those that tell a detail,
or for all. An event is written if the most specific directive that is
about it lets its level pass, and not at all if none is about it.

A directive may also ask for events within a span of work, by the name of
the span or by the value of a detail. This program marks no such spans, so
these directives are read and then never about an event.
-/

namespace DeclSchema.Log

structure Directive where
  target : Option (List Char) := none
  detail : Option (List Char) := none
  /-- Only events within a span are meant. -/
  inSpan : Bool := false
  rank : Nat
  deriving DecidableEq, Repr

/-- Directives; of two that are about the same events the later one counts. -/
abbrev Filter := List Directive

namespace Directive

/-! ### The written form -/

def number? (s : List Char) : Option Nat :=
  let digits := match s with
    | '+' :: rest => rest
    | _ => s
  if digits.isEmpty || !digits.all Char.isDigit then none
  else some (digits.foldl (fun n c => 10 * n + (c.toNat - '0'.toNat)) 0)

def rankOf? (s : List Char) : Option Nat :=
  match number? s with
  | some n => if n ≤ Level.trace.rank then some n else none
  | none =>
      match String.ofList (s.map Char.toLower) with
      | "off" => some 0
      | "error" => some Level.error.rank
      | "warn" => some Level.warn.rank
      | "info" => some Level.info.rank
      | "debug" => some Level.debug.rank
      | "trace" => some Level.trace.rank
      | _ => none

def startsTarget (c : Char) : Bool :=
  c == '-' || c == ':' || c == '_' || Text.isAlphanumeric c

def placeOf? (c d : Char) (i : Nat) (s : List Char) : Option Nat :=
  ((s.drop i).findIdx? fun x => x == c || x == d).map (· + i)

def slice (i j : Nat) (s : List Char) : List Char :=
  (s.drop i).take (j - i)

def rankFrom? (s : List Char) (i : Nat) : Option Nat :=
  match s.drop i with
  | [] => some Level.trace.rank
  | level => rankOf? level

def closed? (s seen : List Char) (i : Nat) (d : Directive) : Option Directive :=
  match seen.drop i with
  | [] => some d
  | '=' :: _ => (rankFrom? s (i + 1)).map fun rank => { d with rank }
  | _ => none

/-- The directive for a target whose condition in brackets starts at place
`i`: the name of a span, or a detail in braces, or both. -/
def bracket? (s seen : List Char) (target : Option (List Char)) (i : Nat) : Option Directive := do
  let j ← placeOf? ']' '\x7b' i seen
  if seen[j]? == some ']' then
    closed? s seen (j + 1) { target, inSpan := true, rank := Level.trace.rank }
  else
    let k ← placeOf? '\x7d' '\x7d' (j + 1) seen
    let detail := slice (j + 1) k s
    if detail.isEmpty || seen[k + 1]? != some ']' then none
    else
      closed? s seen (k + 2)
        { target
          detail := some (detail.takeWhile (· != '='))
          inSpan := i < j || detail.contains '='
          rank := Level.trace.rank }

/-- A directive: a level, or a target and perhaps a condition in brackets,
with a level or without. Marks are looked for in the text without the
blanks around it, and the parts are cut out of the whole text at the places
where the marks were seen, so a blank is never dropped from a part. -/
def parse? (s : List Char) : Option Directive :=
  let seen := Text.trim s
  match seen with
  | [] => none
  | '[' :: _ => bracket? s seen none 1
  | c :: _ =>
      if !startsTarget c then none
      else
        match placeOf? '=' '[' 1 seen with
        | none =>
            match rankOf? s with
            | some rank => some { rank }
            | none => some { target := some s, rank := Level.trace.rank }
        | some i =>
            if seen[i]? == some '=' then
              (rankFrom? s (i + 1)).map fun rank => { target := some (slice 0 i s), rank }
            else bracket? s seen (some (slice 0 i s)) (i + 1)

/-! ### The meaning -/

def concerns (d : Directive) (e : Event) : Bool :=
  !d.inSpan &&
    (match d.target with
      | some target => target.isPrefixOf e.source.path.toList
      | none => true) &&
    match d.detail with
    | some name => e.tells (String.ofList name)
    | none => true

def reach (d : Directive) : Nat :=
  match d.target with
  | some target => target.length + 1
  | none => 0

/-- The directive is at least as specific as another one. A longer target
comes first, then a detail, then the order of the names. -/
def isAtLeast (d other : Directive) : Bool :=
  other.reach < d.reach ||
    (other.reach == d.reach &&
      match other.detail, d.detail with
      | none, _ => true
      | some _, none => false
      | some x, some y => !y.lex x fun c c' => c.toNat < c'.toNat)

end Directive

namespace Filter

def splitCommas (s : List Char) : List (List Char) :=
  s.foldr (fun c parts =>
    if c == ',' then [] :: parts
    else
      match parts with
      | [] => [[c]]
      | part :: rest => (c :: part) :: rest) [[]]

def parse? (s : String) : Option Filter :=
  ((splitCommas s.toList).filter (!·.isEmpty)).mapM Directive.parse?

/-- The directive that decides about an event: the most specific one that is
about it, and of equals the last. -/
def deciding? (f : Filter) (e : Event) : Option Directive :=
  (f.filter (·.concerns e)).foldl (fun best d =>
    match best with
    | none => some d
    | some b => if d.isAtLeast b then some d else some b) none

def passes (f : Filter) (e : Event) : Bool :=
  match f.deciding? e with
  | some d => e.level.rank ≤ d.rank
  | none => false

end Filter

end DeclSchema.Log
