/-!
References to variables in a text.

A reference is a dollar sign, an opening brace, a name of at least one
character other than the closing brace, and the closing brace. A text is
cut from left to right into references and the characters between them
(`pieces`), and every reference to a variable that is set gives way to its
value. What is put in is not looked at again, and a reference to a variable
that is not set stays as it is.
-/

namespace DeclSchema.Settings

inductive Piece where
  | char (c : Char)
  | reference (name : List Char)
  deriving DecidableEq, Repr

namespace Piece

def source : Piece → List Char
  | char c => [c]
  | reference name => '$' :: '\x7b' :: (name ++ ['\x7d'])

def expand (lookup : String → Option String) : Piece → List Char
  | char c => [c]
  | reference name =>
      match lookup (String.ofList name) with
      | some value => value.toList
      | none => (reference name).source

end Piece

/-- The name of the reference in front, and what follows the reference. -/
def reference? : List Char → Option (List Char × List Char)
  | '$' :: '\x7b' :: rest =>
      let name := rest.takeWhile (· != '\x7d')
      match rest.dropWhile (· != '\x7d') with
      | [] => none
      | _ :: after => if name.isEmpty then none else some (name, after)
  | _ => none

theorem length_reference?_lt {s name rest : List Char} (h : reference? s = some (name, rest)) :
    rest.length < s.length := by
  unfold reference? at h
  split at h
  · next inner =>
      dsimp only at h
      split at h
      · simp at h
      · next after hd =>
          split at h
          · simp at h
          · simp only [Option.some.injEq, Prod.mk.injEq] at h
            obtain ⟨-, rfl⟩ := h
            have : (inner.dropWhile (· != '\x7d')).length ≤ inner.length :=
              (List.dropWhile_sublist _).length_le
            simp only [hd, List.length_cons] at this ⊢
            omega
  · simp at h

def pieces (s : List Char) : List Piece :=
  match h : reference? s with
  | some (name, rest) =>
      have := length_reference?_lt h
      .reference name :: pieces rest
  | none =>
      match s with
      | [] => []
      | c :: rest => .char c :: pieces rest
termination_by s.length

/-- The text with the value of every variable that is set in place of the
references to it. -/
def substitute (lookup : String → Option String) (text : String) : String :=
  String.ofList ((pieces text.toList).flatMap (·.expand lookup))

def referredNames (text : String) : List String :=
  (pieces text.toList).filterMap fun
    | .reference name => some (String.ofList name)
    | .char _ => none

end DeclSchema.Settings
