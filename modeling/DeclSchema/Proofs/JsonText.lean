import DeclSchema.Json
import Mathlib.Data.List.Forall2

/-!
The grammar of JSON texts.

What is written for a document is stated here on the text alone. A literal
is a row of groups between quotes, and each group stands for one character:
the character itself where JSON lets it stand, or one of the escapes. An
object is a row of entries with commas between them, never before the first
or after the last.

How a line starts and what stands between a key and its value are
parameters of the grammar. For `IsCompact` there is no white space at all;
for `IsPretty` every entry is on a line of its own, two spaces further in
than the object. The grammar shares nothing with the functions that write,
and these are shown to keep to it.
-/

namespace DeclSchema.Json

/-! ### Literals -/

/-- The group of characters stands for the character inside a literal. -/
inductive StandsFor : List Char → Char → Prop
  | itself {c : Char} (hquote : c ≠ '"') (hbackslash : c ≠ '\\') (hcontrol : 0x20 ≤ c.toNat) :
      StandsFor [c] c
  | quote : StandsFor ['\\', '"'] '"'
  | backslash : StandsFor ['\\', '\\'] '\\'
  | backspace : StandsFor ['\\', 'b'] '\x08'
  | tab : StandsFor ['\\', 't'] '\t'
  | lineFeed : StandsFor ['\\', 'n'] '\n'
  | formFeed : StandsFor ['\\', 'f'] '\x0c'
  | carriageReturn : StandsFor ['\\', 'r'] '\r'
  /-- Four digits to the base 16 give the code point. -/
  | codePoint {c : Char} {digits : List Nat} (hlength : digits.length = 4)
      (hdigit : ∀ d ∈ digits, d < 16) (hvalue : digits.foldl (fun n d => 16 * n + d) 0 = c.toNat) :
      StandsFor ('\\' :: 'u' :: digits.map Nat.digitChar) c

/-- The text is a literal for `s`. -/
def IsLiteral (text s : String) : Prop :=
  ∃ groups, List.Forall₂ StandsFor groups s.toList ∧
    text = String.ofList ('"' :: (groups.flatten ++ ['"']))

theorem fourHex_eq : ∀ n < 0x20,
    fourHex n = [0, 0, n / 16, n % 16].map Nat.digitChar := by
  decide

theorem standsFor_escapedChar (c : Char) : StandsFor (escapedChar c) c := by
  unfold escapedChar
  split
  · exact .quote
  · exact .backslash
  · exact .backspace
  · exact .tab
  · exact .lineFeed
  · exact .formFeed
  · exact .carriageReturn
  · next hquote hbackslash _ _ _ _ _ =>
      split
      · next hlt =>
          rw [fourHex_eq _ hlt]
          refine .codePoint rfl ?_ ?_
          · intro d hd
            simp only [List.mem_cons, List.not_mem_nil, or_false] at hd
            omega
          · change 16 * (16 * (16 * (16 * 0 + 0) + 0) + c.toNat / 16) + c.toNat % 16 = c.toNat
            omega
      · next hlt => exact .itself hquote hbackslash (Nat.not_lt.mp hlt)

theorem isLiteral_literal (s : String) : IsLiteral (literal s) s := by
  refine ⟨s.toList.map escapedChar, ?_, ?_⟩
  · rw [List.forall₂_map_left_iff, List.forall₂_same]
    exact fun c _ => standsFor_escapedChar c
  · rw [literal, List.flatMap_def]

/-! ### Documents -/

section

variable (line : Nat → String) (colon : String)

mutual

/-- The text is written for the document, from a line at the level on. -/
inductive IsText : Nat → String → Json → Prop
  | text {level : Nat} {body s : String} (h : IsLiteral body s) : IsText level body (.text s)
  | number {level : Nat} (n : Nat) :
      IsText level (String.ofList (Nat.toDigits 10 n)) (.number n)
  | empty {level : Nat} : IsText level "\x7b\x7d" (.object [])
  | object {level : Nat} {body : String} {entries : List (String × Json)}
      (h : IsEntries (level + 1) body entries) :
      IsText level ("\x7b" ++ body ++ line level ++ "\x7d") (.object entries)

/-- One entry or more, with a comma between them. -/
inductive IsEntries : Nat → String → List (String × Json) → Prop
  | last {level : Nat} {body : String} {e : String × Json} (h : IsEntry level body e) :
      IsEntries level body [e]
  | more {level : Nat} {body rest : String} {e : String × Json} {entries : List (String × Json)}
      (h : IsEntry level body e) (hrest : IsEntries level rest entries) :
      IsEntries level (body ++ "," ++ rest) (e :: entries)

inductive IsEntry : Nat → String → String × Json → Prop
  | intro {level : Nat} {key body k : String} {v : Json} (hkey : IsLiteral key k)
      (hvalue : IsText level body v) :
      IsEntry level (line level ++ key ++ colon ++ body) (k, v)

end

end

/-- The text has no white space between its parts. -/
def IsCompact (text : String) (j : Json) : Prop :=
  IsText (fun _ => "") ":" 0 text j

/-- The text has one entry per line. -/
def IsPretty (text : String) (j : Json) : Prop :=
  IsText (fun level => String.ofList ('\n' :: List.replicate (2 * level) ' ')) ": " 0 text j

/-! ### The functions that write -/

theorem induction_on {motive : Json → Prop} (j : Json) (text : ∀ s, motive (.text s))
    (number : ∀ n, motive (.number n))
    (object : ∀ entries, (∀ e ∈ entries, motive e.2) → motive (.object entries)) : motive j :=
  @Json.rec motive (fun entries => ∀ e ∈ entries, motive e.2) (fun e => motive e.2) text number
    object (by simp) (fun _ _ he hrest => List.forall_mem_cons.mpr ⟨he, hrest⟩) (fun _ _ h => h) j

theorem isEntry_entry (l : Layout) {level : Nat} (key : String) {body : String} {v : Json}
    (h : IsText l.line l.colon level body v) :
    IsEntry l.line l.colon level (l.entry level key body) (key, v) :=
  .intro (isLiteral_literal key) h

theorem isEntries_writeRest (l : Layout) {level : Nat} {rest : List (String × Json)}
    (hrest : ∀ e ∈ rest, IsText l.line l.colon level (e.2.writeAt l level) e.2)
    {body : String} {e : String × Json} (h : IsEntry l.line l.colon level body e) :
    IsEntries l.line l.colon level (body ++ writeRest l level rest) (e :: rest) := by
  -- the comma is written with the entry after it, so the entry in front has to be a variable
  induction rest generalizing body e with
  | nil =>
      rw [writeRest, String.append_empty]
      exact .last h
  | cons next rest ih =>
      obtain ⟨hnext, hothers⟩ := List.forall_mem_cons.mp hrest
      obtain ⟨k, v⟩ := next
      rw [writeRest, String.append_assoc, ← String.append_assoc]
      exact .more h (ih hothers (isEntry_entry l k hnext))

theorem isText_writeAt (l : Layout) (level : Nat) (j : Json) :
    IsText l.line l.colon level (j.writeAt l level) j := by
  induction j using induction_on generalizing level with
  | text s =>
      rw [writeAt]
      exact .text (isLiteral_literal s)
  | number n =>
      rw [writeAt, Nat.toString_eq_ofList_toDigits]
      exact .number n
  | object entries ih =>
      cases entries with
      | nil =>
          rw [writeAt]
          exact .empty
      | cons e rest =>
          obtain ⟨hfirst, hrest⟩ := List.forall_mem_cons.mp ih
          obtain ⟨k, v⟩ := e
          have hentries := isEntries_writeRest l (fun e he => hrest e he (level + 1))
            (isEntry_entry l k (hfirst (level + 1)))
          rw [writeAt]
          simpa only [String.append_assoc] using IsText.object hentries

theorem isCompact_compact (j : Json) : IsCompact j.compact j :=
  isText_writeAt .compact 0 j

theorem isPretty_pretty (j : Json) : IsPretty j.pretty j :=
  isText_writeAt .pretty 0 j

end DeclSchema.Json
