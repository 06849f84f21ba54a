import DeclSchema.Settings.Substitution
import Mathlib.Data.List.TakeWhile

/-!
One pass over a text with references.

Braces and dollar signs can stand anywhere in a text, also inside of names,
and not each of them belongs to a reference. Which ones do is said here
without a scanner: a cut of the text into characters and references is the
right one if no reference starts at a character that is left to itself
(`IsCut`). A reference that starts inside another one is then not looked
at, and one that could start earlier does. There is exactly one such cut,
and it is the one that `pieces` makes (`isCut_iff_eq_pieces`).

What the substitution writes is determined piece by piece from this cut of
the original text (`Replaces`). That values which are put in are never read
again makes a second substitution a different matter: it reads the result
of the first. If values hold neither dollar signs nor braces and are not
empty, a second one finds the references that the first one left and
nothing else. The cut of the result is known in that case
(`isCut_settled`), and this is all that has to be shown.
-/

namespace DeclSchema.Settings

variable {s name rest : List Char} {ps : List Piece} {c : Char}
  {lookup lookup' : String → Option String} {text : String}

/-! ### References at the front of a text -/

/-- What can stand between the braces of a reference. -/
def IsName (name : List Char) : Prop :=
  name ≠ [] ∧ '\x7d' ∉ name

def StartsReference (s : List Char) : Prop :=
  ∃ name rest, IsName name ∧ s = '$' :: '\x7b' :: (name ++ '\x7d' :: rest)

/-- A name ends at the first closing brace. -/
theorem span_name (h : '\x7d' ∉ name) (rest : List Char) :
    (name ++ '\x7d' :: rest).takeWhile (· != '\x7d') = name ∧
      (name ++ '\x7d' :: rest).dropWhile (· != '\x7d') = '\x7d' :: rest := by
  have hname : ∀ c ∈ name, (c != '\x7d') = true := by
    intro c hc
    rw [bne_iff_ne]
    rintro rfl
    exact h hc
  rw [List.takeWhile_append_of_pos hname, List.dropWhile_append_of_pos hname]
  simp

theorem reference?_eq_some_iff :
    reference? s = some (name, rest) ↔
      IsName name ∧ s = '$' :: '\x7b' :: (name ++ '\x7d' :: rest) := by
  constructor
  · intro h
    unfold reference? at h
    split at h
    · next inner =>
        by_cases hclosed : '\x7d' ∈ inner
        · obtain ⟨name', rest', rfl, hclose⟩ := List.eq_append_cons_of_mem hclosed
          obtain ⟨htake, hdrop⟩ := span_name hclose rest'
          by_cases hempty : name' = []
          · simp [hempty] at h
          · have hsame : name' = name ∧ rest' = rest := by
              simpa [htake, hdrop, hempty] using h
            obtain ⟨rfl, rfl⟩ := hsame
            exact ⟨⟨hempty, hclose⟩, rfl⟩
        · -- without a closing brace the run of other characters is all there is
          have hdrop : inner.dropWhile (· != '\x7d') = [] := by
            rw [List.dropWhile_eq_nil_iff]
            intro c hc
            rw [bne_iff_ne]
            rintro rfl
            exact hclosed hc
          simp [hdrop] at h
    · cases h
  · rintro ⟨⟨hne, hclose⟩, rfl⟩
    obtain ⟨htake, hdrop⟩ := span_name hclose rest
    simp [reference?, htake, hdrop, hne]

theorem reference?_eq_none_iff : reference? s = none ↔ ¬ StartsReference s := by
  rw [Option.eq_none_iff_forall_not_mem]
  simp only [Option.mem_def, Prod.forall, reference?_eq_some_iff, StartsReference, not_exists]

/-! ### Cuts -/

/-- The text that the pieces are cut from. -/
def sourceOf (ps : List Piece) : List Char :=
  ps.flatMap (·.source)

@[simp] theorem sourceOf_char (c : Char) (ps : List Piece) :
    sourceOf (.char c :: ps) = c :: sourceOf ps := rfl

@[simp] theorem sourceOf_reference (name : List Char) (ps : List Piece) :
    sourceOf (.reference name :: ps) = '$' :: '\x7b' :: (name ++ '\x7d' :: sourceOf ps) := by
  simp [sourceOf, Piece.source]

/-- The pieces are a cut of the text from left to right: what is taken for a
reference is one, and none starts at a character that is left to itself. -/
structure IsCut (s : List Char) (ps : List Piece) : Prop where
  source : sourceOf ps = s
  names : ∀ name, .reference name ∈ ps → IsName name
  leftmost : ∀ before c after, ps = before ++ .char c :: after →
    ¬ StartsReference (c :: sourceOf after)

theorem isCut_nil : IsCut [] [] :=
  ⟨rfl, by simp, by simp⟩

theorem isCut_char_iff :
    IsCut s (.char c :: ps) ↔
      s = c :: sourceOf ps ∧ ¬ StartsReference (c :: sourceOf ps) ∧ IsCut (sourceOf ps) ps := by
  constructor
  · rintro ⟨rfl, hnames, hleftmost⟩
    refine ⟨rfl, hleftmost [] c ps rfl, rfl, ?_, ?_⟩
    · intro name hname
      exact hnames name (List.mem_cons_of_mem _ hname)
    · rintro before d after rfl
      exact hleftmost (.char c :: before) d after rfl
  · rintro ⟨rfl, hfirst, -, hnames, hleftmost⟩
    refine ⟨rfl, by simpa using hnames, ?_⟩
    intro before d after hsplit
    rcases List.cons_eq_append_iff.mp hsplit with ⟨rfl, hfront⟩ | ⟨before', rfl, hrest⟩
    · obtain ⟨hd, rfl⟩ := List.cons.inj hfront
      cases hd
      exact hfirst
    · exact hleftmost before' d after hrest

theorem isCut_reference_iff :
    IsCut s (.reference name :: ps) ↔
      s = '$' :: '\x7b' :: (name ++ '\x7d' :: sourceOf ps) ∧ IsName name ∧
        IsCut (sourceOf ps) ps := by
  constructor
  · rintro ⟨rfl, hnames, hleftmost⟩
    refine ⟨by simp, hnames name List.mem_cons_self, rfl, ?_, ?_⟩
    · intro other hother
      exact hnames other (List.mem_cons_of_mem _ hother)
    · rintro before d after rfl
      exact hleftmost (.reference name :: before) d after rfl
  · rintro ⟨rfl, hname, -, hnames, hleftmost⟩
    refine ⟨by simp, ?_, ?_⟩
    · intro other hother
      rcases List.mem_cons.mp hother with hsame | hother
      · cases hsame
        exact hname
      · exact hnames other hother
    · intro before d after hsplit
      rcases List.cons_eq_append_iff.mp hsplit with ⟨rfl, hfront⟩ | ⟨before', rfl, hrest⟩
      · cases hfront
      · exact hleftmost before' d after hrest

theorem pieces_of_starts (hname : IsName name) :
    pieces ('$' :: '\x7b' :: (name ++ '\x7d' :: rest)) = .reference name :: pieces rest := by
  have href : reference? ('$' :: '\x7b' :: (name ++ '\x7d' :: rest)) = some (name, rest) :=
    reference?_eq_some_iff.mpr ⟨hname, rfl⟩
  rw [pieces]
  split
  · next name' rest' hsome =>
      rw [href, Option.some.injEq, Prod.mk.injEq] at hsome
      obtain ⟨rfl, rfl⟩ := hsome
      rfl
  · next hnone => rw [href] at hnone; cases hnone

theorem pieces_of_not_starts (h : ¬ StartsReference (c :: s)) :
    pieces (c :: s) = .char c :: pieces s := by
  have href := reference?_eq_none_iff.mpr h
  rw [pieces]
  split
  · next hsome => rw [href] at hsome; cases hsome
  · rfl

theorem pieces_nil : pieces [] = [] := by
  rw [pieces]
  rfl

theorem isCut_pieces (s : List Char) : IsCut s (pieces s) := by
  induction hn : s.length using Nat.strongRecOn generalizing s with
  | _ n ih =>
      by_cases hstart : StartsReference s
      · obtain ⟨name, rest, hname, rfl⟩ := hstart
        have hrest : IsCut rest (pieces rest) := ih rest.length (by simp [← hn]; omega) rest rfl
        rw [pieces_of_starts hname, isCut_reference_iff, hrest.source]
        exact ⟨rfl, hname, hrest⟩
      · cases s with
        | nil =>
            rw [pieces_nil]
            exact isCut_nil
        | cons c rest =>
            have hrest : IsCut rest (pieces rest) := ih rest.length (by simp [← hn]) rest rfl
            rw [pieces_of_not_starts hstart, isCut_char_iff, hrest.source]
            exact ⟨rfl, hstart, hrest⟩

/-- A text is cut in one way only. -/
theorem IsCut.eq_pieces (h : IsCut s ps) : ps = pieces s := by
  induction ps generalizing s with
  | nil =>
      obtain rfl : [] = s := h.source
      exact pieces_nil.symm
  | cons p ps ih =>
      cases p with
      | char c =>
          obtain ⟨rfl, hfirst, hrest⟩ := isCut_char_iff.mp h
          rw [pieces_of_not_starts hfirst, ← ih hrest]
      | reference name =>
          obtain ⟨rfl, hname, hrest⟩ := isCut_reference_iff.mp h
          rw [pieces_of_starts hname, ← ih hrest]

theorem isCut_iff_eq_pieces : IsCut s ps ↔ ps = pieces s := by
  constructor
  · exact IsCut.eq_pieces
  · rintro rfl
    exact isCut_pieces s

/-! ### What is written -/

/-- The pieces with each variable that is set put in, from left to right. -/
inductive Replaces (lookup : String → Option String) : List Piece → List Char → Prop
  | nil : Replaces lookup [] []
  | char {c : Char} {ps : List Piece} {out : List Char} (hrest : Replaces lookup ps out) :
      Replaces lookup (.char c :: ps) (c :: out)
  | set {name : List Char} {value : String} {ps : List Piece} {out : List Char}
      (hset : lookup (String.ofList name) = some value) (hrest : Replaces lookup ps out) :
      Replaces lookup (.reference name :: ps) (value.toList ++ out)
  | unset {name : List Char} {ps : List Piece} {out : List Char}
      (hunset : lookup (String.ofList name) = none) (hrest : Replaces lookup ps out) :
      Replaces lookup (.reference name :: ps) ('$' :: '\x7b' :: (name ++ '\x7d' :: out))

def expandAll (lookup : String → Option String) (ps : List Piece) : List Char :=
  ps.flatMap (·.expand lookup)

@[simp] theorem expandAll_char (c : Char) (ps : List Piece) :
    expandAll lookup (.char c :: ps) = c :: expandAll lookup ps := rfl

theorem expandAll_of_set {value : String} (h : lookup (String.ofList name) = some value) :
    expandAll lookup (.reference name :: ps) = value.toList ++ expandAll lookup ps := by
  simp [expandAll, Piece.expand, h]

theorem expandAll_of_unset (h : lookup (String.ofList name) = none) :
    expandAll lookup (.reference name :: ps) =
      '$' :: '\x7b' :: (name ++ '\x7d' :: expandAll lookup ps) := by
  simp [expandAll, Piece.expand, Piece.source, h]

theorem toList_substitute (h : IsCut text.toList ps) :
    (substitute lookup text).toList = expandAll lookup ps := by
  rw [h.eq_pieces, substitute, String.toList_ofList, expandAll]

theorem replaces_expandAll (lookup : String → Option String) (ps : List Piece) :
    Replaces lookup ps (expandAll lookup ps) := by
  induction ps with
  | nil => exact .nil
  | cons p ps ih =>
      cases p with
      | char c => exact .char ih
      | reference name =>
          cases hname : lookup (String.ofList name) with
          | some value =>
              rw [expandAll_of_set hname]
              exact .set hname ih
          | none =>
              rw [expandAll_of_unset hname]
              exact .unset hname ih

theorem Replaces.eq_expandAll {out : List Char} (h : Replaces lookup ps out) :
    out = expandAll lookup ps := by
  induction h with
  | nil => rfl
  | char _ ih => rw [expandAll_char, ih]
  | set hset _ ih => rw [expandAll_of_set hset, ih]
  | unset hunset _ ih => rw [expandAll_of_unset hunset, ih]

theorem expandAll_congr
    (h : ∀ name, .reference name ∈ ps →
      lookup (String.ofList name) = lookup' (String.ofList name)) :
    expandAll lookup ps = expandAll lookup' ps := by
  induction ps with
  | nil => rfl
  | cons p ps ih =>
      have hrest := ih fun name hname => h name (List.mem_cons_of_mem _ hname)
      cases p with
      | char c => rw [expandAll_char, expandAll_char, hrest]
      | reference name =>
          have hname := h name List.mem_cons_self
          rw [expandAll, expandAll, List.flatMap_cons, List.flatMap_cons, Piece.expand,
            Piece.expand, hname]
          exact congrArg _ hrest

/-- Where nothing is set, nothing changes. -/
theorem expandAll_none (ps : List Piece) : expandAll (fun _ => none) ps = sourceOf ps := rfl

/-- A text is cut into characters and references in exactly one way, and the
substitution writes that cut with each variable that is set put in. So a
text is left as it is if no variable it refers to is set, and only the
variables it refers to matter. -/
theorem substitute_replaces_each_reference (text : String) :
    (∃! ps, IsCut text.toList ps) ∧
    ∀ ps, IsCut text.toList ps → ∀ lookup,
      (∀ out, Replaces lookup ps out ↔ out = (substitute lookup text).toList) ∧
      ((∀ name, .reference name ∈ ps → lookup (String.ofList name) = none) →
        substitute lookup text = text) ∧
      ∀ lookup', (∀ name, .reference name ∈ ps →
          lookup (String.ofList name) = lookup' (String.ofList name)) →
        substitute lookup text = substitute lookup' text := by
  refine ⟨by simp only [isCut_iff_eq_pieces, existsUnique_eq], ?_⟩
  intro ps hcut lookup
  refine ⟨fun out => ?_, fun hunset => ?_, fun lookup' hagree => ?_⟩
  · rw [toList_substitute hcut]
    constructor
    · exact Replaces.eq_expandAll
    · rintro rfl
      exact replaces_expandAll lookup ps
  · have hsame : expandAll lookup ps = expandAll (fun _ => none) ps := expandAll_congr hunset
    apply String.toList_injective
    rw [toList_substitute hcut, hsame, expandAll_none, hcut.source]
  · apply String.toList_injective
    rw [toList_substitute hcut, toList_substitute hcut, expandAll_congr hagree]

/-- A reference, one whose name looks like the start of a reference, and an
opening and a closing brace with no name between them. -/
def tangled : String := "$\x7bA\x7d$\x7b$\x7bA\x7d$\x7b\x7d"

def onlyA (value : String) (name : String) : Option String :=
  if name = "A" then some value else none

theorem pieces_tangled : pieces tangled.toList =
    [.reference ['A'], .reference ['$', '\x7b', 'A'], .char '$', .char '\x7b', .char '\x7d'] := by
  decide +kernel

/-- The value ends in a dollar sign right before a reference, and neither is
read again. -/
theorem tangled_replaced :
    ∃ ps, IsCut tangled.toList ps ∧
      Replaces (onlyA "x$") ps (substitute (onlyA "x$") tangled).toList ∧
      substitute (onlyA "x$") tangled = "x$$\x7b$\x7bA\x7d$\x7b\x7d" ∧
      substitute (fun _ => none) tangled = tangled ∧
      substitute (onlyA "x$") tangled =
        substitute (fun name => if name = "B" then some "y" else onlyA "x$" name) tangled := by
  have hcut := isCut_pieces tangled.toList
  obtain ⟨-, hpasses⟩ := substitute_replaces_each_reference tangled
  obtain ⟨hreplaces, -, hagree⟩ := hpasses _ hcut (onlyA "x$")
  obtain ⟨-, hunset, -⟩ := hpasses _ hcut fun _ => none
  refine ⟨_, hcut, (hreplaces _).mpr rfl, by decide +kernel, hunset fun _ _ => rfl, hagree _ ?_⟩
  intro name hname
  rw [pieces_tangled] at hname
  have hcases : name = ['A'] ∨ name = ['$', '\x7b', 'A'] := by simpa using hname
  rcases hcases with rfl | rfl <;> decide

/-! ### A second pass -/

/-- Every value has characters, and none of them is a dollar sign or a
brace. -/
def HasPlainValues (lookup : String → Option String) : Prop :=
  ∀ name value, lookup name = some value →
    value ≠ "" ∧ '$' ∉ value.toList ∧ '\x7b' ∉ value.toList ∧ '\x7d' ∉ value.toList

/-- What a second pass finds where the first has written a piece. -/
def Piece.settled (lookup : String → Option String) : Piece → List Piece
  | char c => [.char c]
  | reference name =>
      match lookup (String.ofList name) with
      | some value => value.toList.map .char
      | none => [.reference name]

def settleAll (lookup : String → Option String) (ps : List Piece) : List Piece :=
  ps.flatMap (·.settled lookup)

theorem settleAll_char (c : Char) (ps : List Piece) :
    settleAll lookup (.char c :: ps) = .char c :: settleAll lookup ps := rfl

theorem settleAll_of_set {value : String} (h : lookup (String.ofList name) = some value) :
    settleAll lookup (.reference name :: ps) =
      value.toList.map .char ++ settleAll lookup ps := by
  simp [settleAll, Piece.settled, h]

theorem settleAll_of_unset (h : lookup (String.ofList name) = none) :
    settleAll lookup (.reference name :: ps) = .reference name :: settleAll lookup ps := by
  simp [settleAll, Piece.settled, h]

theorem sourceOf_chars (s : List Char) (ps : List Piece) :
    sourceOf (s.map .char ++ ps) = s ++ sourceOf ps := by
  induction s with
  | nil => rfl
  | cons c s ih => rw [List.map_cons, List.cons_append, sourceOf_char, ih, List.cons_append]

theorem expandAll_chars (s : List Char) (ps : List Piece) :
    expandAll lookup (s.map .char ++ ps) = s ++ expandAll lookup ps := by
  induction s with
  | nil => rfl
  | cons c s ih => rw [List.map_cons, List.cons_append, expandAll_char, ih, List.cons_append]

theorem sourceOf_settleAll (lookup : String → Option String) (ps : List Piece) :
    sourceOf (settleAll lookup ps) = expandAll lookup ps := by
  induction ps with
  | nil => rfl
  | cons p ps ih =>
      cases p with
      | char c => rw [settleAll_char, sourceOf_char, expandAll_char, ih]
      | reference name =>
          cases hname : lookup (String.ofList name) with
          | some value => rw [settleAll_of_set hname, sourceOf_chars, expandAll_of_set hname, ih]
          | none => rw [settleAll_of_unset hname, sourceOf_reference, expandAll_of_unset hname, ih]

/-- A second pass changes nothing in what it finds. -/
theorem expandAll_settleAll (lookup : String → Option String) (ps : List Piece) :
    expandAll lookup (settleAll lookup ps) = expandAll lookup ps := by
  induction ps with
  | nil => rfl
  | cons p ps ih =>
      cases p with
      | char c => rw [settleAll_char, expandAll_char, expandAll_char, ih]
      | reference name =>
          cases hname : lookup (String.ofList name) with
          | some value => rw [settleAll_of_set hname, expandAll_chars, expandAll_of_set hname, ih]
          | none =>
              rw [settleAll_of_unset hname, expandAll_of_unset hname, expandAll_of_unset hname, ih]

/-- After an opening, a reference needs a closing brace somewhere, and not at
once. -/
theorem startsReference_open_iff :
    StartsReference ('$' :: '\x7b' :: s) ↔ '\x7d' ∈ s ∧ s.head? ≠ some '\x7d' := by
  constructor
  · rintro ⟨name, rest, ⟨hne, hclose⟩, heq⟩
    obtain rfl : s = name ++ '\x7d' :: rest := by simpa using heq
    refine ⟨by simp, ?_⟩
    obtain ⟨first, later, rfl⟩ := List.exists_cons_of_ne_nil hne
    rintro hhead
    obtain rfl : first = '\x7d' := by simpa using hhead
    exact hclose List.mem_cons_self
  · rintro ⟨hclosed, hhead⟩
    obtain ⟨name, rest, rfl, hclose⟩ := List.eq_append_cons_of_mem hclosed
    refine ⟨name, rest, ⟨?_, hclose⟩, rfl⟩
    rintro rfl
    exact hhead rfl

theorem mem_sourceOf_of_mem_expandAll (h : '\x7d' ∈ expandAll lookup ps) :
    '\x7d' ∈ sourceOf ps := by
  obtain ⟨p, hp, hmem⟩ := List.mem_flatMap.mp h
  refine List.mem_flatMap.mpr ⟨p, hp, ?_⟩
  cases p with
  | char c => exact hmem
  | reference name => simp [Piece.source]

theorem head?_expandAll_of_sourceOf (h : (sourceOf ps).head? = some '\x7d') :
    (expandAll lookup ps).head? = some '\x7d' := by
  cases ps with
  | nil => cases h
  | cons p ps =>
      cases p with
      | char c => exact h
      | reference name => simp at h

/-- Putting values in makes no reference out of a dollar sign that started
none. -/
theorem startsReference_of_expandAll (hplain : HasPlainValues lookup)
    (h : StartsReference (c :: expandAll lookup ps)) : StartsReference (c :: sourceOf ps) := by
  obtain ⟨inner, hdollar, hopen⟩ : ∃ inner, c = '$' ∧ expandAll lookup ps = '\x7b' :: inner := by
    obtain ⟨name, rest, -, heq⟩ := h
    exact ⟨_, List.cons.inj heq⟩
  subst hdollar
  -- what stands after the dollar sign is an opening brace, so it was one before
  cases ps with
  | nil => cases hopen
  | cons p ps =>
      cases p with
      | char d =>
          obtain ⟨rfl, -⟩ := List.cons.inj hopen
          rw [expandAll_char, startsReference_open_iff] at h
          rw [sourceOf_char, startsReference_open_iff]
          exact ⟨mem_sourceOf_of_mem_expandAll h.1, fun hhead =>
            h.2 (head?_expandAll_of_sourceOf hhead)⟩
      | reference name =>
          cases hname : lookup (String.ofList name) with
          | none =>
              rw [expandAll_of_unset hname] at hopen
              simp at hopen
          | some value =>
              obtain ⟨hne, -, hbrace, -⟩ := hplain _ value hname
              obtain ⟨first, later, hvalue⟩ :=
                List.exists_cons_of_ne_nil (l := value.toList) (by simpa using hne)
              rw [expandAll_of_set hname, hvalue] at hopen
              obtain ⟨rfl, -⟩ := List.cons.inj hopen
              rw [hvalue] at hbrace
              exact absurd List.mem_cons_self hbrace

theorem IsCut.chars_append {value : List Char} (h : IsCut s ps) (hvalue : '$' ∉ value) :
    IsCut (value ++ s) (value.map .char ++ ps) := by
  induction value with
  | nil => exact h
  | cons c value ih =>
      rw [List.mem_cons, not_or] at hvalue
      have hrest := ih hvalue.2
      rw [List.map_cons, List.cons_append, List.cons_append, isCut_char_iff, hrest.source]
      refine ⟨rfl, ?_, hrest⟩
      rintro ⟨name, rest, -, heq⟩
      exact hvalue.1 (List.cons.inj heq).1.symm

/-- With plain values, the cut of the result is the cut of the text with the
values taken apart into characters. -/
theorem isCut_settled (hplain : HasPlainValues lookup) (h : IsCut s ps) :
    IsCut (expandAll lookup ps) (settleAll lookup ps) := by
  induction ps generalizing s with
  | nil => exact isCut_nil
  | cons p ps ih =>
      cases p with
      | char c =>
          obtain ⟨-, hfirst, hrest⟩ := isCut_char_iff.mp h
          rw [settleAll_char, isCut_char_iff, sourceOf_settleAll]
          exact ⟨rfl, fun hstart => hfirst (startsReference_of_expandAll hplain hstart), ih hrest⟩
      | reference name =>
          obtain ⟨-, hname, hrest⟩ := isCut_reference_iff.mp h
          cases hlookup : lookup (String.ofList name) with
          | some value =>
              rw [expandAll_of_set hlookup, settleAll_of_set hlookup]
              exact (ih hrest).chars_append (hplain _ value hlookup).2.1
          | none =>
              rw [expandAll_of_unset hlookup, settleAll_of_unset hlookup, isCut_reference_iff,
                sourceOf_settleAll]
              exact ⟨rfl, hname, ih hrest⟩

/-- With plain values a second substitution changes nothing. -/
theorem substitute_substitute (hplain : HasPlainValues lookup) (text : String) :
    substitute lookup (substitute lookup text) = substitute lookup text := by
  have hcut := isCut_pieces text.toList
  have hagain : IsCut (substitute lookup text).toList (settleAll lookup (pieces text.toList)) := by
    rw [toList_substitute hcut]
    exact isCut_settled hplain hcut
  apply String.toList_injective
  rw [toList_substitute hagain, toList_substitute hcut, expandAll_settleAll]

theorem tangled_settles : HasPlainValues (onlyA "car") ∧
    substitute (onlyA "car") tangled = "car$\x7b$\x7bA\x7d$\x7b\x7d" ∧
    substitute (onlyA "car") (substitute (onlyA "car") tangled) =
      substitute (onlyA "car") tangled := by
  have hplain : HasPlainValues (onlyA "car") := by
    intro name value hvalue
    obtain ⟨-, rfl⟩ : name = "A" ∧ "car" = value := by simpa [onlyA] using hvalue
    decide
  exact ⟨hplain, by decide +kernel, substitute_substitute hplain tangled⟩

end DeclSchema.Settings
