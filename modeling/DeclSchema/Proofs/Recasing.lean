import DeclSchema.Proofs.Checks
import DeclSchema.Proofs.Spellings

/-!
Camel case as one pass over a text.

A name is cut into words and the words are joined again, but nothing moves
on the way: each letter or digit stays where it is among the others and at
most changes its case. `recase` is that pass. A character that starts a
word is written in upper case and every other one in lower case, and
whether it starts one is seen from its two neighbours. The camel-case
spelling is the first letter or digit of the text in lower case and the
pass over the rest (`camelChars_cases`).

Two kinds of facts follow. The pass loses nothing but the characters that
belong to no word, so a spelling tells apart all names that differ in more
than case and punctuation. And a second pass sees a text without gaps in
which no lower-case letter follows a digit. There it only takes capitals
away, and from then on every capital that is left starts a word again, so a
third pass changes nothing.
-/

namespace DeclSchema.Name

open Text

variable {c p q : Char} {s t rest current : List Char} {prev next : Option Char}

/-! ### Steps of the walk through a text -/

theorem wordsFrom_nil_cons (hc : c.isAlphanum) : wordsFrom [] (c :: rest) = wordsFrom [c] rest := by
  rw [wordsFrom, if_neg (by simpa using hc)]
  rfl

theorem wordsFrom_cons_of_gap (hc : c.isAlphanum = false) :
    wordsFrom current (c :: rest) = wordsFrom current [] ++ wordsFrom [] rest := by
  cases current <;> simp [wordsFrom, hc]

theorem wordsFrom_cons_of_startsWord (hc : c.isAlphanum) (hlast : current.getLast? = some p)
    (hstart : startsWord p c rest.head? = true) :
    wordsFrom current (c :: rest) = current :: wordsFrom [c] rest := by
  rw [wordsFrom, if_neg (by simpa using hc)]
  simp [hlast, hstart]

theorem wordsFrom_cons_of_not_startsWord (hc : c.isAlphanum) (hlast : current.getLast? = some p)
    (hstart : startsWord p c rest.head? = false) :
    wordsFrom current (c :: rest) = wordsFrom (current ++ [c]) rest := by
  rw [wordsFrom, if_neg (by simpa using hc)]
  simp [hlast, hstart]

/-! ### The pass -/

/-- A letter or digit between its neighbours: in upper case if it starts a
word, as it does without a neighbour before it. -/
def recaseChar (prev : Option Char) (c : Char) (next : Option Char) : Char :=
  if prev.all (startsWord · c next) then c.toUpper else c.toLower

theorem recaseChar_none : recaseChar none c next = c.toUpper := rfl

theorem recaseChar_of_startsWord (h : startsWord p c next = true) :
    recaseChar (some p) c next = c.toUpper := by
  simp [recaseChar, h]

theorem recaseChar_of_not_startsWord (h : startsWord p c next = false) :
    recaseChar (some p) c next = c.toLower := by
  simp [recaseChar, h]

@[simp] theorem toLower_recaseChar : (recaseChar prev c next).toLower = c.toLower := by
  rw [recaseChar]
  split <;> simp

/-- The letters and digits of a text, each recased. `prev` is the character
right before the text if it belongs to a word. -/
def recase (prev : Option Char) : List Char → List Char
  | [] => []
  | c :: rest =>
      if c.isAlphanum then recaseChar prev c rest.head? :: recase (some c) rest
      else recase none rest

theorem recase_cons_of_isAlphanum (h : c.isAlphanum) :
    recase prev (c :: rest) = recaseChar prev c rest.head? :: recase (some c) rest := by
  rw [recase, if_pos h]

theorem recase_cons_of_gap (h : c.isAlphanum = false) :
    recase prev (c :: rest) = recase none rest := by
  rw [recase, if_neg (by simp [h])]

/-! ### The pass spells the words -/

theorem capitalChars_cons (h : c.isAlphanum) : capitalChars (c :: rest) = c.toUpper :: rest := by
  rw [capitalChars, upper_of_ascii (toNat_lt_of_isAlphanum h), List.singleton_append]

theorem capitalChars_append (h : s ≠ []) : capitalChars (s ++ t) = capitalChars s ++ t := by
  obtain ⟨first, more, rfl⟩ := List.exists_cons_of_ne_nil h
  simp [capitalChars]

/-- A word after the first one, as it is written. -/
def capitalWord (w : List Char) : List Char :=
  capitalChars (w.map Char.toLower)

theorem capitalWord_nil : capitalWord [] = [] := rfl

theorem capitalWord_singleton (h : c.isAlphanum) : capitalWord [c] = [c.toUpper] := by
  rw [capitalWord, List.map_singleton, capitalChars_cons (isAlphanum_toLower h),
    Char.toUpper_toLower_eq_toUpper]

theorem capitalWord_concat (h : current ≠ []) :
    capitalWord (current ++ [c]) = capitalWord current ++ [c.toLower] := by
  rw [capitalWord, List.map_append, capitalChars_append (by simpa using h)]
  rfl

/-- Words that come after the first one. The pass goes on from the last
character of the word that the walk is in. -/
theorem flatMap_capitalWord_wordsFrom (current s : List Char) :
    (wordsFrom current s).flatMap capitalWord =
      capitalWord current ++ recase current.getLast? s := by
  induction s generalizing current with
  | nil => cases current <;> simp [wordsFrom, recase, capitalWord_nil]
  | cons c rest ih =>
      by_cases hc : c.isAlphanum
      · rw [recase_cons_of_isAlphanum hc]
        cases hlast : current.getLast? with
        | none =>
            obtain rfl := List.getLast?_eq_none_iff.mp hlast
            rw [wordsFrom_nil_cons hc, ih, capitalWord_singleton hc, recaseChar_none]
            rfl
        | some last =>
            have hne : current ≠ [] := by
              rintro rfl
              cases hlast
            cases hstart : startsWord last c rest.head? with
            | true =>
                rw [wordsFrom_cons_of_startsWord hc hlast hstart, recaseChar_of_startsWord hstart,
                  List.flatMap_cons, ih, capitalWord_singleton hc]
                rfl
            | false =>
                rw [wordsFrom_cons_of_not_startsWord hc hlast hstart,
                  recaseChar_of_not_startsWord hstart, ih, capitalWord_concat hne]
                simp
      · rw [Bool.not_eq_true] at hc
        rw [wordsFrom_cons_of_gap hc, recase_cons_of_gap hc, List.flatMap_append, ih]
        cases current <;> simp [wordsFrom, capitalWord_nil]

theorem joinCamel_wordsFrom (h : current ≠ []) :
    joinCamel (wordsFrom current s) = current.map Char.toLower ++ recase current.getLast? s := by
  have hjoin (w : List Char) (later : List (List Char)) :
      joinCamel (w :: later) = w.map Char.toLower ++ later.flatMap capitalWord := rfl
  induction s generalizing current with
  | nil => rw [wordsFrom_nil h, hjoin, recase, List.flatMap_nil]
  | cons c rest ih =>
      by_cases hc : c.isAlphanum
      · have hlast := List.getLast?_eq_some_getLast h
        rw [recase_cons_of_isAlphanum hc, hlast]
        cases hstart : startsWord (current.getLast h) c rest.head? with
        | true =>
            rw [wordsFrom_cons_of_startsWord hc hlast hstart, recaseChar_of_startsWord hstart,
              hjoin, flatMap_capitalWord_wordsFrom, capitalWord_singleton hc]
            rfl
        | false =>
            rw [wordsFrom_cons_of_not_startsWord hc hlast hstart,
              recaseChar_of_not_startsWord hstart, ih (by simp)]
            simp
      · rw [Bool.not_eq_true] at hc
        rw [wordsFrom_cons_of_gap hc, recase_cons_of_gap hc, wordsFrom_nil h,
          List.singleton_append, hjoin, flatMap_capitalWord_wordsFrom]
        rfl

theorem camelChars_cons (h : c.isAlphanum) :
    camelChars (c :: rest) = c.toLower :: recase (some c) rest := by
  rw [camelChars, words, wordsFrom_nil_cons h, joinCamel_wordsFrom (by simp)]
  rfl

theorem camelChars_gap_append {gap : List Char} (h : ∀ c ∈ gap, c.isAlphanum = false) :
    camelChars (gap ++ s) = camelChars s := by
  induction gap with
  | nil => rfl
  | cons c gap ih =>
      rw [List.forall_mem_cons] at h
      rw [List.cons_append, camelChars, words, wordsFrom_cons_of_gap h.1]
      exact ih h.2

/-- A text without letters and digits has nothing to spell. Any other is
spelled from its first letter or digit on. -/
theorem camelChars_cases (s : List Char) :
    (s.find? Char.isAlphanum = none ∧ camelChars s = []) ∨
    ∃ gap c rest, s = gap ++ c :: rest ∧ (∀ d ∈ gap, d.isAlphanum = false) ∧ c.isAlphanum ∧
      s.find? Char.isAlphanum = some c ∧ camelChars s = c.toLower :: recase (some c) rest := by
  cases hfind : s.find? Char.isAlphanum with
  | none =>
      refine .inl ⟨rfl, ?_⟩
      have hgap : ∀ c ∈ s, c.isAlphanum = false := by simpa using hfind
      rw [← List.append_nil s, camelChars_gap_append hgap]
      rfl
  | some c =>
      obtain ⟨hc, gap, rest, rfl, hgap⟩ := List.find?_eq_some_iff_append.mp hfind
      have hgap : ∀ d ∈ gap, d.isAlphanum = false := by simpa using hgap
      refine .inr ⟨gap, c, rest, rfl, hgap, hc, rfl, ?_⟩
      rw [camelChars_gap_append hgap, camelChars_cons hc]

/-! ### What it keeps -/

/-- The letters and digits of a text in lower case, which is what all
spellings of one name have in common. -/
def skeleton (s : String) : List Char :=
  (s.toList.filter Char.isAlphanum).map Char.toLower

theorem map_toLower_recase (prev : Option Char) (s : List Char) :
    (recase prev s).map Char.toLower = (s.filter Char.isAlphanum).map Char.toLower := by
  induction s generalizing prev with
  | nil => rfl
  | cons c rest ih =>
      by_cases hc : c.isAlphanum
      · rw [recase_cons_of_isAlphanum hc, List.filter_cons_of_pos hc, List.map_cons, List.map_cons,
          ih, toLower_recaseChar]
      · rw [recase_cons_of_gap (by simpa using hc), List.filter_cons_of_neg hc, ih]

theorem map_toLower_camelCase (s : String) :
    (camelCase s).toList.map Char.toLower = skeleton s := by
  rw [camelCase, String.toList_ofList, skeleton]
  rcases camelChars_cases s.toList with ⟨hfind, hcamel⟩ | ⟨gap, c, rest, hs, hgap, hc, -, hcamel⟩
  · have hnone : s.toList.filter Char.isAlphanum = [] := by
      rw [List.filter_eq_nil_iff]
      exact List.find?_eq_none.mp hfind
    rw [hcamel, hnone]
  · have hskip : gap.filter Char.isAlphanum = [] := by
      rw [List.filter_eq_nil_iff]
      simpa using hgap
    rw [hcamel, hs, List.filter_append, hskip, List.filter_cons_of_pos hc, List.nil_append,
      List.map_cons, List.map_cons, map_toLower_recase, Char.toLower_toLower_eq_toLower]

theorem IsKey.isAlphanum (h : IsKey s) : ∀ c ∈ s, c.isAlphanum := by
  rcases h with rfl | ⟨first, rest, rfl, hfirst, hrest⟩
  · simp
  · exact List.forall_mem_cons.mpr ⟨isAlphanum_of_isLower_or_isDigit hfirst, hrest⟩

/-! ### Titles -/

theorem toList_title (s : String) : (title s).toList = capitalChars (camelChars s.toList) := by
  rw [title, upperFirst, camelCase, String.toList_ofList, String.toList_ofList]

theorem map_toLower_title (s : String) : (title s).toList.map Char.toLower = skeleton s := by
  rw [← map_toLower_camelCase, title, upperFirst, String.toList_ofList]
  rcases isKey_camelCase s with hnil | ⟨first, rest, hcons, hfirst, -⟩
  · rw [hnil, capitalChars]
  · rw [hcons, capitalChars_cons (isAlphanum_of_isLower_or_isDigit hfirst), List.map_cons,
      List.map_cons, Char.toLower_toUpper_eq_toLower]

theorem isAlpha_or_eq_underscore_toUpper_iff (h : c.isAlphanum) :
    (c.toUpper.isAlpha ∨ c.toUpper = '_') ↔ c.isAlpha := by
  have hne : c.toUpper ≠ '_' := by
    intro heq
    have hupper := isAlphanum_toUpper h
    rw [heq] at hupper
    exact absurd hupper (by decide)
  simp [hne]

/-- A title is an identifier unless there is nothing to spell or the spelling
starts with a digit. -/
theorem isIdentifier_title_iff (s : String) :
    Check.IsIdentifier (title s) ↔ ∃ c, s.toList.find? Char.isAlphanum = some c ∧ c.isAlpha := by
  have hkey := isKey_camelCase s
  rw [camelCase, String.toList_ofList] at hkey
  rw [Check.IsIdentifier, toList_title]
  rcases camelChars_cases s.toList with ⟨hfind, hcamel⟩ | ⟨gap, c, rest, -, -, hc, hfind, hcamel⟩
  · rw [hcamel, hfind]
    simp [capitalChars]
  · have hrest : ∀ d ∈ recase (some c) rest, d.isAlphanum ∨ d = '_' := by
      intro d hd
      exact .inl (hkey.isAlphanum d (hcamel ▸ List.mem_cons_of_mem _ hd))
    rw [hcamel, hfind, capitalChars_cons (isAlphanum_toLower hc), Char.toUpper_toLower_eq_toUpper]
    constructor
    · rintro ⟨first, tail, heq, hfirst, -⟩
      obtain ⟨rfl, rfl⟩ := List.cons.inj heq
      exact ⟨c, rfl, (isAlpha_or_eq_underscore_toUpper_iff hc).mp hfirst⟩
    · rintro ⟨d, heq, hd⟩
      cases heq
      exact ⟨_, _, rfl, (isAlpha_or_eq_underscore_toUpper_iff hc).mpr hd, hrest⟩

/-- Camel case changes nothing about the letters and digits of a name but
their case, so names that differ in more than that differ in spelling and
title. A title passes as an identifier exactly if the first letter or digit
of the name is a letter. -/
theorem camelCase_changes_only_case (s : String) :
    (camelCase s).toList.map Char.toLower = skeleton s ∧
    IsKey (camelCase s).toList ∧
    (∀ s', skeleton s ≠ skeleton s' → camelCase s ≠ camelCase s' ∧ title s ≠ title s') ∧
    ∀ field, Check.identifier field (title s) = .ok () ↔
      ∃ c, s.toList.find? Char.isAlphanum = some c ∧ c.isAlpha := by
  refine ⟨map_toLower_camelCase s, isKey_camelCase s, fun s' hne => ⟨?_, ?_⟩, fun field => ?_⟩
  · intro heq
    exact hne (by rw [← map_toLower_camelCase, heq, map_toLower_camelCase])
  · intro heq
    exact hne (by rw [← map_toLower_title, heq, map_toLower_title])
  · rw [Check.identifier_eq_ok_iff, isIdentifier_title_iff]

/-- The sign for a diameter is no letter of a name, and the name without it
starts with a digit. -/
theorem diameter_changes_only_case :
    camelCase "⌀2_Front" = "2Front" ∧ title "⌀2_Front" ≠ title "front2" ∧
      Check.identifier "schema.root" (title "⌀2_Front") ≠ .ok () ∧
      Check.identifier "schema.root" (title "front2") = .ok () := by
  obtain ⟨-, -, hdiffer, hidentifier⟩ := camelCase_changes_only_case "⌀2_Front"
  obtain ⟨-, -, -, hfront⟩ := camelCase_changes_only_case "front2"
  refine ⟨by decide +kernel, (hdiffer "front2" (by decide +kernel)).2, ?_, ?_⟩
  · rw [Ne, hidentifier]
    rintro ⟨c, hfind, hc⟩
    have htwo : "⌀2_Front".toList.find? Char.isAlphanum = some '2' := by decide +kernel
    rw [htwo, Option.some.injEq] at hfind
    subst hfind
    exact absurd hc (by decide)
  · exact (hfront _).mpr ⟨'f', by decide +kernel, by decide⟩

/-! ### The second pass -/

/-- No lower-case letter stands right after a digit. -/
def DigitsEndWords (s : List Char) : Prop :=
  s.IsChain fun a b => ¬(a.isDigit ∧ b.isLower)

theorem startsWord_of_digit (hp : p.isDigit) (hc : c.isAlpha) : startsWord p c next = true := by
  rcases (Bool.or_eq_true _ _).mp hc with hc | hc <;> simp [startsWord, hp, hc]

theorem isDigit_toLower (c : Char) : c.toLower.isDigit = c.isDigit := by
  by_cases hc : c.isUpper
  · have hlower : c.toLower.isAlpha := by simp [Char.isAlpha, hc]
    rw [not_isDigit_of_isAlpha hlower, not_isDigit_of_isAlpha (by simp [Char.isAlpha, hc])]
  · rw [Char.toLower_eq_of_not_isUpper hc]

theorem isDigit_recaseChar : (recaseChar prev c next).isDigit = c.isDigit := by
  rw [← isDigit_toLower, toLower_recaseChar, isDigit_toLower]

/-- A letter after a digit starts a word, so the pass writes it in upper
case. `q` is what it has written last. -/
theorem digitsEndWords_recase (h : ∀ p ∈ prev, q.isDigit → p.isDigit) :
    DigitsEndWords (q :: recase prev s) := by
  induction s generalizing prev q with
  | nil => simp [DigitsEndWords, recase]
  | cons c rest ih =>
      by_cases hc : c.isAlphanum
      · rw [recase_cons_of_isAlphanum hc, DigitsEndWords, List.isChain_cons_cons]
        refine ⟨?_, ih ?_⟩
        · rintro ⟨hdigit, hlower⟩
          cases prev with
          | none => simp [recaseChar_none] at hlower
          | some p =>
              have hletter : c.isAlpha := by
                rw [← Char.isAlpha_toLower_eq_isAlpha, ← toLower_recaseChar,
                  Char.isAlpha_toLower_eq_isAlpha, Char.isAlpha, hlower, Bool.or_true]
              rw [recaseChar_of_startsWord (startsWord_of_digit (h p rfl hdigit) hletter)] at hlower
              simp at hlower
        · rintro p hp hdigit
          cases hp
          rwa [isDigit_recaseChar] at hdigit
      · rw [recase_cons_of_gap (by simpa using hc)]
        exact ih (by simp)

theorem digitsEndWords_camelChars (s : List Char) : DigitsEndWords (camelChars s) := by
  rcases camelChars_cases s with ⟨-, hcamel⟩ | ⟨gap, c, rest, -, -, -, -, hcamel⟩
  · simp [hcamel, DigitsEndWords]
  · rw [hcamel]
    apply digitsEndWords_recase
    rintro p hp hdigit
    cases hp
    rwa [isDigit_toLower] at hdigit

/-- In such a text only a capital starts a word. -/
theorem isUpper_of_startsWord (h : startsWord p c next = true) (hdigit : ¬(p.isDigit ∧ c.isLower)) :
    c.isUpper := by
  rcases (Bool.or_eq_true _ _).mp h with h | h
  · rw [Bool.and_eq_true] at h
    exact absurd h.symm hdigit
  · exact ((Bool.and_eq_true _ _).mp h).1

theorem toUpper_of_isUpper (h : c.isUpper) : c.toUpper = c :=
  Char.toUpper_eq_of_not_isLower (Char.not_isLower_of_isUpper h)

theorem isLower_or_isDigit_of_not_isUpper (h : c.isAlphanum) (hupper : ¬c.isUpper) :
    c.isLower ∨ c.isDigit := by
  simpa [Char.isAlphanum, Char.isAlpha, hupper] using h

/-- `q` is `p`, or `p` without its capital. -/
def Lowers (p q : Char) : Prop :=
  q = p ∨ q = p.toLower

theorem Lowers.isAlphanum (h : Lowers p q) (hp : p.isAlphanum) : q.isAlphanum := by
  rcases h with rfl | rfl
  · exact hp
  · exact isAlphanum_toLower hp

theorem Lowers.isDigit_eq (h : Lowers p q) : q.isDigit = p.isDigit := by
  rcases h with rfl | rfl
  · rfl
  · exact isDigit_toLower p

theorem Lowers.eq_of_isUpper (h : Lowers p q) (hq : q.isUpper) : q = p := by
  rcases h with rfl | rfl
  · rfl
  · simp at hq

theorem lowers_recaseChar (h : ¬(p.isDigit ∧ c.isLower)) (next : Option Char) :
    Lowers c (recaseChar (some p) c next) := by
  cases hstart : startsWord p c next with
  | true =>
      left
      rw [recaseChar_of_startsWord hstart, toUpper_of_isUpper (isUpper_of_startsWord hstart h)]
  | false => exact .inr (recaseChar_of_not_startsWord hstart)

/-- A capital that starts a word does so again when the text around it has
lost capitals: if it stands after one that is left, a lower-case letter
follows it, and that one has not changed. -/
theorem startsWord_of_lowers (hq : Lowers p q) (hp : p.isAlphanum)
    (hdigit : ¬(p.isDigit ∧ c.isLower)) (hrest : ∀ d ∈ rest, d.isAlphanum)
    (h : startsWord p c rest.head? = true) :
    startsWord q c (recase (some c) rest).head? = true := by
  have hc : c.isUpper := isUpper_of_startsWord h hdigit
  by_cases hupper : q.isUpper
  -- after a capital the rule looks ahead, so here what follows matters
  · obtain rfl := hq.eq_of_isUpper hupper
    have hnot : q.isLower = false ∧ q.isDigit = false :=
      ⟨by simpa using Char.not_isLower_of_isUpper hupper,
        not_isDigit_of_isAlpha (by simp [Char.isAlpha, hupper])⟩
    have hnext : rest.head?.any Char.isLower = true := by
      simpa [startsWord, hc, hnot, hupper] using h
    cases rest with
    | nil => simp at hnext
    | cons d rest =>
        have hd : d.isLower := by simpa using hnext
        have hstay : startsWord c d rest.head? = false :=
          startsWord_of_isLower hd (by simp [Char.isAlpha, hc])
        rw [recase_cons_of_isAlphanum (hrest d List.mem_cons_self),
          recaseChar_of_not_startsWord hstay]
        simp [startsWord, hc, hupper, Char.isAlpha, hd]
  · exact startsWord_of_capital hc (isLower_or_isDigit_of_not_isUpper (hq.isAlphanum hp) hupper)

theorem not_startsWord_of_lowers (hq : Lowers p q) (h : startsWord p c next = false)
    (next' : Option Char) : startsWord q c.toLower next' = false := by
  by_contra hstart
  rw [Bool.not_eq_false] at hstart
  have hlower : c.toLower.isLower ∧ q.isDigit := by simpa [startsWord] using hstart
  have hp : p.isDigit := hq.isDigit_eq ▸ hlower.2
  have hc : c.isAlpha := by simpa using hlower.1
  rw [startsWord_of_digit hp hc] at h
  cases h

/-- One character of the pass after: it stays what the pass before has made
of it. -/
theorem recaseChar_recaseChar (hq : Lowers p q) (hp : p.isAlphanum)
    (hdigit : ¬(p.isDigit ∧ c.isLower)) (hrest : ∀ d ∈ rest, d.isAlphanum) :
    recaseChar (some q) (recaseChar (some p) c rest.head?) (recase (some c) rest).head? =
      recaseChar (some p) c rest.head? := by
  cases hstart : startsWord p c rest.head? with
  | true =>
      have hsame := toUpper_of_isUpper (isUpper_of_startsWord hstart hdigit)
      have hagain := startsWord_of_lowers hq hp hdigit hrest hstart
      rw [recaseChar_of_startsWord hstart, hsame, recaseChar_of_startsWord hagain, hsame]
  | false =>
      have hagain := not_startsWord_of_lowers hq hstart (recase (some c) rest).head?
      rw [recaseChar_of_not_startsWord hstart, recaseChar_of_not_startsWord hagain,
        Char.toLower_toLower_eq_toLower]

/-- A pass over a text in which digits end words leaves a text that the next
pass does not change. `p` stands before the text and `q` is what the first
pass has made of it. -/
theorem recase_recase (hq : Lowers p q) (halpha : ∀ c ∈ p :: rest, c.isAlphanum)
    (hdigits : DigitsEndWords (p :: rest)) :
    recase (some q) (recase (some p) rest) = recase (some p) rest := by
  induction rest generalizing p q with
  | nil => rfl
  | cons c rest ih =>
      obtain ⟨hp, hc, hrest⟩ : p.isAlphanum ∧ c.isAlphanum ∧ ∀ d ∈ rest, d.isAlphanum := by
        simpa using halpha
      rw [DigitsEndWords, List.isChain_cons_cons] at hdigits
      have hlowers := lowers_recaseChar hdigits.1 rest.head?
      rw [recase_cons_of_isAlphanum hc, recase_cons_of_isAlphanum (hlowers.isAlphanum hc),
        recaseChar_recaseChar hq hp hdigits.1 hrest,
        ih hlowers (List.forall_mem_cons.mpr ⟨hc, hrest⟩) hdigits.2]

/-- A pass changes nothing if no two capitals are neighbours either. -/
theorem recase_eq_self (halpha : ∀ c ∈ p :: rest, c.isAlphanum)
    (hdigits : DigitsEndWords (p :: rest))
    (hcapitals : (p :: rest).IsChain fun a b => ¬(a.isUpper ∧ b.isUpper)) :
    recase (some p) rest = rest := by
  induction rest generalizing p with
  | nil => rfl
  | cons c rest ih =>
      rw [List.forall_mem_cons] at halpha
      obtain ⟨hp, halpha⟩ := halpha
      rw [DigitsEndWords, List.isChain_cons_cons] at hdigits
      rw [List.isChain_cons_cons] at hcapitals
      have hsame : recaseChar (some p) c rest.head? = c := by
        by_cases hc : c.isUpper
        · have hends := isLower_or_isDigit_of_not_isUpper hp fun hp => hcapitals.1 ⟨hp, hc⟩
          rw [recaseChar_of_startsWord (startsWord_of_capital hc hends), toUpper_of_isUpper hc]
        · rcases lowers_recaseChar hdigits.1 rest.head? with heq | heq
          · exact heq
          · rw [heq, Char.toLower_eq_of_not_isUpper hc]
      rw [recase_cons_of_isAlphanum (halpha c List.mem_cons_self), hsame,
        ih halpha hdigits.2 hcapitals.2]

/-- Camel case of a camel-case spelling may still change it, if words of one
letter have left capitals side by side. It changes nothing in a spelling
without such capitals, and the second time it changes nothing at all. -/
theorem camelCase_settles (s : String) :
    camelCase (camelCase (camelCase s)) = camelCase (camelCase s) ∧
    ((camelCase s).toList.IsChain (fun a b => ¬(a.isUpper ∧ b.isUpper)) →
      camelCase (camelCase s) = camelCase s) := by
  have hkey := isKey_camelCase s
  have hdigits := digitsEndWords_camelChars s.toList
  simp only [camelCase, String.toList_ofList] at hkey ⊢
  rcases hkey with hnil | ⟨first, rest, hcons, hfirst, hrest⟩
  · rw [hnil]
    exact ⟨rfl, fun _ => rfl⟩
  · have halpha := isAlphanum_of_isLower_or_isDigit hfirst
    have hall : ∀ c ∈ first :: rest, c.isAlphanum := List.forall_mem_cons.mpr ⟨halpha, hrest⟩
    rw [hcons] at hdigits ⊢
    rw [camelChars_cons halpha]
    constructor
    · rw [camelChars_cons (isAlphanum_toLower halpha), Char.toLower_toLower_eq_toLower,
        recase_recase (.inr rfl) hall hdigits]
    · intro hcapitals
      have hstay : first.toLower = first := by
        apply Char.toLower_eq_of_not_isUpper
        rcases hfirst with hfirst | hfirst
        · exact Char.not_isUpper_of_isLower hfirst
        · simp [not_isAlpha_of_isDigit hfirst]
      rw [hstay, recase_eq_self hall hdigits hcapitals]

/-- The capitals of `x` and `y` are one word to the second pass. The one of
`b` is a word of its own each time, since the capital after it starts one. -/
theorem axes_settle :
    camelCase "a_x_y_1_b_zone" = "aXY1BZone" ∧ camelCase "aXY1BZone" = "aXy1BZone" ∧
      camelCase "aXy1BZone" = "aXy1BZone" ∧
      camelCase (camelCase "axle2_front") = camelCase "axle2_front" := by
  have hfirst : camelCase "a_x_y_1_b_zone" = "aXY1BZone" := by decide +kernel
  have hsecond : camelCase "aXY1BZone" = "aXy1BZone" := by decide +kernel
  obtain ⟨hsettled, -⟩ := camelCase_settles "a_x_y_1_b_zone"
  obtain ⟨-, hstays⟩ := camelCase_settles "axle2_front"
  rw [hfirst, hsecond] at hsettled
  exact ⟨hfirst, hsecond, hsettled, hstays (by decide +kernel)⟩

end DeclSchema.Name
