import DeclSchema.Proofs.CamelCase

/-!
One name in four spellings.

The words of a name can be told apart in two ways. `max_speed` and
`MAX_SPEED` put a character between them that belongs to no word;
`maxSpeed` and `MaxSpeed` let each word start with a capital. The walk
through a name treats both by one rule about neighbours, so what has to be
known of a word is where it ends in each of them. A run is `Unbroken` if
none of its characters starts a new word, given what stands before and
after it, and the walk goes through such a run without a stop
(`wordsFrom_append`). From there on the two ways part: words with a
character between them are given back by `words_intercalate`, words with
capitals by `words_flatten`.

A word here has at least two letters. With one letter it would not hold: in
`XYAxis` the capitals of two such words look like one word.
-/

namespace DeclSchema.Name

variable {c prev : Char} {run rest current w : List Char} {next : Option Char}

/-! ### Which characters start a word -/

theorem not_isDigit_of_isAlpha (h : c.isAlpha) : c.isDigit = false := by
  simp only [Char.isAlpha, Char.isUpper, Char.isLower, Char.isDigit, UInt32.le_iff_toNat_le,
    Char.toNat_val] at h ⊢
  grind

theorem not_isAlpha_of_isDigit (h : c.isDigit) : c.isUpper = false ∧ c.isLower = false := by
  rw [← Bool.or_eq_false_iff, ← Char.isAlpha]
  by_contra hc
  rw [not_isDigit_of_isAlpha (by simpa using hc)] at h
  cases h

theorem isUpper_toUpper (h : c.isLower) : c.toUpper.isUpper := by
  rw [Char.isUpper_toUpper_eq_isAlpha]
  simp [Char.isAlpha, h]

theorem startsWord_of_isDigit (h : c.isDigit) : startsWord prev c next = false := by
  simp [startsWord, not_isAlpha_of_isDigit h]

/-- A lower-case letter goes on with a word that has no digits yet. -/
theorem startsWord_of_isLower (h : c.isLower) (hprev : prev.isAlpha) :
    startsWord prev c next = false := by
  simp [startsWord, Char.not_isUpper_of_isLower h, not_isDigit_of_isAlpha hprev]

/-- So does an upper-case letter after another, unless a lower-case letter
follows. -/
theorem startsWord_of_isUpper (hprev : prev.isUpper) (hnext : next.any Char.isLower = false) :
    startsWord prev c next = false := by
  have hdigit : prev.isDigit = false := not_isDigit_of_isAlpha (by simp [Char.isAlpha, hprev])
  simp [startsWord, Char.not_isLower_of_isUpper hprev, hdigit, hnext]

/-- An upper-case letter starts a word after anything that can end one. -/
theorem startsWord_of_capital (h : c.isUpper) (hprev : prev.isLower ∨ prev.isDigit) :
    startsWord prev c next = true := by
  rcases hprev with hprev | hprev <;> simp [startsWord, h, hprev]

/-! ### Runs that the walk does not cut -/

/-- With `prev` before it and `next` after it, no character of the run starts
a word. -/
def Unbroken (prev : Char) : List Char → Option Char → Prop
  | [], _ => True
  | c :: run, next =>
      c.isAlphanum ∧ startsWord prev c (run.head?.or next) = false ∧ Unbroken c run next

/-- The walk takes such a run into the word that it is in. -/
theorem wordsFrom_append (h : Unbroken prev run rest.head?) (hprev : current.getLast? = some prev) :
    wordsFrom current (run ++ rest) = wordsFrom (current ++ run) rest := by
  induction run generalizing prev current with
  | nil => simp
  | cons c run ih =>
      obtain ⟨hc, hstart, hrun⟩ := h
      have hhead : (run ++ rest).head? = run.head?.or rest.head? := List.head?_append
      rw [List.cons_append, wordsFrom, if_neg (by simpa using hc)]
      simp only [hprev, hhead, hstart, Bool.false_eq_true, if_false]
      rw [ih hrun (by simp), List.append_assoc, List.singleton_append]

/-- The word is read as one if `next` follows it. -/
def ReadAsOne (next : Option Char) (w : List Char) : Prop :=
  ∃ first run, w = first :: run ∧ first.isAlphanum ∧ Unbroken first run next

theorem wordsFrom_of_readAsOne (h : ReadAsOne rest.head? w) :
    wordsFrom [] (w ++ rest) = wordsFrom w rest := by
  obtain ⟨first, run, rfl, hfirst, hrun⟩ := h
  rw [List.cons_append, wordsFrom, if_neg (by simpa using hfirst)]
  exact wordsFrom_append hrun rfl

theorem wordsFrom_nil (h : w ≠ []) : wordsFrom w [] = [w] := by
  simp [wordsFrom, h]

theorem ReadAsOne.ne_nil (h : ReadAsOne next w) : w ≠ [] := by
  obtain ⟨first, run, rfl, -⟩ := h
  simp

/-- Words with a character between them that belongs to no word. -/
theorem words_intercalate {sep : Char} (hsep : sep.isAlphanum = false) {ws : List (List Char)}
    (hlast : ∀ w ∈ ws, ReadAsOne none w) (hmiddle : ∀ w ∈ ws, ReadAsOne (some sep) w) :
    words ([sep].intercalate ws) = ws := by
  rw [words]
  induction ws with
  | nil => rfl
  | cons w ws ih =>
      rw [List.forall_mem_cons] at hlast hmiddle
      cases ws with
      | nil =>
          have hread : wordsFrom [] (w ++ []) = wordsFrom w [] := wordsFrom_of_readAsOne hlast.1
          rw [List.append_nil, wordsFrom_nil hlast.1.ne_nil] at hread
          simpa using hread
      | cons w' ws =>
          have hne : w.isEmpty = false := by simpa using hlast.1.ne_nil
          have hread (tail : List Char) :
              wordsFrom [] (w ++ sep :: tail) = wordsFrom w (sep :: tail) :=
            wordsFrom_of_readAsOne hmiddle.1
          rw [List.intercalate_cons_cons, List.append_assoc, List.singleton_append, hread,
            wordsFrom]
          simp [hsep, hne, ih hlast.2 hmiddle.2]

/-- A word as it stands in a row of words without anything between them: it
is read as one whatever follows, and the word after it can start with a
capital. -/
def IsHump (w : List Char) : Prop :=
  (∀ next, ReadAsOne next w) ∧ ∃ last, w.getLast? = some last ∧ (last.isLower ∨ last.isDigit)

/-- Words that start with a capital, after a first one that need not. -/
theorem words_flatten {ws : List (List Char)} (hw : IsHump w) (hws : ∀ v ∈ ws, IsHump v)
    (hcapital : ∀ v ∈ ws, ∃ first run, v = first :: run ∧ first.isUpper) :
    words (w ++ ws.flatten) = w :: ws := by
  rw [words, wordsFrom_of_readAsOne (hw.1 _)]
  induction ws generalizing w with
  | nil => exact wordsFrom_nil (hw.1 none).ne_nil
  | cons v ws ih =>
      rw [List.forall_mem_cons] at hws hcapital
      obtain ⟨first, run, rfl, hfirst⟩ := hcapital.1
      obtain ⟨last, hlast, hends⟩ := hw.2
      have hcut := ih hws.1 hws.2 hcapital.2
      -- the capital opens a new word, and what follows it is that word
      have halpha : first.isAlphanum := by simp [Char.isAlphanum, Char.isAlpha, hfirst]
      obtain ⟨first', run', hsplit, -, hunbroken⟩ := hws.1.1 ws.flatten.head?
      obtain ⟨rfl, rfl⟩ := List.cons.inj hsplit
      rw [List.flatten_cons, List.cons_append, wordsFrom, if_neg (by simpa using halpha)]
      simp only [hlast, startsWord_of_capital hfirst hends, if_true]
      rw [wordsFrom_append hunbroken rfl, List.singleton_append, hcut]

/-! ### Words of letters and digits -/

/-- A word of at least two lower-case letters, with digits after them or
not. -/
structure PlainWord where
  letters : List Char
  digits : List Char
  two_letters : 2 ≤ letters.length
  isLower_letters : ∀ c ∈ letters, c.isLower
  isDigit_digits : ∀ c ∈ digits, c.isDigit

theorem unbroken_digits {digits : List Char} (h : ∀ c ∈ digits, c.isDigit) :
    Unbroken prev digits next := by
  induction digits generalizing prev with
  | nil => trivial
  | cons c digits ih =>
      rw [List.forall_mem_cons] at h
      exact ⟨isAlphanum_of_isLower_or_isDigit (.inr h.1), startsWord_of_isDigit h.1, ih h.2⟩

/-- Lower-case letters and then digits, after a letter. -/
theorem unbroken_lower {letters digits : List Char} (hprev : prev.isAlpha)
    (hletters : ∀ c ∈ letters, c.isLower) (hdigits : ∀ c ∈ digits, c.isDigit) :
    Unbroken prev (letters ++ digits) next := by
  induction letters generalizing prev with
  | nil => exact unbroken_digits hdigits
  | cons c letters ih =>
      rw [List.forall_mem_cons] at hletters
      have hc : c.isAlpha := by simp [Char.isAlpha, hletters.1]
      exact ⟨isAlphanum_of_isLower_or_isDigit (.inl hletters.1),
        startsWord_of_isLower hletters.1 hprev, ih hc hletters.2⟩

/-- Upper-case letters and then digits, after an upper-case letter, if no
lower-case letter follows. -/
theorem unbroken_upper {letters digits : List Char} (hprev : prev.isUpper)
    (hletters : ∀ c ∈ letters, c.isUpper) (hdigits : ∀ c ∈ digits, c.isDigit)
    (hnext : next.any Char.isLower = false) : Unbroken prev (letters ++ digits) next := by
  induction letters generalizing prev with
  | nil => exact unbroken_digits hdigits
  | cons c letters ih =>
      rw [List.forall_mem_cons] at hletters
      rw [List.cons_append, Unbroken]
      refine ⟨by simp [Char.isAlphanum, Char.isAlpha, hletters.1], ?_, ih hletters.1 hletters.2⟩
      apply startsWord_of_isUpper hprev
      cases hrest : letters ++ digits with
      | nil => exact hnext
      | cons d rest =>
          have hd : d ∈ letters ++ digits := by simp [hrest]
          rcases List.mem_append.mp hd with hd | hd
          · simpa using Char.not_isLower_of_isUpper (hletters.2 d hd)
          · simpa using (not_isAlpha_of_isDigit (hdigits d hd)).2

/-- The word with its first letter in upper case. -/
def capitalized : List Char → List Char
  | [] => []
  | c :: rest => c.toUpper :: rest

namespace PlainWord

def chars (w : PlainWord) : List Char :=
  w.letters ++ w.digits

/-- The word starts with a letter, and at least one other follows. -/
theorem exists_letters (w : PlainWord) :
    ∃ first more, w.letters = first :: more ∧ more ≠ [] ∧ first.isLower ∧
      ∀ c ∈ more, c.isLower := by
  obtain ⟨letters, digits, htwo, hlower, hdigit⟩ := w
  rcases letters with _ | ⟨first, more⟩
  · simp at htwo
  · rw [List.forall_mem_cons] at hlower
    refine ⟨first, more, rfl, ?_, hlower⟩
    rintro rfl
    simp at htwo

theorem isLower_or_isDigit (w : PlainWord) (hc : c ∈ w.chars) : c.isLower ∨ c.isDigit := by
  rcases List.mem_append.mp hc with hc | hc
  · exact .inl (w.isLower_letters c hc)
  · exact .inr (w.isDigit_digits c hc)

theorem map_toUpper_digits (w : PlainWord) : w.digits.map Char.toUpper = w.digits := by
  have hsame : ∀ c ∈ w.digits, c.toUpper = id c := by
    intro c hc
    apply Char.toUpper_eq_of_not_isLower
    simp [not_isAlpha_of_isDigit (w.isDigit_digits c hc)]
  rw [List.map_congr_left hsame, List.map_id]

theorem map_toLower_chars (w : PlainWord) : w.chars.map Char.toLower = w.chars := by
  have hsame : ∀ c ∈ w.chars, c.toLower = id c := by
    intro c hc
    apply Char.toLower_eq_of_not_isUpper
    rcases w.isLower_or_isDigit hc with h | h
    · simp [Char.not_isUpper_of_isLower h]
    · simp [not_isAlpha_of_isDigit h]
  rw [List.map_congr_left hsame, List.map_id]

theorem map_toLower_toUpper (w : PlainWord) :
    (w.chars.map Char.toUpper).map Char.toLower = w.chars := by
  rw [List.map_map]
  calc
    w.chars.map (Char.toLower ∘ Char.toUpper) = w.chars.map Char.toLower :=
      List.map_congr_left fun c _ => Char.toLower_toUpper_eq_toLower c
    _ = w.chars := w.map_toLower_chars

theorem map_toLower_capitalized (w : PlainWord) :
    (capitalized w.chars).map Char.toLower = w.chars := by
  have hlower := w.map_toLower_chars
  cases hw : w.chars with
  | nil => rfl
  | cons first rest =>
      rw [hw] at hlower
      rw [capitalized, List.map_cons, Char.toLower_toUpper_eq_toLower, ← List.map_cons, hlower]

theorem readAsOne_chars (w : PlainWord) (next : Option Char) : ReadAsOne next w.chars := by
  obtain ⟨first, more, hletters, -, hfirst, hmore⟩ := w.exists_letters
  refine ⟨first, more ++ w.digits, by rw [chars, hletters, List.cons_append],
    isAlphanum_of_isLower_or_isDigit (.inl hfirst), ?_⟩
  exact unbroken_lower (by simp [Char.isAlpha, hfirst]) hmore w.isDigit_digits

theorem readAsOne_capitalized (w : PlainWord) (next : Option Char) :
    ReadAsOne next (capitalized w.chars) := by
  obtain ⟨first, more, hletters, -, hfirst, hmore⟩ := w.exists_letters
  have hupper : first.toUpper.isAlpha := by simp [Char.isAlpha, isUpper_toUpper hfirst]
  refine ⟨first.toUpper, more ++ w.digits, by rw [chars, hletters]; rfl,
    by simp [Char.isAlphanum, hupper], ?_⟩
  exact unbroken_lower hupper hmore w.isDigit_digits

/-- In upper case the word is read as one only if no lower-case letter
follows. -/
theorem readAsOne_toUpper (w : PlainWord) (hnext : next.any Char.isLower = false) :
    ReadAsOne next (w.chars.map Char.toUpper) := by
  obtain ⟨first, more, hletters, -, hfirst, hmore⟩ := w.exists_letters
  have hsplit : w.chars.map Char.toUpper =
      first.toUpper :: (more.map Char.toUpper ++ w.digits) := by
    rw [chars, hletters, List.map_append, w.map_toUpper_digits, List.map_cons, List.cons_append]
  have hupper := isUpper_toUpper hfirst
  refine ⟨_, _, hsplit, by simp [Char.isAlphanum, Char.isAlpha, hupper], ?_⟩
  apply unbroken_upper hupper ?_ w.isDigit_digits hnext
  intro c hc
  obtain ⟨d, hd, rfl⟩ := List.mem_map.mp hc
  exact isUpper_toUpper (hmore d hd)

/-- The word ends in a letter after its first, or in a digit. -/
theorem exists_getLast? (w : PlainWord) :
    ∃ last, w.chars.getLast? = some last ∧ (capitalized w.chars).getLast? = some last ∧
      (last.isLower ∨ last.isDigit) := by
  obtain ⟨first, more, hletters, hne, -, -⟩ := w.exists_letters
  have hchars : w.chars = first :: (more ++ w.digits) := by
    rw [chars, hletters, List.cons_append]
  have hrest : more ++ w.digits ≠ [] := by simp [hne]
  have hlast (c : Char) : (c :: (more ++ w.digits)).getLast? =
      some ((more ++ w.digits).getLast hrest) := by
    rw [List.getLast?_cons, List.getLast?_eq_some_getLast hrest, Option.getD_some]
  refine ⟨_, hchars ▸ hlast first, by rw [hchars]; exact hlast first.toUpper, ?_⟩
  apply w.isLower_or_isDigit
  rw [hchars]
  exact List.mem_cons_of_mem _ (List.getLast_mem hrest)

theorem isHump_chars (w : PlainWord) : IsHump w.chars := by
  obtain ⟨last, hlast, -, hends⟩ := w.exists_getLast?
  exact ⟨w.readAsOne_chars, last, hlast, hends⟩

theorem isHump_capitalized (w : PlainWord) : IsHump (capitalized w.chars) := by
  obtain ⟨last, -, hlast, hends⟩ := w.exists_getLast?
  exact ⟨w.readAsOne_capitalized, last, hlast, hends⟩

theorem exists_capital (w : PlainWord) :
    ∃ first run, capitalized w.chars = first :: run ∧ first.isUpper := by
  obtain ⟨first, more, hletters, -, hfirst, -⟩ := w.exists_letters
  exact ⟨first.toUpper, more ++ w.digits, by rw [chars, hletters]; rfl, isUpper_toUpper hfirst⟩

end PlainWord

/-! ### The four spellings -/

def snakeCase (ws : List PlainWord) : String :=
  String.ofList (['_'].intercalate (ws.map (·.chars)))

def screamingCase (ws : List PlainWord) : String :=
  String.ofList (['_'].intercalate (ws.map (·.chars.map Char.toUpper)))

def mixedCase : List PlainWord → String
  | [] => ""
  | first :: later => String.ofList (first.chars ++ (later.map (capitalized ·.chars)).flatten)

def pascalCase (ws : List PlainWord) : String :=
  String.ofList (ws.map (capitalized ·.chars)).flatten

theorem capitalChars_chars (w : PlainWord) : capitalChars w.chars = capitalized w.chars := by
  have hascii : ∀ c ∈ w.chars, c.toNat < 0x80 := fun c hc =>
    toNat_lt_of_isAlphanum (isAlphanum_of_isLower_or_isDigit (w.isLower_or_isDigit hc))
  cases hw : w.chars with
  | nil => rfl
  | cons first rest =>
      rw [hw] at hascii
      rw [capitalChars, capitalized, Text.upper_of_ascii (hascii first List.mem_cons_self),
        List.singleton_append]

/-- A text is spelled in mixed case if its words, in lower case, are the
words of the spelling. -/
theorem camelCase_eq_mixedCase {s : List Char} {ws : List PlainWord}
    (h : (words s).map (·.map Char.toLower) = ws.map (·.chars)) :
    camelCase (String.ofList s) = mixedCase ws := by
  rw [camelCase, String.toList_ofList, camelChars]
  cases hwords : words s with
  | nil =>
      rw [hwords] at h
      obtain rfl : ws = [] := by simpa using h.symm
      rfl
  | cons first later =>
      rw [hwords] at h
      cases ws with
      | nil => simp at h
      | cons w ws =>
          obtain ⟨hfirst, hlater⟩ : first.map Char.toLower = w.chars ∧
              later.map (·.map Char.toLower) = ws.map (·.chars) := List.cons.inj h
          have hcapitals : later.map (fun v => capitalChars (v.map Char.toLower)) =
              ws.map (capitalized ·.chars) := by
            calc
              later.map (fun v => capitalChars (v.map Char.toLower)) =
                  (later.map (·.map Char.toLower)).map capitalChars := by rw [List.map_map]; rfl
              _ = ws.map (fun v => capitalChars v.chars) := by rw [hlater, List.map_map]; rfl
              _ = ws.map (capitalized ·.chars) :=
                List.map_congr_left fun v _ => capitalChars_chars v
          rw [joinCamel, mixedCase, hfirst, List.flatMap_def, hcapitals]

theorem words_snakeCase (ws : List PlainWord) :
    words (['_'].intercalate (ws.map (·.chars))) = ws.map (·.chars) := by
  refine words_intercalate (by decide) ?_ ?_ <;>
    exact List.forall_mem_map.mpr fun w _ => w.readAsOne_chars _

theorem words_screamingCase (ws : List PlainWord) :
    words (['_'].intercalate (ws.map (·.chars.map Char.toUpper))) =
      ws.map (·.chars.map Char.toUpper) := by
  refine words_intercalate (by decide) ?_ ?_ <;>
    exact List.forall_mem_map.mpr fun w _ => w.readAsOne_toUpper rfl

/-- Capitalised words after one that is a hump of its own. -/
theorem words_capitalized {v : List Char} (hv : IsHump v) (ws : List PlainWord) :
    words (v ++ (ws.map (capitalized ·.chars)).flatten) = v :: ws.map (capitalized ·.chars) :=
  words_flatten hv (List.forall_mem_map.mpr fun w _ => w.isHump_capitalized)
    (List.forall_mem_map.mpr fun w _ => w.exists_capital)

/-- Words of at least two letters, each with digits after them or not, have
one camel-case spelling however they are put together: with an underscore
between them in lower or in upper case, or with capitals at the start of all
words or of all but the first. It is the last of these. -/
theorem spellings_have_one_camelCase (ws : List PlainWord) :
    camelCase (snakeCase ws) = mixedCase ws ∧
    camelCase (screamingCase ws) = mixedCase ws ∧
    camelCase (mixedCase ws) = mixedCase ws ∧
    camelCase (pascalCase ws) = mixedCase ws := by
  have hcapitals (later : List PlainWord) :
      (later.map (capitalized ·.chars)).map (·.map Char.toLower) = later.map (·.chars) := by
    rw [List.map_map]
    exact List.map_congr_left fun w _ => w.map_toLower_capitalized
  refine ⟨camelCase_eq_mixedCase ?_, camelCase_eq_mixedCase ?_, ?_, camelCase_eq_mixedCase ?_⟩
  · rw [words_snakeCase, List.map_map]
    exact List.map_congr_left fun w _ => w.map_toLower_chars
  · rw [words_screamingCase, List.map_map]
    exact List.map_congr_left fun w _ => w.map_toLower_toUpper
  · cases ws with
    | nil => rfl
    | cons w ws =>
        refine camelCase_eq_mixedCase ?_
        rw [words_capitalized w.isHump_chars, List.map_cons, List.map_cons, hcapitals,
          w.map_toLower_chars]
  · cases ws with
    | nil => rfl
    | cons w ws =>
        rw [List.map_cons, List.flatten_cons, words_capitalized w.isHump_capitalized,
          List.map_cons, List.map_cons, hcapitals, w.map_toLower_capitalized]

def axle2 : PlainWord :=
  ⟨['a', 'x', 'l', 'e'], ['2'], by simp, by simp, by simp⟩

def front : PlainWord :=
  ⟨['f', 'r', 'o', 'n', 't'], [], by simp, by simp, by simp⟩

theorem axle2_front_spellings :
    camelCase "axle2_front" = "axle2Front" ∧ camelCase "AXLE2_FRONT" = "axle2Front" ∧
    camelCase "axle2Front" = "axle2Front" ∧ camelCase "Axle2Front" = "axle2Front" :=
  spellings_have_one_camelCase [axle2, front]

/-- Words of one letter are why two are asked for. -/
example : camelCase "x_y_axis" = "xYAxis" ∧ camelCase "XYAxis" = "xyAxis" := by
  decide +kernel

end DeclSchema.Name
