import DeclSchema.Proofs.Recasing

/-!
Where the words of a text start.

The walk through a text keeps the word it is in and looks at the character
before and the one after. What it finds can be said without it, place by
place: `StartsAt` is the rule for one place of the text, about its
neighbours alone, and `starts` lists the places that it holds of. The words
stand there one by one (`StandsAt`): each is the stretch of text from its
place on, as far as no other place starts a word and no other character
comes in between. So nothing but the characters between words is lost.

The same cut can be made with an index into the text and two buffers, the
words that are finished and the one that is not, and this is what `scan`
does. It looks at the character before the index and it closes the current
word without a look at whether there is one. Either would be a fault at the
wrong moment, and `Scan.At` is what excludes both: the current word is empty
exactly where no letter or digit stands right before the index, and else it
ends with the one that does.
-/

namespace DeclSchema.Name

variable {s rest w current : List Char} {c p : Char} {i n : Nat}

/-! ### The rule for one place -/

/-- A word starts at the place `i`: a letter or digit stands there, and it is
the first character, or the one before it is neither letter nor digit, or
the two are where a word ends and another begins. -/
def StartsAt (s : List Char) (i : Nat) : Prop :=
  ∃ c ∈ s[i]?, c.isAlphanum ∧
    (i = 0 ∨ ∃ prev ∈ s[i - 1]?,
      ¬prev.isAlphanum ∨
      (c.isLower ∧ prev.isDigit) ∨
      (c.isUpper ∧ (prev.isLower ∨ prev.isDigit)) ∨
      (c.isUpper ∧ prev.isUpper ∧ ∃ next ∈ s[i + 1]?, next.isLower))

instance (s : List Char) (i : Nat) : Decidable (StartsAt s i) := by
  -- Without this the question would be put to every character there is.
  letI (P : Char → Prop) [DecidablePred P] (o : Option Char) : Decidable (∃ c ∈ o, P c) :=
    Option.decidableExistsMem o
  delta StartsAt
  infer_instance

def starts (s : List Char) : List Nat :=
  (List.range s.length).filter (StartsAt s ·)

/-- The character before a place of the text. Before the first there is
none. -/
def charBefore (s : List Char) : Nat → Option Char
  | 0 => none
  | i + 1 => s[i]?

/-- No letter or digit stands right before the place. -/
def AfterGap (s : List Char) (i : Nat) : Prop :=
  ∀ prev ∈ charBefore s i, prev.isAlphanum = false

theorem afterGap_succ (hc : s[n]? = some c) (h : c.isAlphanum = false) : AfterGap s (n + 1) := by
  intro prev hprev
  rw [charBefore, hc] at hprev
  cases hprev
  exact h

theorem not_startsAt_of_gap (hc : s[n]? = some c) (h : c.isAlphanum = false) : ¬StartsAt s n := by
  rintro ⟨d, hd, halpha, -⟩
  rw [hc] at hd
  cases hd
  simp [h] at halpha

theorem startsAt_of_afterGap (hc : s[n]? = some c) (halpha : c.isAlphanum) (h : AfterGap s n) :
    StartsAt s n := by
  refine ⟨c, hc, halpha, ?_⟩
  cases n with
  | zero => exact .inl rfl
  | succ n =>
      obtain ⟨hlt, -⟩ := List.getElem?_eq_some_iff.mp hc
      have hprev : s[n]? = some s[n] := List.getElem?_eq_getElem (by omega)
      exact .inr ⟨s[n], hprev, .inl (by simpa using h _ hprev)⟩

/-- Behind a letter or digit the rule is that of the walk. -/
theorem startsAt_iff_startsWord (hc : s[n]? = some c) (halpha : c.isAlphanum)
    (hbefore : charBefore s n = some p) (hp : p.isAlphanum) :
    StartsAt s n ↔ startsWord p c s[n + 1]? = true := by
  cases n with
  | zero => cases hbefore
  | succ n =>
      have hprev : s[n]? = some p := hbefore
      simp only [StartsAt, hc, hprev, startsWord, Nat.add_sub_cancel, Option.mem_def,
        Option.some.injEq, exists_eq_left', halpha, hp]
      cases s[n + 1 + 1]? <;> grind

/-! ### Words at their places -/

/-- The word stands at the place `i`, and no other place in it starts a
word. -/
structure RunsFrom (s : List Char) (i : Nat) (w : List Char) : Prop where
  isWord : IsWord w
  contiguous : w <+: s.drop i
  unbroken : ∀ j, i < j → j < i + w.length → ¬StartsAt s j

/-- And it goes on for as long as it can: the text ends behind it, or another
word starts there, or a character that belongs to none. -/
structure StandsAt (s : List Char) (i : Nat) (w : List Char) : Prop extends RunsFrom s i w where
  ends : ∀ c ∈ s[i + w.length]?, c.isAlphanum → StartsAt s (i + w.length)

theorem drop_eq_cons (hc : s[n]? = some c) : s.drop n = c :: s.drop (n + 1) := by
  obtain ⟨hlt, rfl⟩ := List.getElem?_eq_some_iff.mp hc
  exact List.drop_eq_getElem_cons hlt

theorem runsFrom_singleton (hc : s[n]? = some c) (h : c.isAlphanum) : RunsFrom s n [c] where
  isWord := isWord_singleton h
  contiguous := by simp [drop_eq_cons hc]
  unbroken := by
    intro j hlow hhigh
    rw [List.length_singleton] at hhigh
    omega

theorem RunsFrom.getElem? (h : RunsFrom s i w) {k : Nat} (hk : k < w.length) :
    s[i + k]? = w[k]? := by
  obtain ⟨tail, htail⟩ := h.contiguous
  rw [← List.getElem?_drop, ← htail, List.getElem?_append_left hk]

theorem RunsFrom.concat (h : RunsFrom s i w) (hc : s[i + w.length]? = some c)
    (halpha : c.isAlphanum) (hstart : ¬StartsAt s (i + w.length)) :
    RunsFrom s i (w ++ [c]) where
  isWord := h.isWord.concat halpha
  contiguous := by
    obtain ⟨tail, htail⟩ := h.contiguous
    have hhead : tail[0]? = some c := by
      rw [← hc, ← List.getElem?_drop, ← htail, List.getElem?_append_right (by omega), Nat.sub_self]
    obtain ⟨more, rfl⟩ := List.head?_eq_some_iff.mp (List.head?_eq_getElem? ▸ hhead)
    exact ⟨more, by simpa using htail⟩
  unbroken := by
    intro j hlow hhigh
    rw [List.length_append, List.length_singleton] at hhigh
    rcases Nat.lt_or_ge j (i + w.length) with hj | hj
    · exact h.unbroken j hlow hj
    · rwa [show j = i + w.length by omega]

theorem RunsFrom.charBefore_eq (h : RunsFrom s i w) :
    charBefore s (i + w.length) = w.getLast? := by
  obtain ⟨hne, -⟩ := h.isWord
  have hpos : 0 < w.length := List.length_pos_iff.mpr hne
  have hplace : i + w.length = i + (w.length - 1) + 1 := by omega
  rw [hplace, charBefore, h.getElem? (by omega), List.getLast?_eq_getElem?]

/-- The induction follows the walk. It is in a word that runs from `i` to the
place `n`, or in none; from `n` on the places that start a word are the ones
where it opens one. -/
theorem wordsFrom_standsAt (hrest : s.drop n = rest) :
    (AfterGap s n →
      List.Forall₂ (StandsAt s) ((List.range' n rest.length).filter (StartsAt s ·))
        (wordsFrom [] rest)) ∧
    ∀ i current, RunsFrom s i current → i + current.length = n →
      List.Forall₂ (StandsAt s) (i :: (List.range' n rest.length).filter (StartsAt s ·))
        (wordsFrom current rest) := by
  induction rest generalizing n with
  | nil =>
      have hend : s[n]? = none := by
        rw [List.getElem?_eq_none_iff]
        exact List.drop_eq_nil_iff.mp hrest
      refine ⟨fun _ => .nil, ?_⟩
      rintro i current hruns rfl
      rw [wordsFrom_nil hruns.isWord.1]
      exact .cons ⟨hruns, by simp [hend]⟩ .nil
  | cons c rest ih =>
      have hc : s[n]? = some c := by
        rw [← Nat.add_zero n, ← List.getElem?_drop, hrest]
        rfl
      have htail : s.drop (n + 1) = rest := by
        rw [drop_eq_cons hc] at hrest
        exact (List.cons.inj hrest).2
      have hnext : s[n + 1]? = rest.head? := by rw [← htail, List.head?_drop]
      obtain ⟨ihgap, ihword⟩ := ih htail
      rw [List.length_cons, List.range'_succ]
      by_cases halpha : c.isAlphanum
      · have hopen := ihword n [c] (runsFrom_singleton hc halpha) rfl
        constructor
        · intro hgap
          rw [List.filter_cons_of_pos (by simpa using startsAt_of_afterGap hc halpha hgap),
            wordsFrom_nil_cons halpha]
          exact hopen
        · rintro i current hruns rfl
          have hbefore := hruns.charBefore_eq
          obtain ⟨p, hp⟩ : ∃ p, current.getLast? = some p :=
            ⟨_, List.getLast?_eq_some_getLast hruns.isWord.1⟩
          have hpalpha : p.isAlphanum := hruns.isWord.2 p (List.mem_of_getLast? hp)
          have hrule := startsAt_iff_startsWord hc halpha (hbefore.trans hp) hpalpha
          rw [hnext] at hrule
          cases hstart : startsWord p c rest.head? with
          | true =>
              have hstarts := hrule.mpr hstart
              rw [List.filter_cons_of_pos (by simpa using hstarts),
                wordsFrom_cons_of_startsWord halpha hp hstart]
              exact .cons ⟨hruns, fun _ _ _ => hstarts⟩ hopen
          | false =>
              have hstays : ¬StartsAt s (i + current.length) := by simp [hrule, hstart]
              rw [List.filter_cons_of_neg (by simpa using hstays),
                wordsFrom_cons_of_not_startsWord halpha hp hstart]
              exact ihword i _ (hruns.concat hc halpha hstays) (by simp [Nat.add_assoc])
      · rw [Bool.not_eq_true] at halpha
        have hlater := ihgap (afterGap_succ hc halpha)
        rw [List.filter_cons_of_neg (by simpa using not_startsAt_of_gap hc halpha)]
        constructor
        · intro _
          rw [wordsFrom_cons_of_gap halpha]
          exact hlater
        · rintro i current hruns rfl
          rw [wordsFrom_cons_of_gap halpha, wordsFrom_nil hruns.isWord.1, List.singleton_append]
          refine .cons ⟨hruns, ?_⟩ hlater
          intro d hd hdalpha
          rw [hc] at hd
          cases hd
          simp [halpha] at hdalpha

theorem words_standAt (s : List Char) : List.Forall₂ (StandsAt s) (starts s) (words s) := by
  have hgap : AfterGap s 0 := by simp [AfterGap, charBefore]
  have h := (wordsFrom_standsAt (s := s) (n := 0) rfl).1 hgap
  rwa [List.drop_zero, ← List.range_eq_range'] at h

theorem flatten_wordsFrom (current s : List Char) :
    (wordsFrom current s).flatten = current ++ s.filter Char.isAlphanum := by
  induction s generalizing current with
  | nil => cases current <;> simp [wordsFrom]
  | cons c rest ih =>
      by_cases hc : c.isAlphanum
      · rw [List.filter_cons_of_pos hc]
        cases hlast : current.getLast? with
        | none =>
            obtain rfl := List.getLast?_eq_none_iff.mp hlast
            rw [wordsFrom_nil_cons hc, ih]
            rfl
        | some last =>
            cases hstart : startsWord last c rest.head? with
            | true =>
                rw [wordsFrom_cons_of_startsWord hc hlast hstart, List.flatten_cons, ih]
                rfl
            | false =>
                rw [wordsFrom_cons_of_not_startsWord hc hlast hstart, ih, List.append_assoc]
                rfl
      · rw [wordsFrom_cons_of_gap (by simpa using hc), List.filter_cons_of_neg hc,
          List.flatten_append, ih]
        cases current <;> simp [wordsFrom]

/-! ### The same cut with an index -/

/-- The words that are finished and the one that is not. -/
structure Scan where
  finished : List (List Char)
  current : List Char

namespace Scan

/-- The current word is finished, whether there is one or not. -/
def close (a : Scan) : Scan :=
  ⟨a.finished ++ [a.current], []⟩

def add (a : Scan) (c : Char) : Scan :=
  { a with current := a.current ++ [c] }

end Scan

/-- Whether a digit stands before the lower-case letter `c` at the place
`i`. Of any other character this is not asked, nor of the first. -/
def afterDigit? (s : List Char) (i : Nat) (c : Char) : Option Bool :=
  if c.isLower && decide (0 < i) then (charBefore s i).map Char.isDigit else some false

/-- Whether the letter or digit `c` at the place `i` closes the current word.
A look at a place outside of the text gives no answer at all. -/
def closes? (s : List Char) (a : Scan) (i : Nat) (c : Char) : Option Bool := do
  if ← afterDigit? s i c then return true
  else if c.isUpper && !a.current.isEmpty then
    let prev ← charBefore s i
    return prev.isLower || prev.isDigit || (prev.isUpper && s[i + 1]?.any Char.isLower)
  else return false

def scanChar (s : List Char) (a : Scan) (i : Nat) : Option Scan := do
  let c ← s[i]?
  if !c.isAlphanum then return if a.current.isEmpty then a else a.close
  else if ← closes? s a i c then return a.close.add c
  else return a.add c

/-- The scan of the first `n` characters. -/
def scanTo (s : List Char) (n : Nat) : Option Scan :=
  (List.range n).foldlM (scanChar s) ⟨[], []⟩

def scan (s : List Char) : Option (List (List Char)) := do
  let a ← scanTo s s.length
  return if a.current.isEmpty then a.finished else a.close.finished

/-- The scan has come to the place `n`, and the walk could go on from there.
There is a current word exactly if a letter or digit stands right before
that place, and then the word ends with it. -/
structure Scan.At (a : Scan) (s : List Char) (n : Nat) : Prop where
  words_eq : a.finished ++ wordsFrom a.current (s.drop n) = words s
  afterGap : a.current = [] → AfterGap s n
  last : ∀ p, a.current.getLast? = some p → p.isAlphanum ∧ charBefore s n = some p

variable {a : Scan}

/-- Where no word is open, the look behind finds no digit, so none is
closed. -/
theorem closes?_of_afterGap (hn : n < s.length) (hcurrent : a.current = []) (hgap : AfterGap s n) :
    closes? s a n c = some false := by
  have hlook : afterDigit? s n c = some false := by
    cases n with
    | zero => simp [afterDigit?]
    | succ n =>
        have hprev : charBefore s (n + 1) = some s[n] := List.getElem?_eq_getElem (by omega)
        have hdigit : s[n].isDigit = false := by
          have hnone := hgap _ hprev
          simp only [Char.isAlphanum, Bool.or_eq_false_iff] at hnone
          exact hnone.2
        simp [afterDigit?, hprev, hdigit]
  simp [closes?, hlook, hcurrent]

/-- Where one is open, the look behind is at its last character, and the word
is closed by the rule of the walk. -/
theorem closes?_of_last (hcurrent : a.current ≠ []) (hbefore : charBefore s n = some p) :
    closes? s a n c = some (startsWord p c s[n + 1]?) := by
  have hpos : 0 < n := by
    rcases n with _ | n
    · cases hbefore
    · omega
  have hlook : afterDigit? s n c = some (c.isLower && p.isDigit) := by
    cases hlower : c.isLower <;> simp [afterDigit?, hlower, hbefore, hpos]
  cases hdigit : c.isLower && p.isDigit with
  | true => simp [closes?, hlook, startsWord, hdigit]
  | false =>
      cases hupper : c.isUpper <;>
        simp [closes?, hlook, startsWord, hdigit, hupper, hcurrent, hbefore]

theorem Scan.at_add (hc : s[n]? = some c) (halpha : c.isAlphanum)
    (h : a.finished ++ wordsFrom (a.current ++ [c]) (s.drop (n + 1)) = words s) :
    (a.add c).At s (n + 1) where
  words_eq := h
  afterGap := by simp [Scan.add]
  last := by
    intro p hp
    have hlast : (a.add c).current.getLast? = some c := by simp [Scan.add]
    rw [hlast, Option.some.injEq] at hp
    exact ⟨hp ▸ halpha, hp ▸ hc⟩

theorem Scan.at_of_gap (hc : s[n]? = some c) (hgap : c.isAlphanum = false)
    (hcurrent : a.current = []) (h : a.finished ++ wordsFrom [] (s.drop (n + 1)) = words s) :
    a.At s (n + 1) where
  words_eq := by rwa [hcurrent]
  afterGap := fun _ => afterGap_succ hc hgap
  last := by simp [hcurrent]

theorem Scan.At.next (h : a.At s n) (hc : s[n]? = some c) :
    ∃ b, scanChar s a n = some b ∧ b.At s (n + 1) := by
  have hwords := h.words_eq
  rw [drop_eq_cons hc] at hwords
  cases halpha : c.isAlphanum with
  | false =>
      rw [wordsFrom_cons_of_gap halpha] at hwords
      by_cases hcurrent : a.current = []
      · refine ⟨a, by simp [scanChar, hc, halpha, hcurrent], at_of_gap hc halpha hcurrent ?_⟩
        rwa [hcurrent] at hwords
      · refine ⟨a.close, by simp [scanChar, hc, halpha, hcurrent], at_of_gap hc halpha rfl ?_⟩
        rwa [wordsFrom_nil hcurrent, ← List.append_assoc] at hwords
  | true =>
      cases hlast : a.current.getLast? with
      | none =>
          have hcurrent := List.getLast?_eq_none_iff.mp hlast
          obtain ⟨hn, -⟩ := List.getElem?_eq_some_iff.mp hc
          have hcloses := closes?_of_afterGap (c := c) hn hcurrent (h.afterGap hcurrent)
          refine ⟨a.add c, by simp [scanChar, hc, halpha, hcloses], at_add hc halpha ?_⟩
          rw [hcurrent, wordsFrom_nil_cons halpha] at hwords
          rwa [hcurrent]
      | some p =>
          have hcurrent : a.current ≠ [] := by
            intro hnil
            rw [hnil] at hlast
            cases hlast
          have hcloses := closes?_of_last (c := c) hcurrent (h.last p hlast).2
          rw [← List.head?_drop] at hcloses
          cases hstart : startsWord p c (s.drop (n + 1)).head? with
          | true =>
              rw [hstart] at hcloses
              rw [wordsFrom_cons_of_startsWord halpha hlast hstart] at hwords
              refine ⟨a.close.add c, by simp [scanChar, hc, halpha, hcloses], at_add hc halpha ?_⟩
              simpa [Scan.close] using hwords
          | false =>
              rw [hstart] at hcloses
              rw [wordsFrom_cons_of_not_startsWord halpha hlast hstart] at hwords
              exact ⟨a.add c, by simp [scanChar, hc, halpha, hcloses], at_add hc halpha hwords⟩

theorem scanTo_succ (s : List Char) (n : Nat) :
    scanTo s (n + 1) = (scanTo s n).bind fun a => scanChar s a n := by
  rw [scanTo, List.range_succ, List.foldlM_append]
  simp [scanTo]

/-- The scan never looks outside of the text. -/
theorem exists_scanTo (h : n ≤ s.length) : ∃ a, scanTo s n = some a ∧ a.At s n := by
  induction n with
  | zero =>
      refine ⟨⟨[], []⟩, rfl, rfl, fun _ => ?_, by simp⟩
      simp [AfterGap, charBefore]
  | succ n ih =>
      obtain ⟨a, ha, hat⟩ := ih (by omega)
      obtain ⟨b, hb, hbat⟩ := hat.next (List.getElem?_eq_getElem (by omega))
      exact ⟨b, by rw [scanTo_succ, ha, Option.bind_some, hb], hbat⟩

theorem scan_eq (s : List Char) : scan s = some (words s) := by
  obtain ⟨a, ha, hat⟩ := exists_scanTo (Nat.le_refl s.length)
  have hwords := hat.words_eq
  rw [List.drop_length] at hwords
  rw [scan, ha, ← hwords]
  cases hcurrent : a.current <;> simp [hcurrent, wordsFrom, Scan.close]

/-- The words of a text are runs of letters and digits, none is empty, and
together they are the letters and digits of the text. They stand at the
places where the rule says that a word starts, each up to the next of them
or to a character that belongs to no word. A scan by index finds the same
words: it looks at no place outside of the text, and every word that it has
finished at any time is one of them, so none of these is empty either. -/
theorem words_stand_at_starts (s : List Char) :
    (∀ w ∈ words s, w ≠ [] ∧ ∀ c ∈ w, c.isAlphanum) ∧
    (words s).flatten = s.filter Char.isAlphanum ∧
    List.Forall₂ (StandsAt s) (starts s) (words s) ∧
    (∀ i, i ∈ starts s ↔ StartsAt s i) ∧
    scan s = some (words s) ∧
    ∀ n ≤ s.length, ∃ a, scanTo s n = some a ∧ a.finished <+: words s ∧
      ∀ w ∈ a.finished, w ≠ [] := by
  refine ⟨fun w => isWord_of_mem_words, flatten_wordsFrom [] s, words_standAt s, fun i => ?_,
    scan_eq s, fun n hn => ?_⟩
  · have hlt : StartsAt s i → i < s.length := by
      rintro ⟨c, hc, -⟩
      exact (List.getElem?_eq_some_iff.mp hc).1
    simpa [starts] using hlt
  · obtain ⟨a, ha, hat⟩ := exists_scanTo hn
    have hfront : a.finished <+: words s := ⟨_, hat.words_eq⟩
    exact ⟨a, ha, hfront, fun w hw => (isWord_of_mem_words (hfront.subset hw)).1⟩

/-- Words start here for every reason that there is. -/
def mixedText : List Char :=
  "HTTPServerBox2go_x1y".toList

theorem mixedText_words_stand :
    starts mixedText = [0, 4, 10, 14, 17, 19] ∧
    StandsAt mixedText 4 "Server".toList ∧
    ¬StartsAt mixedText 18 ∧
    scan mixedText = some (["HTTP", "Server", "Box2", "go", "x1", "y"].map String.toList) ∧
    ∃ a, scanTo mixedText 15 = some a ∧ ∀ w ∈ a.finished, w ≠ [] := by
  obtain ⟨-, -, hstand, hstarts, hscan, hfinished⟩ := words_stand_at_starts mixedText
  have hplaces : starts mixedText = [0, 4, 10, 14, 17, 19] := by decide +kernel
  have hwords : words mixedText =
      ["HTTP", "Server", "Box2", "go", "x1", "y"].map String.toList := by
    decide +kernel
  rw [hplaces, hwords] at hstand
  simp only [List.map_cons, List.forall₂_cons] at hstand
  obtain ⟨-, hserver, -⟩ := hstand
  obtain ⟨a, ha, -, hne⟩ := hfinished 15 (by decide +kernel)
  refine ⟨hplaces, hserver, ?_, hscan.trans (by rw [hwords]), a, ha, hne⟩
  rw [← hstarts, hplaces]
  decide

end DeclSchema.Name
