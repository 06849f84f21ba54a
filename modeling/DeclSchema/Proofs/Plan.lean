import DeclSchema.Program
import DeclSchema.Proofs.Checks
import Mathlib.Control.Monad.Basic

/-!
Where the settings of a run come from.

A plan is made of two sources, the command line and the settings file, and
each has a check of its own: the arguments are checked before the plan is
made, the file while it is made. Neither check sees the values of the other
source, and the plan takes each name from one of them. So every name in a
plan has been checked, or is the default, which would pass.

The file is read and checked whatever the command line says, so a fault in
it (`FileFault`) ends the run even if nothing of the file would be used. A
plan that asks for every record has no root, which is the only place where
the two sources are checked against each other.
-/

namespace DeclSchema.Settings

open Check (IsIdentifier)

variable {w : World} {a : Arguments} {p : Plan} {path : String} {file : Section} {e : Error}

/-! ### The settings file -/

/-- The file at the path can be read, and holds the section once its
variables are put in. -/
def World.Holds (w : World) (path : String) (file : Section) : Prop :=
  ∃ text, w.fileText path = .ok text ∧ w.parseSection (substitute w.lookup text) = .ok file

/-- What is wrong with the settings file at a path: it cannot be read, its
text cannot be parsed, or a name in it is no identifier. -/
inductive World.FileFault (w : World) (path : String) : Error → Prop
  | unreadable {failure : ReadFailure} (h : w.fileText path = .error failure) :
      FileFault w path (.io failure.message)
  | malformed {text message : String} (h : w.fileText path = .ok text)
      (hparse : w.parseSection (substitute w.lookup text) = .error message) :
      FileFault w path (.toml message)
  | invalid {file : Section} {e : Error} (h : w.Holds path file)
      (hcheck : file.check = .error e) : FileFault w path e

/-- The section that the command line brings: that of its file, or the empty
one if it names none. -/
def Arguments.Reads (a : Arguments) (w : World) (file : Section) : Prop :=
  a.config = none ∧ file = {} ∨ ∃ path, a.config = some path ∧ w.Holds path file

theorem sectionOfFile_of_readable {text : String} (h : w.fileText path = .ok text) :
    w.sectionOfFile path = (w.parseSection (substitute w.lookup text)).mapError .toml := by
  rw [World.sectionOfFile, h]
  rfl

theorem sectionOfFile_of_unreadable {failure : ReadFailure}
    (h : w.fileText path = .error failure) :
    w.sectionOfFile path = .error (.io failure.message) := by
  rw [World.sectionOfFile, h]
  rfl

theorem World.Holds.sectionOfFile_eq (h : w.Holds path file) : w.sectionOfFile path = .ok file := by
  obtain ⟨text, htext, hparse⟩ := h
  rw [sectionOfFile_of_readable htext, hparse]
  rfl

theorem fileSection_of_config (h : a.config = some path) :
    a.fileSection w = w.sectionOfFile path >>= fun file => file.check >>= fun _ => .ok file := by
  rw [Arguments.fileSection, h]
  rfl

/-- A settings file comes to a fault or to a section that passes its check. -/
theorem fileSection_cases (w : World) (h : a.config = some path) :
    (∃ e, w.FileFault path e ∧ a.fileSection w = .error e) ∨
    ∃ file, w.Holds path file ∧ file.check = .ok () ∧ a.fileSection w = .ok file := by
  rw [fileSection_of_config h]
  cases htext : w.fileText path with
  | error failure =>
      rw [sectionOfFile_of_unreadable htext]
      exact .inl ⟨_, .unreadable htext, rfl⟩
  | ok text =>
      cases hparse : w.parseSection (substitute w.lookup text) with
      | error message =>
          rw [sectionOfFile_of_readable htext, hparse]
          exact .inl ⟨_, .malformed htext hparse, rfl⟩
      | ok file =>
          have hholds : w.Holds path file := ⟨text, htext, hparse⟩
          rw [hholds.sectionOfFile_eq]
          cases hcheck : file.check with
          | error e =>
              refine .inl ⟨e, .invalid hholds hcheck, ?_⟩
              rw [bind_eq_error_iff]
              exact .inr ⟨file, rfl, seq_eq_error_iff.mpr (.inl hcheck)⟩
          | ok _ =>
              refine .inr ⟨file, hholds, hcheck, ?_⟩
              rw [bind_eq_ok_iff]
              exact ⟨file, rfl, seq_eq_ok_iff.mpr ⟨hcheck, rfl⟩⟩

theorem World.FileFault.fileSection_eq (h : w.FileFault path e) (hconfig : a.config = some path) :
    a.fileSection w = .error e := by
  rw [fileSection_of_config hconfig]
  cases h with
  | unreadable htext =>
      rw [sectionOfFile_of_unreadable htext]
      rfl
  | malformed htext hparse =>
      rw [sectionOfFile_of_readable htext, hparse]
      rfl
  | invalid hholds hcheck =>
      rw [hholds.sectionOfFile_eq, bind_eq_error_iff]
      exact .inr ⟨_, rfl, seq_eq_error_iff.mpr (.inl hcheck)⟩

theorem reads_of_fileSection (h : a.fileSection w = .ok file) :
    a.Reads w file ∧ file.check = .ok () := by
  cases hconfig : a.config with
  | none =>
      rw [Arguments.fileSection, hconfig, Except.ok.injEq] at h
      subst h
      exact ⟨.inl ⟨hconfig, rfl⟩, rfl⟩
  | some path =>
      rcases fileSection_cases w hconfig with ⟨e, -, herror⟩ | ⟨found, hholds, hcheck, hfound⟩
      · rw [herror] at h
        cases h
      · rw [hfound, Except.ok.injEq] at h
        subst h
        exact ⟨.inr ⟨path, hconfig, hholds⟩, hcheck⟩

theorem fileFault_of_fileSection (h : a.fileSection w = .error e) :
    ∃ path, a.config = some path ∧ w.FileFault path e := by
  cases hconfig : a.config with
  | none =>
      rw [Arguments.fileSection, hconfig] at h
      cases h
  | some path =>
      rcases fileSection_cases w hconfig with ⟨found, hfault, hfound⟩ | ⟨file, -, -, hfile⟩
      · rw [hfound, Except.error.injEq] at h
        subst h
        exact ⟨path, rfl, hfault⟩
      · rw [hfile] at h
        cases h

/-! ### The two checks -/

theorem isIdentifier_of_check (h : a.check = .ok ()) :
    (∀ title, a.title = some title → IsIdentifier title) ∧
    ∀ root, a.root = some root → IsIdentifier root := by
  simp only [Arguments.check, seq_eq_ok_iff, Check.optional_eq_ok_iff,
    Check.identifier_eq_ok_iff] at h
  exact h.2

theorem isIdentifier_of_section_check (h : file.check = .ok ()) :
    (∀ title, file.title = some title → IsIdentifier title) ∧
    ∀ root, file.root = some root → IsIdentifier root := by
  simp only [Section.check, seq_eq_ok_iff, Check.optional_eq_ok_iff,
    Check.identifier_eq_ok_iff] at h
  exact h

theorem isIdentifier_defaultTitle : IsIdentifier defaultTitle :=
  Check.isIdentifier_iff.mp (by decide)

/-- A value that both sources may give is an identifier if each source gives
only identifiers. -/
theorem isIdentifier_of_or {first second : Option String}
    (hfirst : ∀ value, first = some value → IsIdentifier value)
    (hsecond : ∀ value, second = some value → IsIdentifier value) {value : String}
    (h : first.or second = some value) : IsIdentifier value := by
  rcases Option.or_eq_some_iff.mp h with h | ⟨-, h⟩
  · exact hfirst value h
  · exact hsecond value h

/-! ### The plan -/

theorem plan_eq_ok_iff :
    a.plan w = .ok p ↔ ∃ file, a.fileSection w = .ok file ∧
      (a.all = true → (a.options file).root = none) ∧
      p = ⟨a.options file, a.strict || file.isStrict, !a.compact && file.isPretty, a.all,
        a.list⟩ := by
  rw [Arguments.plan, bind_eq_ok_iff]
  refine exists_congr fun file => and_congr_right fun _ => ?_
  cases hall : a.all <;> cases hroot : (a.options file).root <;>
    simp [hroot, pure, Except.pure, eq_comm]

theorem plan_eq_error_iff :
    a.plan w = .error e ↔ a.fileSection w = .error e ∨
      ∃ file root, a.fileSection w = .ok file ∧ a.all = true ∧
        (a.options file).root = some root ∧
        e = .conflictingSettings "all"
          ("--all renders every record and cannot take root '" ++ root ++ "'") := by
  rw [Arguments.plan, bind_eq_error_iff]
  refine or_congr_right (exists_congr fun file => ?_)
  cases hall : a.all <;> cases hroot : (a.options file).root <;>
    simp [hroot, pure, Except.pure, eq_comm]

theorem title_options : (a.options file).title = (a.title.or file.title).getD defaultTitle := by
  rw [Option.getD_or]
  rfl

theorem isStrict_eq_true_iff : file.isStrict = true ↔ file.strict = some true := by
  unfold Section.isStrict
  cases file.strict <;> simp

theorem isPretty_eq_false_iff : file.isPretty = false ↔ file.pretty = some false := by
  unfold Section.isPretty
  cases file.pretty <;> simp

theorem isIdentifier_options (hcheck : a.check = .ok ()) (hfile : file.check = .ok ()) :
    IsIdentifier (a.options file).title ∧
    ∀ root, (a.options file).root = some root → IsIdentifier root := by
  have harguments := isIdentifier_of_check hcheck
  have hsection := isIdentifier_of_section_check hfile
  constructor
  · rw [title_options]
    cases hvalue : a.title.or file.title with
    | none => exact isIdentifier_defaultTitle
    | some title => exact isIdentifier_of_or harguments.1 hsection.1 hvalue
  · intro root hroot
    exact isIdentifier_of_or harguments.2 hsection.2 hroot

/-! ### The root that does not matter -/

/-- What is told when every record is asked for and a root is given too. -/
def rootIgnored : String := "root is ignored when rendering every record"

theorem ne_rootIgnored {text : String} (h : text.toList.head? ≠ some 'r') :
    text ≠ rootIgnored := by
  rintro rfl
  exact h rfl

theorem message_ne_of_mem_generateEvents {c : Catalog} {event : Log.Event}
    (h : event ∈ c.generateEvents) : event.message ≠ rootIgnored := by
  rcases List.mem_append.mp h with h | h
  · obtain ⟨r, -, rfl⟩ := List.mem_map.mp h
    unfold Catalog.recordEvent
    split <;> simp [rootIgnored]
  · obtain ⟨f, -, hevent⟩ := List.mem_filterMap.mp h
    obtain ⟨u, -, rfl⟩ := Option.map_eq_some_iff.mp hevent
    simp [rootIgnored]

theorem rootIgnored_mem_generateAllEvents_iff {c : Catalog} {o : Options} :
    (∃ event ∈ c.generateAllEvents o, event.message = rootIgnored) ↔ o.root ≠ none := by
  unfold Catalog.generateAllEvents
  cases o.root with
  | none => simpa using fun event h => message_ne_of_mem_generateEvents h
  | some root => simp [rootIgnored]

theorem message_ne_of_mem_outputEvents {c : Catalog} {event : Log.Event}
    (hroot : p.all = true → p.options.root = none) (h : event ∈ Program.outputEvents p c) :
    event.message ≠ rootIgnored := by
  rcases List.mem_append.mp h with h | h
  · split at h
    · next hall =>
        intro hmessage
        exact rootIgnored_mem_generateAllEvents_iff.mp ⟨event, h, hmessage⟩ (hroot hall)
    · exact message_ne_of_mem_generateEvents h
  · split at h
    · obtain ⟨u, -, rfl⟩ := List.mem_map.mp h
      exact ne_rootIgnored (by simp [Program.missingEvent])
    · cases h

theorem message_ne_of_mem_render {c : Catalog} {event : Log.Event}
    (hroot : p.all = true → p.options.root = none) (h : event ∈ (Program.render p c).events) :
    event.message ≠ rootIgnored := by
  unfold Program.render at h
  split at h
  · cases h
  · exact message_ne_of_mem_outputEvents hroot h

theorem message_ne_of_mem_planEvents {event : Log.Event} (h : event ∈ Program.planEvents a) :
    event.message ≠ rootIgnored := by
  unfold Program.planEvents at h
  split at h
  · cases List.mem_singleton.mp h
    simp [rootIgnored]
  · cases h

/-- Whatever the sources say, no run tells of a root that does not matter: a
plan for every record with a root is not made. -/
theorem message_ne_of_mem_work {event : Log.Event} (h : event ∈ (Program.work w a).events) :
    event.message ≠ rootIgnored := by
  have hsummary : "CLI config: " ++ a.summary ≠ rootIgnored := ne_rootIgnored (by simp)
  unfold Program.work at h
  cases hcheck : a.check with
  | error e =>
      rw [hcheck] at h
      cases List.mem_singleton.mp h
      exact hsummary
  | ok _ =>
      have hstart : ∀ event ∈ ⟨.debug, .program, "CLI config: " ++ a.summary, []⟩ ::
          Program.planEvents a, event.message ≠ rootIgnored :=
        List.forall_mem_cons.mpr ⟨hsummary, fun _ => message_ne_of_mem_planEvents⟩
      cases hplan : a.plan w with
      | error e =>
          rw [hcheck, hplan] at h
          exact hstart event h
      | ok p =>
          rw [hcheck, hplan] at h
          rcases List.mem_append.mp h with h | h
          · exact hstart event h
          · obtain ⟨file, -, hroot, rfl⟩ := plan_eq_ok_iff.mp hplan
            exact message_ne_of_mem_render hroot h

/-! ### The plan as a whole -/

/-- If the arguments pass their check, every name in a plan is an identifier.
A plan is made of the command line and the file, in this order for names and
with either one's word for the flags; it never has both a root and every
record, so no run tells of a root that does not matter. A fault in the file
leaves no plan, whatever the command line says. -/
theorem plan_is_checked (w : World) (a : Arguments) :
    (a.check = .ok () → ∀ p, a.plan w = .ok p →
      (IsIdentifier p.options.title ∧ ∀ root, p.options.root = some root → IsIdentifier root) ∧
      ∃ file, a.Reads w file ∧
        p.options.title = (a.title.or file.title).getD "Model" ∧
        p.options.root = a.root.or file.root ∧
        (p.strict = true ↔ a.strict = true ∨ file.strict = some true) ∧
        (p.pretty = false ↔ a.compact = true ∨ file.pretty = some false) ∧
        p.all = a.all ∧ p.list = a.list) ∧
    (∀ p, a.plan w = .ok p → p.all = true → p.options.root = none) ∧
    (∀ c o, (∃ event ∈ Catalog.generateAllEvents c o, event.message = rootIgnored) ↔
      o.root ≠ none) ∧
    (∀ event ∈ (Program.work w a).events, event.message ≠ rootIgnored) ∧
    ∀ path e, a.config = some path → w.FileFault path e → a.plan w = .error e := by
  refine ⟨fun hcheck p hplan => ?_, fun p hplan hall => ?_,
    fun _ _ => rootIgnored_mem_generateAllEvents_iff, fun _ => message_ne_of_mem_work,
    fun path e hconfig hfault => ?_⟩
  · obtain ⟨file, hfile, -, rfl⟩ := plan_eq_ok_iff.mp hplan
    obtain ⟨hreads, hsection⟩ := reads_of_fileSection hfile
    refine ⟨isIdentifier_options hcheck hsection, file, hreads, title_options, rfl, ?_, ?_, rfl,
      rfl⟩
    · simp only [Bool.or_eq_true, isStrict_eq_true_iff]
    · simp only [Bool.and_eq_false_iff, Bool.not_eq_false', isPretty_eq_false_iff]
  · obtain ⟨file, -, hroot, rfl⟩ := plan_eq_ok_iff.mp hplan
    exact hroot hall
  · exact plan_eq_error_iff.mpr (.inl (hfault.fileSection_eq hconfig))

/-- A directory with two settings files, one of which names a root that is no
identifier. -/
def yard : World where
  fileText
    | "yard.toml" => .ok "[schema]\nmodule = 'Yard'\nroot = '$\x7bROOT\x7d'\nstrict = true\n"
    | "lost.toml" => .ok "[schema]\nroot = '2nd'\n"
    | _ => .error .missing
  lookup
    | "ROOT" => some "shed"
    | _ => none
  parseSection := Section.parse

/-- A command line that names a root of its own. -/
def yardArguments (path : String) : Arguments where
  config := some path
  root := some "car"
  compact := true

theorem yard_plan_is_checked :
    (yardArguments "yard.toml").check = .ok () ∧
    (yardArguments "yard.toml").plan yard =
      .ok ⟨⟨"Yard", some "car"⟩, true, false, false, false⟩ ∧
    (IsIdentifier "Yard" ∧ IsIdentifier "car") ∧
    ∃ value reason, (yardArguments "lost.toml").plan yard =
      .error (.invalidValue "schema.root" value reason) := by
  have hcheck : (yardArguments "yard.toml").check = .ok () := by decide +kernel
  have hplan : (yardArguments "yard.toml").plan yard =
      .ok ⟨⟨"Yard", some "car"⟩, true, false, false, false⟩ := by decide +kernel
  obtain ⟨htitle, hroot⟩ := ((plan_is_checked yard _).1 hcheck _ hplan).1
  have hholds : yard.Holds "lost.toml" { root := some "2nd" } := ⟨_, rfl, by decide +kernel⟩
  have hfault : yard.FileFault "lost.toml" (.invalidValue "schema.root" "2nd" _) :=
    .invalid hholds rfl
  exact ⟨hcheck, hplan, ⟨htitle, hroot "car" rfl⟩, _, _,
    (plan_is_checked yard _).2.2.2.2 "lost.toml" _ rfl hfault⟩

end DeclSchema.Settings
