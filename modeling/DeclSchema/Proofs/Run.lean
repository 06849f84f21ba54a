import DeclSchema.Proofs.Definitions
import DeclSchema.Proofs.JsonText
import DeclSchema.Proofs.Plan
import DeclSchema.Proofs.Strict

/-!
What a run leaves behind.

The stages of a run are taken one by one, and each has its own errors. The
check of the arguments and the plan fail with values and settings that are
wrong, and the plan also with a file that cannot be read, which is the one
fault that is worse than the others. The last stage is about the built-in
catalog, which is complete: every record and function of it maps. So it
fails only for a root that stands for no record, it is the same whether
missing declarations are an error or not, and what it gives is the listing
or a document from which nothing is missing.
-/

namespace DeclSchema.Program

open Settings Catalog

variable {w : World} {a : Arguments} {c : Catalog} {p : Plan} {out : Output} {e : Error}
  {text : String}

/-! ### The last stage -/

/-- The document is about what the plan asks for: every title of a record
that maps, the record that the root stands for, or the last one that maps. -/
inductive Shows (c : Catalog) (p : Plan) : Document → Prop
  | every {schemas : Keyed RecordSchema} (hall : p.all = true) (hsorted : schemas.Sorted)
      (hschemas : ∀ title schema, schemas.get? title = some schema ↔
        ∃ r, c.IsLastTitled title r ∧ c.recordSchema r = .ok schema) :
      Shows c p (.definitions p.options.title schemas)
  | named {name : String} {r : RecordDecl} {schema : RecordSchema} (hall : p.all = false)
      (hroot : p.options.root = some name) (hfind : c.find? name = some r)
      (hschema : c.recordSchema r = .ok schema) : Shows c p (.single schema)
  | last {r : RecordDecl} {schema : RecordSchema} (hall : p.all = false)
      (hroot : p.options.root = none) (hlast : c.IsLastMapped r)
      (hschema : c.recordSchema r = .ok schema) : Shows c p (.single schema)

/-- The text is a line for each record and after these a line for each
function, or it is a document that the plan asks for, as JSON in the layout
that it asks for, and the end of the line. -/
def Prints (c : Catalog) (p : Plan) (text : String) : Prop :=
  if p.list then
    text = String.join
      (c.records.map (fun r => "record   " ++ r.name ++ "\n") ++
        c.functions.map fun f => "function " ++ f.scope.elim "" (· ++ "::") ++ f.name ++ "(" ++
          String.intercalate ", " (f.arguments.map (·.type.spelling)) ++ ")\n")
  else
    ∃ d body, Shows c p d ∧ text = body ++ "\n" ∧
      if p.pretty then body = d.toJson.pretty ∧ Json.IsPretty body d.toJson
      else body = d.toJson.compact ∧ Json.IsCompact body d.toJson

theorem line_of_signature (f : FunctionDecl) :
    "function " ++ f.signature ++ "\n" =
      "function " ++ f.scope.elim "" (· ++ "::") ++ f.name ++ "(" ++
        String.intercalate ", " (f.arguments.map (·.type.spelling)) ++ ")\n" := by
  rw [show ")\n" = ")" ++ "\n" by decide]
  cases hscope : f.scope <;>
    simp [FunctionDecl.signature, FunctionDecl.qualifiedName, hscope, String.append_assoc]

theorem prints_listing (hlist : p.list = true) : Prints c p (listing c) := by
  rw [Prints, if_pos hlist, String.join_append, listing]
  simp only [line_of_signature]

theorem prints_documentText {d : Document} (hlist : ¬ p.list = true) (h : Shows c p d) :
    Prints c p (documentText p d) := by
  rw [Prints, if_neg hlist]
  refine ⟨d, _, h, rfl, ?_⟩
  split
  · exact ⟨rfl, Json.isPretty_pretty _⟩
  · exact ⟨rfl, Json.isCompact_compact _⟩

theorem unmapped_of_output (hc : c.NamesDistinct) (h : output p c = .ok out) :
    out.unmapped = c.unmapped := by
  unfold output at h
  split at h
  · cases h
    rfl
  · exact unmapped_of_generate hc h

/-- With nothing missing, it does not matter whether that would be an error. -/
theorem render_result (hc : c.NamesDistinct) (hcomplete : c.unmapped = []) (p : Plan) :
    (render p c).result =
      if p.list then .ok (listing c)
      else output p c >>= fun out => .ok (documentText p out.document) := by
  unfold render
  split
  · rfl
  · cases hout : output p c with
    | error e => rfl
    | ok out =>
        have hmissing : out.unmapped = [] := (unmapped_of_output hc hout).trans hcomplete
        have hstrict : out.strict = .ok out.document := Output.strict_eq_ok_iff.mpr ⟨hmissing, rfl⟩
        cases hp : p.strict <;> simp [hstrict, bind, Except.bind, pure, Except.pure]

theorem maps_of_unmapped_eq_nil (h : c.unmapped = []) {r : RecordDecl} (hr : r ∈ c.records) :
    c.Maps r :=
  (unmapped_eq_nil_iff.mp h).1 r hr

theorem output_cases (hc : c.NamesDistinct) (hcomplete : c.unmapped = [])
    (hrecords : c.records ≠ []) (p : Plan) :
    (∃ out, output p c = .ok out ∧ Shows c p out.document) ∨
    ∃ name, p.options.root = some name ∧ c.find? name = none ∧
      output p c = .error (.unknownType name) := by
  unfold output
  cases hall : p.all with
  | true =>
      exact .inl ⟨_, rfl, .every hall (Keyed.sorted_ofList _) fun _ _ =>
        get?_titledSchemas_eq_some_iff⟩
  | false =>
      simp only [Bool.false_eq_true, if_false]
      cases hroot : p.options.root with
      | some name =>
          have hoptions : p.options = ⟨p.options.title, some name⟩ := by rw [← hroot]
          rw [hoptions]
          rcases generate_root_cases hc p.options.title name with
            ⟨hfind, hgen⟩ | ⟨r, hfind, hmaps, -⟩ | ⟨r, schema, hfind, hschema, hgen⟩
          · exact .inr ⟨name, rfl, hfind, hgen⟩
          · exact absurd (maps_of_unmapped_eq_nil hcomplete (mem_of_find? hfind)) hmaps
          · exact .inl ⟨_, hgen, .named hall hroot hfind hschema⟩
      | none =>
          have hoptions : p.options = ⟨p.options.title, none⟩ := by rw [← hroot]
          rw [hoptions]
          obtain ⟨schema, hgen, ⟨r, hlast, hschema⟩ | ⟨hnone, -⟩⟩ :=
            generate_default c p.options.title
          · exact .inl ⟨_, hgen, .last hall hroot hlast hschema⟩
          · -- the object without properties is for a catalog in which nothing maps
            obtain ⟨r, hr⟩ := List.exists_mem_of_ne_nil _ hrecords
            exact absurd (maps_of_unmapped_eq_nil hcomplete hr) (hnone r hr)

/-! ### The built-in catalog -/

theorem unmapped_builtin : builtin.unmapped = [] :=
  unmapped_eq_nil_iff_complete.mpr (by decide +kernel)

theorem namesDistinct_builtin : builtin.NamesDistinct :=
  namesDistinct_empty.registerAll builtinRegistrations

theorem listing_builtin_ne_empty : listing builtin ≠ "" := by
  decide +kernel

theorem documentText_ne_empty (p : Plan) (d : Document) : documentText p d ≠ "" := by
  simp [documentText]

theorem output_builtin_cases (p : Plan) :
    (∃ out, output p builtin = .ok out ∧ Shows builtin p out.document) ∨
    ∃ name, p.options.root = some name ∧ builtin.find? name = none ∧
      output p builtin = .error (.unknownType name) :=
  output_cases namesDistinct_builtin unmapped_builtin (by decide +kernel) p

theorem render_builtin (p : Plan) :
    (render p builtin).result =
      if p.list then .ok (listing builtin)
      else output p builtin >>= fun out => .ok (documentText p out.document) :=
  render_result namesDistinct_builtin unmapped_builtin p

/-- The last stage prints what the plan asks for. -/
theorem prints_of_render (h : (render p builtin).result = .ok text) :
    text ≠ "" ∧ Prints builtin p text := by
  rw [render_builtin] at h
  split at h
  · next hlist =>
      cases h
      exact ⟨listing_builtin_ne_empty, prints_listing hlist⟩
  · next hlist =>
      obtain ⟨out, hout, htext⟩ := bind_eq_ok_iff.mp h
      cases htext
      rcases output_builtin_cases p with ⟨out', hout', hshows⟩ | ⟨name, -, -, herror⟩
      · rw [hout', Except.ok.injEq] at hout
        subst hout
        exact ⟨documentText_ne_empty p _, prints_documentText hlist hshows⟩
      · rw [herror] at hout
        cases hout

/-- The last stage fails only for a root that stands for no record. -/
theorem unknownType_of_render (h : (render p builtin).result = .error e) :
    ∃ name, p.options.root = some name ∧ builtin.find? name = none ∧ e = .unknownType name := by
  rw [render_builtin] at h
  split at h
  · cases h
  · rcases output_builtin_cases p with ⟨out, hout, -⟩ | ⟨name, hroot, hfind, herror⟩
    · rw [hout] at h
      cases h
    · rw [herror] at h
      cases h
      exact ⟨name, hroot, hfind, rfl⟩

/-! ### How bad an error is -/

/-- The command line names a settings file that cannot be read. -/
def Unreadable (w : World) (a : Arguments) : Prop :=
  ∃ path failure, a.config = some path ∧ w.fileText path = .error failure

theorem severity_of_check (h : a.check = .error e) : e.severity = .high := by
  simp only [Arguments.check, seq_eq_error_iff] at h
  rcases h with h | ⟨-, h | ⟨-, h⟩⟩
  · exact (Check.blames_of_optional Check.blames_of_path h).severity
  · exact (Check.blames_of_optional Check.blames_of_identifier h).severity
  · exact (Check.blames_of_optional Check.blames_of_identifier h).severity

theorem severity_of_section_check {file : Section} (h : file.check = .error e) :
    e.severity = .high := by
  simp only [Section.check, seq_eq_error_iff] at h
  rcases h with h | ⟨-, h⟩
  · exact (Check.blames_of_optional Check.blames_of_identifier h).severity
  · exact (Check.blames_of_optional Check.blames_of_identifier h).severity

theorem severity_of_fileFault {path : String} (h : w.FileFault path e) :
    e.severity = .critical ∧ (∃ failure, w.fileText path = .error failure) ∨
    e.severity = .high ∧ ∃ text, w.fileText path = .ok text := by
  cases h with
  | unreadable htext => exact .inl ⟨rfl, _, htext⟩
  | malformed htext _ => exact .inr ⟨rfl, _, htext⟩
  | invalid hholds hcheck =>
      obtain ⟨text, htext, -⟩ := hholds
      exact .inr ⟨severity_of_section_check hcheck, text, htext⟩

theorem not_unreadable_of_fileSection {file : Section} (h : a.fileSection w = .ok file) :
    ¬ Unreadable w a := by
  rintro ⟨path, failure, hconfig, hread⟩
  have herror := (World.FileFault.unreadable hread).fileSection_eq hconfig
  rw [h] at herror
  cases herror

theorem severity_of_plan (h : a.plan w = .error e) :
    e.severity = .critical ∧ Unreadable w a ∨ e.severity = .high ∧ ¬ Unreadable w a := by
  rcases plan_eq_error_iff.mp h with h | ⟨file, root, hfile, -, -, rfl⟩
  · obtain ⟨path, hconfig, hfault⟩ := fileFault_of_fileSection h
    rcases severity_of_fileFault hfault with
      ⟨hseverity, failure, hread⟩ | ⟨hseverity, text, hread⟩
    · exact .inl ⟨hseverity, path, failure, hconfig, hread⟩
    · exact .inr ⟨hseverity, by simp [Unreadable, hconfig, hread]⟩
  · exact .inr ⟨rfl, not_unreadable_of_fileSection hfile⟩

/-! ### All stages -/

theorem work_result (w : World) (a : Arguments) :
    (work w a).result = a.check >>= fun _ => a.plan w >>= fun p => (render p builtin).result := by
  unfold work
  cases a.check with
  | error e => rfl
  | ok _ =>
      cases a.plan w with
      | error e => rfl
      | ok p => rfl

theorem work_eq_ok_iff : (work w a).result = .ok text ↔
    a.check = .ok () ∧ ∃ p, a.plan w = .ok p ∧ (render p builtin).result = .ok text := by
  rw [work_result, seq_eq_ok_iff, bind_eq_ok_iff]

/-- The error is the worst one exactly if the check passes and the file
cannot be read. -/
theorem severity_of_work (h : (work w a).result = .error e) :
    e.severity = .critical ∧ (a.check = .ok () ∧ Unreadable w a) ∨
    e.severity = .high ∧ ¬ (a.check = .ok () ∧ Unreadable w a) := by
  rw [work_result, seq_eq_error_iff, bind_eq_error_iff] at h
  rcases h with hcheck | ⟨hcheck, hplan | ⟨p, hplan, hrender⟩⟩
  -- a check that fails comes first, so the file may be unreadable as well
  · refine .inr ⟨severity_of_check hcheck, fun h => ?_⟩
    rw [h.1] at hcheck
    cases hcheck
  · rcases severity_of_plan hplan with ⟨hseverity, hread⟩ | ⟨hseverity, hread⟩
    · exact .inl ⟨hseverity, hcheck, hread⟩
    · exact .inr ⟨hseverity, fun h => hread h.2⟩
  · obtain ⟨name, -, -, rfl⟩ := unknownType_of_render hrender
    obtain ⟨file, hfile, -⟩ := plan_eq_ok_iff.mp hplan
    exact .inr ⟨rfl, fun h => not_unreadable_of_fileSection hfile h.2⟩

theorem runArguments_of_ok (h : (work w a).result = .ok text) :
    (runArguments w a).exitCode = 0 ∧ (runArguments w a).stdout = text := by
  simp [runArguments, h]

theorem runArguments_of_error (h : (work w a).result = .error e) :
    (runArguments w a).exitCode = e.severity.exitCode ∧ (runArguments w a).stdout = "" := by
  simp [runArguments, h]

theorem exitCode_of_error (h : (work w a).result = .error e) :
    (runArguments w a).exitCode = 3 ∧ (a.check = .ok () ∧ Unreadable w a) ∨
    (runArguments w a).exitCode = 1 ∧ ¬ (a.check = .ok () ∧ Unreadable w a) := by
  rw [(runArguments_of_error h).1]
  rcases severity_of_work h with ⟨hseverity, hread⟩ | ⟨hseverity, hread⟩
  · exact .inl ⟨by rw [hseverity]; rfl, hread⟩
  · exact .inr ⟨by rw [hseverity]; rfl, hread⟩

theorem exitCode_eq_zero_iff :
    (runArguments w a).exitCode = 0 ↔ ∃ text, (work w a).result = .ok text := by
  cases h : (work w a).result with
  | ok text => simp [(runArguments_of_ok h).1]
  | error e => rcases exitCode_of_error h with ⟨hexit, -⟩ | ⟨hexit, -⟩ <;> simp [hexit]

theorem exitCode_eq_three_iff :
    (runArguments w a).exitCode = 3 ↔ a.check = .ok () ∧ Unreadable w a := by
  cases h : (work w a).result with
  | ok text =>
      obtain ⟨-, p, hplan, -⟩ := work_eq_ok_iff.mp h
      obtain ⟨file, hfile, -⟩ := plan_eq_ok_iff.mp hplan
      simp [(runArguments_of_ok h).1, not_unreadable_of_fileSection hfile]
  | error e =>
      rcases exitCode_of_error h with ⟨hexit, hread⟩ | ⟨hexit, hread⟩
      · exact ⟨fun _ => hread, fun _ => hexit⟩
      · exact ⟨fun hthree => absurd (hexit.symm.trans hthree) (by decide), fun h => absurd h hread⟩

theorem runArguments_congr {b : Arguments} (h : (work w a).result = (work w b).result) :
    (runArguments w a).stdout = (runArguments w b).stdout ∧
    (runArguments w a).exitCode = (runArguments w b).exitCode := by
  cases hb : (work w b).result <;> simp [runArguments, h, hb]

/-! ### Strictness -/

/-- The flag for strictness changes nothing in a plan but its strictness. -/
theorem plan_with_strict (strict : Bool) (h : a.plan w = .ok p) :
    ∃ s, ({ a with strict } : Arguments).plan w = .ok { p with strict := s } := by
  obtain ⟨file, hfile, hroot, rfl⟩ := plan_eq_ok_iff.mp h
  exact ⟨_, plan_eq_ok_iff.mpr ⟨file, hfile, hroot, rfl⟩⟩

theorem plan_with_strict_error (strict : Bool) (h : a.plan w = .error e) :
    ({ a with strict } : Arguments).plan w = .error e := by
  have hcause := plan_eq_error_iff.mp h
  exact plan_eq_error_iff.mpr hcause

theorem render_with_strict (strict : Bool) :
    (render { p with strict } builtin).result = (render p builtin).result := by
  rw [render_builtin, render_builtin]
  rfl

theorem work_with_strict (w : World) (a : Arguments) (strict : Bool) :
    (work w { a with strict }).result = (work w a).result := by
  rw [work_result, work_result]
  -- the check does not look at the flag
  change a.check >>= _ = _
  congr 1
  funext _
  cases hplan : a.plan w with
  | error e => rw [plan_with_strict_error strict hplan]
  | ok p =>
      obtain ⟨s, hs⟩ := plan_with_strict strict hplan
      rw [hs]
      exact render_with_strict s

/-! ### The run as a whole -/

theorem run_of_parse {commandLine : List String} (h : CommandLine.parse commandLine = .ok a) :
    run w commandLine = runArguments w a := by
  rw [run, h]

/-- A run with a command line that can be read ends well exactly if all three
stages do. It then leaves what the plan asks for, and otherwise nothing; its
exit code tells a file that cannot be read from all other errors; and the
flag for strictness makes no difference, since nothing of the built-in
catalog is missing. -/
theorem run_outcome (w : World) {commandLine : List String}
    (h : CommandLine.parse commandLine = .ok a) :
    ((run w commandLine).exitCode = 0 ↔ a.check = .ok () ∧ ∃ p, a.plan w = .ok p ∧
      ∃ text, (render p builtin).result = .ok text) ∧
    ((run w commandLine).exitCode ≠ 0 → (run w commandLine).stdout = "") ∧
    ((run w commandLine).exitCode = 0 → (run w commandLine).stdout ≠ "" ∧
      ∃ p, a.plan w = .ok p ∧ Prints builtin p (run w commandLine).stdout) ∧
    ((run w commandLine).exitCode = 3 ↔ a.check = .ok () ∧ Unreadable w a) ∧
    (run w commandLine).exitCode ∈ [0, 1, 3] ∧
    builtin.unmapped = [] ∧
    ∀ other strict, CommandLine.parse other = .ok { a with strict } →
      (run w other).stdout = (run w commandLine).stdout ∧
      (run w other).exitCode = (run w commandLine).exitCode := by
  rw [run_of_parse h]
  refine ⟨?_, ?_, ?_, exitCode_eq_three_iff, ?_, unmapped_builtin, ?_⟩
  · rw [exitCode_eq_zero_iff]
    simp only [work_eq_ok_iff]
    constructor
    · rintro ⟨text, hcheck, p, hplan, hrender⟩
      exact ⟨hcheck, p, hplan, text, hrender⟩
    · rintro ⟨hcheck, p, hplan, text, hrender⟩
      exact ⟨text, hcheck, p, hplan, hrender⟩
  · intro hexit
    cases hwork : (work w a).result with
    | ok text => exact absurd (runArguments_of_ok hwork).1 hexit
    | error e => exact (runArguments_of_error hwork).2
  · intro hexit
    obtain ⟨text, hwork⟩ := exitCode_eq_zero_iff.mp hexit
    obtain ⟨-, p, hplan, hrender⟩ := work_eq_ok_iff.mp hwork
    obtain ⟨hne, hprints⟩ := prints_of_render hrender
    rw [(runArguments_of_ok hwork).2]
    exact ⟨hne, p, hplan, hprints⟩
  · cases hwork : (work w a).result with
    | ok text => simp [(runArguments_of_ok hwork).1]
    | error e => rcases exitCode_of_error hwork with ⟨hexit, -⟩ | ⟨hexit, -⟩ <;> simp [hexit]
  · intro other strict hother
    rw [run_of_parse hother]
    exact runArguments_congr (work_with_strict w a strict)

/-- One run with a document, one with the listing, and one with a settings
file that is not there. -/
theorem yard_run_outcome :
    (CommandLine.parse ["-c", "yard.toml", "--root=car"] =
        .ok { config := some "yard.toml", root := some "car" } ∧
      (run yard ["-c", "yard.toml", "--root=car"]).exitCode = 0 ∧
      (run yard ["-c", "yard.toml", "--root=car"]).stdout ≠ "" ∧
      (run yard ["--strict", "-c", "yard.toml", "--root=car"]).stdout =
        (run yard ["-c", "yard.toml", "--root=car"]).stdout) ∧
    (CommandLine.parse ["--list"] = .ok { list := true } ∧
      (run yard ["--list"]).exitCode = 0 ∧
      (run yard ["--list"]).stdout = String.join
        ["record   typeWrapper<int>\n", "record   myStruct\n", "record   myRec\n",
          "record   car\n", "function twFun(typeWrapper<int> *)\n",
          "function vectorFun(std::vector<int> *)\n", "function myPayload(MY_STRUCT *)\n",
          "function myMath::sum(int, int)\n",
          "function myMath::myRec::doSomethingToThis()\n", "function myMath::initRec(myRec *)\n",
          "function initCar(car *)\n", "function doThingToCar(obfuscatedCar *)\n"]) ∧
    CommandLine.parse ["-c", "gone.toml"] = .ok { config := some "gone.toml" } ∧
      (run yard ["-c", "gone.toml"]).exitCode = 3 ∧ (run yard ["-c", "gone.toml"]).stdout = "" := by
  have hparse : CommandLine.parse ["-c", "yard.toml", "--root=car"] =
      .ok { config := some "yard.toml", root := some "car" } := by decide +kernel
  have hlist : CommandLine.parse ["--list"] = .ok { list := true } := by decide +kernel
  have hgone : CommandLine.parse ["-c", "gone.toml"] = .ok { config := some "gone.toml" } := by
    decide +kernel
  have hrender : ∃ text, (render ⟨⟨"Yard", some "car"⟩, true, true, false, false⟩ builtin).result =
      .ok text := by
    cases hresult : (render ⟨⟨"Yard", some "car"⟩, true, true, false, false⟩ builtin).result with
    | ok text => exact ⟨text, rfl⟩
    | error e =>
        obtain ⟨name, hroot, hfind, -⟩ := unknownType_of_render hresult
        cases hroot
        exact absurd hfind (by decide +kernel)
  have hplan : ({ list := true } : Arguments).plan yard =
      .ok ⟨⟨"Model", none⟩, false, true, false, true⟩ := by decide +kernel
  obtain ⟨hzero, -, hprinted, -, -, -, hstrict⟩ := run_outcome yard hparse
  obtain ⟨hlistZero, -, hlisted, -⟩ := run_outcome yard hlist
  obtain ⟨-, hsilent, -, hthree, -⟩ := run_outcome yard hgone
  have hexit := hzero.mpr ⟨by decide +kernel, _, by decide +kernel, hrender⟩
  have hlistExit := hlistZero.mpr ⟨by decide +kernel, _, hplan, _, rfl⟩
  have hfailed := hthree.mpr ⟨by decide +kernel, "gone.toml", .missing, rfl, rfl⟩
  obtain ⟨-, p, hp, hprints⟩ := hlisted hlistExit
  rw [hplan, Except.ok.injEq] at hp
  subst hp
  exact ⟨⟨hparse, hexit, (hprinted hexit).1, (hstrict _ true (by decide +kernel)).1⟩,
    ⟨hlist, hlistExit, hprints.trans (by decide +kernel)⟩, hgone, hfailed,
    hsilent (by rw [hfailed]; decide)⟩

end DeclSchema.Program
