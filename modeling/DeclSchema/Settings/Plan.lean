import DeclSchema.Error
import DeclSchema.Output
import DeclSchema.Settings.CommandLine
import DeclSchema.Settings.Substitution
import DeclSchema.Toml.Document

/-!
The plan of a run: the command line over the settings file.

A settings file is a TOML document with a table `schema`. All four settings
in it may be missing. Keys that mean nothing here are passed over. The
section may also be an array, which gives the settings by position, and a
moment, which gives none.

A value on the command line takes the place of the file's, but the file has
to be right all the same. Flags can only add to what the file says:
strictness on either side is strictness, and so is compactness.
-/

namespace DeclSchema.Settings

/-! ### The section of a settings file -/

structure Section where
  title : Option String := none
  root : Option String := none
  strict : Option Bool := none
  pretty : Option Bool := none
  deriving DecidableEq, Repr

namespace Section

open Toml (Value Cause Entries)

def textOf (key : String) : Value → Except Cause String
  | .text s => .ok s
  | _ => .error (.wrongType key)

def booleanOf (key : String) : Value → Except Cause Bool
  | .boolean b => .ok b
  | _ => .error (.wrongType key)

def settingAt {α : Type} (of : String → Value → Except Cause α) (key : String)
    (entries : Entries) : Except Cause (Option α) :=
  match entries.lookup key with
  | some v => (of key v).map some
  | none => .ok none

/-- Entries under other keys than the known ones can be passed over. -/
def passOver (known : List String) (entries : Entries) : Except Cause Unit :=
  match entries.find? fun e => !known.contains e.1 && !e.2.inRange with
  | some e => .error (.outOfRange e.1)
  | none => .ok ()

def ofEntries (entries : Entries) : Except Cause Section := do
  passOver ["module", "root", "strict", "pretty"] entries
  return {
    title := ← settingAt textOf "module" entries
    root := ← settingAt textOf "root" entries
    strict := ← settingAt booleanOf "strict" entries
    pretty := ← settingAt booleanOf "pretty" entries }

def ofValue : Value → Except Cause Section
  | .table _ entries => ofEntries entries
  | .array (title :: root :: strict :: pretty :: _) => do
      return {
        title := some (← textOf "module" title)
        root := some (← textOf "root" root)
        strict := some (← booleanOf "strict" strict)
        pretty := some (← booleanOf "pretty" pretty) }
  | .moment => .ok {}
  | _ => .error (.wrongType "schema")

def ofDocument (entries : Entries) : Except Cause Section := do
  passOver ["schema"] entries
  match entries.lookup "schema" with
  | some v => ofValue v
  | none => return {}

def parse (text : String) : Except String Section :=
  match Toml.read text with
  | .error fault => .error (fault.message text)
  | .ok entries =>
      (ofDocument entries).mapError fun cause => Toml.Fault.message ⟨cause, 0⟩ text

def check (s : Section) : Except Error Unit := do
  Check.optional (Check.identifier "schema.module") s.title
  Check.optional (Check.identifier "schema.root") s.root

def options (s : Section) : Options :=
  ⟨s.title.getD defaultTitle, s.root⟩

def isStrict (s : Section) : Bool :=
  s.strict.getD false

def isPretty (s : Section) : Bool :=
  s.pretty.getD true

end Section

/-! ### What comes from outside -/

inductive ReadFailure where
  | missing
  | notADirectory
  | isADirectory
  | nameTooLong
  | notUtf8
  | zeroInPath
  /-- Any other reason, in the words of the system. -/
  | other (text : String)
  deriving DecidableEq, Repr

def ReadFailure.message : ReadFailure → String
  | missing => "No such file or directory (os error 2)"
  | notADirectory => "Not a directory (os error 20)"
  | isADirectory => "Is a directory (os error 21)"
  | nameTooLong => "File name too long (os error 36)"
  | notUtf8 => "stream did not contain valid UTF-8"
  | zeroInPath => "file name contained an unexpected NUL byte"
  | other text => text

/-- What the program gets from outside: files, variables, and the reading of
a settings text. -/
structure World where
  fileText : String → Except ReadFailure String
  lookup : String → Option String
  parseSection : String → Except String Section

structure Plan where
  options : Options
  strict : Bool
  pretty : Bool
  all : Bool
  list : Bool
  deriving DecidableEq, Repr

def World.sectionOfText (w : World) (text : String) : Except Error Section :=
  (w.parseSection (substitute w.lookup text)).mapError .toml

def World.sectionOfFile (w : World) (path : String) : Except Error Section := do
  let text ← (w.fileText path).mapError fun failure => .io failure.message
  w.sectionOfText text

namespace Arguments

def check (a : Arguments) : Except Error Unit := do
  Check.optional (Check.path "config") a.config
  Check.optional (Check.identifier "module") a.title
  Check.optional (Check.identifier "root") a.root

def fileSection (w : World) (a : Arguments) : Except Error Section :=
  match a.config with
  | none => .ok {}
  | some path => do
      let file ← w.sectionOfFile path
      file.check
      return file

def options (a : Arguments) (file : Section) : Options :=
  ⟨a.title.getD file.options.title, a.root.or file.options.root⟩

/-- The plan. A document about every record cannot be about a root. -/
def plan (w : World) (a : Arguments) : Except Error Plan := do
  let file ← a.fileSection w
  let options := a.options file
  match a.all, options.root with
  | true, some root =>
      .error (.conflictingSettings "all"
        ("--all renders every record and cannot take root '" ++ root ++ "'"))
  | _, _ =>
      return {
        options
        strict := a.strict || file.isStrict
        pretty := !a.compact && file.isPretty
        all := a.all
        list := a.list }

end Arguments

end DeclSchema.Settings
