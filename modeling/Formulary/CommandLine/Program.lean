import Formulary.CommandLine.Arguments
import Formulary.Form.Report
import Formulary.Json.Form.Template
import Formulary.Json.Printer
import Formulary.Office.Refusal
import Formulary.Template.Filling

/-!
# The program

What the program answers to its arguments, given the files and the environment: text on the two output streams and an
exit code.  A failure is told with the causes behind it.  Log lines, which can be asked for on the error stream, are no
part of the answer and are left out of `Output`.
-/

namespace Formulary.CommandLine

/-- Why a file gives no text: there is none of that name, or its path leads through another file (`notDirectory`), or it
is no file but a directory (`isDirectory`), or its bytes are no text. -/
inductive FileError where
  | notFound
  | notDirectory
  | isDirectory
  | nameTooLong
  | notText
  | other (reason : String)
deriving DecidableEq

def FileError.message : FileError → String
  | notFound => "No such file or directory (os error 2)"
  | notDirectory => "Not a directory (os error 20)"
  | isDirectory => "Is a directory (os error 21)"
  | nameTooLong => "File name too long (os error 36)"
  | notText => "stream did not contain valid UTF-8"
  | other reason => reason

/-- The files by their paths. -/
abbrev Files := String → Except FileError ByteArray

/-- What the program works on besides its arguments. -/
structure Surroundings where
  files : Files
  environment : String → Option String

/-- What the program writes besides log lines, and its exit code. -/
structure Output where
  code : UInt32
  stdout : String
  stderr : String
deriving DecidableEq

/-- A failure and the causes behind it, each one the cause of the one before. -/
structure Failure where
  message : String
  causes : List String
deriving DecidableEq

namespace Failure

/-- A text with its lines after the first indented. -/
def indentLines (indent : List Char) (text : String) : List Char :=
  text.toList.flatMap (fun c => if c = '\n' then '\n' :: indent else [c])

/-- One cause of several, by its number, which is right-aligned in five columns. -/
def numbered (cause : String) (index : Nat) : List Char :=
  let number := Numeral.ofNat index
  '\n' :: List.replicate (5 - number.length) ' ' ++ number ++ ':' :: ' '
    :: indentLines (List.replicate 7 ' ') cause

/-- What is told of a failure: its message and, after a blank line, its causes, numbered if there are several. -/
def text (f : Failure) : String :=
  let heading := ("Error: " ++ f.message).toList
  let causes := match f.causes with
    | [] => []
    | [cause] => "\n\nCaused by:\n    ".toList ++ indentLines (List.replicate 4 ' ') cause
    | causes => "\n\nCaused by:".toList ++ (causes.mapIdx (fun i c => numbered c i)).flatten
  String.ofList (heading ++ causes ++ ['\n'])

def output (f : Failure) : Output := ⟨1, "", f.text⟩

end Failure

/-- The text of a file. -/
def readText (files : Files) (path : String) : Except Failure String :=
  let failed (e : FileError) : Failure := ⟨"failed to read " ++ path, [e.message]⟩
  match files path with
  | .error e => .error (failed e)
  | .ok bytes =>
    match String.fromUTF8? bytes with
    | some text => .ok text
    | none => .error (failed .notText)

/-- The causes behind settings that cannot be used. -/
def settingsCauses (e : SettingsError) : List String :=
  match e with
  | .notJson => [e.message, Json.faultText]
  | _ => [e.message]

/-- The settings of a file, or the standard ones as the environment changes them. -/
def settings (s : Surroundings) : Option String → Except Failure Settings
  | some path => do
    let text ← readText s.files path
    match Settings.ofText text with
    | .ok settings => .ok settings
    | .error e => .error ⟨"invalid configuration in " ++ path, settingsCauses e⟩
  | none =>
    match Settings.standard.withEnvironment s.environment with
    | .ok settings => .ok settings
    | .error e => .error ⟨e.message, []⟩

/-- The ruleset with the settings of a file or of the environment. -/
def ruleset (s : Surroundings) (config : Option String) : Except Failure Ruleset := do
  match Ruleset.ofSettings (← settings s config) with
  | .ok rules => .ok rules
  | .error e => .error ⟨e.message, []⟩

/-- The form of a template, as indented JSON. -/
def extract (files : Files) (rules : Ruleset) (template : String) : Except Failure Output := do
  let body ← readText files template
  return ⟨0, (JsonForm.write (rules.formOf body)).indented ++ "\n", ""⟩

/-- A template filled from a file of values, or a line for each value that is not accepted. -/
def render (files : Files) (rules : Ruleset) (template data : String) : Except Failure Output := do
  let body ← readText files template
  let text ← readText files data
  match FormValues.ofText text with
  | .error fault => .error ⟨"invalid form data in " ++ data, [fault.message]⟩
  | .ok values =>
    let report := rules.report (rules.formOf body) values
    if report.isValid then return ⟨0, fill body report.data, ""⟩
    else return ⟨1, "", String.join (report.messages.map (· ++ "\n"))⟩

/-- The status after a change that the standard lifecycle permits, with its French name. -/
def transition (source target : String) : Except Failure Output :=
  match Status.ofName? source, Status.ofName? target with
  | none, _ => .error ⟨Status.unknownMessage source, []⟩
  | _, none => .error ⟨Status.unknownMessage target, []⟩
  | some source, some target =>
    if Lifecycle.standard.permits source target then
      .ok ⟨0, target.name ++ " (" ++ target.label ++ ")\n", ""⟩
    else .error ⟨Status.notPermittedMessage source target, []⟩

/-- The paths of the files that an invocation reads. -/
def Invocation.paths (i : Invocation) : List String :=
  i.config.toList ++ match i.command with
    | .extract template => [template]
    | .render template data => [template, data]
    | .transition .. => []

/-- What an invocation gives, or how it fails. -/
def Invocation.perform (i : Invocation) (s : Surroundings) : Except Failure Output := do
  let rules ← ruleset s i.config
  match i.command with
  | .extract template => extract s.files rules template
  | .render template data => render s.files rules template data
  | .transition source target => transition source target

/-- What an invocation writes. -/
def Invocation.run (i : Invocation) (s : Surroundings) : Output :=
  match i.perform s with
  | .ok output => output
  | .error failure => failure.output

/-- The version of the program. -/
def versionOutput : Output := ⟨0, "legaldocs 0.1.0\n", ""⟩

/-- The exit code when the arguments are used wrongly. -/
def usageCode : UInt32 := 2

/-- What is told when the arguments are used wrongly. -/
def usage : String :=
  "usage: legaldocs [--config FILE] extract TEMPLATE\n" ++
  "       legaldocs [--config FILE] render TEMPLATE --data FILE\n" ++
  "       legaldocs [--config FILE] transition FROM TO\n"

end Formulary.CommandLine
