/-!
# Arguments

What the arguments of the command line ask for.  Options may stand before and after the other arguments; an argument
`--` ends them.  An option takes its value from the same argument, after an equals sign, or from the next one, which
must not look like an option.  The option `--config` may stand before and after the name of the command, and the latter
counts.
-/

namespace Formulary.CommandLine

/-- What the program is to do. -/
inductive Command where
  | extract (template : String)
  | render (template data : String)
  | transition (source target : String)
deriving DecidableEq

/-- A command and the settings file to work with, if one is given. -/
structure Invocation where
  config : Option String
  command : Command
deriving DecidableEq

/-- What the arguments ask for. -/
inductive Request where
  | version
  | run (invocation : Invocation)
deriving DecidableEq

/-- The options of the program. -/
inductive Flag where
  | config
  | data
deriving DecidableEq

def Flag.name : Flag → String
  | config => "--config"
  | data => "--data"

/-- Arguments that are taken for options: all that start with a hyphen, but not the hyphen alone. -/
def looksLikeOption (arg : String) : Bool :=
  match arg.toList with
  | '-' :: _ :: _ => true
  | _ => false

/-- The text after the equals sign in `--name=text`. -/
def inlineValue? (f : Flag) (arg : String) : Option String :=
  let start := (f.name ++ "=").toList
  if start.isPrefixOf arg.toList then some (String.ofList (arg.toList.drop start.length)) else none

/-- The values of the options and, in reverse, the other arguments. -/
structure Collected where
  config : Option String
  data : Option String
  others : List String

namespace Collected

def empty : Collected := ⟨none, none, []⟩

/-- The value of an option is set once, and it is not empty. -/
def set? (c : Collected) (f : Flag) (value : String) : Option Collected :=
  if value = "" then none
  else
    match f, c.config, c.data with
    | .config, none, _ => some { c with config := some value }
    | .data, _, none => some { c with data := some value }
    | _, _, _ => none

def add (c : Collected) (arg : String) : Collected := { c with others := arg :: c.others }

end Collected

/-- The arguments after the name of a command that takes some options. -/
def collect? (flags : List Flag) (c : Collected) : List String → Option Collected
  | [] => some c
  | arg :: rest =>
    if arg = "--" then some (rest.foldl Collected.add c)
    else
      match flags.find? (fun f => f.name = arg) with
      | some f =>
        match rest with
        | value :: rest =>
          if looksLikeOption value then none
          else do
            let c ← c.set? f value
            collect? flags c rest
        | [] => none
      | none =>
        match flags.findSome? (fun f => (inlineValue? f arg).map (f, ·)) with
        | some (f, value) => do
          let c ← c.set? f value
          collect? flags c rest
        | none => if looksLikeOption arg then none else collect? flags (c.add arg) rest

/-- The command of a given name with its arguments; paths are not empty. -/
def command? (name : String) (args : List String) : Option (Option String × Command) := do
  let flags := if name = "render" then [Flag.config, .data] else [.config]
  let c ← collect? flags .empty args
  match name, c.others.reverse, c.data with
  | "extract", [template], none => if template = "" then none else some (c.config, .extract template)
  | "render", [template], some data => if template = "" then none else some (c.config, .render template data)
  | "transition", [source, target], none => some (c.config, .transition source target)
  | _, _, _ => none

/-- What the arguments ask for, given the value of `--config` so far; none if they are used wrongly. -/
def requestWith? (config : Option String) : List String → Option Request
  | [] => none
  | arg :: rest =>
    if arg = "--version" ∨ "-V".toList.isPrefixOf arg.toList then some .version
    else if arg = "--config" then
      match config, rest with
      | none, value :: rest => if looksLikeOption value ∨ value = "" then none else requestWith? (some value) rest
      | _, _ => none
    else
      match inlineValue? .config arg with
      | some value => if config.isSome ∨ value = "" then none else requestWith? (some value) rest
      | none =>
        if looksLikeOption arg then none
        else (command? arg rest).map (fun (inner, command) => .run ⟨inner.or config, command⟩)

/-- What the arguments ask for; none if they are used wrongly. -/
def request? (args : List String) : Option Request := requestWith? none args

end Formulary.CommandLine
