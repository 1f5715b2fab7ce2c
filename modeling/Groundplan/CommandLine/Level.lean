import Groundplan.CommandLine.Parameter

/-!
# Levels of the command line

A command line has two levels: what stands before the name of a command, and what follows it.  Each
level knows some parameters.  Reading a level goes from left to right; an option waits for the argument
that follows it, and what was given is checked when the next parameter begins or the level ends, so
that the first fault from the left wins.
-/

namespace Groundplan.CommandLine

/-- The names of commands. -/
inductive CommandName where
  | convert
  | dialects
  | init
  | validate
  | help
  deriving DecidableEq, Repr

/-- The command of a name. -/
def CommandName.ofName? : String → Option CommandName
  | "convert" | "c" => some convert
  | "dialects" => some dialects
  | "init" => some init
  | "validate" => some validate
  | "help" => some help
  | _ => none

/-- What a level knows. -/
structure Level where
  options : List Parameter
  /-- What arguments without dashes are. -/
  positional : Option Parameter := none
  /-- Whether arguments without dashes name commands. -/
  hasCommands : Bool := false

namespace Level

/-- The level before a command. -/
def top : Level :=
  { options := [.config, .verbose, .quiet, .help, .version], hasCommands := true }

/-- The level after a command; `validate` takes its file as an argument only. -/
def ofCommand : CommandName → Level
  | .convert =>
    { options := [.config, .verbose, .quiet, .help, .format, .output, .dialect, .dialectVersion,
        .exclude, .maxDepth, .maxNestingDepth, .failFast]
      positional := some .paths }
  | .validate => { options := [.verbose, .quiet, .help], positional := some .file }
  | .dialects | .init | .help => { options := [.config, .verbose, .quiet, .help] }

/-- The option of a name. -/
def long? (l : Level) (name : String) : Option Parameter :=
  l.options.find? (·.long? == some name)

/-- The option of a letter. -/
def short? (l : Level) (c : Char) : Option Parameter := l.options.find? (·.short? == some c)

end Level

/-! ### What was given -/

/-- The parameters that were given, in order, each with its values. -/
abbrev Given := List (Parameter × List String)

namespace Given

/-- Whether a parameter was given. -/
def has (g : Given) (p : Parameter) : Bool := g.any (·.1 == p)

/-- How often a parameter was given. -/
def count (g : Given) (p : Parameter) : Nat := (g.filter (·.1 == p)).length

/-- All values of a parameter. -/
def values (g : Given) (p : Parameter) : List String := (g.filter (·.1 == p)).flatMap (·.2)

/-- The value of a parameter. -/
def value? (g : Given) (p : Parameter) : Option String := (g.values p).head?

/-- What was given with one parameter more. -/
def add (g : Given) (p : Parameter) (values : List String) : Except Refusal Given :=
  if p = .help then .error .help
  else if p = .version then .error .version
  else
    match p.value? with
    | none => if g.has p && !p.repeats then .error (.repeated p) else .ok (g ++ [(p, [])])
    | some kind =>
      if values.isEmpty then .error (.valueInvalid p)
      else if g.has p && !p.repeats then .error (.repeated p)
      else if values.all kind.accepts then .ok (g ++ [(p, values)])
      else .error p.refuse

end Given

/-! ### Reading a level -/

/-- How far a level has been read. -/
structure Progress where
  given : Given := []
  /-- What was begun last, with the values that it has so far. -/
  pending : Option (Parameter × List String) := none
  /-- Whether two dashes have ended the options. -/
  ended : Bool := false

namespace Progress

/-- Whether an option waits for its value. -/
def isWaiting (s : Progress) : Bool :=
  match s.pending with
  | some (_, []) => true
  | _ => false

/-- Checks what was begun. -/
def settle (s : Progress) : Except Refusal Progress :=
  match s.pending with
  | none => .ok s
  | some (p, values) => (fun given => { s with given, pending := none }) <$> s.given.add p values

/-- Begins an option that waits for its value. -/
def start (s : Progress) (p : Parameter) (values : List String := []) : Except Refusal Progress :=
  (fun s => { s with pending := some (p, values) }) <$> s.settle

/-- Takes a parameter with all its values. -/
def take (s : Progress) (p : Parameter) (values : List String) : Except Refusal Progress := do
  let s ← s.settle
  let given ← s.given.add p values
  return { s with given }

/-- Takes an option that is written with its name. -/
def takeLong (l : Level) (s : Progress) (argument : String) (name : String)
    (value : Option String) : Except Refusal Progress :=
  match l.long? name with
  | none => .error (.argumentUnknown argument)
  | some p =>
    match p.value?, value with
    | none, none => s.take p []
    | none, some _ => .error (.valueUnneeded p)
    | some _, none => s.start p
    | some _, some value => s.take p [value]

/-- Takes options that are written with their letters; what follows the letter of an option that takes
a value is that value, with or without an equals sign before it. -/
def takeShort (l : Level) (s : Progress) (argument : String) :
    List Char → Except Refusal Progress
  | [] => .ok s
  | c :: rest =>
    match l.short? c with
    | none => .error (.argumentUnknown argument)
    | some p =>
      if p.value?.isNone then do
        let s ← s.take p []
        takeShort l s argument rest
      else
        match rest with
        | [] => s.start p
        | '=' :: value => s.take p [String.ofList value]
        | value => s.take p [String.ofList value]

/-- Whether a parameter has been given or begun. -/
def has (s : Progress) (p : Parameter) : Bool :=
  s.given.has p || s.pending.any (·.1 == p)

/-- The refusal of an argument that no place is left for. -/
def refuse (l : Level) (s : Progress) (argument : String) : Refusal :=
  if !l.hasCommands || (s.ended && (CommandName.ofName? argument).isSome) then
    .argumentUnknown argument
  else .commandUnknown argument

/-- Takes a positional argument; those that stand side by side are checked together. -/
def takePositional (l : Level) (s : Progress) (argument : String) : Except Refusal Progress :=
  match l.positional with
  | none => .error (s.refuse l argument)
  | some p =>
    match s.pending with
    | some (q, values) =>
      if p = q ∧ p.repeats then .ok { s with pending := some (p, values ++ [argument]) }
      else if s.has p && !p.repeats then .error (s.refuse l argument)
      else s.start p [argument]
    | none =>
      if s.has p && !p.repeats then .error (s.refuse l argument) else s.start p [argument]

/-- Takes an argument without dashes. -/
def takePlain (l : Level) (s : Progress) (argument : String) : Except Refusal Progress :=
  match s.pending with
  | some (p, []) => .ok { s with pending := some (p, [argument]) }
  | _ => s.takePositional l argument

/-- The text before the first equals sign and the one after it. -/
def splitValue (text : List Char) : String × Option String :=
  (String.ofList (text.takeWhile (· != '=')),
    match text.dropWhile (· != '=') with
    | [] => none
    | _ :: value => some (String.ofList value))

/-- Takes an argument that names no command. -/
def takeArgument (l : Level) (s : Progress) (argument : String) : Except Refusal Progress :=
  if s.ended then s.takePositional l argument
  else
    match argument.toList with
    | ['-', '-'] => .ok { s with ended := true }
    | '-' :: '-' :: text =>
      let (name, value) := splitValue text
      s.takeLong l argument name value
    | ['-'] => s.takePlain l argument
    | '-' :: letters => s.takeShort l argument letters
    | _ => s.takePlain l argument

/-- The command that an argument names where commands are known. -/
def command? (l : Level) (s : Progress) (argument : String) : Option CommandName :=
  if l.hasCommands && !s.ended && !s.isWaiting then CommandName.ofName? argument else none

/-- Reads a level up to the name of a command, and what follows that name. -/
def read (l : Level) (s : Progress) :
    List String → Except Refusal (Progress × Option (CommandName × List String))
  | [] => .ok (s, none)
  | argument :: rest =>
    match s.command? l argument with
    | some name => .ok (s, some (name, rest))
    | none => do
      let s ← s.takeArgument l argument
      read l s rest

end Progress
end Groundplan.CommandLine
