/-
Options on a command line.  A long option is written `--name value` or `--name=value`; a short one `-n value`,
`-nvalue` or `-n=value`, and short flags can be written together.  Two dashes end the options, and what remains are
words.  A value that stands by itself must not look like an option; no option but a repeatable one is given twice.
-/
namespace TaskTail.CommandLine

structure OptionSpec where
  long : String
  short : Option Char
  takesValue : Bool
  repeatable : Bool
  deriving Repr

def OptionSpec.valued (long : String) (short : Option Char) : OptionSpec :=
  ⟨long, short, true, false⟩

def OptionSpec.flag (long : String) (short : Option Char) : OptionSpec :=
  ⟨long, short, false, false⟩

/-- Why a command line is not carried out. -/
inductive Refusal
  /-- Help was asked for. -/
  | help
  | misuse
  deriving DecidableEq, Repr

/-- An option as it was given; flags have an empty value. -/
structure Given where
  option : OptionSpec
  value : String
  deriving Repr

/-- What stands on a command line, read up to a word that ends it. -/
structure Reading where
  given : List Given
  /-- The words among the options. -/
  words : List String
  /-- The arguments from the word on that ended the reading. -/
  rest : List String

/-- The option that every command knows. -/
def helpOption : OptionSpec := .flag "help" (some 'h')

/-- The state after a group of short options: complete, or waiting for the value of the last one. -/
inductive ShortGroup
  | complete (given : List Given)
  | waiting (given : List Given) (option : OptionSpec)

/-- The value that follows a short option in the same argument. -/
def attachedValue : List Char → String
  | '=' :: cs => .ofList cs
  | cs => .ofList cs

/-- Reads the letters after a single dash. -/
def readShort (specs : List OptionSpec) : List Char → Except Refusal ShortGroup
  | [] => .ok (.complete [])
  | c :: cs =>
    match specs.find? (·.short = some c) with
    | none => .error (if c = 'h' then .help else .misuse)
    | some option =>
      if option.takesValue then
        .ok (if cs.isEmpty then .waiting [] option else .complete [⟨option, attachedValue cs⟩])
      else
        match readShort specs cs with
        | .error refusal => .error refusal
        | .ok (.complete given) => .ok (.complete (⟨option, ""⟩ :: given))
        | .ok (.waiting given last) => .ok (.waiting (⟨option, ""⟩ :: given) last)

def splitLong : List Char → List Char × Option (List Char)
  | [] => ([], none)
  | c :: cs => if c = '=' then ([], some cs) else ((c :: (splitLong cs).1), (splitLong cs).2)

/-- Reads what follows two dashes. -/
def readLong (specs : List OptionSpec) (text : List Char) : Except Refusal ShortGroup :=
  let (name, value) := splitLong text
  match specs.find? (·.long.toList = name), value with
  | none, _ => .error (if name = helpOption.long.toList && value.isNone then .help else .misuse)
  | some option, some value =>
    if option.takesValue then .ok (.complete [⟨option, .ofList value⟩]) else .error .misuse
  | some option, none => .ok (if option.takesValue then .waiting [] option else .complete [⟨option, ""⟩])

/-- Whether an argument looks like an option; a single dash does not. -/
def looksLikeOption (argument : String) : Bool :=
  argument.startsWith "-" && argument != "-"

/-- The reading with further options in front. -/
def Reading.after (r : Reading) (given : List Given) : Reading :=
  { r with given := given ++ r.given }

/-- Reads a command line.  When `stopAtWord`, the first word that is not an option ends the reading. -/
def readArguments (specs : List OptionSpec) (stopAtWord : Bool) : List String → Except Refusal Reading
  | [] => .ok ⟨[], [], []⟩
  | argument :: rest =>
    if argument = "--" then .ok ⟨[], rest, []⟩
    else if looksLikeOption argument then
      let group := if argument.startsWith "--" then readLong specs (argument.toList.drop 2)
        else readShort specs (argument.toList.drop 1)
      match group, rest with
      | .error refusal, _ => .error refusal
      | .ok (.complete given), rest => (readArguments specs stopAtWord rest).map (·.after given)
      | .ok (.waiting _ _), [] => .error .misuse
      | .ok (.waiting given option), value :: rest =>
        if looksLikeOption value then .error .misuse
        else (readArguments specs stopAtWord rest).map (·.after (given ++ [⟨option, value⟩]))
    else if stopAtWord then .ok ⟨[], [], argument :: rest⟩
    else (readArguments specs stopAtWord rest).map fun r => { r with words := argument :: r.words }

/-- Whether no option but a repeatable one is given twice. -/
def noneRepeated : List Given → Bool
  | [] => true
  | g :: rest =>
    (g.option.repeatable || rest.all fun other => other.option.long ≠ g.option.long) && noneRepeated rest

/-- Reads a command line and checks that its options are not repeated. -/
def read (specs : List OptionSpec) (stopAtWord : Bool) (arguments : List String) : Except Refusal Reading := do
  let reading ← readArguments specs stopAtWord arguments
  if noneRepeated reading.given then .ok reading else .error .misuse

namespace Reading

/-- The values of an option, in the order in which they were given. -/
def values (r : Reading) (long : String) : List String :=
  (r.given.filter (·.option.long = long)).map Given.value

/-- The value of an option that was given at most once. -/
def value? (r : Reading) (long : String) : Option String :=
  (r.values long).head?

def has (r : Reading) (long : String) : Bool :=
  (r.value? long).isSome

/-- The value of an option as `parse` understands it, or a default when it was not given. -/
def parsed {α : Type} (r : Reading) (long : String) (default : α) (parse : String → Option α) : Except Refusal α :=
  match r.value? long with
  | none => .ok default
  | some value =>
    match parse value with
    | some parsed => .ok parsed
    | none => .error .misuse

end Reading

end TaskTail.CommandLine
