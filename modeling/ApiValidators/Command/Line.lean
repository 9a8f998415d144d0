import ApiValidators.Options
import ApiValidators.Settings

/-!
# The command line

Arguments are options, with one letter or a whole name, and their values. Letters may stand together behind one hyphen,
and a value may be joined to its option. No option may be given twice, and nothing else may be on the line.
-/

namespace ApiValidators.Command

/-- What a command line asks for. -/
inductive Request where
  | generate (config : Option String) (overrides : Overrides)
  | check (input : String)
  | version
  | help
  deriving Repr, DecidableEq

inductive Flag where
  | verbose
  | version
  | help
  | input
  | output
  | components
  | paths
  | queries
  | nullableMode
  | noBanners
  | config
  deriving Repr, DecidableEq

namespace Flag

def name : Flag → String
  | verbose => "verbose"
  | version => "version"
  | help => "help"
  | input => "input"
  | output => "output"
  | components => "components"
  | paths => "paths"
  | queries => "queries"
  | nullableMode => "nullable-mode"
  | noBanners => "no-banners"
  | config => "config"

def letter? : Flag → Option Char
  | verbose => some 'v'
  | version => some 'V'
  | help => some 'h'
  | input => some 'i'
  | output => some 'o'
  | components => some 'c'
  | paths => some 'p'
  | queries => some 'q'
  | _ => none

def hasValue : Flag → Bool
  | input | output | nullableMode | config => true
  | _ => false

/-- Whether a value fits. Paths must not be empty. -/
def fits (flag : Flag) (value : String) : Bool :=
  if flag = nullableMode then (NullableMode.ofName? value).isSome else !value.isEmpty

end Flag

inductive Verb where
  | generate
  | check
  | help
  deriving Repr, DecidableEq

namespace Verb

def ofName? : String → Option Verb
  | "generate" => some generate
  | "check" => some check
  | "help" => some help
  | _ => none

def flagsBefore : List Flag := [.verbose, .version, .help]

def flags : Verb → List Flag
  | generate =>
    [.verbose, .help, .input, .output, .components, .paths, .queries, .nullableMode, .noBanners, .config]
  | check => [.verbose, .help, .input]
  | help => []

end Verb

/-! ## Reading arguments -/

/-- Options that have been given, with their values. -/
abbrev Given := List (Flag × String)

/-- Why reading stops before the end. -/
inductive Stop where
  | misuse
  /-- The option asks for something else than a command. -/
  | instead (request : Request)
  deriving Repr, DecidableEq

/-- An option with its value is given; one that has none comes with the empty value. -/
def note (flag : Flag) (value : String) (given : Given) : Except Stop Given :=
  if flag = .version then .error (.instead .version)
  else if flag = .help then .error (.instead .help)
  else if (given.lookup flag).isSome || (flag.hasValue && !flag.fits value) then .error .misuse
  else .ok ((flag, value) :: given)

/-- What an argument leaves: the options given, and one that still needs its value. -/
abbrev Pending := Given × Option Flag

/-- The value that is joined to an option: without the equals sign, if it starts with one. -/
def joined (rest : List Char) : String :=
  String.ofList (if rest.head? == some '=' then rest.drop 1 else rest)

/-- The letters behind one hyphen. The first option with a value takes what follows it. -/
def letters (flags : List Flag) (given : Given) : List Char → Except Stop Pending
  | [] => .ok (given, none)
  | c :: rest =>
    match flags.find? fun flag => flag.letter? == some c with
    | none => .error .misuse
    | some flag =>
      if flag.hasValue then
        if rest.isEmpty then .ok (given, some flag) else (note flag (joined rest) given).map (·, none)
      else do letters flags (← note flag "" given) rest

/-- The name behind two hyphens, and perhaps a value behind an equals sign. -/
def named (flags : List Flag) (given : Given) (text : List Char) : Except Stop Pending :=
  let name := text.takeWhile (· != '=')
  let value := text.drop name.length
  match flags.find? fun flag => flag.name.toList == name with
  | none => .error .misuse
  | some flag =>
    match flag.hasValue, value.isEmpty with
    | true, true => .ok (given, some flag)
    | true, false => (note flag (joined value) given).map (·, none)
    | false, true => (note flag "" given).map (·, none)
    | false, false => .error .misuse

/-- Whether an argument starts with hyphens that mark options. -/
def isOption (argument : List Char) : Bool := argument.head? == some '-' && argument.length > 1

def optionArgument (flags : List Flag) (given : Given) : List Char → Except Stop Pending
  | '-' :: '-' :: text => named flags given text
  | text => letters flags given (text.drop 1)

/-- The options from here on. `waiting` is an option that still needs its value; two hyphens alone may end the line. -/
def options (flags : List Flag) : (waiting : Option Flag) → Given → List String → Except Stop Given
  | none, given, [] => .ok given
  | none, given, ["--"] => .ok given
  | some _, _, [] => .error .misuse
  | some flag, given, argument :: rest =>
    if isOption argument.toList then .error .misuse
    else do options flags none (← note flag argument given) rest
  | none, given, argument :: rest =>
    if isOption argument.toList then do
      let (given, waiting) ← optionArgument flags given argument.toList
      options flags waiting given rest
    else .error .misuse

def request (verb : Verb) (given : Given) : Except Stop Request :=
  let has (flag : Flag) : Bool := (given.lookup flag).isSome
  match verb with
  | .generate =>
    .ok (.generate (given.lookup .config) {
      input := given.lookup .input
      output := given.lookup .output
      components := has .components
      paths := has .paths
      queries := has .queries
      mode := (given.lookup .nullableMode).bind NullableMode.ofName?
      noBanners := has .noBanners })
  | .check => (given.lookup .input).elim (.error .misuse) fun input => .ok (.check input)
  | .help => .ok .help

/-- Asking for help on a verb, or on nothing in particular. -/
def helpOn : List String → Except Stop Request
  | [] => .ok .help
  | word :: rest => if (Verb.ofName? word).isSome && rest.isEmpty then .ok .help else .error .misuse

/-- What the arguments from here on ask for, given the options in front of them. -/
def parseFrom (given : Given) : List String → Except Stop Request
  | [] => .error .misuse
  | argument :: rest =>
    match Verb.ofName? argument with
    | some .help => helpOn rest
    | some verb => do request verb (← options verb.flags none [] rest)
    | none =>
      if isOption argument.toList && argument != "--" then do
        let (given, _) ← optionArgument Verb.flagsBefore given argument.toList
        parseFrom given rest
      else .error .misuse

/-- What a command line asks for; `none` if it is not used as it should be. -/
def parse? (arguments : List String) : Option Request :=
  match parseFrom [] arguments with
  | .ok request => some request
  | .error (.instead request) => some request
  | .error .misuse => none

end ApiValidators.Command
