/-!
# Arguments of the command

The arguments are options and the words of a statement, in any order.  An
option with a value takes the next argument, the text after an equals sign, or
for a one-letter name the rest of its argument.  Every option may be given
once, no value may be empty, and what looks like an option is never a value or
a word unless a double dash stands before it.  Anything else is a misuse; the
first of a misuse and a request for help decides.
-/

namespace KeyJoin

structure CommandOptions where
  words : List String := []
  settingsFile : Option String := none
  engine : Option String := none
  scriptFile : Option String := none
  json : Bool := false
  noPassthrough : Bool := false
  commaJoin : Bool := false
  deriving DecidableEq, Repr

inductive CommandRequest
  | run (options : CommandOptions)
  | help
  | misuse
  deriving DecidableEq, Repr

inductive OptionName
  | settingsFile
  | engine
  | scriptFile
  | json
  | noPassthrough
  | commaJoin
  | help
  deriving DecidableEq, Repr

def OptionName.takesValue : OptionName → Bool
  | settingsFile | engine | scriptFile => true
  | json | noPassthrough | commaJoin | help => false

def longOption? : String → Option OptionName
  | "config" => some .settingsFile
  | "engine" => some .engine
  | "rewrite-file" => some .scriptFile
  | "json" => some .json
  | "no-passthrough" => some .noPassthrough
  | "rewrite" => some .commaJoin
  | "help" => some .help
  | _ => none

def shortOption? : Char → Option OptionName
  | 'c' => some .settingsFile
  | 'e' => some .engine
  | 'h' => some .help
  | _ => none

/-- Sets a value, which must not be empty or set before. -/
def CommandOptions.setValue (options : CommandOptions) (name : OptionName) (value : String) :
    Option CommandOptions :=
  if value.isEmpty then none
  else
    match name with
    | .settingsFile =>
      if options.settingsFile.isSome then none
      else some { options with settingsFile := some value }
    | .engine =>
      if options.engine.isSome then none else some { options with engine := some value }
    | .scriptFile =>
      if options.scriptFile.isSome then none else some { options with scriptFile := some value }
    | _ => none

def CommandOptions.setFlag (options : CommandOptions) (name : OptionName) :
    Option CommandOptions :=
  match name with
  | .json => if options.json then none else some { options with json := true }
  | .noPassthrough =>
    if options.noPassthrough then none else some { options with noPassthrough := true }
  | .commaJoin => if options.commaJoin then none else some { options with commaJoin := true }
  | _ => none

def CommandOptions.addWords (options : CommandOptions) (words : List String) : CommandOptions :=
  { options with words := options.words ++ words }

/-- What an argument is by its look. -/
inductive ArgumentLook
  | word
  | doubleDash
  | long (name : String) (value : Option String)
  | short (letter : Char) (rest : List Char)

def argumentLook (argument : String) : ArgumentLook :=
  match argument.toList with
  | ['-', '-'] => .doubleDash
  | '-' :: '-' :: text =>
    match text.dropWhile (· != '=') with
    | [] => .long (String.ofList text) none
    | _ :: value => .long (String.ofList (text.takeWhile (· != '='))) (some (String.ofList value))
  | '-' :: letter :: rest => .short letter rest
  | _ => .word

/-- The name that an argument gives and the value attached to it. -/
def namedOption? (argument : String) : Option (OptionName × Option String) :=
  match argumentLook argument with
  | .long name value => (longOption? name).map (·, value)
  | .short letter rest =>
    (shortOption? letter).map fun name =>
      (name,
        match rest with
        | [] => none
        | '=' :: value => some (String.ofList value)
        | _ => some (String.ofList rest))
  | _ => none

def isWord (argument : String) : Bool :=
  match argumentLook argument with
  | .word => true
  | _ => false

/-- Whether an argument is a one-letter request for help, with which others may be joined. -/
def isShortHelp (argument : String) : Bool :=
  match argumentLook argument with
  | .short 'h' _ => true
  | _ => false

def readArguments (options : CommandOptions) : List String → CommandRequest
  | [] => .run options
  | argument :: rest =>
    if isWord argument then readArguments (options.addWords [argument]) rest
    else if argument = "--" then .run (options.addWords rest)
    else if isShortHelp argument then .help
    else
      match namedOption? argument, rest with
      | none, _ => .misuse
      | some (name, some value), rest =>
        match options.setValue name value with
        | some options => readArguments options rest
        | none => .misuse
      | some (.help, none), _ => .help
      | some (name, none), [] =>
        match options.setFlag name with
        | some options => .run options
        | none => .misuse
      | some (name, none), value :: rest =>
        if name.takesValue then
          if isWord value then
            match options.setValue name value with
            | some options => readArguments options rest
            | none => .misuse
          else .misuse
        else
          match options.setFlag name with
          | some options => readArguments options (value :: rest)
          | none => .misuse

def commandRequest (arguments : List String) : CommandRequest :=
  readArguments {} arguments

end KeyJoin
