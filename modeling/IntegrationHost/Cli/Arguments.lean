import IntegrationHost.Text.Search

/-!
# Arguments

The arguments of the command line: options, then a command, then the word of the command. An option
may stand behind two dashes, or behind one dash by its letter, and letters may share a dash. A value
that follows its option as an argument of its own is looked at when the next option, or the end, is
reached.
-/

namespace IntegrationHost.Cli

/-- What can be done. -/
inductive Command where
  | validate
  | describe
  | types
  deriving DecidableEq, Repr

/-- A command with its word, if it has one. -/
inductive Task where
  | validate (location : String)
  | describe (typeName : String)
  | types
  deriving DecidableEq, Repr

/-- What help can be about. -/
inductive Topic where
  | program
  | command (command : Command)
  | help
  deriving DecidableEq, Repr

/-- An option that has a value. -/
inductive Setting where
  | bootstrap
  | format
  deriving DecidableEq, Repr

/-- The options. -/
structure Options where
  /-- Where the settings are. -/
  bootstrap : Option String
  /-- How often more of a report was asked for. Answers do not depend on it. -/
  verbosity : Nat
  /-- How answers are written. -/
  format : Option String
  deriving DecidableEq, Repr

/-- What is asked for. -/
inductive Request where
  | run (options : Options) (task : Task)
  | help (topic : Topic)
  | version
  deriving DecidableEq, Repr

/-- Why arguments ask for nothing. -/
inductive UsageError where
  | missingCommand
  | unknownCommand (word : String)
  | missingWord (command : Command)
  | unexpected (argument : String)
  | unexpectedValue (flag value : String)
  | missingValue (setting : Setting)
  | repeated (setting : Setting)
  deriving DecidableEq, Repr

namespace Command

/-- All commands, in the order of the help text. -/
def all : List Command := [validate, describe, types]

/-- The word for a command. -/
def name : Command → String
  | validate => "validate"
  | describe => "describe"
  | types => "types"

/-- The command that a word stands for. -/
def ofName? (word : String) : Option Command := all.find? fun c => c.name == word

/-- How the word of a command is called. -/
def wordName? : Command → Option String
  | validate => some "LOCATION"
  | describe => some "TYPE_NAME"
  | types => none

/-- A command with the word that was given. -/
def task : Command → Option String → Except UsageError Task
  | validate, some location => .ok (.validate location)
  | describe, some typeName => .ok (.describe typeName)
  | types, _ => .ok .types
  | command, none => .error (.missingWord command)

end Command

namespace Options

/-- No options. -/
def none : Options := ⟨.none, 0, .none⟩

instance : Inhabited Options := ⟨none⟩

/-- Give an option its value. It has one only, and a path is never empty. -/
def set (o : Options) : Setting → String → Except UsageError Options
  | .bootstrap, value =>
    if o.bootstrap.isSome then .error (.repeated .bootstrap)
    else if value.isEmpty then .error (.missingValue .bootstrap)
    else .ok { o with bootstrap := some value }
  | .format, value =>
    if o.format.isSome then .error (.repeated .format) else .ok { o with format := some value }

end Options

/-- Options as far as they are read, with a value that was not yet looked at. -/
structure Draft where
  options : Options
  held : Option (Setting × String)

namespace Draft

/-- Nothing is read. -/
def empty : Draft := ⟨.none, .none⟩

/-- Look at the value that is held. -/
def settle (d : Draft) : Except UsageError Options :=
  match d.held with
  | some (setting, value) => d.options.set setting value
  | .none => .ok d.options

end Draft

/-- What an argument with options comes to. -/
inductive Step where
  | goOn (options : Options)
  /-- The next argument is the value of an option. -/
  | wants (setting : Setting) (options : Options)
  | stop (request : Request)
  deriving DecidableEq, Repr

/-- Options behind one dash. What stands behind the letter of an option with a value is that value.
-/
def readLetters (o : Options) : List Char → Except UsageError Step
  | [] => .ok (.goOn o)
  | 'v' :: rest => readLetters { o with verbosity := o.verbosity + 1 } rest
  | 'h' :: _ => .ok (.stop (.help .program))
  | 'V' :: _ => .ok (.stop .version)
  | ['b'] => .ok (.wants .bootstrap o)
  | 'b' :: '=' :: value => (o.set .bootstrap (String.ofList value)).map .goOn
  | 'b' :: value => (o.set .bootstrap (String.ofList value)).map .goOn
  | c :: _ => .error (.unexpected (String.ofList ['-', c]))

/-- An option behind two dashes, with its value if one is attached. -/
def readLong (o : Options) (name : String) : Option String → Except UsageError Step
  | .none =>
    match name with
    | "bootstrap" => .ok (.wants .bootstrap o)
    | "format" => .ok (.wants .format o)
    | "verbose" => .ok (.goOn { o with verbosity := o.verbosity + 1 })
    | "help" => .ok (.stop (.help .program))
    | "version" => .ok (.stop .version)
    | name => .error (.unexpected ("--" ++ name))
  | some value =>
    match name with
    | "bootstrap" => (o.set .bootstrap value).map .goOn
    | "format" => (o.set .format value).map .goOn
    | name =>
      if ["verbose", "help", "version"].contains name then
        .error (.unexpectedValue ("--" ++ name) value)
      else .error (.unexpected ("--" ++ name))

/-- Whether an argument holds options. A dash alone is a word. -/
def isOption (argument : String) : Bool := Text.startsWith argument "-" && argument != "-"

/-- Read an argument with options. -/
def readOption (o : Options) (argument : String) : Except UsageError Step :=
  match argument.toList with
  | '-' :: '-' :: long =>
    let name := String.ofList (long.takeWhile (· != '='))
    match long.dropWhile (· != '=') with
    | [] => readLong o name .none
    | _ :: value => readLong o name (some (String.ofList value))
  | _ :: letters => readLetters o letters
  | [] => .ok (.goOn o)

/-- Read what follows a command: at most one word, and a call for help. Behind two dashes there are
words only. -/
def readWord (c : Command) (d : Draft) (word : Option String) (escaped : Bool) :
    List String → Except UsageError Request
  | [] => do
    let task ← c.task word
    return .run (← d.settle) task
  | next :: rest =>
    if !escaped && next == "--" then readWord c d word true rest
    else if !escaped && (next == "--help" || Text.startsWith next "-h") then
      .ok (.help (.command c))
    else if !escaped && isOption next then .error (.unexpected next)
    else if c.wordName?.isSome && word.isNone then readWord c d (some next) escaped rest
    else .error (.unexpected next)

/-- Read what help is asked about. -/
def readTopic : List String → Except UsageError Request
  | [] => .ok (.help .program)
  | word :: rest =>
    match Command.ofName? word, rest with
    | some c, [] => .ok (.help (.command c))
    | .none, [] => if word == "help" then .ok (.help .help) else .error (.unknownCommand word)
    | _, next :: _ => .error (.unknownCommand next)

/-- Read arguments. -/
def readArguments (d : Draft) : List String → Except UsageError Request
  | [] => .error .missingCommand
  | "help" :: rest => readTopic rest
  | argument :: rest =>
    match Command.ofName? argument with
    | some c => readWord c d .none false rest
    | .none =>
      if argument == "--" then
        match rest with
        | [] => .error .missingCommand
        | word :: _ => .error (.unknownCommand word)
      else if !isOption argument then .error (.unknownCommand argument)
      else
        match d.settle.bind fun o => readOption o argument with
        | .error e => .error e
        | .ok (.stop request) => .ok request
        | .ok (.goOn o) => readArguments ⟨o, .none⟩ rest
        | .ok (.wants setting o) =>
          match rest with
          | [] => .error (.missingValue setting)
          | value :: rest =>
            if isOption value then .error (.missingValue setting)
            else readArguments ⟨o, some (setting, value)⟩ rest

/-- What arguments ask for. -/
def Request.ofArguments (arguments : List String) : Except UsageError Request :=
  readArguments .empty arguments

end IntegrationHost.Cli
