/-!
**The words of a command line.**

Before the command come the options of the program; after it, those of the command.  Options of one
letter may share a word, and the path of the configuration may follow in the same word or in the next
one.  Words are read from left to right, and the first request for help or for the version wins over
everything that comes after it.

Main definitions:

* `Command`, `Invocation` — what is to be done;
* `Intent` — what a command line asks for;
* `UsageFault` — why a command line asks for nothing;
* `Intent.ofWords` — reading a command line.
-/

set_option autoImplicit false

namespace QueryFeed.CommandLine

/-! ### Intents -/

/-- The commands.  A run may be limited to one poll. -/
inductive Command where
  | run (once : Bool)
  | validate
  deriving DecidableEq

/-- What is to be done with which configuration. -/
structure Invocation where
  configPath : String
  verbose : Bool
  command : Command
  deriving DecidableEq

/-- What there is help on. -/
inductive Topic where
  | program
  | run
  | validate
  | help
  deriving DecidableEq

/-- What a command line asks for. -/
inductive Intent where
  | act (invocation : Invocation)
  | help (topic : Topic)
  | version
  deriving DecidableEq

/-- Why a command line asks for nothing. -/
inductive UsageFault where
  | unexpectedWord (word : String)
  | unknownCommand (word : String)
  | missingPath
  | unneededValue (option value : String)
  | repeatedOption (option : String)
  deriving DecidableEq

/-- Where the configuration is looked for if nothing is said about it. -/
def defaultConfigPath : String := "rowpoll.yaml"

/-- The topic of a command. -/
def Command.topic : Command → Topic
  | run _ => .run
  | validate => .validate

/-- The topic that a word after `help` names. -/
def Topic.ofName? : String → Option Topic
  | "run" => some .run
  | "validate" => some .validate
  | "help" => some .help
  | _ => none

/-! ### Options of the program -/

/-- The options that were read so far. -/
structure Options where
  configPath : Option String
  verbose : Bool
  deriving DecidableEq

namespace Options

/-- The options of a command line without any. -/
def standard : Options := ⟨none, false⟩

/-- The invocation of a command with these options. -/
def invocation (options : Options) (command : Command) : Invocation :=
  ⟨options.configPath.getD defaultConfigPath, options.verbose, command⟩

/-- Takes the path of the configuration, which is given once and is not empty. -/
def withPath (options : Options) (path : String) : Except UsageFault Options :=
  if path = "" then .error .missingPath
  else if options.configPath.isSome then .error (.repeatedOption "--config <CONFIG>")
  else .ok { options with configPath := some path }

/-- Takes the wish for more diagnostics, which is given once. -/
def withVerbose (options : Options) : Except UsageFault Options :=
  if options.verbose then .error (.repeatedOption "--verbose")
  else .ok { options with verbose := true }

end Options

/-- What a word before the command leads to. -/
inductive Reading where
  /-- More options. -/
  | options (options : Options)
  /-- The next word is the path of the configuration. -/
  | awaitsPath (options : Options)
  /-- Nothing else matters. -/
  | decided (intent : Intent)

/-- Reads the letters of a word that starts with one dash. -/
def readLetters (options : Options) : List Char → Except UsageFault Reading
  | [] => .ok (.options options)
  | 'v' :: letters => do
      let options ← options.withVerbose
      readLetters options letters
  | ['c'] => .ok (.awaitsPath options)
  | 'c' :: '=' :: path => (options.withPath (String.ofList path)).map .options
  | 'c' :: path => (options.withPath (String.ofList path)).map .options
  | 'h' :: _ => .ok (.decided (.help .program))
  | 'V' :: _ => .ok (.decided .version)
  | letter :: _ => .error (.unexpectedWord (String.ofList ['-', letter]))

/-- The value after the first equals sign of a long option, and the name before it. -/
def splitOption (text : List Char) : List Char × Option String :=
  match text.dropWhile (· != '=') with
  | [] => (text, none)
  | _ :: value => (text.takeWhile (· != '='), some (String.ofList value))

/-- Reads a word that starts with two dashes. -/
def readLong (options : Options) (text : List Char) : Except UsageFault Reading :=
  let (name, value) := splitOption text
  match String.ofList name, value with
  | "config", none => .ok (.awaitsPath options)
  | "config", some path => (options.withPath path).map .options
  | "verbose", none => options.withVerbose.map .options
  | "help", none => .ok (.decided (.help .program))
  | "version", none => .ok (.decided .version)
  | option, some value =>
      if ["verbose", "help", "version"].contains option then
        .error (.unneededValue ("--" ++ option) value)
      else .error (.unexpectedWord ("--" ++ option))
  | option, none => .error (.unexpectedWord ("--" ++ option))

/-! ### Commands -/

/-- Gives the intent if no word is left. -/
def endOfWords (intent : Intent) : List String → Except UsageFault Intent
  | [] => .ok intent
  | word :: _ => .error (.unexpectedWord word)

/-- Reads the words after a command. -/
def readCommand (options : Options) (command : Command) : List String → Except UsageFault Intent
  | [] => .ok (.act (options.invocation command))
  | "--" :: words => endOfWords (.act (options.invocation command)) words
  | "--once" :: words =>
      match command with
      | .run false => readCommand options (.run true) words
      | .run true => .error (.repeatedOption "--once")
      | .validate => .error (.unexpectedWord "--once")
  | word :: _ =>
      if word = "--help" ∨ "-h".isPrefixOf word then .ok (.help command.topic)
      else .error (.unexpectedWord word)

/-- Reads the words after `help`. -/
def readHelp : List String → Except UsageFault Intent
  | [] => .ok (.help .program)
  | word :: words =>
      match Topic.ofName? word, words with
      | some topic, [] => .ok (.help topic)
      | some _, other :: _ => .error (.unknownCommand other)
      | none, _ => .error (.unknownCommand word)

/-! ### Command lines -/

/-- Whether a word is read as options; a lone dash is not. -/
def isOption (word : String) : Bool := word ≠ "-" && "-".isPrefixOf word

/-- Reads the words before the command and then the command; `awaitsPath` tells that the next word is
the path of the configuration. -/
def readWords (options : Options) (awaitsPath : Bool) : List String → Except UsageFault Intent
  | [] => if awaitsPath then .error .missingPath else .ok (.act (options.invocation (.run false)))
  | word :: words => do
      if awaitsPath then
        if isOption word then throw .missingPath
        let options ← options.withPath word
        readWords options false words
      else if isOption word then
        let reading ←
          match word.toList with
          | ['-', '-'] => (endOfWords (.act (options.invocation (.run false))) words).map .decided
          | '-' :: '-' :: text => readLong options text
          | letters => readLetters options letters.tail
        match reading with
        | .options options => readWords options false words
        | .awaitsPath options => readWords options true words
        | .decided intent => return intent
      else
        match word with
        | "run" => readCommand options (.run false) words
        | "validate" => readCommand options .validate words
        | "help" => readHelp words
        | _ => throw (.unknownCommand word)

/-- Reads a command line.  Without a command, a run is meant. -/
def Intent.ofWords (words : List String) : Except UsageFault Intent := readWords .standard false words

end QueryFeed.CommandLine
