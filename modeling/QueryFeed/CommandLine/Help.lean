import QueryFeed.CommandLine.Arguments

/-!
**What the program says about itself.**

Main definitions: `Topic.text`, `versionText`, `UsageFault.message`.
-/

set_option autoImplicit false

namespace QueryFeed.CommandLine

/-- The name and the version of the program. -/
def versionText : String := "rowpoll 0.1.0\n"

namespace Topic

/-- What a topic is about. -/
def about : Topic → String
  | program => "Poll a SQL query and emit each row as a JSON message"
  | run => "Poll the configured query and print messages (default)"
  | validate => "Validate configuration file"
  | help => "Print this message or the help of the given subcommand(s)"

/-- How the command line of a topic looks. -/
def usage : Topic → String
  | program => "rowpoll [OPTIONS] [COMMAND]"
  | run => "rowpoll run [OPTIONS]"
  | validate => "rowpoll validate"
  | help => "rowpoll help [COMMAND]..."

/-- The commands and options of a topic. -/
def details : Topic → List String
  | program =>
      ["Commands:",
        "  run       " ++ run.about,
        "  validate  " ++ validate.about,
        "  help      " ++ help.about,
        "",
        "Options:",
        "  -c, --config <CONFIG>  Path to configuration file [default: " ++ defaultConfigPath ++ "]",
        "  -v, --verbose          Enable verbose logging",
        "  -h, --help             Print help",
        "  -V, --version          Print version"]
  | run =>
      ["Options:",
        "      --once  Poll once and exit",
        "  -h, --help  Print help"]
  | validate =>
      ["Options:",
        "  -h, --help  Print help"]
  | help =>
      ["Arguments:",
        "  [COMMAND]...  Print help for the subcommand(s)"]

/-- The help on a topic. -/
def text (topic : Topic) : String :=
  String.join (([topic.about, "", "Usage: " ++ topic.usage, ""] ++ topic.details).map (· ++ "\n"))

end Topic

/-- The wording of a fault. -/
def UsageFault.message : UsageFault → String
  | unexpectedWord word => "unexpected argument '" ++ word ++ "' found"
  | unknownCommand word => "unrecognized subcommand '" ++ word ++ "'"
  | missingPath => "a value is required for '--config <CONFIG>' but none was supplied"
  | unneededValue option value =>
      "unexpected value '" ++ value ++ "' for '" ++ option ++ "' found; no more were expected"
  | repeatedOption option => "the argument '" ++ option ++ "' cannot be used multiple times"

end QueryFeed.CommandLine
