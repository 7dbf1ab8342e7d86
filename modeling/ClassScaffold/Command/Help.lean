namespace ClassScaffold

/-- What help is asked for: the program, one of its commands, or help itself. Help on generating
tells the configuration that the environment names. -/
inductive HelpTopic where
  | program
  | check
  | generate (environment : Option String)
  | help
  deriving DecidableEq

namespace HelpTopic

def about : HelpTopic → String
  | .program => "Generate class sources from an object model"
  | .check => "Validate and resolve only, printing a summary"
  | .generate _ => "Validate, resolve and render every class node"
  | .help => "Print this message or the help of the given subcommand(s)"

def usage : HelpTopic → String
  | .program => "classgen <COMMAND>"
  | .check => "classgen check [OPTIONS]"
  | .generate _ => "classgen generate [OPTIONS]"
  | .help => "classgen help [COMMAND]..."

def helpEntry : String × String := ("-h, --help", "Print help")

def requestEntry : String × String :=
  ("-r, --request <REQUEST>", "JSON request file; \x60-\x60 reads stdin [default: -]")

def configEntry (environment : Option String) : String × String :=
  ("-c, --config <CONFIG>",
    "TOML file naming the template skeletons [env: CLASSGEN_CONFIG=" ++ environment.getD "" ++ "]")

def outputEntry : String × String :=
  ("-o, --output <OUTPUT>", "Where to write the id -> source JSON map; stdout when omitted")

/-- The sections after the usage: their heading, and entries with what these mean. -/
def sections : HelpTopic → List (String × List (String × String))
  | .program =>
    [("Commands",
      [("generate", about (.generate none)), ("check", about .check), ("help", about .help)]),
     ("Options", [helpEntry, ("-V, --version", "Print version")])]
  | .check => [("Options", [requestEntry, helpEntry])]
  | .generate environment =>
    [("Options", [requestEntry, configEntry environment, outputEntry, helpEntry])]
  | .help => [("Arguments", [("[COMMAND]...", "Print help for the subcommand(s)")])]

/-- A heading over entries. What they mean stands two columns behind the longest of them. -/
def sectionLines (heading : String) (entries : List (String × String)) : List String :=
  let width := (entries.map (·.1.length)).foldl max 0
  "" :: (heading ++ ":") :: entries.map fun (entry, meaning) =>
    "  " ++ entry.pushn ' ' (width - entry.length) ++ "  " ++ meaning

def text (topic : HelpTopic) : String :=
  "\n".intercalate (topic.about :: "" :: ("Usage: " ++ topic.usage) ::
    topic.sections.flatMap fun (heading, entries) => sectionLines heading entries)

end HelpTopic

end ClassScaffold
