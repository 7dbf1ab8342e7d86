import ClassScaffold.Command.Help
import ClassScaffold.Config.FileTree

namespace ClassScaffold

/-- A request to check a diagram, to generate sources from one, to tell the version or to help. -/
inductive Command where
  | version
  | help (topic : HelpTopic)
  | check (request : String)
  | generate (request : String) (config output : Option String)
  deriving DecidableEq

inductive Flag where
  | request
  | config
  | output
  deriving DecidableEq

namespace Flag

def long : Flag → String
  | .request => "request"
  | .config => "config"
  | .output => "output"

def short : Flag → Char
  | .request => 'r'
  | .config => 'c'
  | .output => 'o'

end Flag

/-- A value that is not attached to its flag may not look like a flag. -/
def isDetachedValue (s : String) : Bool :=
  s = "-" || s.toList.head? != some '-'

/-- The flag that an argument names among the known ones, and the value attached to it. -/
def readFlag (known : List Flag) (argument : String) : Option (Flag × Option String) :=
  match argument.toList with
  | '-' :: '-' :: name =>
    let value := name.dropWhile (· != '=')
    (known.find? fun f => f.long.toList == name.takeWhile (· != '=')).map fun f =>
      (f, if value.isEmpty then none else some (String.ofList (value.drop 1)))
  | '-' :: c :: value =>
    (known.find? fun f => f.short == c).map fun f =>
      (f, match value with
        | [] => none
        | '=' :: value => some (String.ofList value)
        | value => some (String.ofList value))
  | _ => none

/-- The flags with their values. Every value has at least one character. -/
def readFlags (known : List Flag) : List String → Option (List (Flag × String))
  | [] => some []
  | ["--"] => some []
  | argument :: rest =>
    match readFlag known argument with
    | none => none
    | some (flag, some value) =>
      if value.isEmpty then none else (readFlags known rest).map ((flag, value) :: ·)
    | some (flag, none) =>
      match rest with
      | value :: rest =>
        if value.isEmpty || !isDetachedValue value then none
        else (readFlags known rest).map ((flag, value) :: ·)
      | [] => none

/-- The value of a flag that is given at most once; `none` outside when it is repeated. -/
def flagValue? (flags : List (Flag × String)) (flag : Flag) : Option (Option String) :=
  match flags.filter (·.1 == flag) with
  | [] => some none
  | [(_, value)] => some (some value)
  | _ => none

def stdinPath : String := "-"

/-- Whether a path names standard input, where slashes and steps that stay where they are do not
count behind the name. -/
def isStdin (path : String) : Bool :=
  match path.toList with
  | '-' :: rest =>
    (rest.isEmpty || rest.head? == some '/') &&
      (splitSlashes [] rest).all fun step => step == "" || step == "."
  | _ => false

/-- Whether the argument starts with the short flag that asks for the version. -/
def asksForVersion (argument : String) : Bool :=
  "-V".toList.isPrefixOf argument.toList

def asksForHelp (argument : String) : Bool :=
  argument == "--help" || "-h".toList.isPrefixOf argument.toList

/-- The topics that the arguments of `help` lead to, one word at most. -/
def helpTopic? (environment : Option String) : List String → Option HelpTopic
  | [] => some .program
  | ["check"] => some .check
  | ["generate"] => some (.generate environment)
  | ["help"] => some .help
  | _ => none

namespace Command

/-- The command that the flags spell. Arguments that ask for help are answered with it, however they
go on, unless something is wrong before. -/
def ofFlags? (known : List Flag) (topic : HelpTopic) (spell : List (Flag × String) → Option Command)
    (arguments : List String) : Option Command := do
  let before := arguments.takeWhile (!asksForHelp ·)
  let flags ← readFlags known before
  if before.length = arguments.length then spell flags
  else
    guard ((flags.map (·.1)).Nodup ∧ "--" ∉ before)
    return .help topic

/-- The command that the arguments spell. The environment may name a configuration, which counts
where the arguments name none. -/
def parse? (environment : Option String) : List String → Option Command
  | "--version" :: _ => some .version
  | "help" :: rest => (helpTopic? environment rest).map .help
  | "check" :: rest =>
    ofFlags? [.request] .check (fun flags => do
      let request ← flagValue? flags .request
      return .check (request.getD stdinPath)) rest
  | "generate" :: rest =>
    ofFlags? [.request, .config, .output] (.generate environment) (fun flags => do
      let request ← flagValue? flags .request
      let config ← flagValue? flags .config
      let output ← flagValue? flags .output
      guard (config.isSome || environment != some "")
      return .generate (request.getD stdinPath) (config <|> environment) output) rest
  | argument :: _ =>
    if asksForVersion argument then some .version
    else if asksForHelp argument then some (.help .program)
    else none
  | [] => none

end Command

end ClassScaffold
