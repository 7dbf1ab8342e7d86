import ClassScaffold.Command.Arguments
import ClassScaffold.Diagram.Codec
import ClassScaffold.Fault
import ClassScaffold.Json.Reader
import ClassScaffold.Json.Writer

/-! What commands do: they read texts, and either print a text or write it to a file. -/
namespace ClassScaffold

inductive CommandFault where
  | unreadableInput (fault : FileFault)
  | unreadableRequest (path : String) (fault : FileFault)
  | malformedRequest
  | config (fault : ConfigFault)
  | failed (fault : Fault)
  | unwritableOutput (path : String) (fault : FileFault)
  deriving DecidableEq

def CommandFault.message : CommandFault → String
  | .unreadableInput fault => s!"failed to read request from stdin: {fault.message}"
  | .unreadableRequest path fault => s!"failed to read request '{path}': {fault.message}"
  | .malformedRequest => "request is not a valid classgen request"
  | .config fault => fault.message
  | .failed fault => fault.text
  | .unwritableOutput path fault => s!"failed to write output '{path}': {fault.message}"

inductive Effect where
  | print (text : String)
  | write (path text : String)
  deriving DecidableEq

/-- What a command can read: its standard input, and files. -/
structure Inputs where
  stdin : Except FileFault String
  read : TextReader

def versionText : String := "classgen 0.4.0"

def Sources.toJson (s : Sources) : Json :=
  .record (s.map fun (id, text) => (id, .text text))

/-- The name of a class with its package path in front. -/
def ModelClass.qualifiedName (target : Target) (c : ModelClass) : String :=
  match c.packagePath with
  | some path => path ++ target.separator ++ c.name
  | none => c.name

/-- The target, the classes and the packages that have a path. -/
def Model.summary (m : Model) : Json :=
  .record [("target", .text m.target.name),
    ("classes", .texts (m.classes.map (ModelClass.qualifiedName m.target))),
    ("packages", .texts (m.packages.filterMap (·.path)))]

namespace Command

def readRequest (inputs : Inputs) (path : String) : Except CommandFault Diagram := do
  let text ←
    if isStdin path then inputs.stdin.mapError .unreadableInput
    else (inputs.read path).mapError (.unreadableRequest path)
  match (Json.parse? text).bind Diagram.ofJson? with
  | some d => return d
  | none => throw .malformedRequest

def readConfig (inputs : Inputs) : Option String → Except CommandFault Config
  | none => .ok {}
  | some path => (Config.load inputs.read path).mapError .config

/-- The effect of a command. The request is read before the configuration. -/
def effect (engine : TemplateEngine) (inputs : Inputs) : Command → Except CommandFault Effect
  | .version => return .print versionText
  | .help topic => return .print topic.text
  | .check request => do
    let d ← readRequest inputs request
    let m ← d.check.mapError .failed
    return .print m.summary.pretty
  | .generate request config output => do
    let d ← readRequest inputs request
    let c ← readConfig inputs config
    let sources ← (d.generateWith engine inputs.read c).mapError .failed
    match output with
    | some path => return .write path sources.toJson.pretty
    | none => return .print sources.toJson.pretty

def request? : Command → Option String
  | .version | .help _ => none
  | .check request | .generate request .. => some request

def readsStdin (command : Command) : Bool :=
  command.request?.any isStdin

/-- The files that a command reads, as far as those read before show it. -/
def filesRead (inputs : Inputs) : Command → List String
  | .version | .help _ => []
  | .check request => [request].filter (!isStdin ·)
  | .generate request config _ =>
    [request].filter (!isStdin ·) ++ config.toList ++
      match readRequest inputs request, readConfig inputs config with
      | .ok d, .ok c => c.skeletonFiles d.target
      | _, _ => []

end Command

/-- What is left of a run: its exit code, what it printed, and what it reported if it failed. Log lines,
which are written where reports are, are no part of it. -/
structure Outcome where
  exit : Nat
  stdout : String
  report : Option String
  deriving DecidableEq

namespace Outcome

def printed (text : String) : Outcome :=
  ⟨0, text ++ "\n", none⟩

def silent : Outcome :=
  ⟨0, "", none⟩

def failed (fault : CommandFault) : Outcome :=
  ⟨1, "", some ("error: " ++ fault.message)⟩

def misused : Outcome :=
  ⟨2, "", some "error: expected 'check' or 'generate' with their options"⟩

end Outcome

namespace FileTree

/-- Runs a command on a tree of files. Only a write that succeeds changes the tree. -/
def run (engine : TemplateEngine) (tree : FileTree) (stdin : Except FileFault String)
    (command : Command) : Outcome × FileTree :=
  match command.effect engine ⟨stdin, tree.read⟩ with
  | .error fault => (.failed fault, tree)
  | .ok (.print text) => (.printed text, tree)
  | .ok (.write path text) =>
    match tree.write path text with
    | .ok changed => (.silent, changed)
    | .error fault => (.failed (.unwritableOutput path fault), tree)

def runLine (engine : TemplateEngine) (tree : FileTree) (stdin : Except FileFault String)
    (environment : Option String) (arguments : List String) : Outcome × FileTree :=
  match Command.parse? environment arguments with
  | some command => tree.run engine stdin command
  | none => (.misused, tree)

end FileTree

end ClassScaffold
