import ClassScaffold.Config.FileTree
import ClassScaffold.Config.Toml
import ClassScaffold.Skeleton.Choice

namespace ClassScaffold

/-- Paths of skeletons; one that is left out selects the bundled skeleton. -/
structure SkeletonPaths where
  cppClass : Option String := none
  cppMemory : Option String := none
  csharpClass : Option String := none
  javaClass : Option String := none
  deriving DecidableEq

/-- Relative paths start from `base`, the directory of the configuration file. -/
structure Config where
  paths : SkeletonPaths := {}
  base : Option String := none
  deriving DecidableEq

inductive ConfigFault where
  | unreadable (path : String) (fault : FileFault)
  | malformed
  | skeleton (path : String) (fault : FileFault)
  deriving DecidableEq

def ConfigFault.message : ConfigFault → String
  | .unreadable path fault => s!"failed to read config file '{path}': {fault.message}"
  | .malformed => "failed to parse config"
  | .skeleton path fault => s!"failed to read template skeleton '{path}': {fault.message}"

abbrev TextReader := String → Except FileFault String

namespace SkeletonPaths

/-- Sets a path that is not set yet. -/
def setOnce (old : Option String) (path : String) : Option (Option String) :=
  match old with
  | none => some (some path)
  | some _ => none

def set (p : SkeletonPaths) (key path : String) : Option SkeletonPaths :=
  if key = "cpp_class" then (setOnce p.cppClass path).map fun v => { p with cppClass := v }
  else if key = "cpp_memory" then (setOnce p.cppMemory path).map fun v => { p with cppMemory := v }
  else if key = "csharp_class" then
    (setOnce p.csharpClass path).map fun v => { p with csharpClass := v }
  else if key = "java_class" then (setOnce p.javaClass path).map fun v => { p with javaClass := v }
  else none

/-- Takes over the entries of the table of skeletons, whose keys have one part and whose values
are texts. -/
def setAll (p : SkeletonPaths) (entries : List (List String × Toml.Value)) : Option SkeletonPaths :=
  entries.foldlM (fun p (key, value) =>
    match key, value with
    | [key], .text path => p.set key path
    | _, _ => none) p

/-- The table of skeletons as a list of all its paths. Further items are left alone. -/
def ofItems? : List Toml.Value → Option SkeletonPaths
  | .text cppClass :: .text cppMemory :: .text csharpClass :: .text javaClass :: _ =>
    some ⟨cppClass, cppMemory, csharpClass, javaClass⟩
  | _ => none

end SkeletonPaths

/-- The way in which a file has given the table of skeletons so far. -/
inductive TableStyle where
  | absent
  | dotted
  | inline
  | header
  deriving DecidableEq

def tableName : String := "templates"

/-- Takes in one statement. The table may be given in one way only, and there is no other. -/
def SkeletonPaths.step (state : TableStyle × SkeletonPaths) (statement : Toml.Statement) :
    Option (TableStyle × SkeletonPaths) :=
  match state, statement with
  | (.absent, p), .header [name] => if name = tableName then some (.header, p) else none
  | (.absent, p), .entry [name] (.table members) =>
    if name = tableName then (p.setAll members).map (.inline, ·) else none
  | (.absent, _), .entry [name] (.list items) =>
    if name = tableName then (ofItems? items).map (.inline, ·) else none
  | (.absent, p), .entry (name :: key) value | (.dotted, p), .entry (name :: key) value =>
    if name = tableName then (p.setAll [(key, value)]).map (.dotted, ·) else none
  | (.header, p), .entry key value => (p.setAll [(key, value)]).map (.header, ·)
  | _, _ => none

/-- Takes slashes, and steps that stay where they are, from the start of a reversed path. -/
def trimSlashes : List Char → List Char
  | ['/'] => ['/']
  | '/' :: rest => trimSlashes rest
  | ['.', '/'] => ['/']
  | '.' :: '/' :: rest => trimSlashes rest
  | cs => cs

/-- The directory part of a path; empty for a bare name. -/
def parentPath (path : String) : String :=
  String.ofList (trimSlashes (path.toList.reverse.dropWhile (· != '/'))).reverse

/-- A relative path seen from a directory. -/
def joinPath (base path : String) : String :=
  if base.isEmpty || base.toList.getLast? == some '/' then base ++ path else base ++ "/" ++ path

namespace Config

def ofText (s : String) : Except ConfigFault Config :=
  match (Toml.parse? s).bind (·.foldlM SkeletonPaths.step (.absent, {})) with
  | some (_, paths) => .ok { paths := paths }
  | none => .error .malformed

def load (read : TextReader) (path : String) : Except ConfigFault Config :=
  match read path with
  | .error fault => .error (.unreadable path fault)
  | .ok text => (ofText text).map fun c => { c with base := some (parentPath path) }

/-- The path under which a file is looked for. -/
def resolvePath (c : Config) (path : String) : String :=
  match c.base with
  | some base => if isAbsolute path then path else joinPath base path
  | none => path

def classPath (c : Config) : Target → Option String
  | .cpp => c.paths.cppClass
  | .csharp => c.paths.csharpClass
  | .java => c.paths.javaClass

/-- The configured memory skeleton, for a target that needs one. -/
def memoryPath (c : Config) (target : Target) : Option String :=
  if target.managesMemory then c.paths.cppMemory else none

def readChoice (c : Config) (read : TextReader) : Option String → Except ConfigFault SkeletonChoice
  | none => .ok .bundled
  | some path =>
    match read (c.resolvePath path) with
    | .ok text => .ok (.text text)
    | .error fault => .error (.skeleton (c.resolvePath path) fault)

/-- The skeletons of a target. Only its own files are read, the class skeleton first. -/
def skeletons (c : Config) (read : TextReader) (target : Target) :
    Except ConfigFault SkeletonSet := do
  let cls ← c.readChoice read (c.classPath target)
  if target.managesMemory then
    let memory ← c.readChoice read (c.memoryPath target)
    return ⟨cls, some memory⟩
  else return ⟨cls, none⟩

def skeletonFiles (c : Config) (target : Target) : List String :=
  ((c.classPath target).toList ++ (c.memoryPath target).toList).map c.resolvePath

end Config

end ClassScaffold
