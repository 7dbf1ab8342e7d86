namespace ClassScaffold

inductive FileFault where
  | notFound
  | notDirectory
  | isDirectory
  | nameTooLong
  | nulInName
  | notText
  | other (reason : String)
  deriving DecidableEq

def FileFault.message : FileFault → String
  | .notFound => "No such file or directory (os error 2)"
  | .notDirectory => "Not a directory (os error 20)"
  | .isDirectory => "Is a directory (os error 21)"
  | .nameTooLong => "File name too long (os error 36)"
  | .nulInName => "file name contained an unexpected NUL byte"
  | .notText => "stream did not contain valid UTF-8"
  | .other reason => reason

/-- Contents of files by path, where a path is the list of its steps from the root. Whatever a file, a
listed directory or the working directory lies in is a directory. -/
structure FileTree where
  files : List (List String × ByteArray)
  directories : List (List String)
  workingDirectory : List String

/-- Where a path leads: to a file, to a directory, or to a name that is still free. -/
inductive Location where
  | file (path : List String)
  | directory (path : List String)
  | free (path : List String)

def splitSlashes : List Char → List Char → List String
  | step, [] => [String.ofList step.reverse]
  | step, c :: rest =>
    if c = '/' then String.ofList step.reverse :: splitSlashes [] rest
    else splitSlashes (c :: step) rest

def isAbsolute (path : String) : Bool :=
  path.toList.head? == some '/'

/-- The longest name of a file in bytes. -/
def nameLimit : Nat := 255

/-- The longest path in bytes. -/
def pathLimit : Nat := 4095

/-- What is wrong with a path wherever it leads. -/
def pathFault? (path : String) : Option FileFault :=
  if path.contains '\x00' then some .nulInName
  else if path.isEmpty then some .notFound
  else if pathLimit < path.utf8ByteSize then some .nameTooLong
  else none

namespace FileTree

def isFile (t : FileTree) (path : List String) : Bool :=
  t.files.any (fun (p, _) => p == path)

def isDirectory (t : FileTree) (path : List String) : Bool :=
  (t.workingDirectory :: t.directories).any path.isPrefixOf ||
    t.files.any (fun (p, _) => path.length < p.length && path.isPrefixOf p)

/-- Follows the steps of a path from a directory. Above the root there is the root. -/
def follow (t : FileTree) : List String → List String → Except FileFault Location
  | directory, [] => .ok (.directory directory)
  | directory, step :: rest =>
    if step = "" ∨ step = "." then t.follow directory rest
    else if step = ".." then t.follow directory.dropLast rest
    else if nameLimit < step.utf8ByteSize then .error .nameTooLong
    else
      let path := directory ++ [step]
      if t.isDirectory path then t.follow path rest
      else if t.isFile path then
        if rest.isEmpty then .ok (.file path) else .error .notDirectory
      else if rest.isEmpty then .ok (.free path) else .error .notFound

/-- Follows the steps of a path from where the path starts. -/
def followFrom (t : FileTree) (path : String) (steps : List String) : Except FileFault Location :=
  t.follow (if isAbsolute path then [] else t.workingDirectory) steps

def locate (t : FileTree) (path : String) : Except FileFault Location :=
  match pathFault? path with
  | some fault => .error fault
  | none => t.followFrom path (splitSlashes [] path.toList)

def read (t : FileTree) (path : String) : Except FileFault String :=
  match t.locate path with
  | .error fault => .error fault
  | .ok (.directory _) => .error .isDirectory
  | .ok (.free _) => .error .notFound
  | .ok (.file steps) =>
    match (t.files.lookup steps).bind String.fromUTF8? with
    | some text => .ok text
    | none => .error .notText

def put (t : FileTree) (path : List String) (content : ByteArray) : FileTree :=
  { t with files := (path, content) :: t.files.filter (fun (p, _) => p != path) }

/-- Whether the path asks for a directory by a slash at its end, in a directory that is there. -/
def asksForDirectory (t : FileTree) (path : String) : Bool :=
  match path.toList.reverse with
  | '/' :: rest =>
    let steps := splitSlashes [] (rest.dropWhile (· == '/')).reverse
    match pathFault? path, t.followFrom path steps.dropLast with
    | none, .ok (.directory _) => true
    | _, _ => false
  | _ => false

/-- The tree with the whole content of a file replaced. Directories are not made. -/
def write (t : FileTree) (path text : String) : Except FileFault FileTree :=
  match t.locate path with
  | .ok (.file steps) | .ok (.free steps) => .ok (t.put steps text.toUTF8)
  | .ok (.directory _) => .error .isDirectory
  | .error fault => .error (if t.asksForDirectory path then .isDirectory else fault)

end FileTree

end ClassScaffold
