import ClassScaffold.Skeleton.Equality
import ClassScaffold.Skeleton.Reader
import ClassScaffold.Skeleton.Rendering

/-! The template engine for skeletons: templates are one skeleton, and entries that call its parts. -/
namespace ClassScaffold.Skeleton

/-- Pieces that call parts of a skeleton by the name under which they have imported it. -/
structure Entry where
  space : String
  pieces : List Piece
  deriving DecidableEq

structure Templates where
  skeleton : Skeleton
  entries : List (String × Entry)
  deriving DecidableEq

/-- The template that the tag at the start imports, the name that it is given, and the rest. -/
def readImport (cs : List Char) : Option (String × String × List Char) := do
  let rest ← after? "\x7b%" cs
  let rest ← afterWord? "import" (skipTagSpace rest)
  let (template, rest) ← readQuoted rest
  let rest ← afterWord? "as" (skipTagSpace rest)
  let (space, rest) ← readName rest
  return (template, space, ← afterSign? "%\x7d" rest)

namespace Templates

/-- An entry for the skeleton of that name. -/
def readEntry (name text : String) : Option Entry := do
  let (template, space, rest) ← readImport text.toList
  guard (template = name)
  return ⟨space, ← pieces? rest⟩

/-- What is read from a template, unless it is malformed. -/
def parsed {α : Type} (name : String) (found : Option α) : Except EngineFault α :=
  match found with
  | some value => .ok value
  | none => .error { message := s!"Failed to parse '{name}'" }

def buildEntry (skeleton : String) (template : String × String) :
    Except EngineFault (String × Entry) :=
  (parsed template.1 (readEntry skeleton template.2)).map (template.1, ·)

/-- The first template is the skeleton, and the others are entries that import it. -/
def build : List (String × String) → Except EngineFault Templates
  | [] => .error { message := "there is no skeleton" }
  | (name, text) :: entries => do
    let skeleton ← parsed name (parse? text)
    return ⟨skeleton, ← entries.mapM (buildEntry name)⟩

/-- The text of an entry, which finds the attributes among the values of its context. -/
def text? (t : Templates) (name : String) (context : List (String × Json)) : Option String := do
  let entry ← t.entries.lookup name
  let attributes ← context.lookup attributesName
  let answer space part arguments :=
    if space = entry.space then t.skeleton.renderPart attributes callDepth part arguments else none
  renderPieces answer ⟨[], [], attributes⟩ entry.pieces

def render (t : Templates) (name : String) (context : List (String × Json)) :
    Except EngineFault String :=
  match t.text? name context with
  | some text => .ok text
  | none => .error { message := s!"Failed to render '{name}'" }

end Templates

/-- The engine that commands run with. -/
abbrev engine : TemplateEngine :=
  ⟨Templates, Templates.build, Templates.render⟩

namespace Group

/-- Calls the part with all attributes as its argument. -/
def entry (part : String) : Entry :=
  ⟨"group", [.print (.call "group" part [(attributesName, .path attributesName [])])]⟩

/-- A group of a skeleton, where the names are names of parts. -/
def ofSkeleton (name : String) (instances : List String) (skeleton : Skeleton) : Group engine where
  name := name
  instances := instances
  templates := ⟨skeleton, instances.map fun part => (entryName name part, entry part)⟩

end Group

end ClassScaffold.Skeleton
