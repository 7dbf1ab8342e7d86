import ClassScaffold.Ownership.Fragment
import ClassScaffold.Skeleton.Group
import ClassScaffold.Text.Lines

namespace ClassScaffold

namespace Fragment
variable {engine : TemplateEngine}

/-- The text of one idiom, closed by one line feed. -/
def idiom (group : Skeleton.Group engine) (name : String) (attributes : List (String × Json)) :
    Except RenderFault String := do
  let part ← group.start name
  let text ← (part.bindAll attributes).render
  return Text.closed text

mutual

/-- The code of a fragment. The body of a loop comes one level deeper than the loop. -/
def code (group : Skeleton.Group engine) : Fragment → Except RenderFault String
  | .assign target source =>
    return Text.closed (target.spell ++ " = " ++ source.spell ++ ";")
  | .allocate pointer type =>
    idiom group "pointerAllocate"
      [("PointerName", .text pointer.spell), ("DataType", .text type), ("IsArray", .bool false)]
  | .allocateThenIterate pointer type index length body => do
    let _ ← group.start "allocateThenIterate"
    let contents ← codeOf group body
    idiom group "allocateThenIterate"
      [("PointerName", .text pointer.spell), ("DataType", .text type), ("IndexName", .text index),
        ("LengthVariableName", .text length), ("LoopContents", .text (Text.indented contents))]
  | .iterate index length body => do
    let _ ← group.start "iterateArray"
    let contents ← codeOf group body
    idiom group "iterateArray"
      [("IndexName", .text index), ("LengthVariableName", .text length),
        ("LoopContents", .text (Text.indented contents))]
  | .iterateThenDelete pointer index length body => do
    let _ ← group.start "iterateThenDelete"
    let contents ← codeOf group body
    idiom group "iterateThenDelete"
      [("PointerName", .text pointer.spell), ("IndexName", .text index),
        ("LengthVariableName", .text length), ("LoopContents", .text (Text.indented contents))]
  | .delete pointer isArray =>
    idiom group "pointerDelete"
      [("PointerName", .text pointer.spell), ("IsArray", .bool isArray)]

def codeOf (group : Skeleton.Group engine) : List Fragment → Except RenderFault String
  | [] => return ""
  | f :: rest => do
    let first ← code group f
    let others ← codeOf group rest
    return first ++ others

end

end Fragment

end ClassScaffold
