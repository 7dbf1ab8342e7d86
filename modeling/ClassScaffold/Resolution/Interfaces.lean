import ClassScaffold.Diagram
import ClassScaffold.Model

/-! Interfaces that a class implements, directly or through other interfaces, and the members that
it takes over from them. -/
namespace ClassScaffold

namespace ClassNode

def publicMethods (node : ClassNode) : List Method :=
  node.body.methods.filter (fun m => m.access == .pub)

def parentIds (node : ClassNode) : List String :=
  node.parents.map (·.id)

end ClassNode

def withoutId (id : String) (nodes : List ClassNode) : List ClassNode :=
  nodes.filter (fun node => node.id != id)

theorem length_withoutId_lt {id : String} {nodes : List ClassNode} {node : ClassNode}
    (h : nodes.find? (fun node => node.id == id) = some node) :
    (withoutId id nodes).length < nodes.length :=
  List.length_filter_lt_length_iff_exists.mpr
    ⟨node, List.mem_of_find?_eq_some h, by simpa using List.find?_some h⟩

/-- Interfaces met on a walk that goes on to the parents of an interface before it comes to the
ids that wait behind it. `pool` holds the interfaces not met so far; ids of anything else are
passed over. -/
def walkInterfaces (pool : List ClassNode) : List String → List ClassNode
  | [] => []
  | id :: waiting =>
    match _h : pool.find? (fun node => node.id == id) with
    | none => walkInterfaces pool waiting
    | some node =>
      node :: walkInterfaces (withoutId id pool) (node.parentIds ++ waiting)
termination_by waiting => (pool.length, waiting.length)
decreasing_by
  · exact Prod.Lex.right _ (Nat.lt_succ_self _)
  · exact Prod.Lex.left _ _ (length_withoutId_lt _h)

section Walk
variable {pool : List ClassNode} {id : String}

theorem walkInterfaces_of_none (h : pool.find? (fun node => node.id == id) = none)
    (waiting : List String) : walkInterfaces pool (id :: waiting) = walkInterfaces pool waiting := by
  rw [walkInterfaces]
  split
  · rfl
  · rename_i hs
    cases hs.symm.trans h

theorem walkInterfaces_of_some {node : ClassNode}
    (h : pool.find? (fun node => node.id == id) = some node) (waiting : List String) :
    walkInterfaces pool (id :: waiting) =
      node :: walkInterfaces (withoutId id pool) (node.parentIds ++ waiting) := by
  rw [walkInterfaces]
  split
  · rename_i hs
    cases hs.symm.trans h
  · rename_i hs
    cases hs.symm.trans h
    rfl

end Walk

namespace Diagram

def interfaces (d : Diagram) : List ClassNode :=
  d.classes.filter (·.isInterface)

/-- The interfaces of a class, each once, in the order of the walk. An interface implements none. -/
def implemented (d : Diagram) (node : ClassNode) : List ClassNode :=
  if node.isInterface then [] else walkInterfaces d.interfaces node.parentIds

def overriddenMethods (d : Diagram) (node : ClassNode) : List Method :=
  (d.implemented node).flatMap ClassNode.publicMethods

/-- Own properties of a class, then those that the target repeats from its interfaces. -/
def memberFields (d : Diagram) (node : ClassNode) : List Field :=
  node.body.properties.map (Field.ofProperty .declared) ++
    if d.target.flattensProperties then
      (d.implemented node).flatMap fun i => i.body.properties.map (Field.ofProperty .flattened)
    else []

end Diagram

end ClassScaffold
