import ClassScaffold.Proofs.Resolution.Acceptance

/-! What the resolution of a class depends on: the class itself but for the package that it names, what
is written in the interfaces that it implements, and the names and kinds of the classes that it refers
to. -/
namespace ClassScaffold

/-- What others are told of a class. -/
def ClassNode.shown (c : ClassNode) : String × Bool :=
  (c.name, c.isInterface)

/-- A class of one diagram and the same one of another. It may name another package, it implements
interfaces with the same content, and ids lead it to classes of which the same is shown. -/
structure ClassNode.SeenAlike (d e : Diagram) (c c' : ClassNode) : Prop where
  target : e.target = d.target
  node : ∃ owner, c' = { c with packageId := owner }
  implemented : (e.implemented c').map ClassNode.body = (d.implemented c).map ClassNode.body
  shown : ∀ id, (e.registry.class? id).map ClassNode.shown = (d.registry.class? id).map ClassNode.shown

namespace ClassNode

section Shown
variable {registry other : Registry}
  (hs : ∀ id, (other.class? id).map ClassNode.shown = (registry.class? id).map ClassNode.shown)
include hs

/-- Parent edges are judged by what is shown of the classes that they lead to, and by the target. -/
theorem parentViolationsFrom_congr (ht : other.diagram.target = registry.diagram.target)
    (node : ClassNode) (owner : Option String) (regular : Nat) (edges : List ParentEdge) :
    { node with packageId := owner }.parentViolationsFrom other regular edges =
      node.parentViolationsFrom registry regular edges := by
  induction edges generalizing regular with
  | nil => rfl
  | cons edge rest ih =>
    have hedge := hs edge.id
    have hname : { node with packageId := owner }.name = node.name := rfl
    simp only [parentViolationsFrom, ht, ih, hname]
    cases ho : other.class? edge.id <;> cases hr : registry.class? edge.id
    · rfl
    · simp [ho, hr] at hedge
    · simp [ho, hr] at hedge
    · rw [ho, hr, Option.map_some, Option.map_some, Option.some.injEq, shown, shown,
        Prod.mk.injEq] at hedge
      simp only [hedge.1, hedge.2]

theorem friendViolations_congr (node : ClassNode) :
    node.friendViolations other = node.friendViolations registry := by
  have hsome (id : String) : (other.class? id).isSome = (registry.class? id).isSome := by
    rw [← Option.isSome_map, hs, Option.isSome_map]
  simp only [friendViolations, hsome]

theorem modelParents_congr (node : ClassNode) :
    node.modelParents other = node.modelParents registry := by
  have hparent (found : Option ClassNode) (access : Access) :
      (found.map fun parent => ModelParent.mk parent.name access parent.isInterface) =
        (found.map ClassNode.shown).map fun shown => ⟨shown.1, access, shown.2⟩ := by
    cases found <;> rfl
  simp only [modelParents, hparent, hs]

theorem friendNames_congr (node : ClassNode) :
    node.friendNames other = node.friendNames registry := by
  have hname (found : Option ClassNode) :
      found.map ClassNode.name = (found.map ClassNode.shown).map Prod.fst := by
    cases found <;> rfl
  simp only [friendNames, hname, hs]

end Shown

namespace SeenAlike
variable {d e : Diagram} {c c' : ClassNode} (h : c.SeenAlike d e c')
include h

theorem memberFields_eq : e.memberFields c' = d.memberFields c := by
  have hbodies (nodes : List ClassNode) :
      (nodes.flatMap fun i => i.body.properties.map (Field.ofProperty .flattened)) =
        (nodes.map ClassNode.body).flatMap fun b => b.properties.map (Field.ofProperty .flattened) := by
    rw [List.flatMap_map]
  obtain ⟨owner, rfl⟩ := h.node
  rw [Diagram.memberFields, Diagram.memberFields, hbodies, hbodies, h.implemented, h.target]

theorem fields_eq : e.fields c' = d.fields c := by
  rw [Diagram.fields, Diagram.fields, h.memberFields_eq, h.target]

theorem overriddenMethods_eq : e.overriddenMethods c' = d.overriddenMethods c := by
  have hbodies (nodes : List ClassNode) : nodes.flatMap ClassNode.publicMethods =
      (nodes.map ClassNode.body).flatMap fun b => b.methods.filter (fun m => m.access == .pub) := by
    rw [List.flatMap_map]
    rfl
  rw [Diagram.overriddenMethods, Diagram.overriddenMethods, hbodies, hbodies, h.implemented]

theorem parentViolations_eq : c'.parentViolations e.registry = c.parentViolations d.registry := by
  obtain ⟨owner, rfl⟩ := h.node
  exact parentViolationsFrom_congr h.shown h.target c owner 0 c.parents

theorem friendViolations_eq : c'.friendViolations e.registry = c.friendViolations d.registry := by
  obtain ⟨owner, rfl⟩ := h.node
  exact friendViolations_congr h.shown c

theorem lifecycleViolations_eq : c'.lifecycleViolations e = c.lifecycleViolations d := by
  rw [lifecycleViolations, lifecycleViolations, h.fields_eq, h.target]
  obtain ⟨owner, rfl⟩ := h.node
  rfl

/-- With the path of its package all is known that the model of a class depends on. -/
theorem toModel_eq {s t : Placement}
    (hpath : (c'.toModel e.registry t).packagePath = (c.toModel d.registry s).packagePath) :
    c'.toModel e.registry t = c.toModel d.registry s := by
  have hfields := h.fields_eq
  have hmethods := h.overriddenMethods_eq
  obtain ⟨owner, rfl⟩ := h.node
  have hparents : { c with packageId := owner }.modelParents e.registry = c.modelParents d.registry :=
    modelParents_congr h.shown c
  have hfriends : { c with packageId := owner }.friendNames e.registry = c.friendNames d.registry :=
    friendNames_congr h.shown c
  simp only [toModel] at hpath ⊢
  simp only [Diagram.diagram_registry, hfields, hmethods, hparents, hfriends, hpath]
  rfl

end SeenAlike

end ClassNode

end ClassScaffold
