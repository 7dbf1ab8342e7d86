import ClassScaffold.Proofs.Naming
import ClassScaffold.Validation

/-! What validation lets through: names that are names, types that the target can spell, and interfaces
without private properties. -/
namespace ClassScaffold

structure Property.Legal (target : Target) (p : Property) : Prop where
  name : IsName p.name
  type : target.isTypeName p.type.name = true
  lengths : ∀ length ∈ p.type.lengthFields, IsName length

structure Parameter.Legal (target : Target) (p : Parameter) : Prop where
  name : IsName p.name
  type : target.isTypeName p.type.name = true

structure Method.Legal (target : Target) (m : Method) : Prop where
  name : IsName m.name
  returnType : target.isTypeName m.returnType.name = true
  parameters : ∀ p ∈ m.parameters, p.Legal target

structure ClassNode.Legal (target : Target) (node : ClassNode) : Prop where
  name : IsName node.name
  templateParameters : ∀ p ∈ node.body.templateParameters, IsName p
  properties : ∀ p ∈ node.body.properties, p.Legal target
  methods : ∀ m ∈ node.body.methods, m.Legal target
  contract : node.isInterface → ∀ p ∈ node.body.properties, p.access ≠ .priv

structure Diagram.Legal (d : Diagram) : Prop where
  classes : ∀ node ∈ d.classes, node.Legal d.target
  packages : ∀ p ∈ d.packages, IsName p.name

section Violations
variable {target : Target} {className method : String}

theorem Property.violations_eq_nil_iff {p : Property} :
    p.violations target className = [] ↔ p.Legal target := by
  simp only [violations, List.append_eq_nil_iff, List.flatMap_eq_nil_iff, require_eq_nil_iff,
    isIdentifier_iff_isName]
  refine ⟨?_, fun h => ⟨⟨h.name, h.type⟩, h.lengths⟩⟩
  rintro ⟨⟨hn, ht⟩, hl⟩
  exact ⟨hn, ht, hl⟩

theorem Parameter.violations_eq_nil_iff {p : Parameter} :
    p.violations target className method = [] ↔ p.Legal target := by
  simp only [violations, List.append_eq_nil_iff, require_eq_nil_iff, isIdentifier_iff_isName]
  refine ⟨?_, fun h => ⟨h.name, h.type⟩⟩
  rintro ⟨hn, ht⟩
  exact ⟨hn, ht⟩

theorem Method.violations_eq_nil_iff {m : Method} :
    m.violations target className = [] ↔ m.Legal target := by
  simp only [violations, List.append_eq_nil_iff, List.flatMap_eq_nil_iff, require_eq_nil_iff,
    isIdentifier_iff_isName, Parameter.violations_eq_nil_iff]
  refine ⟨?_, fun h => ⟨⟨h.name, h.returnType⟩, h.parameters⟩⟩
  rintro ⟨⟨hn, ht⟩, hp⟩
  exact ⟨hn, ht, hp⟩

theorem ClassNode.interfaceViolations_eq_nil_iff {node : ClassNode} :
    node.interfaceViolations = [] ↔
      (node.isInterface → ∀ p ∈ node.body.properties, p.access ≠ .priv) := by
  unfold interfaceViolations
  cases node.isInterface <;> simp

theorem ClassNode.violations_eq_nil_iff {node : ClassNode} :
    node.violations target = [] ↔ node.Legal target := by
  simp only [violations, List.append_eq_nil_iff, List.flatMap_eq_nil_iff, require_eq_nil_iff,
    isIdentifier_iff_isName, Property.violations_eq_nil_iff, Method.violations_eq_nil_iff,
    interfaceViolations_eq_nil_iff]
  refine ⟨?_, fun h =>
    ⟨⟨⟨⟨h.name, h.templateParameters⟩, h.properties⟩, h.methods⟩, h.contract⟩⟩
  rintro ⟨⟨⟨⟨hn, ht⟩, hp⟩, hm⟩, hi⟩
  exact ⟨hn, ht, hp, hm, hi⟩

end Violations

theorem Diagram.validate_eq_ok_iff {d : Diagram} : d.validate = .ok () ↔ d.Legal := by
  simp only [validate, verdict_eq_ok_iff, violations, List.append_eq_nil_iff,
    List.flatMap_eq_nil_iff, ClassNode.violations_eq_nil_iff, PackageNode.violations,
    require_eq_nil_iff, isIdentifier_iff_isName]
  refine ⟨?_, fun h => ⟨h.classes, h.packages⟩⟩
  rintro ⟨hc, hp⟩
  exact ⟨hc, hp⟩

end ClassScaffold
