import ClassScaffold.Proofs.FirstViolation
import ClassScaffold.Proofs.Validation

/-! Where a diagram can be wrong, and which of the things that are wrong is reported. The places of a
diagram are its names, its types and its interface members, in the order in which they are written. -/
namespace ClassScaffold

/-- A type is named like anything else, or as one of the types that C++ has built in. -/
def Target.Spells (target : Target) (s : String) : Prop :=
  IsName s ∨ target = .cpp ∧ s ∈ builtinTypes

theorem Target.isTypeName_iff {target : Target} {s : String} :
    target.isTypeName s = true ↔ target.Spells s := by
  have hbuiltin : target.hasBuiltinTypes = true ↔ target = .cpp := by
    cases target <;> simp [hasBuiltinTypes]
  rw [isTypeName, Spells, Bool.or_eq_true, Bool.and_eq_true, isIdentifier_iff_isName, hbuiltin,
    List.contains_iff_mem]

section Wrong
variable (target : Target) (className : String)

/-- Lengths are fields of their own, those of dimensions before those of pointers. A pointer that is no
array has none. -/
inductive Property.WrongAt (p : Property) : List Nat → Rejection → Prop
  | name : ¬ IsName p.name → p.WrongAt [0] (.naming (.property className p.name))
  | type : ¬ target.Spells p.type.name →
    p.WrongAt [1] (.naming (.propertyType className p.name p.type.name))
  | dimension {k : Nat} {dimension : Dimension} : p.type.dimensions[k]? = some dimension →
    ¬ IsName dimension.lengthField →
    p.WrongAt [2, k] (.naming (.lengthField className p.name dimension.lengthField))
  | pointer {k : Nat} {pointer : Pointer} : p.type.pointers[k]? = some pointer →
    pointer.isArray = true → ¬ IsName pointer.lengthField →
    p.WrongAt [3, k] (.naming (.lengthField className p.name pointer.lengthField))

inductive Parameter.WrongAt (method : String) (p : Parameter) : List Nat → Rejection → Prop
  | name : ¬ IsName p.name → p.WrongAt method [0] (.naming (.parameter className method p.name))
  | type : ¬ target.Spells p.type.name →
    p.WrongAt method [1] (.naming (.parameterType className method p.name p.type.name))

inductive Method.WrongAt (m : Method) : List Nat → Rejection → Prop
  | name : ¬ IsName m.name → m.WrongAt [0] (.naming (.method className m.name))
  | returnType : ¬ target.Spells m.returnType.name →
    m.WrongAt [1] (.naming (.returnType className m.name m.returnType.name))
  | parameter {k : Nat} {p : Parameter} {place : List Nat} {r : Rejection} :
    m.parameters[k]? = some p → p.WrongAt target className m.name place r →
    m.WrongAt (2 :: k :: place) r

/-- What is private in an interface comes after all that has a name. -/
inductive ClassNode.WrongAt (node : ClassNode) : List Nat → Rejection → Prop
  | name : ¬ IsName node.name → node.WrongAt [0] (.naming (.className node.name))
  | templateParameter {j : Nat} {p : String} : node.body.templateParameters[j]? = some p →
    ¬ IsName p → node.WrongAt [1, j] (.naming (.templateParameter node.name p))
  | property {j : Nat} {p : Property} {place : List Nat} {r : Rejection} :
    node.body.properties[j]? = some p → p.WrongAt target node.name place r →
    node.WrongAt (2 :: j :: place) r
  | method {j : Nat} {m : Method} {place : List Nat} {r : Rejection} :
    node.body.methods[j]? = some m → m.WrongAt target node.name place r →
    node.WrongAt (3 :: j :: place) r
  | contract {j : Nat} {p : Property} : node.isInterface = true →
    node.body.properties[j]? = some p → p.access = .priv →
    node.WrongAt [4, j] (.structural (.privateInterfaceProperty node.name p.name))

end Wrong

inductive Diagram.WrongAt (d : Diagram) : List Nat → Rejection → Prop
  | cls {i : Nat} {node : ClassNode} {place : List Nat} {r : Rejection} :
    d.classes[i]? = some node → node.WrongAt d.target place r → d.WrongAt (0 :: i :: place) r
  | package {i : Nat} {p : PackageNode} : d.packages[i]? = some p → ¬ IsName p.name →
    d.WrongAt [1, i] (.naming (.package p.name))

section Unique
variable {target : Target} {className method : String} {place : List Nat} {r s : Rejection}

theorem Property.WrongAt.unique {p : Property} (h : p.WrongAt target className place r)
    (h' : p.WrongAt target className place s) : r = s := by
  cases h with
  | name => cases h'; rfl
  | type => cases h'; rfl
  | dimension hk =>
    cases h' with
    | dimension hk' => cases hk.symm.trans hk'; rfl
  | pointer hk =>
    cases h' with
    | pointer hk' => cases hk.symm.trans hk'; rfl

theorem Parameter.WrongAt.unique {p : Parameter} (h : p.WrongAt target className method place r)
    (h' : p.WrongAt target className method place s) : r = s := by
  cases h <;> cases h' <;> rfl

theorem Method.WrongAt.unique {m : Method} (h : m.WrongAt target className place r)
    (h' : m.WrongAt target className place s) : r = s := by
  cases h with
  | name => cases h'; rfl
  | returnType => cases h'; rfl
  | parameter hk hp =>
    cases h' with
    | parameter hk' hp' =>
      cases hk.symm.trans hk'
      exact hp.unique hp'

theorem ClassNode.WrongAt.unique {node : ClassNode} (h : node.WrongAt target place r)
    (h' : node.WrongAt target place s) : r = s := by
  cases h with
  | name => cases h'; rfl
  | templateParameter hj =>
    cases h' with
    | templateParameter hj' => cases hj.symm.trans hj'; rfl
  | property hj hp =>
    cases h' with
    | property hj' hp' =>
      cases hj.symm.trans hj'
      exact hp.unique hp'
  | method hj hm =>
    cases h' with
    | method hj' hm' =>
      cases hj.symm.trans hj'
      exact hm.unique hm'
  | contract _ hj =>
    cases h' with
    | contract _ hj' => cases hj.symm.trans hj'; rfl

theorem Diagram.WrongAt.unique {d : Diagram} (h : d.WrongAt place r) (h' : d.WrongAt place s) :
    r = s := by
  cases h with
  | cls hi hc =>
    cases h' with
    | cls hi' hc' =>
      cases hi.symm.trans hi'
      exact hc.unique hc'
  | package hi =>
    cases h' with
    | package hi' => cases hi.symm.trans hi'; rfl

end Unique

section Reports
variable {target : Target} {className method : String}

/-- Only pointers that are arrays have a length that is checked. -/
private theorem lengthFields_flatMap (t : DataType) (rejection : String → Rejection) :
    t.lengthFields.flatMap (fun field => require (isIdentifier field) (rejection field)) =
      (t.dimensions.flatMap fun dimension =>
          require (isIdentifier dimension.lengthField) (rejection dimension.lengthField)) ++
        t.pointers.flatMap fun pointer =>
          require (!pointer.isArray || isIdentifier pointer.lengthField)
            (rejection pointer.lengthField) := by
  rw [DataType.lengthFields, List.flatMap_append, List.flatMap_map, List.flatMap_map]
  congr 1
  induction t.pointers with
  | nil => rfl
  | cons pointer rest ih =>
    rw [List.flatMap_cons, ← ih]
    cases ha : pointer.isArray with
    | true =>
      rw [List.filter_cons_of_pos ha]
      rfl
    | false =>
      rw [List.filter_cons_of_neg (Bool.eq_false_iff.mp ha)]
      rfl

theorem Property.reports (p : Property) :
    Reports (p.WrongAt target className) (p.violations target className) := by
  have hparts : p.violations target className =
      [require (isIdentifier p.name) (.naming (.property className p.name)),
        require (target.isTypeName p.type.name)
          (.naming (.propertyType className p.name p.type.name)),
        p.type.dimensions.flatMap fun dimension =>
          require (isIdentifier dimension.lengthField)
            (.naming (.lengthField className p.name dimension.lengthField)),
        p.type.pointers.flatMap fun pointer =>
          require (!pointer.isArray || isIdentifier pointer.lengthField)
            (.naming (.lengthField className p.name pointer.lengthField))].flatten := by
    simp [violations, lengthFields_flatMap]
  rw [hparts]
  apply Reports.join
  · rintro (_ | _ | _ | _ | i) part hpart <;> cases hpart
    · apply Reports.check isIdentifier_iff_isName .name
      intro place r h
      cases h with
      | name hn => exact hn
    · apply Reports.check Target.isTypeName_iff .type
      intro place r h
      cases h with
      | type ht => exact ht
    · apply Reports.checks fun dimension => isIdentifier_iff_isName
      intro place r
      constructor
      · intro h
        cases h with
        | dimension hk hn => exact ⟨_, _, hk, rfl, hn, rfl⟩
      · rintro ⟨k, dimension, hk, rfl, hn, rfl⟩
        exact .dimension hk hn
    · have hc (pointer : Pointer) : (!pointer.isArray || isIdentifier pointer.lengthField) = true ↔
          (pointer.isArray = true → IsName pointer.lengthField) := by
        rw [← isIdentifier_iff_isName]
        cases pointer.isArray <;> simp
      apply Reports.checks hc
      intro place r
      constructor
      · intro h
        cases h with
        | pointer hk ha hn => exact ⟨_, _, hk, rfl, fun hall => hn (hall ha), rfl⟩
      · rintro ⟨k, pointer, hk, rfl, hn, rfl⟩
        obtain ⟨ha, hn⟩ := Classical.not_imp.mp hn
        exact .pointer hk ha hn
  · intro place r h
    cases h with
    | name => exact ⟨0, _, _, rfl, rfl⟩
    | type => exact ⟨1, _, _, rfl, rfl⟩
    | dimension => exact ⟨2, _, _, rfl, rfl⟩
    | pointer => exact ⟨3, _, _, rfl, rfl⟩

theorem Parameter.reports (p : Parameter) :
    Reports (p.WrongAt target className method) (p.violations target className method) := by
  have hparts : p.violations target className method =
      [require (isIdentifier p.name) (.naming (.parameter className method p.name)),
        require (target.isTypeName p.type.name)
          (.naming (.parameterType className method p.name p.type.name))].flatten := by
    simp [violations]
  rw [hparts]
  apply Reports.join
  · rintro (_ | _ | i) part hpart <;> cases hpart
    · apply Reports.check isIdentifier_iff_isName .name
      intro place r h
      cases h with
      | name hn => exact hn
    · apply Reports.check Target.isTypeName_iff .type
      intro place r h
      cases h with
      | type ht => exact ht
  · intro place r h
    cases h with
    | name => exact ⟨0, _, _, rfl, rfl⟩
    | type => exact ⟨1, _, _, rfl, rfl⟩

theorem Method.reports (m : Method) :
    Reports (m.WrongAt target className) (m.violations target className) := by
  have hparts : m.violations target className =
      [require (isIdentifier m.name) (.naming (.method className m.name)),
        require (target.isTypeName m.returnType.name)
          (.naming (.returnType className m.name m.returnType.name)),
        m.parameters.flatMap (Parameter.violations target className m.name)].flatten := by
    simp [violations]
  rw [hparts]
  apply Reports.join
  · rintro (_ | _ | _ | i) part hpart <;> cases hpart
    · apply Reports.check isIdentifier_iff_isName .name
      intro place r h
      cases h with
      | name hn => exact hn
    · apply Reports.check Target.isTypeName_iff .returnType
      intro place r h
      cases h with
      | returnType ht => exact ht
    · apply Reports.flatMap Parameter.reports
      intro place r
      constructor
      · intro h
        cases h with
        | parameter hk hp => exact ⟨_, _, _, hk, rfl, hp⟩
      · rintro ⟨k, p, inner, hk, rfl, hp⟩
        exact .parameter hk hp
  · intro place r h
    cases h with
    | name => exact ⟨0, _, _, rfl, rfl⟩
    | returnType => exact ⟨1, _, _, rfl, rfl⟩
    | parameter => exact ⟨2, _, _, rfl, rfl⟩

theorem ClassNode.reports (node : ClassNode) :
    Reports (node.WrongAt target) (node.violations target) := by
  have hcontract : node.interfaceViolations = node.body.properties.flatMap fun p =>
      require (!node.isInterface || p.access ≠ .priv)
        (.structural (.privateInterfaceProperty node.name p.name)) := by
    cases hi : node.isInterface <;> simp [interfaceViolations, hi, require]
  have hparts : node.violations target =
      [require (isIdentifier node.name) (.naming (.className node.name)),
        node.body.templateParameters.flatMap fun p =>
          require (isIdentifier p) (.naming (.templateParameter node.name p)),
        node.body.properties.flatMap (Property.violations target node.name),
        node.body.methods.flatMap (Method.violations target node.name),
        node.interfaceViolations].flatten := by
    simp [violations]
  rw [hparts, hcontract]
  apply Reports.join
  · rintro (_ | _ | _ | _ | _ | i) part hpart <;> cases hpart
    · apply Reports.check isIdentifier_iff_isName .name
      intro place r h
      cases h with
      | name hn => exact hn
    · apply Reports.checks fun p => isIdentifier_iff_isName
      intro place r
      constructor
      · intro h
        cases h with
        | templateParameter hj hn => exact ⟨_, _, hj, rfl, hn, rfl⟩
      · rintro ⟨j, p, hj, rfl, hn, rfl⟩
        exact .templateParameter hj hn
    · apply Reports.flatMap Property.reports
      intro place r
      constructor
      · intro h
        cases h with
        | property hj hp => exact ⟨_, _, _, hj, rfl, hp⟩
      · rintro ⟨j, p, inner, hj, rfl, hp⟩
        exact .property hj hp
    · apply Reports.flatMap Method.reports
      intro place r
      constructor
      · intro h
        cases h with
        | method hj hm => exact ⟨_, _, _, hj, rfl, hm⟩
      · rintro ⟨j, m, inner, hj, rfl, hm⟩
        exact .method hj hm
    · have hc (p : Property) : (!node.isInterface || decide (p.access ≠ .priv)) = true ↔
          ¬ (node.isInterface = true ∧ p.access = .priv) := by
        cases node.isInterface <;> simp
      apply Reports.checks hc
      intro place r
      constructor
      · intro h
        cases h with
        | contract hi hj ha => exact ⟨_, _, hj, rfl, fun hall => hall ⟨hi, ha⟩, rfl⟩
      · rintro ⟨j, p, hj, rfl, hn, rfl⟩
        obtain ⟨hi, ha⟩ := Classical.not_not.mp hn
        exact .contract hi hj ha
  · intro place r h
    cases h with
    | name => exact ⟨0, _, _, rfl, rfl⟩
    | templateParameter => exact ⟨1, _, _, rfl, rfl⟩
    | property => exact ⟨2, _, _, rfl, rfl⟩
    | method => exact ⟨3, _, _, rfl, rfl⟩
    | contract => exact ⟨4, _, _, rfl, rfl⟩

theorem Diagram.reports (d : Diagram) : Reports d.WrongAt d.violations := by
  have hparts : d.violations =
      [d.classes.flatMap (ClassNode.violations d.target),
        d.packages.flatMap fun p => require (isIdentifier p.name) (.naming (.package p.name))].flatten := by
    rw [List.flatten_cons, List.flatten_singleton]
    rfl
  rw [hparts]
  apply Reports.join
  · rintro (_ | _ | i) part hpart <;> cases hpart
    · apply Reports.flatMap ClassNode.reports
      intro place r
      constructor
      · intro h
        cases h with
        | cls hi hc => exact ⟨_, _, _, hi, rfl, hc⟩
      · rintro ⟨i, node, inner, hi, rfl, hc⟩
        exact .cls hi hc
    · apply Reports.checks fun p => isIdentifier_iff_isName
      intro place r
      constructor
      · intro h
        cases h with
        | package hi hn => exact ⟨_, _, hi, rfl, hn, rfl⟩
      · rintro ⟨i, p, hi, rfl, hn, rfl⟩
        exact .package hi hn
  · intro place r h
    cases h with
    | cls => exact ⟨0, _, _, rfl, rfl⟩
    | package => exact ⟨1, _, _, rfl, rfl⟩

end Reports

namespace Diagram

/-- Validation lets a diagram through exactly if its names are names, its types can be spelled and no
interface has private properties, so that nothing is wrong at any place. Any other diagram is refused
for what is wrong at the first place. -/
theorem validate_reports_first (d : Diagram) :
    (d.validate = .ok () ↔ d.Legal) ∧ (d.Legal ↔ ∀ place r, ¬ d.WrongAt place r) ∧
      ∀ r, d.validate = .error r ↔ ∃ place, IsFirst d.WrongAt place r := by
  have hok : d.validate = .ok () ↔ ∀ place r, ¬ d.WrongAt place r := d.reports.verdict_ok_iff
  refine ⟨validate_eq_ok_iff, validate_eq_ok_iff.symm.trans hok, ?_⟩
  intro r
  exact d.reports.verdict_error_iff fun _ _ _ h h' => h.unique h'

example : Diagram.validate
    { target := .java
      classes := [
        { id := "i", isInterface := true, body :=
          { name := "IShape"
            properties := [{ id := "p", name := "area", access := .priv, type := .named "double" }]
            methods := [{ name := "scale", returnType := .named "unsigned int" }] } },
        { id := "c", body := { name := "my circle" } }] } =
      .error (.naming (.returnType "IShape" "scale" "unsigned int")) := by
  rfl

end Diagram

end ClassScaffold
