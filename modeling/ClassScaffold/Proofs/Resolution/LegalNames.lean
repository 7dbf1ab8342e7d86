import ClassScaffold.Proofs.Resolution.LengthFields
import ClassScaffold.Proofs.Validation

/-! Names that validation lets through, up to the fields of a class: those that it repeats from an
interface and those that hold lengths have legal names and types as well. -/
namespace ClassScaffold

/-- The name and the type of a field are legal, and those of all that its setter takes. -/
structure Field.Legal (target : Target) (f : Field) : Prop where
  name : IsName f.name
  type : target.isTypeName f.type.name = true
  setterParameters : ∀ p ∈ f.setterParameters, p.Legal target

namespace Diagram
variable {d : Diagram} {node : ClassNode}

theorem isIdentifier_className (hv : d.validate = .ok ()) (hc : node ∈ d.classes) :
    isIdentifier node.name = true :=
  isIdentifier_iff_isName.mpr ((validate_eq_ok_iff.mp hv).classes node hc).name

theorem mem_interfaces_of_mem_searchedInterfaces {i : ClassNode}
    (h : i ∈ d.searchedInterfaces node) : i ∈ d.interfaces := by
  obtain ⟨found, _, rfl⟩ := List.mem_map.mp h
  exact found.2

/-- A class shows its own properties, and repeats those of interfaces of the same diagram. -/
theorem memberProperty_cases {member : Origin × Property} (hm : member ∈ d.memberProperties node) :
    (member.1 = .declared ∧ member.2 ∈ node.body.properties) ∨
      member.1 = .flattened ∧ ¬ node.isInterface ∧
        ∃ i ∈ d.interfaces, member.2 ∈ i.body.properties := by
  rcases List.mem_append.mp hm with hm | hm
  · obtain ⟨p, hp, rfl⟩ := List.mem_map.mp hm
    exact .inl ⟨rfl, hp⟩
  · split at hm
    · rename_i hrepeats
      obtain ⟨i, hi, hm⟩ := List.mem_flatMap.mp hm
      obtain ⟨p, hp, rfl⟩ := List.mem_map.mp hm
      exact .inr ⟨rfl, hrepeats.2, i, mem_interfaces_of_mem_searchedInterfaces hi, hp⟩
    · cases hm

section Legal
variable (hd : d.Legal) (hn : d.nodeIds.Nodup) (hc : node ∈ d.classes)
include hd hc

theorem legal_memberProperty {member : Origin × Property} (hm : member ∈ d.memberProperties node) :
    member.2.Legal d.target := by
  rcases memberProperty_cases hm with ⟨_, hp⟩ | ⟨_, _, i, hi, hp⟩
  · exact (hd.classes node hc).properties _ hp
  · exact (hd.classes i (List.mem_of_mem_filter hi)).properties _ hp

include hn

private theorem legal_nameAndType {f : Field} (hf : f ∈ d.fields node) :
    IsName f.name ∧ d.target.isTypeName f.type.name = true := by
  obtain ⟨member, hm, hs⟩ := (laidOut_fields hn node).exists_stemsFrom hf
  have hp := legal_memberProperty hd hc hm
  cases hs with
  | property shown => exact ⟨shown.name_eq ▸ hp.name, shown.type_eq ▸ hp.type⟩
  | length _ listed held =>
    refine ⟨held.name ▸ hp.lengths _ listed, ?_⟩
    rw [held.type]
    exact d.target.isTypeName_lengthType

theorem legal_field {f : Field} (hf : f ∈ d.fields node) : f.Legal d.target := by
  obtain ⟨hname, htype⟩ := legal_nameAndType hd hn hc hf
  refine ⟨hname, htype, fun parameter hp => ?_⟩
  obtain ⟨g, hg, rfl, _⟩ := (laidOut_fields hn node).exists_setterParameter hf hp
  obtain ⟨hname, htype⟩ := legal_nameAndType hd hn hc hg
  exact ⟨hname, htype⟩

theorem isName_lengthField {f : Field} (hf : f ∈ d.fields node) {length : String}
    (hl : length ∈ f.type.lengthFields) : IsName length := by
  obtain ⟨g, hg, held⟩ := (laidOut_fields hn node).exists_holdsLength hf hl
  exact held.name ▸ (legal_nameAndType hd hn hc hg).1

/-- What is private in a class stems from what the class declares as private, so the class is no
interface and the declaration is its own. -/
theorem exists_private_property {f : Field} (hf : f ∈ d.fields node) (ha : f.access = .priv) :
    ¬ node.isInterface ∧ ∃ p ∈ node.body.properties, p.access = .priv ∧
      f.StemsFrom d.target (.declared, p) := by
  obtain ⟨⟨origin, p⟩, hm, hs⟩ := (laidOut_fields hn node).exists_stemsFrom hf
  have hp : p.access = .priv := hs.access_eq.symm.trans ha
  rcases memberProperty_cases hm with ⟨rfl, hown⟩ | ⟨_, _, i, hi, hother⟩
  · exact ⟨fun hi => (hd.classes node hc).contract hi p hown hp, p, hown, hp, hs⟩
  · obtain ⟨hic, hinterface⟩ := List.mem_filter.mp hi
    exact absurd hp ((hd.classes i hic).contract hinterface p hother)

end Legal

theorem isTypeName_fieldType (hv : d.validate = .ok ()) (hn : d.nodeIds.Nodup)
    (hc : node ∈ d.classes) {f : Field} (hf : f ∈ d.fields node) :
    d.target.isTypeName f.type.name = true :=
  (legal_field (validate_eq_ok_iff.mp hv) hn hc hf).type

end Diagram

end ClassScaffold
