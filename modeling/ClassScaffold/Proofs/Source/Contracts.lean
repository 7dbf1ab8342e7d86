import ClassScaffold.Proofs.Resolution.LengthFields
import ClassScaffold.Source.MemberText

/-! Properties that interfaces of C# declare, and what the classes that implement them make of these.
A class has every one of them, but only what an interface declares itself is an auto-property there,
and the length of an array is not. -/
namespace ClassScaffold

def PropertyText.Matches (p q : PropertyText) : Prop :=
  q.name = p.name ∧ q.type = p.type

namespace PropertyText.Matches
variable {target : Target} {f g : Field} {p q r : PropertyText}

theorem ofField (hn : f.name = g.name) (ht : f.type = g.type) :
    (PropertyText.ofField target f).Matches (.ofField target g) :=
  ⟨hn.symm, by rw [PropertyText.ofField, PropertyText.ofField, ht]⟩

theorem trans (h : p.Matches q) (h' : q.Matches r) : p.Matches r :=
  ⟨h'.1.trans h.1, h'.2.trans h.2⟩

end PropertyText.Matches

namespace ModelClass

/-- The class has the property in public. -/
def Offers (c : ModelClass) (p : PropertyText) : Prop :=
  ∃ q ∈ c.propertyTextsOf .csharp .pub, p.Matches q

/-- The class has the property in public, written as an auto-property. -/
def Implements (c : ModelClass) (p : PropertyText) : Prop :=
  ∃ q ∈ c.propertyTextsOf .csharp .pub, p.Matches q ∧ q.isAutoProperty = true

theorem mem_propertyTextsOf {target : Target} {access : Access} {c : ModelClass} {p : PropertyText} :
    p ∈ c.propertyTextsOf target access ↔
      ∃ f ∈ c.fields, f.access = access ∧ PropertyText.ofField target f = p := by
  simp [propertyTextsOf, and_assoc]

end ModelClass

theorem PropertyText.isAutoProperty_ofField {target : Target} {f : Field} :
    (ofField target f).isAutoProperty = true ↔ f.origin = .flattened :=
  beq_iff_eq

namespace Field.LaidOut
variable {target : Target} {members : List (Origin × Property)} {fields : List Field}

theorem exists_shows (h : LaidOut target members fields) {member : Origin × Property}
    (hm : member ∈ members) : ∃ f ∈ fields, f.Shows member.1 member.2 := by
  obtain ⟨f, hf, hs⟩ := exists_of_forall₂ h.filter_not_isSynthetic hm
  exact ⟨f, List.mem_of_mem_filter hf, hs⟩

end Field.LaidOut

namespace Diagram
variable {d : Diagram} {node i : ClassNode}

/-- An interface that a chain of parents through interfaces leads to declares the property in public. -/
def Declares (d : Diagram) (node : ClassNode) (p : PropertyText) : Prop :=
  ∃ i, Relation.TransGen d.ExtendsInterface node i ∧ ∃ declared ∈ i.body.properties,
    declared.access = .pub ∧ p.Matches (.ofField .csharp (.ofProperty .flattened declared))

theorem mem_interfaces_of_transGen (h : Relation.TransGen d.ExtendsInterface node i) :
    i ∈ d.interfaces := by
  cases h with
  | single h => exact h.1
  | tail _ h => exact h.1

theorem flattened_mem_memberProperties_iff (hn : d.nodeIds.Nodup) (ht : d.target = .csharp)
    (hc : ¬ node.isInterface) {p : Property} :
    (.flattened, p) ∈ d.memberProperties node ↔
      ∃ i, Relation.TransGen d.ExtendsInterface node i ∧ p ∈ i.body.properties := by
  rw [memberProperties, if_pos ⟨ht, hc⟩]
  simp [mem_searchedInterfaces hn]

/-- An interface shows nothing but its own properties. -/
theorem memberProperties_of_interface (hi : node.isInterface) :
    d.memberProperties node = node.body.properties.map (Prod.mk .declared) := by
  rw [memberProperties, if_neg fun h => h.2 hi, List.append_nil]

section Implementer
variable (hn : d.nodeIds.Nodup) (ht : d.target = .csharp) (hc : ¬ node.isInterface)
  (placement : Placement)
include hn ht hc

/-- The auto-properties of a class are what its interfaces declare. -/
theorem implements_iff_declares {p : PropertyText} :
    (node.toModel d.registry placement).Implements p ↔ d.Declares node p := by
  have hl := laidOut_fields hn node
  constructor
  · rintro ⟨q, hq, hm, hauto⟩
    obtain ⟨f, hf, ha, rfl⟩ := ModelClass.mem_propertyTextsOf.mp hq
    rw [PropertyText.isAutoProperty_ofField] at hauto
    obtain ⟨⟨origin, declared⟩, hmember, hs⟩ := hl.exists_stemsFrom hf
    cases hs with
    | property shown =>
      obtain rfl : .flattened = origin := hauto.symm.trans shown.origin_eq
      obtain ⟨i, hi, hp⟩ := (flattened_mem_memberProperties_iff hn ht hc).mp hmember
      exact ⟨i, hi, declared, hp, shown.access_eq.symm.trans ha,
        hm.trans (.ofField shown.name_eq shown.type_eq)⟩
    | length _ _ held => cases held.origin.symm.trans hauto
  · rintro ⟨i, hi, declared, hp, ha, hm⟩
    obtain ⟨f, hf, hs⟩ := hl.exists_shows
      ((flattened_mem_memberProperties_iff hn ht hc).mpr ⟨i, hi, hp⟩)
    exact ⟨_, ModelClass.mem_propertyTextsOf.mpr ⟨f, hf, hs.access_eq.trans ha, rfl⟩,
      hm.trans (.ofField hs.name_eq.symm hs.type_eq.symm),
      PropertyText.isAutoProperty_ofField.mpr hs.origin_eq⟩

/-- A class has what its interfaces show, lengths included. -/
theorem offers_of_field (hi : Relation.TransGen d.ExtendsInterface node i) {f : Field}
    (hf : f ∈ d.fields i) (ha : f.access = .pub) :
    (node.toModel d.registry placement).Offers (.ofField .csharp f) := by
  have hl := laidOut_fields hn node
  have hinterface : i.isInterface := (List.mem_filter.mp (mem_interfaces_of_transGen hi)).2
  obtain ⟨member, hmember, hs⟩ := (laidOut_fields hn i).exists_stemsFrom hf
  rw [memberProperties_of_interface hinterface] at hmember
  obtain ⟨p, hp, rfl⟩ := List.mem_map.mp hmember
  obtain ⟨g, hg, hshown⟩ := hl.exists_shows
    ((flattened_mem_memberProperties_iff hn ht hc).mpr ⟨i, hi, hp⟩)
  have hpub : g.access = .pub := hshown.access_eq.trans (hs.access_eq.symm.trans ha)
  cases hs with
  | property shown =>
    exact ⟨_, ModelClass.mem_propertyTextsOf.mpr ⟨g, hg, hpub, rfl⟩,
      .ofField (shown.name_eq.trans hshown.name_eq.symm) (shown.type_eq.trans hshown.type_eq.symm)⟩
  | length shown listed held =>
    -- the length is made up again, behind the repeated property
    obtain ⟨length, hlength, hh⟩ := hl.exists_holdsLength hg (hshown.type_eq ▸ listed)
    exact ⟨_, ModelClass.mem_propertyTextsOf.mpr ⟨length, hlength, hh.access.trans hpub, rfl⟩,
      .ofField (held.name.trans hh.name.symm) (by rw [held.type, hh.type])⟩

end Implementer

theorem class?_toModel (hn : d.nodeIds.Nodup) (placement : Placement) (hc : node ∈ d.classes) :
    (d.registry.toModel placement).class? node.id = some (node.toModel d.registry placement) := by
  have hids : ((d.registry.toModel placement).classes.map (·.id)).Nodup := by
    rw [Registry.toModel, List.map_map]
    exact (List.nodup_append.mp hn).1
  exact (find?_key_eq_some_iff hids).mpr ⟨List.mem_map_of_mem hc, rfl⟩

/-- A class has every property that is written into one of its interfaces, with the same type. Those
that an interface declares are auto-properties in the class; the lengths of their arrays, which are
written into the interface as well, are not, unless an interface declares them by themselves. -/
theorem implements_declared_properties {m : Model} (h : d.accept = .ok m) (ht : d.target = .csharp)
    (hc : node ∈ d.classes) (hr : ¬ node.isInterface)
    (hi : Relation.TransGen d.ExtendsInterface node i) :
    ∃ c k, m.class? node.id = some c ∧ m.class? i.id = some k ∧
      (∀ p ∈ k.propertyTextsOf .csharp .pub, c.Offers p) ∧
      (∀ f ∈ k.fields, f.access = .pub → f.isSynthetic = false →
        c.Implements (.ofField .csharp f)) ∧
      ((∀ p ∈ k.propertyTextsOf .csharp .pub, c.Implements p) ↔
        ∀ f ∈ k.fields, f.access = .pub → f.isSynthetic = true →
          d.Declares node (.ofField .csharp f)) := by
  obtain ⟨hn, _, placement, _, rfl⟩ := resolve_eq_ok_iff.mp (accept_eq_ok_iff.mp h).2
  have hinterface := List.mem_filter.mp (mem_interfaces_of_transGen hi)
  have himplements (p : PropertyText) := implements_iff_declares hn ht hr placement (p := p)
  have hdeclared : ∀ f ∈ d.fields i, f.access = .pub → f.isSynthetic = false →
      d.Declares node (.ofField .csharp f) := by
    intro f hf ha hs
    obtain ⟨member, hmember, hstems⟩ := (laidOut_fields hn i).exists_stemsFrom hf
    rw [memberProperties_of_interface hinterface.2] at hmember
    obtain ⟨p, hp, rfl⟩ := List.mem_map.mp hmember
    cases hstems with
    | property shown =>
      exact ⟨i, hi, p, hp, shown.access_eq.symm.trans ha, .ofField shown.name_eq shown.type_eq⟩
    | length _ _ held => cases hs.symm.trans held.isSynthetic
  refine ⟨_, _, class?_toModel hn placement hc, class?_toModel hn placement hinterface.1,
    fun p hp => ?_, fun f hf ha hs => (himplements _).mpr (hdeclared f hf ha hs),
    fun hall f hf ha _ => ?_, fun hlengths p hp => ?_⟩
  · obtain ⟨f, hf, ha, rfl⟩ := ModelClass.mem_propertyTextsOf.mp hp
    exact offers_of_field hn ht hr placement hi hf ha
  · exact (himplements _).mp (hall _ (ModelClass.mem_propertyTextsOf.mpr ⟨f, hf, ha, rfl⟩))
  · obtain ⟨f, hf, ha, rfl⟩ := ModelClass.mem_propertyTextsOf.mp hp
    refine (himplements _).mpr ?_
    cases hs : f.isSynthetic with
    | false => exact hdeclared f hf ha hs
    | true => exact hlengths f hf ha hs

/-- A class that implements an interface with an array. -/
def ring : Diagram where
  target := .csharp
  classes := [
    { id := "i", isInterface := true, body :=
      { name := "IBuffer", properties := [
          { id := "d", name := "data", type := { name := "int", pointers := [⟨false, true, "size"⟩] } }] } },
    { id := "c", parents := [{ id := "i" }], body := { name := "Ring" } }]

def ringInterface : ModelClass :=
  ring.classes[0].toModel ring.registry ⟨[], [], []⟩

def ringClass : ModelClass :=
  ring.classes[1].toModel ring.registry ⟨[], [], []⟩

private theorem accept_ring :
    ring.accept = .ok { target := .csharp, classes := [ringInterface, ringClass], packages := [] } := by
  cbv

private theorem extendsInterface_ring :
    Relation.TransGen ring.ExtendsInterface ring.classes[1] ring.classes[0] :=
  .single ⟨by decide, by decide⟩

private theorem ringInterface_texts :
    (ringInterface.propertyTextsOf .csharp .pub).map (fun p => (p.name, p.type)) =
      [("data", "int[]"), ("size", "uint")] := by
  cbv

private theorem ringClass_texts :
    (ringClass.propertyTextsOf .csharp .pub).map (fun p => (p.name, p.type, p.isAutoProperty)) =
      [("data", "int[]", true), ("size", "uint", false)] := by
  cbv

/-- The length is written into the interface, but it is a plain field of the class. -/
private theorem not_implements_ring :
    ¬ ∀ p ∈ ringInterface.propertyTextsOf .csharp .pub, ringClass.Implements p := by
  have hsize : ("size", "uint") ∈
      (ringInterface.propertyTextsOf .csharp .pub).map fun p => (p.name, p.type) := by
    rw [ringInterface_texts]
    decide
  obtain ⟨p, hp, heq⟩ := List.mem_map.mp hsize
  obtain ⟨hp', -⟩ := Prod.mk.inj heq
  intro h
  obtain ⟨q, hq, hm, hauto⟩ := h p hp
  have hmem : (q.name, q.type, q.isAutoProperty) ∈
      (ringClass.propertyTextsOf .csharp .pub).map fun p => (p.name, p.type, p.isAutoProperty) :=
    List.mem_map_of_mem hq
  rw [ringClass_texts, hm.1.trans hp', hauto] at hmem
  exact absurd hmem (by simp)

theorem implements_declared_properties_ring :
    ring.accept = .ok { target := .csharp, classes := [ringInterface, ringClass], packages := [] } ∧
      Relation.TransGen ring.ExtendsInterface ring.classes[1] ring.classes[0] ∧
      (∀ p ∈ ringInterface.propertyTextsOf .csharp .pub, ringClass.Offers p) ∧
      (∀ f ∈ ringInterface.fields, f.access = .pub → f.isSynthetic = false →
        ringClass.Implements (.ofField .csharp f)) ∧
      ¬ ∀ f ∈ ringInterface.fields, f.access = .pub → f.isSynthetic = true →
        ring.Declares ring.classes[1] (.ofField .csharp f) := by
  obtain ⟨c, k, hc, hk, hoffers, himplements, hiff⟩ := implements_declared_properties accept_ring rfl
    (show ring.classes[1] ∈ ring.classes by decide) (by decide) extendsInterface_ring
  have hcls : ringClass = c := Option.some.inj ((by cbv : _ = some ringClass).symm.trans hc)
  have hint : ringInterface = k := Option.some.inj ((by cbv : _ = some ringInterface).symm.trans hk)
  subst hcls hint
  exact ⟨accept_ring, extendsInterface_ring, hoffers, himplements, mt hiff.mpr not_implements_ring⟩

/-- The class leaves a property of its interface unimplemented. -/
theorem ring_lacks_length :
    ¬ ∀ (d : Diagram) (m : Model), d.target = .csharp → d.accept = .ok m → ∀ node ∈ d.classes,
      ¬ node.isInterface → ∀ i, Relation.TransGen d.ExtendsInterface node i →
      ∀ c k, m.class? node.id = some c → m.class? i.id = some k →
      ∀ p ∈ k.propertyTextsOf .csharp .pub, c.Implements p := by
  intro h
  exact not_implements_ring (h ring _ rfl accept_ring ring.classes[1] (by decide) (by decide)
    ring.classes[0] extendsInterface_ring ringClass ringInterface (by cbv) (by cbv))

end Diagram

end ClassScaffold
