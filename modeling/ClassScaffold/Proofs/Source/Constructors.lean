import ClassScaffold.Proofs.Resolution.Lifecycle
import ClassScaffold.Proofs.Source.ClassText

/-! The constructors that are written for a class. With manual memory they are as different as their
signatures. A managed language spells less of a type than a signature does, so that constructors with
different signatures can come out with the same parameters. -/
namespace ClassScaffold

namespace ClassWriter
variable {engine : TemplateEngine}

def target : ClassWriter engine → Target
  | .native .. => .cpp
  | .csharp _ => .csharp
  | .java _ => .java

/-- The constructors that are written for a class that is no interface. -/
def constructors : ClassWriter engine → ModelClass → Except RenderFault (List ConstructorText)
  | .native _ memory, c => c.nativeConstructors memory
  | .csharp _, c => .ok (c.constructorTexts .csharp)
  | .java _, c => .ok (c.constructorTexts .java)

end ClassWriter

namespace ModelClass

/-- The class as a copy constructor takes it, in a managed language with its template parameters. -/
def copyParameter (target : Target) (c : ModelClass) : String :=
  match target with
  | .cpp => copySignature c.name
  | .csharp | .java =>
    if c.templateParameters = [] then c.name
    else c.name ++ "<" ++ ", ".intercalate c.templateParameters ++ ">"

def parameterTypes (target : Target) (c : ModelClass) (text : ConstructorText) : List String :=
  if text.isCopy then [c.copyParameter target]
  else text.parameters.map fun p => p.type ++ p.arraySuffix

/-- What a managed language tells of the parameters: the name of each type and the number of arrays
in it. The copied object is a parameter like any other, unless its type has template parameters. -/
def managedShape (c : ModelClass) (k : ModelConstructor) : Option (List (String × Nat)) :=
  if k.isCopy then if c.templateParameters = [] then some [(c.name, 0)] else none
  else some ((c.select k.fields).map fun f => (f.type.name, f.type.levels.countP Level.isArray))

/-- The signatures of a class are spelled from its types and tell its constructors apart, with the one
that is written for it. Types have legal names. -/
structure SpelledApart (target : Target) (c : ModelClass) : Prop where
  name : TypeSpelled c.name
  types : ∀ f ∈ c.fields, TypeSpelled f.type.name
  spelled : ∀ k ∈ c.constructors, k.signature =
    if k.isCopy then copySignature c.name
    else ", ".intercalate ((c.select k.fields).map (·.type.signature))
  apart : ((if target.managesMemory && !c.isInterface && c.copyConstructor then
    [copySignature c.name] else []) ++ c.constructors.map (·.signature)).Nodup

section Native
variable {c : ModelClass}

/-- With manual memory the types of the parameters, one after the other, are the signature. -/
private theorem intercalate_parameterTypes {k : ModelConstructor}
    (hk : k.signature = if k.isCopy then copySignature c.name
      else ", ".intercalate ((c.select k.fields).map (·.type.signature))) :
    ", ".intercalate (c.parameterTypes .cpp (.declared .cpp c k)) = k.signature := by
  rw [hk]
  cases h : k.isCopy with
  | true =>
    simp only [parameterTypes, ConstructorText.declared, h, if_true, copyParameter]
    rfl
  | false =>
    have hnot : (ConstructorText.declared .cpp c k).isCopy = false := h
    simp only [parameterTypes, hnot, ConstructorText.types_declared h, Bool.false_eq_true, if_false]

private theorem nativeConstructors_eq_ok {engine : TemplateEngine} {memory : Skeleton.Group engine}
    {texts : List ConstructorText} (h : c.nativeConstructors memory = .ok texts) :
    texts.map (c.parameterTypes .cpp) =
      (c.constructorTexts .cpp).map (c.parameterTypes .cpp) ++
        if c.copyConstructor then [[copySignature c.name]] else [] := by
  unfold nativeConstructors at h
  split at h
  · obtain ⟨body, _, ht⟩ := bind_eq_ok_iff.mp h
    cases ht
    rw [List.map_append]
    simp [*, parameterTypes, implicitCopy, copyParameter]
  · cases h
    simp [*]

/-- Equal parameters would have equal signatures. -/
theorem SpelledApart.nodup_native (hc : c.SpelledApart .cpp) (hi : c.isInterface = false)
    {engine : TemplateEngine} {memory : Skeleton.Group engine} {texts : List ConstructorText}
    (h : c.nativeConstructors memory = .ok texts) : (texts.map (c.parameterTypes .cpp)).Nodup := by
  have hdeclared : ((c.constructorTexts .cpp).map (c.parameterTypes .cpp)).map ", ".intercalate =
      c.constructors.map (·.signature) := by
    rw [constructorTexts, List.map_map, List.map_map]
    apply List.map_congr_left
    intro k hm
    exact intercalate_parameterTypes (hc.spelled k hm)
  have hcopy : (if c.copyConstructor then [[copySignature c.name]] else []).map ", ".intercalate =
      if c.copyConstructor then [copySignature c.name] else [] := by
    cases c.copyConstructor <;> rfl
  have ha := hc.apart
  simp only [Target.managesMemory, hi, Bool.not_false, Bool.true_and] at ha
  apply List.Nodup.of_map ", ".intercalate
  rw [nativeConstructors_eq_ok h, List.map_append, hdeclared, hcopy]
  exact List.nodup_append_comm.mp ha

end Native

section Managed
variable {target : Target} {c : ModelClass} {k l : ModelConstructor}

private def takenTypes (c : ModelClass) (k : ModelConstructor) : List DataType :=
  if k.isCopy then [.named c.name] else (c.select k.fields).map (·.type)

private theorem parameterTypes_eq_map (ht : target ≠ .cpp)
    (hk : k.isCopy = true → c.templateParameters = []) :
    c.parameterTypes target (.declared target c k) =
      (c.takenTypes k).map fun t => t.managedText.type := by
  have hnamed : (DataType.named c.name).managedText.type = c.name := String.append_empty
  have hplain (t : DataType) : t.managedText.type ++ t.managedText.suffix = t.managedText.type :=
    String.append_empty
  cases target with
  | cpp => exact absurd rfl ht
  | csharp | java =>
    cases h : k.isCopy with
    | true =>
      simp [parameterTypes, takenTypes, ConstructorText.declared, h, copyParameter, hk h, hnamed]
    | false =>
      simp [parameterTypes, takenTypes, ConstructorText.declared, h, ParameterText.ofField,
        ParameterText.ofTypeText, Target.spell, hplain]

private theorem managedShape_eq_map (hk : k.isCopy = true → c.templateParameters = []) :
    c.managedShape k = some ((c.takenTypes k).map fun t => (t.name, t.lengthFields.length)) := by
  cases h : k.isCopy with
  | true =>
    simp only [managedShape, takenTypes, h, hk h, if_true]
    rfl
  | false =>
    simp [managedShape, takenTypes, h, DataType.length_lengthFields]

section Names
variable {source : Target} (hc : c.SpelledApart source)
include hc

private theorem spelled_takenTypes : ∀ t ∈ c.takenTypes k, TypeSpelled t.name := by
  intro t ht
  unfold takenTypes at ht
  split at ht
  · rw [List.mem_singleton.mp ht]
    exact hc.name
  · obtain ⟨f, hm, rfl⟩ := List.mem_map.mp ht
    obtain ⟨i, _, hi⟩ := List.mem_filterMap.mp hm
    exact hc.types f (List.mem_of_getElem? hi)

private theorem eq_iff_of_takenTypes (ht : target ≠ .cpp)
    (hk : k.isCopy = true → c.templateParameters = [])
    (hl : l.isCopy = true → c.templateParameters = []) :
    c.parameterTypes target (.declared target c k) = c.parameterTypes target (.declared target c l) ↔
      c.managedShape k = c.managedShape l := by
  rw [parameterTypes_eq_map ht hk, parameterTypes_eq_map ht hl, managedShape_eq_map hk,
    managedShape_eq_map hl, Option.some.injEq]
  apply map_eq_map_iff_of_iff
  intro t hmt u hmu
  rw [Prod.mk.injEq]
  exact DataType.managedText_eq_iff (spelled_takenTypes hc t hmt) (spelled_takenTypes hc u hmu)

/-- The brackets of template parameters are in the type of a copied object only. -/
private theorem ne_of_isCopy (ht : target ≠ .cpp) (hg : c.templateParameters ≠ [])
    (hk : k.isCopy = true) (hl : l.isCopy = false) :
    c.parameterTypes target (.declared target c k) ≠ c.parameterTypes target (.declared target c l) := by
  intro he
  have hcopied : c.parameterTypes target (.declared target c k) = [c.copyParameter target] := by
    simp [parameterTypes, ConstructorText.declared, hk]
  have hm : c.copyParameter target ∈ c.parameterTypes target (.declared target c l) := by
    rw [← he, hcopied]
    exact List.mem_singleton_self _
  rw [parameterTypes_eq_map ht (by simp [hl])] at hm
  obtain ⟨t, hmt, ht'⟩ := List.mem_map.mp hm
  have hbracket : '<' ∈ t.managedText.type.toList := by
    rw [ht']
    cases target with
    | cpp => exact absurd rfl ht
    | csharp | java => simp [copyParameter, hg]
  have hs := DataType.mem_managedText (spelled_takenTypes hc t hmt) '<' hbracket
  exact absurd hs (by decide)

/-- Two constructors come out with the same parameters exactly if they have one shape. -/
theorem SpelledApart.parameterTypes_eq_iff (ht : target ≠ .cpp) :
    c.parameterTypes target (.declared target c k) = c.parameterTypes target (.declared target c l) ↔
      c.managedShape k = c.managedShape l := by
  by_cases hg : c.templateParameters = []
  · exact eq_iff_of_takenTypes hc ht (fun _ => hg) (fun _ => hg)
  · cases hk : k.isCopy <;> cases hl : l.isCopy
    · exact eq_iff_of_takenTypes hc ht (by simp [hk]) (by simp [hl])
    · apply iff_of_false
      · exact (ne_of_isCopy hc ht hg hl hk).symm
      · simp [managedShape, hk, hl, hg]
    · apply iff_of_false
      · exact ne_of_isCopy hc ht hg hk hl
      · simp [managedShape, hk, hl, hg]
    · apply iff_of_true
      · simp [parameterTypes, ConstructorText.declared, hk, hl]
      · simp [managedShape, hk, hl, hg]

theorem SpelledApart.nodup_managed_iff (ht : target ≠ .cpp) :
    ((c.constructorTexts target).map (c.parameterTypes target)).Nodup ↔
      (c.constructors.map c.managedShape).Nodup := by
  rw [constructorTexts, List.map_map]
  apply nodup_map_iff_of_iff
  intro k _ l _
  exact hc.parameterTypes_eq_iff ht

end Names

end Managed

end ModelClass

namespace Diagram
variable {d : Diagram} {m : Model} {c : ModelClass} {engine : TemplateEngine}
  {w : ClassWriter engine} {texts : List ConstructorText}

theorem spelledApart_of_accept (h : d.accept = .ok m) (hc : c ∈ m.classes) :
    c.SpelledApart m.target := by
  obtain ⟨hv, hr⟩ := accept_eq_ok_iff.mp h
  have hlifecycle := lifecycle_eq_ok_iff.mp (lifecycle_of_resolve hr)
  obtain ⟨hn, _, placement, _, rfl⟩ := resolve_eq_ok_iff.mp hr
  obtain ⟨node, hnode, rfl⟩ := List.mem_map.mp hc
  have hs := (hlifecycle node hnode).2
  rw [ClassNode.signatures_eq] at hs
  have hsignatures : ((node.toModel d.registry placement).constructors.map (·.signature)) =
      node.body.constructors.map (Constructor.signature node.name (d.fields node)) :=
    List.map_map
  rw [← hsignatures] at hs
  constructor
  · exact .of_identifier (isIdentifier_className hv hnode)
  · intro f hf
    exact Target.typeSpelled_of_isTypeName (isTypeName_fieldType hv hn hnode hf)
  · intro k hk
    obtain ⟨declared, _, rfl⟩ := List.mem_map.mp hk
    rfl
  · exact hs

/-- The constructors of an accepted class have different signatures, and no two of them come out with
the same parameters where memory is manual. In a managed language they do exactly where their
parameters have the same names of types and numbers of arrays. -/
theorem nodup_writtenParameters_iff (h : d.accept = .ok m) (hc : c ∈ m.classes)
    (hi : c.isInterface = false) (hw : w.target = m.target) (ht : w.constructors c = .ok texts) :
    (c.constructors.map (·.signature)).Nodup ∧
      ((texts.map (c.parameterTypes m.target)).Nodup ↔
        m.target = .cpp ∨ (c.constructors.map c.managedShape).Nodup) := by
  have hs := spelledApart_of_accept h hc
  refine ⟨(List.nodup_append.mp hs.apart).2.1, ?_⟩
  rw [← hw] at hs ⊢
  cases w with
  | native classes memory => exact iff_of_true (hs.nodup_native hi ht) (.inl rfl)
  | csharp classes =>
    cases ht
    have hmanaged := hs.nodup_managed_iff (show Target.csharp ≠ .cpp by decide)
    exact hmanaged.trans (or_iff_right nofun).symm
  | java classes =>
    cases ht
    have hmanaged := hs.nodup_managed_iff (show Target.java ≠ .cpp by decide)
    exact hmanaged.trans (or_iff_right nofun).symm

/-- A class with constructors for a value and for a pointer. -/
def boxNode : ClassNode where
  id := "c"
  body :=
    { name := "Box",
      properties := [
        { id := "a", name := "a", type := { name := "int" } },
        { id := "b", name := "b", type := { name := "int", pointers := [⟨false, false, ""⟩] } }],
      constructors := [
        { name := "fromValue", fields := ["a"] }, { name := "fromPointer", fields := ["b"] }] }

def box (target : Target) : Diagram where
  classes := [boxNode]
  target := target

def boxClass (target : Target) : ModelClass :=
  boxNode.toModel (box target).registry ⟨[], [], []⟩

private theorem accept_box (target : Target) :
    (box target).accept = .ok { target := target, classes := [boxClass target], packages := [] } := by
  cases target <;> cbv

/-- With manual memory the two constructors are apart, and in Java they come out alike. -/
theorem nodup_writtenParameters_box :
    (∃ texts, (Target.writerOf .cpp Skeleton.Cpp.skeleton Skeleton.Memory.skeleton).constructors
        (boxClass .cpp) = .ok texts ∧
      (texts.map ((boxClass .cpp).parameterTypes .cpp)).Nodup) ∧
    ((boxClass .java).constructors.map (·.signature)).Nodup ∧
      ¬ (((boxClass .java).constructorTexts .java).map ((boxClass .java).parameterTypes .java)).Nodup := by
  obtain ⟨_, hnative⟩ := nodup_writtenParameters_iff (accept_box .cpp) List.mem_cons_self rfl
    (w := Target.writerOf .cpp Skeleton.Cpp.skeleton Skeleton.Memory.skeleton) rfl rfl
  obtain ⟨hsignatures, hmanaged⟩ := nodup_writtenParameters_iff (accept_box .java) List.mem_cons_self
    rfl (w := Target.writerOf .java Skeleton.Java.skeleton Skeleton.Memory.skeleton) rfl rfl
  refine ⟨⟨_, rfl, hnative.mpr (.inl rfl)⟩, hsignatures, fun hn => ?_⟩
  have hshapes : (boxClass .java).constructors.map (boxClass .java).managedShape =
      [some [("int", 0)], some [("int", 0)]] := by
    cbv
  rcases hmanaged.mp hn with h | h
  · cases h
  · rw [hshapes] at h
    exact absurd h (by decide)

/-- In C# both constructors take an integer. -/
theorem writtenParameters_collide :
    ¬ ∀ (d : Diagram) (m : Model), d.accept = .ok m → ∀ c ∈ m.classes, c.isInterface = false →
      ∀ (w : ClassWriter Skeleton.engine) (texts : List ConstructorText), w.target = m.target →
        w.constructors c = .ok texts → (texts.map (c.parameterTypes m.target)).Nodup := by
  intro h
  have hn := h (box .csharp) _ (accept_box .csharp) _ List.mem_cons_self rfl
    (Target.writerOf .csharp Skeleton.CSharp.skeleton Skeleton.Memory.skeleton) _ rfl rfl
  have hcollide : ((boxClass .csharp).constructorTexts .csharp).map
      ((boxClass .csharp).parameterTypes .csharp) = [["int"], ["int"]] := by
    cbv
  rw [hcollide] at hn
  exact absurd hn (by decide)

end Diagram

end ClassScaffold
