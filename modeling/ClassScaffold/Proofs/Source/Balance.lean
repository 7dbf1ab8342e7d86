import ClassScaffold.Proofs.Ownership.Balance
import ClassScaffold.Proofs.Ownership.Levels
import ClassScaffold.Proofs.Resolution.ModelNames
import ClassScaffold.Proofs.Sources

/-! Sources are balanced. Legal names have no brackets, types and places close theirs, and the bundled
skeletons close what they open. The bodies of constructors are balanced where they were before. -/
namespace ClassScaffold

open Skeleton Text

private theorem balanced_ite {p : Prop} [Decidable p] {s t : String} (hs : Balanced s)
    (ht : Balanced t) : Balanced (if p then s else t) := by
  split
  · exact hs
  · exact ht

private theorem balanced_given {p : Prop} [Decidable p] {s : String} (h : Balanced s) :
    ∀ t ∈ (if p then some s else none), Balanced t := by
  intro t ht
  obtain ⟨_, ht⟩ := Option.ite_none_right_eq_some.mp ht
  cases ht
  exact h

namespace DataType

private theorem balanced_dimensionText (d : Dimension) : Balanced (dimensionText d) := by
  refine .insert (s := toString d.maxLength.toNat) (by decide) (balanced_of_plain fun c hc => ?_)
  have hdigit : c ∈ Nat.toDigits 10 d.maxLength.toNat := by
    simpa [toString, Nat.toList_repr] using hc
  exact isBracket_eq_false (p := Char.isDigit) (by decide)
    (Nat.isDigit_of_mem_toDigits (by decide) (by decide) hdigit)

private theorem balanced_pointerText (p : Pointer) : Balanced (pointerText p) :=
  balanced_ite (by decide) (by decide)

theorem balanced_spell {target : Target} {t : DataType} (h : target.isTypeName t.name = true) :
    Balanced (target.spell t).type ∧ Balanced (target.spell t).suffix := by
  have hname := Target.balanced_typeName h
  have hmanaged : Balanced t.managedText.type ∧ Balanced t.managedText.suffix := by
    refine ⟨hname.append (.join fun s hs => ?_), show Balanced "" by decide⟩
    rw [List.eq_of_mem_replicate hs]
    decide
  cases target with
  | cpp =>
    refine ⟨((balanced_ite (by decide) (by decide)).append hname).append (.join fun s hs => ?_),
      .join fun s hs => ?_⟩
    · obtain ⟨p, _, rfl⟩ := List.mem_map.mp hs
      exact balanced_pointerText p
    · obtain ⟨d, _, rfl⟩ := List.mem_map.mp hs
      exact balanced_dimensionText d
  | csharp | java => exact hmanaged

end DataType

namespace Target
variable {target : Target}

theorem balanced_parameterText {p : Parameter} (h : p.Legal target) :
    Balanced (target.parameterText p).type ∧ Balanced (target.parameterText p).suffix := by
  obtain ⟨htype, hsuffix⟩ := DataType.balanced_spell h.type
  cases target with
  | cpp =>
    exact ⟨((balanced_ite (by decide) (by decide)).append htype).append
      (balanced_ite (by decide) (by decide)), hsuffix⟩
  | csharp => exact ⟨(balanced_ite (by decide) (by decide)).append htype, hsuffix⟩
  | java => exact ⟨htype, hsuffix⟩

theorem balanced_getterType {t : DataType} (h : target.isTypeName t.name = true) :
    Balanced (target.getterType t) := by
  obtain ⟨htype, _⟩ := DataType.balanced_spell h
  cases target with
  | cpp => exact balanced_ite htype (by decide)
  | csharp | java => exact htype

theorem balanced_getterName {name : String} (h : IsName name) :
    Balanced (target.getterName name) := by
  cases target <;> exact .append (by decide) h.balanced_pascalCase

theorem balanced_setterName {name : String} (h : IsName name) :
    Balanced (target.setterName name) := by
  cases target <;> exact .append (by decide) h.balanced_pascalCase

end Target

section Members
variable {target : Target} {f : Field}

theorem ParameterText.tame_ofParameter {p : Parameter} (h : p.Legal target) :
    Tame .value (ofParameter target p).toJson := by
  obtain ⟨htype, hsuffix⟩ := Target.balanced_parameterText h
  exact .record (forall_tameMember ⟨.text h.name.balanced, .text htype, .text hsuffix⟩)

theorem ParameterText.tame_ofField (h : f.Legal target) :
    Tame .value (ofField target f).toJson := by
  obtain ⟨htype, hsuffix⟩ := DataType.balanced_spell h.type
  exact .record (forall_tameMember ⟨.text h.name.balanced, .text htype, .text hsuffix⟩)

private theorem Access.balanced_name (a : Access) : Balanced a.name := by
  cases a <;> decide

theorem PropertyText.tame_ofField (h : f.Legal target) :
    Tame .value (ofField target f).toJson := by
  obtain ⟨htype, hsuffix⟩ := DataType.balanced_spell h.type
  have hparameters : ∀ p ∈ (ofField target f).setterParameters, Tame .value p.toJson :=
    List.forall_mem_map.mpr fun p hp => ParameterText.tame_ofParameter (h.setterParameters p hp)
  exact .record (forall_tameMember
    ⟨.text h.name.balanced, .text htype, .text hsuffix, .text f.access.balanced_name, .bool, .bool,
      .optional (balanced_given (Target.balanced_getterName h.name)),
      .text (Target.balanced_getterType h.type),
      .optional (balanced_given (Target.balanced_setterName h.name)), .list hparameters⟩)

theorem MethodText.tame_ofMethod {m : Method} (h : m.Legal target) :
    Tame .value (ofMethod target m).toJson := by
  obtain ⟨htype, hsuffix⟩ := DataType.balanced_spell h.returnType
  have hparameters : ∀ p ∈ (ofMethod target m).parameters, Tame .value p.toJson :=
    List.forall_mem_map.mpr fun p hp => ParameterText.tame_ofParameter (h.parameters p hp)
  exact .record (forall_tameMember
    ⟨.text h.name.balanced, .text (htype.append hsuffix), .list hparameters, .bool, .bool⟩)

theorem Initializer.tame_own {name : String} (h : IsName name) : Tame .value (own name).toJson :=
  .record (forall_tameMember ⟨.text h.balanced, .text h.balanced⟩)

theorem Initializer.tame_copied {name : String} (h : IsName name) :
    Tame .value (copied name).toJson := by
  have hsource : Balanced ("other." ++ name) := .append (by decide) h.balanced
  exact .record (forall_tameMember ⟨.text h.balanced, .text hsource⟩)

theorem ConstructorText.tame {v : ConstructorText}
    (hp : ∀ p ∈ v.parameters, Tame .value p.toJson)
    (hi : ∀ i ∈ v.initializers, Tame .value i.toJson) (hb : Balanced (String.join v.body)) :
    Tame .value v.toJson :=
  .record (forall_tameMember ⟨.bool, .list hp, .list hi, .lines hb⟩)

end Members

/-- Legal names, also of lengths, and balanced bodies. -/
structure ModelClass.WellSpelled (target : Target) (c : ModelClass) : Prop where
  legal : c.Legal target
  lengths : ∀ f ∈ c.fields, ∀ length ∈ f.type.lengthFields, IsName length
  bodies : ∀ k ∈ c.constructors, ∀ body ∈ k.body, Balanced body

namespace ModelClass
variable {target : Target} {c : ModelClass}

section Attributes
variable (h : c.WellSpelled target)
include h

theorem WellSpelled.tame_memberAttributes :
    ∀ member ∈ c.memberAttributes target, TameMember member := by
  have hproperties : ∀ p ∈ c.propertyTexts target, Tame .value p.toJson :=
    List.forall_mem_map.mpr fun f hf => PropertyText.tame_ofField (h.legal.fields f hf)
  have hfiltered (access : Access) :
      ∀ p ∈ c.propertyTextsOf target access, Tame .value p.toJson :=
    List.forall_mem_map.mpr fun f hf =>
      PropertyText.tame_ofField (h.legal.fields f (List.mem_of_mem_filter hf))
  have hmethods (access : Access) : ∀ m ∈ c.methodTextsOf target access, Tame .value m.toJson :=
    List.forall_mem_map.mpr fun m hm =>
      MethodText.tame_ofMethod (h.legal.methods m (List.mem_of_mem_filter hm))
  have hoverridden : ∀ m ∈ c.overriddenTexts target, Tame .value m.toJson :=
    List.forall_mem_map.mpr fun m hm => MethodText.tame_ofMethod (h.legal.overriddenMethods m hm)
  exact forall_tameMember
    ⟨.text h.legal.name.balanced, .list hproperties, .list (hfiltered .pub),
      .list (hfiltered .prot), .list (hfiltered .priv), .list (hmethods .pub),
      .list (hmethods .prot), .list (hmethods .priv), .list hoverridden,
      .texts fun s hs => (h.legal.friends s hs).balanced,
      .texts fun s hs => (h.legal.templateParameters s hs).balanced⟩

theorem WellSpelled.tame_parentAttributes :
    ∀ member ∈ c.parentAttributes target, TameMember member := by
  have hname {ps : List ModelParent} (hp : ∀ p ∈ ps, p ∈ c.parents) :
      ∀ s ∈ ps.map (·.name), Balanced s :=
    List.forall_mem_map.mpr fun p hm => (h.legal.parents p (hp p hm)).balanced
  have hbase : ∀ p ∈ c.baseClasses, p ∈ c.parents := fun _ => List.mem_of_mem_filter
  have hinterface : ∀ p ∈ c.interfaces, p ∈ c.parents := fun _ => List.mem_of_mem_filter
  cases target with
  | cpp =>
    have hspelled : ∀ s ∈ c.parents.map ModelParent.spell, Balanced s :=
      List.forall_mem_map.mpr fun p hm =>
        .append (p.access.balanced_name.append (by decide)) (h.legal.parents p hm).balanced
    exact forall_tameMember (.texts hspelled)
  | csharp =>
    exact forall_tameMember (.texts (hname (List.forall_mem_append.mpr ⟨hbase, hinterface⟩)))
  | java => exact forall_tameMember ⟨.texts (hname hbase), .texts (hname hinterface)⟩

theorem WellSpelled.tame_constructorTexts :
    ∀ k ∈ c.constructorTexts target, Tame .value k.toJson := by
  intro text hk
  obtain ⟨k, hm, rfl⟩ := List.mem_map.mp hk
  have hfield (f : Field) (hf : f ∈ c.select k.fields) : f.Legal target :=
    h.legal.fields f (mem_fields_of_mem_select hf)
  refine ConstructorText.tame (fun p hp => ?_) (fun i hi => ?_) ?_
  · simp only [ConstructorText.declared] at hp
    split at hp
    · cases hp
    · obtain ⟨f, hf, rfl⟩ := List.mem_map.mp hp
      exact ParameterText.tame_ofField (hfield f hf)
  · obtain ⟨f, hf, rfl⟩ := List.mem_map.mp hi
    split
    · exact Initializer.tame_copied (hfield f hf).name
    · exact Initializer.tame_own (hfield f hf).name
  · simp only [ConstructorText.declared]
    cases hb : k.body with
    | none => exact show Balanced "" by decide
    | some body => exact (h.bodies k hm body hb).codeLines

theorem WellSpelled.spelled : ∀ f ∈ c.fields, f.Spelled Balanced := by
  intro f hf
  have hname := (h.legal.fields f hf).name.balanced
  exact {
    place := hname
    otherPlace := .append (by decide) hname
    type := Target.balanced_typeName (h.legal.fields f hf).type
    lengths := fun length hl => (h.lengths f hf length hl).balanced }

theorem WellSpelled.isName_copyInitializers : ∀ name ∈ c.copyInitializers, IsName name :=
  forall_copyInitializers fun f hf => (h.legal.fields f hf).name

end Attributes

private theorem tame_constructorAttribute {constructors : List ConstructorText}
    (h : ∀ k ∈ constructors, Tame .value k.toJson) :
    TameMember (constructorAttribute constructors) :=
  .list h

section Native
variable {classes memory : Skeleton.Group Skeleton.engine} (hc : classes.Tame) (hm : memory.Tame)

include hm in
private theorem tame_nativeConstructors (h : c.WellSpelled .cpp)
    {constructors : List ConstructorText} (hk : c.nativeConstructors memory = .ok constructors) :
    ∀ k ∈ constructors, Tame .value k.toJson := by
  unfold nativeConstructors at hk
  split at hk
  · obtain ⟨body, hb, hk⟩ := bind_eq_ok_iff.mp hk
    cases hk
    have hbody := Fragment.balanced_codeOf hm _
      (Fragment.balanced_spells.textsOf_copyBody h.spelled) hb
    refine List.forall_mem_append.mpr ⟨h.tame_constructorTexts, List.forall_mem_singleton.mpr ?_⟩
    refine ConstructorText.tame (List.forall_mem_nil _) (fun i hi => ?_) hbody.codeLines
    obtain ⟨name, hname, rfl⟩ := List.mem_map.mp hi
    exact Initializer.tame_copied (h.isName_copyInitializers name hname)
  · cases hk
    exact h.tame_constructorTexts

include hc hm in
private theorem balanced_copyAssignOperator (h : c.WellSpelled .cpp) {release text : String}
    (hr : Balanced release) (ht : c.copyAssignOperator classes memory release = .ok text) :
    Balanced text := by
  unfold copyAssignOperator at ht
  split at ht
  · obtain ⟨part, hp, ht⟩ := bind_eq_ok_iff.mp ht
    obtain ⟨body, hb, ht⟩ := bind_eq_ok_iff.mp ht
    have hbody := Fragment.balanced_codeOf hm _
      (Fragment.balanced_spells.textsOf_copyBody h.spelled) hb
    exact hc.balanced_render hp ht (forall_tameMember
      ⟨.text h.legal.name.balanced, .lines hr.codeLines,
        .texts fun name hn => (h.isName_copyInitializers name hn).balanced,
        .lines hbody.codeLines⟩)
  · cases ht
    decide

include hc hm in
private theorem tame_ownershipAttributes (h : c.WellSpelled .cpp) {own : List (String × Json)}
    (ho : c.ownershipAttributes classes memory = .ok own) : ∀ member ∈ own, TameMember member := by
  obtain ⟨release, hr, ho⟩ := bind_eq_ok_iff.mp ho
  obtain ⟨constructors, hk, ho⟩ := bind_eq_ok_iff.mp ho
  obtain ⟨assignment, ha, ho⟩ := bind_eq_ok_iff.mp ho
  cases ho
  have hrelease := Fragment.balanced_codeOf hm _
    (Fragment.balanced_spells.textsOf_releaseBody h.spelled) hr
  exact forall_tameMember
    ⟨tame_constructorAttribute (tame_nativeConstructors hm h hk), .bool, .lines hrelease.codeLines,
      .text (balanced_copyAssignOperator hc hm h hrelease ha)⟩

end Native

section Written
variable {classes : Skeleton.Group Skeleton.engine} (hc : classes.Tame)
include hc

private theorem balanced_inNamespace (h : c.Legal target) {code text : String}
    (hcode : Balanced code) (ht : c.inNamespace classes code = .ok text) : Balanced text := by
  unfold inNamespace at ht
  split at ht
  · cases ht
    exact hcode
  · rename_i path hpath
    obtain ⟨part, hp, ht⟩ := bind_eq_ok_iff.mp ht
    obtain ⟨names, _, hnames, hall⟩ := h.packagePath path hpath
    have hseparator : Balanced target.separator := by cases target <;> decide
    have hbalanced : Balanced path :=
      hnames ▸ .intercalate hseparator fun name hn => (hall name hn).1.balanced
    exact hc.balanced_render hp ht (forall_tameMember ⟨.text hbalanced, .text hcode⟩)

/-- The source of a class is balanced, whatever it gets besides its members and parents. -/
private theorem balanced_rendered (h : c.WellSpelled target) {name : String}
    {part : Skeleton.Instance Skeleton.engine} (hp : classes.start name = .ok part)
    {own : List (String × Json)} (ho : ∀ member ∈ own, TameMember member) {code text : String}
    (hcode : (part.bindAll (c.memberAttributes target ++ c.parentAttributes target ++ own)).render =
      .ok code)
    (ht : c.inNamespace classes code = .ok text) : Balanced text := by
  have hshared := List.forall_mem_append.mpr ⟨h.tame_memberAttributes, h.tame_parentAttributes⟩
  exact balanced_inNamespace hc h.legal
    (hc.balanced_render hp hcode (List.forall_mem_append.mpr ⟨hshared, ho⟩)) ht

theorem balanced_writeNative {memory : Skeleton.Group Skeleton.engine} (hm : memory.Tame)
    (h : c.WellSpelled .cpp) {text : String} (ht : c.writeNative classes memory = .ok text) : Balanced text := by
  obtain ⟨part, hp, ht⟩ := bind_eq_ok_iff.mp ht
  simp only at ht
  split at ht
  · obtain ⟨own, hown, hrest⟩ := bind_eq_ok_iff.mp ht
    obtain ⟨code, hcode, hpackage⟩ := bind_eq_ok_iff.mp hrest
    cases hown
    exact balanced_rendered hc h hp (List.forall_mem_nil _) hcode hpackage
  · obtain ⟨own, hown, hrest⟩ := bind_eq_ok_iff.mp ht
    obtain ⟨code, hcode, hpackage⟩ := bind_eq_ok_iff.mp hrest
    exact balanced_rendered hc h hp (tame_ownershipAttributes hc hm h hown) hcode hpackage

theorem balanced_writeManaged (h : c.WellSpelled target) {text : String}
    (ht : c.writeManaged target classes = .ok text) : Balanced text := by
  obtain ⟨part, hp, ht⟩ := bind_eq_ok_iff.mp ht
  obtain ⟨code, hcode, ht⟩ := bind_eq_ok_iff.mp ht
  refine balanced_rendered hc h hp ?_ hcode ht
  unfold managedAttributes
  split
  · exact List.forall_mem_nil _
  · exact List.forall_mem_singleton.mpr (tame_constructorAttribute h.tame_constructorTexts)

end Written

end ModelClass

/-- Skeletons that pass the check write balanced sources. -/
theorem Target.balanced_write_writerOf {target : Target} {classes memory : Skeleton}
    (hc : classes.isTame = true) (hm : memory.isTame = true) {c : ModelClass}
    (h : c.WellSpelled target) {text : String}
    (ht : (target.writerOf classes memory).write c = .ok text) : Balanced text := by
  have hgroup := Skeleton.Group.tame_ofSkeleton hc target.groupName target.instances
  cases target with
  | cpp => exact c.balanced_writeNative hgroup (Skeleton.Group.tame_ofSkeleton hm _ _) h ht
  | csharp | java => exact c.balanced_writeManaged hgroup h ht

namespace Diagram

theorem wellSpelled_toModel {d : Diagram} (hd : d.Legal) (hn : d.nodeIds.Nodup)
    {all : List (PackageNode × String)} (hw : d.Walked all []) {node : ClassNode}
    (hc : node ∈ d.classes)
    (hb : ∀ c ∈ node.body.constructors, ∀ body ∈ c.body, Balanced body) :
    (node.toModel d.registry (d.placementAfter (d.encountersOf all))).WellSpelled d.target where
  legal := legal_toModel hd hn hw hc
  lengths := fun _ hf _ => isName_lengthField hd hn hc hf
  bodies := by
    intro k hk
    obtain ⟨c, hm, rfl⟩ := List.mem_map.mp hk
    exact hb c hm

/-- Where checking succeeds, so does generating with the bundled skeletons, and the source of a class
is balanced if the bodies of its constructors are. No start of it closes more brackets of a kind than
it opens. -/
theorem generateWith_balanced (read : TextReader) {d : Diagram} {m : Model} (h : d.check = .ok m) :
    ∃ sources, d.generateWith Skeleton.engine read {} = .ok sources ∧ ∀ node ∈ d.classes,
      (∀ c ∈ node.body.constructors, ∀ body ∈ c.body, Balanced body) →
        ∃ text, sources.lookup node.id = some text ∧ Balanced text ∧
          ∀ before after, before ++ after = text.toList → ∀ pair ∈ bracketPairs,
            before.count pair.2 ≤ before.count pair.1 := by
  have ha : d.accept = .ok m := mapError_eq_ok_iff.mp h
  have hd := validate_eq_ok_iff.mp (accept_eq_ok_iff.mp ha).1
  obtain ⟨sources, hs⟩ := generate_bundled_ok ha
  have hg : d.generateWith Skeleton.engine read {} = .ok sources := by
    simp only [generateWith, Config.skeletons_default, hs, Except.mapError, bind, Except.bind]
  refine ⟨sources, hg, fun node hc hb => ?_⟩
  obtain ⟨all, writer, hn, hw, hwriter, hlookup⟩ := lookup_of_generate hs
  cases (SkeletonSet.writer_bundled d.target).symm.trans hwriter
  obtain ⟨text, ht, hl⟩ := hlookup node hc
  have hbalanced := Target.balanced_write_writerOf (isTame_bundled d.target) isTame_memory
    (wellSpelled_toModel hd hn hw hc hb) ht
  refine ⟨text, hl, hbalanced, fun before after hcut pair hpair => ?_⟩
  have hnested : Nested (before ++ after) := hcut ▸ hbalanced
  exact hnested.count_le (closing?_eq_some_iff.mpr hpair)

/-- A class in a package that owns arrays of arrays, with a body of its own. -/
def archive : Diagram where
  target := .cpp
  packages := [{ id := "p", body := { name := "store", children := ["a"] } }]
  classes := [
    { id := "k", body := { name := "Keeper" } },
    { id := "a", packageId := some "p", parents := [{ id := "k" }], body :=
      { name := "Archive", friends := ["k"], templateParameters := ["Row"],
        copyConstructor := true, copyAssignment := true, destructor := some ⟨["r"]⟩,
        properties := [
          { id := "r", name := "rows", access := .priv, hasGetter := true, hasSetter := true,
            type :=
              { name := "int", pointers := [⟨false, true, "width"⟩], dimensions := [⟨8, "used"⟩] } }],
        constructors := [
          { fields := ["r"], body := some "if (used > 8)\n\x7b\n    used = 8;\n\x7d\n" }] } }]

theorem generateWith_balanced_archive :
    (∃ m, archive.check = .ok m) ∧
      ∃ sources, archive.generateWith Skeleton.engine (fun _ => .error .notFound) {} = .ok sources ∧
        ∃ text, sources.lookup "a" = some text ∧ Balanced text := by
  have hok : archive.check.toBool = true := by decide +kernel
  obtain ⟨m, hm⟩ := exists_ok_of_toBool hok
  obtain ⟨sources, hs, hall⟩ := generateWith_balanced (fun _ => .error .notFound) hm
  obtain ⟨text, hl, hbalanced, -⟩ := hall archive.classes[1] (List.getElem_mem _) (by decide)
  exact ⟨⟨m, hm⟩, sources, hs, text, hl, hbalanced⟩

end Diagram

end ClassScaffold
