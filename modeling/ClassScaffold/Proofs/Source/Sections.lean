import ClassScaffold.Proofs.Resolution.LengthFields
import ClassScaffold.Proofs.Source.LineKinds

/-! Members in the sections of their access. The source of a class is cut at its labels, and what is
found below each of them is compared with the members of that access. -/
namespace ClassScaffold

open Skeleton Text

namespace Access

/-- The line above the members of that access. -/
def label (access : Access) : String :=
  access.name ++ ":"

def ofLabel? (line : String) : Option Access :=
  all.find? fun access => access.label == line

theorem ofLabel?_label (access : Access) : ofLabel? access.label = some access := by
  cases access <;> decide

theorem ofLabel?_eq_none_iff {line : String} :
    ofLabel? line = none ↔ ∀ access : Access, access.label ≠ line := by
  simp only [ofLabel?, List.find?_eq_none, beq_iff_eq]
  exact ⟨fun h access => h access (by cases access <;> decide), fun h access _ => h access⟩

end Access

open Access (ofLabel? ofLabel?_label ofLabel?_eq_none_iff)

private theorem head_label (access : Access) : access.label.toList.head? = some 'p' := by
  cases access <;> decide

theorem OtherLine.ofLabel?_eq_none {line : String} (h : OtherLine line) : ofLabel? line = none := by
  refine ofLabel?_eq_none_iff.mpr fun access hlabel => ?_
  have hhead := head_label access
  subst hlabel
  cases h with
  | bracket hc hb =>
    have hplain : access.label.toList.all (· ∉ blockBrackets) = true := by
      cases access <;> decide
    exact of_decide_eq_true (List.all_eq_true.mp hplain _ hc) hb
  | deep h => simp [h] at hhead
  | outside h _ hp => exact hp (Option.some.inj (h.symm.trans hhead))
  | friend _ h => simp [h, ModelClass.friendLine] at hhead

theorem Field.ofLabel?_nativeLine (f : Field) : ofLabel? f.nativeLine = none := by
  refine ofLabel?_eq_none_iff.mpr fun access hlabel => ?_
  have hhead := head_label access
  simp [hlabel, Field.nativeLine, PropertyText.line] at hhead

/-- The lines before the first label, and the lines below each label. -/
def cutAtLabels : List String → List String × List (Access × List String)
  | [] => ([], [])
  | line :: rest =>
    let (before, sections) := cutAtLabels rest
    match ofLabel? line with
    | some access => ([], (access, before) :: sections)
    | none => (line :: before, sections)

section Cutting
variable {lines rest before : List String} {sections : List (Access × List String)}

theorem cutAtLabels_append (h : ∀ line ∈ lines, ofLabel? line = none)
    (hr : cutAtLabels rest = (before, sections)) :
    cutAtLabels (lines ++ rest) = (lines ++ before, sections) := by
  induction lines with
  | nil => exact hr
  | cons line lines ih =>
    obtain ⟨hline, hlines⟩ := List.forall_mem_cons.mp h
    rw [List.cons_append, cutAtLabels, ih hlines, hline, List.cons_append]

theorem cutAtLabels_label (access : Access) (hr : cutAtLabels rest = (before, sections)) :
    cutAtLabels (access.label :: rest) = ([], (access, before) :: sections) := by
  rw [cutAtLabels, hr, ofLabel?_label]

/-- The lines of sections, each below its label. -/
def labelled (sections : List (Access × List String)) : List String :=
  sections.flatMap fun part => part.1.label :: part.2

/-- Sections are cut apart again. -/
theorem cutAtLabels_labelled (h : ∀ part ∈ sections, ∀ line ∈ part.2, ofLabel? line = none) :
    cutAtLabels (labelled sections) = ([], sections) := by
  induction sections with
  | nil => rfl
  | cons part sections ih =>
    obtain ⟨hpart, hsections⟩ := List.forall_mem_cons.mp h
    have hrest := cutAtLabels_append hpart (ih hsections)
    rw [List.append_nil] at hrest
    exact cutAtLabels_label part.1 hrest

end Cutting

def Method.nativeLine (m : Method) : String :=
  (MethodText.ofMethod .cpp m).line

namespace ModelClass

def methodDeclarations (access : Access) (c : ModelClass) : List String :=
  (c.methods.filter fun m => m.access = access).map Method.nativeLine

def fieldDeclarations (access : Access) (c : ModelClass) : List String :=
  (c.fields.filter fun f => f.access = access).map Field.nativeLine

/-- The section of an access other than public: first the methods, then the fields. There is none
without a member. -/
def closedSection (access : Access) (c : ModelClass) : List (Access × List String) :=
  if (∃ m ∈ c.methods, m.access = access) ∨ ∃ f ∈ c.fields, f.access = access then
    [(access, c.methodDeclarations access ++ c.fieldDeclarations access)]
  else []

/-- The sections of a class, of which the public one ends in its fields. -/
def sections (front : List String) (c : ModelClass) : List (Access × List String) :=
  (.pub, front ++ c.fieldDeclarations .pub) :: (c.closedSection .prot ++ c.closedSection .priv)

/-- Whether a field of the class is declared by the line. -/
def declaresField (c : ModelClass) (line : String) : Bool :=
  (c.fields.map Field.nativeLine).contains line

/-- Cut at its labels, the text of a class falls into its sections. -/
structure Sectioned (c : ModelClass) (lines head front : List String) : Prop where
  closed : lines.getLast? = some "\x7d;"
  cut : cutAtLabels lines.dropLast = (head, c.sections front)
  /-- No field is declared before the sections, or before the public fields in theirs. -/
  apart : ∀ line ∈ head ++ front, c.declaresField line = false
  /-- Below a label, exactly the fields of that access are declared. -/
  declared : ∀ part ∈ c.sections front, part.2.filter c.declaresField = c.fieldDeclarations part.1
  /-- Every field is declared once in the whole text. -/
  complete : (lines.filter c.declaresField).Perm (c.fields.map Field.nativeLine)
  once : (c.fields.map (·.name)).Nodup → ∀ f ∈ c.fields, lines.count f.nativeLine = 1

section Lines
variable (c : ModelClass) (access : Access)

theorem methodLines_eq : c.methodLines access = c.methodDeclarations access := by
  rw [methodLines, methodTextsOf, List.map_map]
  rfl

theorem fieldLines_eq : c.fieldLines access = c.fieldDeclarations access := by
  rw [fieldLines, propertyTextsOf, List.map_map]
  rfl

theorem sectionLines_eq : c.sectionLines access = labelled (c.closedSection access) := by
  have hempty : ((c.methodTextsOf .cpp access).isEmpty && (c.propertyTextsOf .cpp access).isEmpty) =
      !decide ((∃ m ∈ c.methods, m.access = access) ∨ ∃ f ∈ c.fields, f.access = access) := by
    rw [Bool.eq_iff_iff]
    simp [methodTextsOf, propertyTextsOf]
  rw [sectionLines, hempty, methodLines_eq, fieldLines_eq, closedSection]
  by_cases hmember : (∃ m ∈ c.methods, m.access = access) ∨ ∃ f ∈ c.fields, f.access = access
  · simp only [hmember, decide_true, Bool.not_true, Bool.false_eq_true, if_false, if_true]
    simp [labelled, Access.label]
  · simp only [hmember, decide_false, Bool.not_false, if_true, if_false]
    rfl

theorem sourceLines_eq :
    c.sourceLines = c.headLines ++ labelled (c.sections c.frontLines) ++ ["\x7d;"] := by
  have hlabel : Access.pub.label = "public:" := by decide
  rw [sourceLines, sectionLines_eq, sectionLines_eq, fieldLines_eq]
  simp [labelled, sections, hlabel]

theorem fieldDeclarations_closedSection : (c.closedSection access).flatMap
    (fun part => c.fieldDeclarations part.1) = c.fieldDeclarations access := by
  unfold closedSection
  split
  · simp
  · rename_i hnone
    have hfields : ∀ f ∈ c.fields, f.access ≠ access := fun f hf ha => hnone (.inr ⟨f, hf, ha⟩)
    simpa [fieldDeclarations] using fun f hf => hfields f hf

/-- The fields access by access. -/
theorem perm_fieldDeclarations (front : List String) :
    ((c.sections front).flatMap fun part => c.fieldDeclarations part.1).Perm
      (c.fields.map Field.nativeLine) := by
  have hsections : (c.sections front).flatMap (fun part => c.fieldDeclarations part.1) =
      c.fieldDeclarations .pub ++ (c.fieldDeclarations .prot ++ c.fieldDeclarations .priv) := by
    simp [sections, fieldDeclarations_closedSection]
  let others := c.fields.filter fun f => !decide (f.access = .pub)
  have hprot : (c.fields.filter fun f => f.access = .prot) =
      others.filter fun f => f.access = .prot := by
    rw [List.filter_filter]
    exact List.filter_congr fun f _ => by cases f.access <;> decide
  have hpriv : (c.fields.filter fun f => f.access = .priv) =
      others.filter fun f => !decide (f.access = .prot) := by
    rw [List.filter_filter]
    exact List.filter_congr fun f _ => by cases f.access <;> decide
  rw [hsections]
  simp only [fieldDeclarations, ← List.map_append]
  rw [hprot, hpriv]
  exact (((List.filter_append_perm _ _).append_left _).trans (List.filter_append_perm _ _)).map _

end Lines

section Declarations
variable {c : ModelClass} (hc : c.Legal .cpp)

theorem declaresField_iff {line : String} :
    c.declaresField line = true ↔ ∃ f ∈ c.fields, f.nativeLine = line := by
  simp [declaresField]

theorem declaresField_label (access : Access) : c.declaresField access.label = false := by
  refine Bool.eq_false_iff.mpr fun h => ?_
  obtain ⟨f, _, hline⟩ := declaresField_iff.mp h
  have hnone := f.ofLabel?_nativeLine
  rw [hline, ofLabel?_label] at hnone
  cases hnone

theorem filter_fieldDeclarations (access : Access) :
    (c.fieldDeclarations access).filter c.declaresField = c.fieldDeclarations access := by
  refine List.filter_eq_self.mpr (List.forall_mem_map.mpr fun f hf => ?_)
  exact declaresField_iff.mpr ⟨f, List.mem_of_mem_filter hf, rfl⟩

section Legal
include hc

theorem declaresField_other {line : String} (h : OtherLine line) : c.declaresField line = false := by
  refine Bool.eq_false_iff.mpr fun hdeclares => ?_
  obtain ⟨f, hf, rfl⟩ := declaresField_iff.mp hdeclares
  exact h.ne_nativeLine (hc.fields f hf) rfl

theorem filter_other {lines : List String} (h : ∀ line ∈ lines, StandsApart line) :
    lines.filter c.declaresField = [] :=
  List.filter_eq_nil_iff.mpr fun line hline => by simp [declaresField_other hc (h line hline).other]

end Legal

/-- Labels declare nothing. -/
theorem filter_labelled (c : ModelClass) (sections : List (Access × List String)) :
    (labelled sections).filter c.declaresField =
      sections.flatMap fun part => part.2.filter c.declaresField := by
  rw [labelled, List.filter_flatMap]
  simp only [List.filter_cons, declaresField_label, Bool.false_eq_true, if_false]

end Declarations

section Source
variable {c : ModelClass} (hc : c.Legal .cpp)
  (hl : ∀ f ∈ c.fields, ∀ length ∈ f.type.lengthFields, IsName length)
include hc

private theorem standsApart_methodDeclarations (access : Access) :
    ∀ line ∈ c.methodDeclarations access, StandsApart line :=
  c.methodLines_eq access ▸ standsApart_methodLines hc access

private theorem filter_closedSection (access : Access) : ∀ part ∈ c.closedSection access,
    part.2.filter c.declaresField = c.fieldDeclarations part.1 := by
  unfold closedSection
  split
  · refine List.forall_mem_singleton.mpr ?_
    rw [List.filter_append, filter_other hc (standsApart_methodDeclarations hc access),
      filter_fieldDeclarations, List.nil_append]
  · exact List.forall_mem_nil _

/-- Every line of a section but its label stands apart or declares a field. -/
private theorem forall_sections {front : List String} (hfront : ∀ line ∈ front, StandsApart line)
    {P : String → Prop} (ho : ∀ line, StandsApart line → P line)
    (hf : ∀ f ∈ c.fields, P f.nativeLine) :
    ∀ part ∈ c.sections front, ∀ line ∈ part.2, P line := by
  have hfields (access : Access) : ∀ line ∈ c.fieldDeclarations access, P line :=
    List.forall_mem_map.mpr fun f hm => hf f (List.mem_of_mem_filter hm)
  have hclosed (access : Access) : ∀ part ∈ c.closedSection access, ∀ line ∈ part.2, P line := by
    unfold closedSection
    split
    · refine List.forall_mem_singleton.mpr (List.forall_mem_append.mpr ⟨fun line hline => ?_,
        hfields access⟩)
      exact ho line (standsApart_methodDeclarations hc access line hline)
    · exact List.forall_mem_nil _
  refine List.forall_mem_cons.mpr ⟨List.forall_mem_append.mpr ⟨fun line hline => ?_,
    hfields .pub⟩, List.forall_mem_append.mpr ⟨hclosed .prot, hclosed .priv⟩⟩
  exact ho line (hfront line hline)

include hl

theorem single_sourceLines : ∀ line ∈ c.sourceLines, IsSingle line := by
  have hsections := forall_sections hc (standsApart_frontLines hc hl) (fun _ h => h.single)
    fun f hf => Field.single_nativeLine (hc.fields f hf)
  have hlabelled : ∀ line ∈ labelled (c.sections c.frontLines), IsSingle line := by
    refine List.forall_mem_flatMap.mpr fun part hpart => ?_
    have hlabel : IsSingle part.1.label := by cases part.1 <;> decide
    exact List.forall_mem_cons.mpr ⟨hlabel, hsections part hpart⟩
  rw [sourceLines_eq, List.forall_mem_append, List.forall_mem_append]
  exact ⟨⟨fun line hline => (standsApart_headLines hc line hline).single, hlabelled⟩, by decide⟩

theorem sectioned_sourceLines : c.Sectioned c.sourceLines c.headLines c.frontLines := by
  have hhead := standsApart_headLines hc
  have hfront := standsApart_frontLines hc hl
  have hlast : c.sourceLines.getLast? = some "\x7d;" := by
    rw [sourceLines_eq, List.getLast?_append]
    rfl
  have hunlabelled : ∀ part ∈ c.sections c.frontLines, ∀ line ∈ part.2, ofLabel? line = none :=
    forall_sections hc hfront (fun _ h => h.other.ofLabel?_eq_none) fun f _ => f.ofLabel?_nativeLine
  have hcut : cutAtLabels c.sourceLines.dropLast = (c.headLines, c.sections c.frontLines) := by
    rw [sourceLines_eq, List.dropLast_concat]
    have h := cutAtLabels_append (fun line hline => (hhead line hline).other.ofLabel?_eq_none)
      (cutAtLabels_labelled hunlabelled)
    rwa [List.append_nil] at h
  have hapart : ∀ line ∈ c.headLines ++ c.frontLines, c.declaresField line = false :=
    List.forall_mem_append.mpr ⟨fun line hline => declaresField_other hc (hhead line hline).other,
      fun line hline => declaresField_other hc (hfront line hline).other⟩
  have hdeclared : ∀ part ∈ c.sections c.frontLines,
      part.2.filter c.declaresField = c.fieldDeclarations part.1 := by
    refine List.forall_mem_cons.mpr ⟨?_, List.forall_mem_append.mpr
      ⟨filter_closedSection hc .prot, filter_closedSection hc .priv⟩⟩
    rw [List.filter_append, filter_other hc hfront, filter_fieldDeclarations, List.nil_append]
  have hcomplete : (c.sourceLines.filter c.declaresField).Perm (c.fields.map Field.nativeLine) := by
    have hclosing : c.declaresField "\x7d;" = false :=
      declaresField_other hc (.bracket (c := '\x7d') (by decide) (by decide))
    have hflat : (c.sections c.frontLines).flatMap (fun part => part.2.filter c.declaresField) =
        (c.sections c.frontLines).flatMap fun part => c.fieldDeclarations part.1 :=
      List.flatMap_congr hdeclared
    rw [sourceLines_eq, List.filter_append, List.filter_append, filter_other hc hhead,
      filter_labelled, hflat, List.filter_cons_of_neg (by simp [hclosing]), List.filter_nil,
      List.nil_append, List.append_nil]
    exact c.perm_fieldDeclarations c.frontLines
  refine ⟨hlast, hcut, hapart, hdeclared, hcomplete, fun hn f hf => ?_⟩
  have hlines : (c.fields.map Field.nativeLine).Nodup := by
    refine List.Nodup.map_on (fun f hf g hg h => ?_) hn.of_map
    exact List.inj_on_of_nodup_map hn hf hg
      (Field.name_eq_of_nativeLine (hc.fields f hf) (hc.fields g hg) h)
  have hdeclares : c.declaresField f.nativeLine = true := declaresField_iff.mpr ⟨f, hf, rfl⟩
  rw [← List.count_filter hdeclares, hcomplete.count_eq]
  exact List.count_eq_one_of_mem hlines (List.mem_map_of_mem hf)

end Source

end ModelClass

namespace Diagram

/-- Where checking a diagram with manual memory succeeds, its classes are written, and before it is put
into its package the text of a class that is no interface falls into its sections. A length has the
access of the field whose length it is. -/
theorem generateWith_sections (read : TextReader) {d : Diagram} {m : Model} (h : d.check = .ok m)
    (ht : d.target = .cpp) :
    ∃ sources, d.generateWith Skeleton.engine read {} = .ok sources ∧
      ∀ c ∈ m.classes, c.isInterface = false →
        (∃ code text, c.nativeCode Cpp.group Memory.group = .ok code ∧
          c.inNamespace Cpp.group code = .ok text ∧ sources.lookup c.id = some text ∧
          ∃ head front, c.Sectioned (cutLines code) head front) ∧
        ∀ f ∈ c.fields, f.isSynthetic = true → ∃ owner ∈ c.fields,
          ∃ length ∈ owner.type.lengthFields, owner.HoldsLength .cpp f length := by
  have ha : d.accept = .ok m := mapError_eq_ok_iff.mp h
  obtain ⟨sources, hs⟩ := generate_bundled_ok ha
  have hg : d.generateWith Skeleton.engine read {} = .ok sources := by
    simp only [generateWith, Config.skeletons_default, hs, Except.mapError, bind, Except.bind]
  have hw : d.target.bundledSkeletons.writer Skeleton.engine d.target =
      .ok (.native Cpp.group Memory.group) := by
    rw [ht]
    exact SkeletonSet.writer_native
  refine ⟨sources, hg, fun c hc hi => ⟨?_, fun f hf hsynthetic => ?_⟩⟩
  · obtain ⟨hlegal, hlengths⟩ := legal_class ha hc
    rw [ht] at hlegal
    obtain ⟨node, _, hid, _, text, hwrite, hlookup⟩ :=
      exists_of_forall₂ (covers_of_generate ha hw hs).texts.flip hc
    have hcode := ModelClass.nativeCode_eq hlegal hlengths hi
    have hnamespace : c.inNamespace Cpp.group ("\n".intercalate c.sourceLines) = .ok text := by
      have hnative : c.writeNative Cpp.group Memory.group = .ok text := hwrite
      rw [ModelClass.writeNative_eq, hcode] at hnative
      exact hnative
    have hlines : cutLines ("\n".intercalate c.sourceLines) = c.sourceLines :=
      cutLines_intercalate (ModelClass.single_sourceLines hlegal hlengths)
        (by simp [ModelClass.sourceLines])
    refine ⟨_, text, hcode, hnamespace, hid ▸ hlookup, c.headLines, c.frontLines, ?_⟩
    rw [hlines]
    exact ModelClass.sectioned_sourceLines hlegal hlengths
  · obtain ⟨hn, _, all, _, rfl⟩ := walked_of_resolve (accept_eq_ok_iff.mp ha).2
    obtain ⟨node, _, rfl⟩ := List.mem_map.mp hc
    exact ht ▸ (laidOut_fields hn node).exists_owner hf hsynthetic

/-- A class whose constructor has a body that looks like a section, with members of every access. -/
def chest : Diagram where
  target := .cpp
  classes := [
    { id := "c", body :=
      { name := "Chest",
        methods := [{ name := "open", access := .prot, returnType := .named "void" }],
        properties := [
          { id := "k", name := "coins", access := .priv, type :=
              { name := "int", pointers := [⟨false, true, "count"⟩] } },
          { id := "n", name := "number", type := .named "int" }],
        constructors := [{ fields := ["n"], body := some "public:\n    int number;\n" }] } }]

def chestClass : ModelClass :=
  chest.classes[0].toModel chest.registry ⟨[], [], []⟩

theorem generateWith_sections_chest :
    chest.check = .ok { target := .cpp, classes := [chestClass], packages := [] } ∧
      ∃ sources code, chest.generateWith Skeleton.engine (fun _ => .error .notFound) {} = .ok sources ∧
        sources.lookup "c" = some code ∧ ∃ front, (cutAtLabels (cutLines code).dropLast).2 =
          [(.pub, front ++ ["    int number;"]), (.prot, ["    void open();"]),
            (.priv, ["    int* coins;", "    unsigned int count;"])] := by
  have hok : chest.check = .ok { target := .cpp, classes := [chestClass], packages := [] } := by
    cbv
  obtain ⟨sources, hg, hall⟩ := generateWith_sections (fun _ => .error .notFound) hok rfl
  obtain ⟨⟨code, text, -, hpackage, hlookup, head, front, hsections⟩, -⟩ :=
    hall chestClass List.mem_cons_self rfl
  cases hpackage
  have hpub : chestClass.fieldDeclarations .pub = ["    int number;"] := by decide +kernel
  have hprot : chestClass.closedSection .prot = [(.prot, ["    void open();"])] := by decide +kernel
  have hpriv : chestClass.closedSection .priv =
      [(.priv, ["    int* coins;", "    unsigned int count;"])] := by
    decide +kernel
  refine ⟨hok, sources, code, hg, hlookup, front, ?_⟩
  rw [hsections.cut, ModelClass.sections, hpub, hprot, hpriv]
  rfl

end Diagram

end ClassScaffold
