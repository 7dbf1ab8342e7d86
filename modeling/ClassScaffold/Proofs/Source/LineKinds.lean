import ClassScaffold.Proofs.Source.Layout
import ClassScaffold.Proofs.Source.TypeText

/-! Lines that declare fields against all other lines of a class. A field is declared four blanks deep,
without a bracket that has a body or parameters inside, and never as a friend. -/
namespace ClassScaffold

open Fragment Skeleton Text

/-- Whether a field can be declared with the character. -/
def isFieldChar (c : Char) : Bool :=
  isTypeNameChar c || c == '*' || c == '[' || c == ']' || c == ';'

/-- The brackets around parameters and bodies. -/
def blockBrackets : List Char :=
  ['(', ')', '\x7b', '\x7d']

/-- Texts whose last words are told apart by the blank before them. -/
private theorem append_last_iff {a : Char} {xs ys rest others : List Char} (hr : a ∉ rest)
    (ho : a ∉ others) : xs ++ a :: rest = ys ++ a :: others ↔ xs = ys ∧ rest = others := by
  have hne {cs : List Char} (h : a ∉ cs) : ∀ c ∈ cs.reverse, (c != a) = true := by
    intro c hc
    rw [bne_iff_ne]
    rintro rfl
    exact h (List.mem_reverse.mp hc)
  have hhead (cs : List Char) : ∀ c ∈ (a :: cs.reverse).head?, (c != a) = false := by simp
  rw [← List.reverse_inj]
  simp only [List.reverse_append, List.reverse_cons, List.append_assoc, List.singleton_append]
  rw [append_cut_iff (hne hr) (hne ho) (hhead xs) (hhead ys), List.reverse_inj, List.cons.injEq,
    List.reverse_inj]
  exact ⟨fun ⟨h, _, hxy⟩ => ⟨hxy, h⟩, fun ⟨hxy, h⟩ => ⟨h, rfl, hxy⟩⟩

namespace DataType
variable {t : DataType}

private theorem isFieldChar_pointersText (ps : List Pointer) :
    ∀ c ∈ pointersText ps, isFieldChar c = true := by
  intro c hc
  obtain ⟨p, _, hc⟩ := List.mem_flatMap.mp hc
  have hpointer : (pointerText p).toList.all isFieldChar = true := by
    unfold pointerText
    cases p.isConst <;> decide
  exact List.all_eq_true.mp hpointer c hc

private theorem mem_dimensionsText (ds : List Dimension) :
    ∀ c ∈ dimensionsText ds, c.isDigit = true ∨ c = '[' ∨ c = ']' := by
  intro c hc
  obtain ⟨d, _, hc⟩ := List.mem_flatMap.mp hc
  have htext : (dimensionText d).toList = '[' :: (Nat.toDigits 10 d.maxLength.toNat ++ [']']) := by
    simp [dimensionText, toString, Nat.toList_repr]
  rw [htext] at hc
  rcases List.mem_cons.mp hc with rfl | hc
  · exact .inr (.inl rfl)
  · rcases List.mem_append.mp hc with hc | hc
    · exact .inl (Nat.isDigit_of_mem_toDigits (by decide) (by decide) hc)
    · exact .inr (.inr (List.mem_singleton.mp hc))

theorem isFieldChar_nativeType (h : TypeSpelled t.name) :
    ∀ c ∈ t.nativeText.type.toList, isFieldChar c = true := by
  have hconst : ∀ c ∈ constText t.isConst, isFieldChar c = true :=
    List.all_eq_true.mp (by cases t.isConst <;> decide)
  have hname : ∀ c ∈ t.name.toList, isFieldChar c = true := by
    intro c hc
    simp [isFieldChar, h.chars c hc]
  rw [toList_nativeType, List.forall_mem_append, List.forall_mem_append]
  exact ⟨⟨hconst, hname⟩, isFieldChar_pointersText t.pointers⟩

theorem isFieldChar_nativeSuffix (t : DataType) :
    ∀ c ∈ t.nativeText.suffix.toList, isFieldChar c = true ∧ c ≠ ' ' := by
  rw [toList_nativeSuffix]
  intro c hc
  rcases mem_dimensionsText _ c hc with hc | rfl | rfl
  · refine ⟨by simp [isFieldChar, isTypeNameChar, isIdentifierRest, Char.isAlphanum, hc], ?_⟩
    rintro rfl
    exact absurd hc (by decide)
  · decide
  · decide

/-- Both parts of the text of a type are without line feeds. -/
theorem single_nativeText (h : TypeSpelled t.name) :
    IsSingle t.nativeText.type ∧ IsSingle t.nativeText.suffix :=
  ⟨isSingle_of_forall (by decide) (isFieldChar_nativeType h),
    isSingle_of_forall (by decide) fun c hc => (isFieldChar_nativeSuffix t c hc).1⟩

end DataType

def Field.nativeLine (f : Field) : String :=
  (PropertyText.ofField .cpp f).line

private theorem toList_declaration (f : Field) : (PropertyText.ofField .cpp f).declaration.toList =
    ((staticText f.isStatic).toList ++ f.type.nativeText.type.toList) ++
      ' ' :: (f.name.toList ++ f.type.nativeText.suffix.toList ++ [';']) := by
  simp [PropertyText.declaration, PropertyText.ofField, Target.spell]

private theorem chars_of_isName {s : String} (h : IsName s) :
    ∀ c ∈ s.toList, isIdentifierRest c = true :=
  (isIdentifier_iff.mp (isIdentifier_iff_isName.mpr h)).2

private theorem blank_notMem_name {s : String} (h : IsName s) : ' ' ∉ s.toList :=
  fun hm => absurd (chars_of_isName h _ hm) (by decide)

private theorem head_typeName {s : String} (h : Target.cpp.isTypeName s = true) :
    ∃ c rest, s.toList = c :: rest ∧ c ≠ ' ' := by
  rw [Target.isTypeName, Bool.or_eq_true, Bool.and_eq_true] at h
  rcases h with h | ⟨_, h⟩
  · obtain ⟨⟨c, rest, hs, hc⟩, _⟩ := isIdentifier_iff.mp h
    refine ⟨c, rest, hs, ?_⟩
    rintro rfl
    exact absurd hc (by decide)
  · have hbuiltin : ∀ s ∈ builtinTypes, s.toList ≠ [] ∧ s.toList.head? ≠ some ' ' := by
      decide +kernel
    obtain ⟨hne, hblank⟩ := hbuiltin s (List.contains_iff_mem.mp h)
    obtain ⟨c, rest, hs⟩ := List.exists_cons_of_ne_nil hne
    refine ⟨c, rest, hs, ?_⟩
    rintro rfl
    rw [hs] at hblank
    exact hblank rfl

section Declaration
variable {f : Field} (hf : f.Legal .cpp)
include hf

theorem Field.isFieldChar_declaration :
    ∀ c ∈ (PropertyText.ofField .cpp f).declaration.toList, isFieldChar c = true := by
  have hstatic : ∀ c ∈ (staticText f.isStatic).toList, isFieldChar c = true :=
    List.all_eq_true.mp (by cases f.isStatic <;> decide)
  have hname : ∀ c ∈ f.name.toList, isFieldChar c = true := by
    intro c hc
    have hrest := chars_of_isName hf.name c hc
    simp [isFieldChar, isTypeNameChar, hrest]
  have htype := DataType.isFieldChar_nativeType (Target.typeSpelled_of_isTypeName hf.type)
  have hsuffix := fun c hc => (DataType.isFieldChar_nativeSuffix f.type c hc).1
  simp only [toList_declaration, List.forall_mem_append, List.forall_mem_cons]
  exact ⟨⟨hstatic, htype⟩, by decide, ⟨hname, hsuffix⟩, by decide, List.forall_mem_nil _⟩

/-- A declaration starts with no further blank. -/
theorem Field.head_declaration :
    ∃ c rest, (PropertyText.ofField .cpp f).declaration.toList = c :: rest ∧ c ≠ ' ' := by
  obtain ⟨c, rest, hname, hc⟩ := head_typeName hf.type
  rw [toList_declaration, DataType.toList_nativeType, hname]
  cases f.isStatic with
  | true => exact ⟨'s', _, rfl, by decide⟩
  | false =>
    cases f.type.isConst with
    | true => exact ⟨'c', _, rfl, by decide⟩
    | false => exact ⟨c, _, rfl, hc⟩

private theorem Field.blank_notMem_declared :
    ' ' ∉ f.name.toList ++ f.type.nativeText.suffix.toList ++ [';'] := by
  have hsuffix : ' ' ∉ f.type.nativeText.suffix.toList :=
    fun hm => (DataType.isFieldChar_nativeSuffix f.type _ hm).2 rfl
  simp [blank_notMem_name hf.name, hsuffix]

/-- Lines that declare fields of different names are different. -/
theorem Field.name_eq_of_nativeLine {g : Field} (hg : g.Legal .cpp)
    (h : f.nativeLine = g.nativeLine) : f.name = g.name := by
  have hlines : (PropertyText.ofField .cpp f).declaration.toList =
      (PropertyText.ofField .cpp g).declaration.toList := by
    simpa [Field.nativeLine, PropertyText.line] using congrArg String.toList h
  rw [toList_declaration, toList_declaration,
    append_last_iff (Field.blank_notMem_declared hf) (Field.blank_notMem_declared hg),
    List.append_assoc, List.append_assoc] at hlines
  have hend (k : Field) : ∀ z ∈ (k.type.nativeText.suffix.toList ++ [';']).head?,
      isIdentifierRest z = false := by
    rw [DataType.toList_nativeSuffix, DataType.dimensionsText]
    cases k.type.dimensions with
    | nil => simp; decide
    | cons d ds => simp [DataType.dimensionText]; decide
  exact String.toList_inj.mp ((append_cut_iff (chars_of_isName hf.name) (chars_of_isName hg.name)
    (hend f) (hend g)).mp hlines.2).1

/-- A friend would be a field of a type that no name spells. -/
theorem Field.nativeLine_ne_friendLine {name : String} (hn : IsName name) :
    f.nativeLine ≠ ModelClass.friendLine name := by
  intro h
  have hfriend : ' ' ∉ name.toList ++ [';'] := by simp [blank_notMem_name hn]
  have hline : (PropertyText.ofField .cpp f).declaration.toList =
      "friend class".toList ++ ' ' :: (name.toList ++ [';']) := by
    have hindented := congrArg String.toList h
    simpa [Field.nativeLine, PropertyText.line, ModelClass.friendLine] using hindented
  rw [toList_declaration, append_last_iff (Field.blank_notMem_declared hf) hfriend] at hline
  obtain ⟨htype, _⟩ := hline
  rw [DataType.toList_nativeType] at htype
  have hname : f.type.name.toList ++ DataType.pointersText f.type.pointers =
      "friend class".toList := by
    cases hs : f.isStatic with
    | true => simp [hs, staticText] at htype
    | false =>
      cases hk : f.type.isConst with
      | true => simp [hs, hk, staticText, DataType.constText] at htype
      | false => simpa [hs, hk, staticText, DataType.constText] using htype
  cases hps : f.type.pointers with
  | nil =>
    rw [hps, DataType.pointersText, List.flatMap_nil, List.append_nil, String.toList_inj] at hname
    have hspelled := hf.type
    rw [hname] at hspelled
    exact absurd hspelled (by decide +kernel)
  | cons p ps =>
    have hstar : '*' ∈ (DataType.pointerText p).toList := by
      unfold DataType.pointerText
      cases p.isConst <;> decide
    have hmem : '*' ∈ DataType.pointersText f.type.pointers :=
      List.mem_flatMap.mpr ⟨p, by rw [hps]; exact List.mem_cons_self, hstar⟩
    have hfriendly := List.mem_append_right f.type.name.toList hmem
    rw [hname] at hfriendly
    exact absurd hfriendly (by decide)

end Declaration

/-- A line of a class that neither declares a field nor is a label. -/
inductive OtherLine (line : String) : Prop where
  | bracket {c : Char} (hc : c ∈ line.toList) (hb : c ∈ blockBrackets) : OtherLine line
  | deep {rest : String} (h : line = "        " ++ rest) : OtherLine line
  | outside {c : Char} (h : line.toList.head? = some c) (hs : c ≠ ' ') (hp : c ≠ 'p') : OtherLine line
  | friend {name : String} (hn : IsName name) (h : line = ModelClass.friendLine name) : OtherLine line

theorem OtherLine.ne_nativeLine {line : String} (h : OtherLine line) {f : Field}
    (hf : f.Legal .cpp) : line ≠ f.nativeLine := by
  rintro rfl
  cases h with
  | bracket hc hb =>
    rw [Field.nativeLine, PropertyText.line, String.toList_append, List.mem_append] at hc
    have hblock : blockBrackets.all (!isFieldChar ·) = true := by decide
    have hindent : "    ".toList.all isFieldChar = true := by decide
    have hfield := hc.elim (List.all_eq_true.mp hindent _) (Field.isFieldChar_declaration hf _)
    simpa [hfield] using List.all_eq_true.mp hblock _ hb
  | deep h =>
    obtain ⟨c, rest, hdeclaration, hc⟩ := Field.head_declaration hf
    have hindented := congrArg String.toList h
    simp [Field.nativeLine, PropertyText.line, hdeclaration, hc] at hindented
  | outside h hs hp =>
    simp [Field.nativeLine, PropertyText.line] at h
    exact hs h.symm
  | friend hn h => exact Field.nativeLine_ne_friendLine hf hn h

/-- A line in one piece that neither declares a field nor is a label. -/
structure StandsApart (line : String) : Prop where
  single : IsSingle line
  other : OtherLine line

private theorem isSingle_ite {p : Prop} [Decidable p] {s t : String} (hs : IsSingle s)
    (ht : IsSingle t) : IsSingle (if p then s else t) := by
  split
  · exact hs
  · exact ht

private theorem single_static (isStatic : Bool) : IsSingle (staticText isStatic) :=
  isSingle_ite (by decide) (by decide)

section Parameters

private theorem single_ofParameter {p : Parameter} (h : p.Legal .cpp) :
    IsSingle (ParameterText.ofParameter .cpp p).declaration := by
  obtain ⟨htype, hsuffix⟩ := DataType.single_nativeText (Target.typeSpelled_of_isTypeName h.type)
  have hconst : IsSingle (if p.isConst && !p.type.isConst then "const " else "") :=
    isSingle_ite (by decide) (by decide)
  have hreference : IsSingle (if p.isRef then "&" else "") := isSingle_ite (by decide) (by decide)
  have hspelled : IsSingle (Target.cpp.parameterText p).type :=
    isSingle_append.mpr ⟨isSingle_append.mpr ⟨hconst, htype⟩, hreference⟩
  have hbehind : IsSingle (Target.cpp.parameterText p).suffix := hsuffix
  simp +decide [ParameterText.declaration, ParameterText.ofParameter, ParameterText.ofTypeText,
    hspelled, hbehind, h.name.single]

private theorem single_ofField {f : Field} (h : f.Legal .cpp) :
    IsSingle (ParameterText.ofField .cpp f).declaration := by
  obtain ⟨htype, hsuffix⟩ := DataType.single_nativeText (Target.typeSpelled_of_isTypeName h.type)
  simp +decide [ParameterText.declaration, ParameterText.ofField, ParameterText.ofTypeText,
    Target.spell, htype, hsuffix, h.name.single]

private theorem single_declarations {vs : List ParameterText}
    (h : ∀ v ∈ vs, IsSingle v.declaration) : IsSingle (ParameterText.declarations vs) :=
  .intercalate (by decide) (List.forall_mem_map.mpr h)

end Parameters

section Members

theorem Field.single_nativeLine {f : Field} (h : f.Legal .cpp) : IsSingle f.nativeLine :=
  isSingle_append.mpr ⟨by decide, isSingle_of_forall (by decide) (Field.isFieldChar_declaration h)⟩

private theorem single_methodParts {m : Method} (h : m.Legal .cpp) :
    IsSingle (MethodText.ofMethod .cpp m).returnType ∧
      IsSingle (ParameterText.declarations (MethodText.ofMethod .cpp m).parameters) := by
  obtain ⟨htype, hsuffix⟩ :=
    DataType.single_nativeText (Target.typeSpelled_of_isTypeName h.returnType)
  exact ⟨isSingle_append.mpr ⟨htype, hsuffix⟩, single_declarations
    (List.forall_mem_map.mpr fun p hp => single_ofParameter (h.parameters p hp))⟩

theorem MethodText.standsApart_line {m : Method} (h : m.Legal .cpp) :
    StandsApart (ofMethod .cpp m).line := by
  obtain ⟨htype, hparameters⟩ := single_methodParts h
  have hname : IsSingle (ofMethod .cpp m).name := h.name.single
  have hmodifier : IsSingle (if (ofMethod .cpp m).isStatic then "static "
      else if (ofMethod .cpp m).isVirtual then "virtual " else "") :=
    isSingle_ite (by decide) (isSingle_ite (by decide) (by decide))
  refine ⟨?_, .bracket (c := '(') ?_ (by decide)⟩
  · simp +decide only [line, declaration, isSingle_append, hmodifier, htype, hname, hparameters]
  · simp [line, declaration]

theorem MethodText.standsApart_overrideLine {m : Method} (h : m.Legal .cpp) :
    StandsApart (ofMethod .cpp m).overrideLine := by
  obtain ⟨htype, hparameters⟩ := single_methodParts h
  have hname : IsSingle (ofMethod .cpp m).name := h.name.single
  refine ⟨?_, .bracket (c := '(') ?_ (by decide)⟩
  · simp +decide [overrideLine, htype, hparameters, hname]
  · simp [overrideLine]

private theorem single_setterParameters {f : Field} (h : f.Legal .cpp) :
    ∀ p ∈ (PropertyText.ofField .cpp f).setterParameters, IsSingle p.name ∧ IsSingle p.declaration :=
  List.forall_mem_map.mpr fun p hp =>
    ⟨(h.setterParameters p hp).name.single, single_ofParameter (h.setterParameters p hp)⟩

theorem PropertyText.standsApart_getterLine {f : Field} (h : f.Legal .cpp) {getter : String}
    (hg : getter ∈ (ofField .cpp f).getter) : StandsApart ((ofField .cpp f).getterLine getter) := by
  obtain ⟨htype, _⟩ := DataType.single_nativeText (Target.typeSpelled_of_isTypeName h.type)
  obtain ⟨_, hg⟩ := Option.ite_none_right_eq_some.mp hg
  cases hg
  have hgetter : IsSingle (Target.cpp.getterName f.name) :=
    isSingle_append.mpr ⟨by decide, h.name.single_pascalCase⟩
  have hreturned : IsSingle (ofField .cpp f).getterType := isSingle_ite htype (by decide)
  have hname : IsSingle (ofField .cpp f).name := h.name.single
  have hconst : IsSingle (if (ofField .cpp f).isStatic then "" else " const") :=
    isSingle_ite (by decide) (by decide)
  refine ⟨?_, .bracket (c := '(') ?_ (by decide)⟩
  · simp +decide only [getterLine, isSingle_append, single_static, hreturned, hgetter, hconst, hname]
  · simp [getterLine]

theorem PropertyText.standsApart_setterLine {f : Field} (h : f.Legal .cpp) {className setter : String}
    (hc : IsName className) (hs : setter ∈ (ofField .cpp f).setter) :
    StandsApart ((ofField .cpp f).setterLine className setter) := by
  obtain ⟨_, hs⟩ := Option.ite_none_right_eq_some.mp hs
  cases hs
  have hsetter : IsSingle (Target.cpp.setterName f.name) :=
    isSingle_append.mpr ⟨by decide, h.name.single_pascalCase⟩
  have hparameters := single_declarations fun p hp => (single_setterParameters h p hp).2
  have hassignments : IsSingle ((ofField .cpp f).assignments className) := by
    refine .join (List.forall_mem_map.mpr fun p hp => ?_)
    have hreceiver : IsSingle (if (ofField .cpp f).isStatic then className ++ "::" else "this->") :=
      isSingle_ite (isSingle_append.mpr ⟨hc.single, by decide⟩) (by decide)
    simp +decide only [isSingle_append, hreceiver, (single_setterParameters h p hp).1]
  refine ⟨?_, .bracket (c := '(') ?_ (by decide)⟩
  · simp +decide only [setterLine, isSingle_append, single_static, hsetter, hparameters, hassignments]
  · simp [setterLine]

end Members

section Bodies

private theorem StandsApart.deep {rest : String} (h : IsSingle rest) :
    StandsApart ("        " ++ rest) :=
  ⟨isSingle_append.mpr ⟨by decide, h⟩, .deep rfl⟩

private theorem StandsApart.bracket {line : String} (hs : IsSingle line)
    (h : line.toList.any blockBrackets.contains = true) : StandsApart line := by
  obtain ⟨c, hc, hb⟩ := List.any_eq_true.mp h
  exact ⟨hs, .bracket hc (List.contains_iff_mem.mp hb)⟩

private theorem standsApart_bracedLines {body : List String} (h : ∀ line ∈ body, IsSingle line) :
    ∀ line ∈ bracedLines body, StandsApart line := by
  have hopen : StandsApart "    \x7b" := .bracket (by decide) (by decide)
  have hclose : StandsApart "    \x7d" := .bracket (by decide) (by decide)
  have hbody : ∀ line ∈ body.map ("        " ++ ·), StandsApart line :=
    List.forall_mem_map.mpr fun line hline => .deep (h line hline)
  simp only [bracedLines, List.forall_mem_append, List.forall_mem_singleton]
  exact ⟨⟨hopen, hbody⟩, hclose⟩

theorem ConstructorText.standsApart_lines {v : ConstructorText} {className : String}
    (hc : IsName className) (hp : ∀ p ∈ v.parameters, IsSingle p.declaration)
    (hi : ∀ i ∈ v.initializers, IsSingle i.declaration) (hb : ∀ line ∈ v.body, IsSingle line) :
    ∀ line ∈ v.lines className, StandsApart line := by
  have htaken : IsSingle (if v.isCopy then "const " ++ className ++ "& other"
      else ParameterText.declarations v.parameters) :=
    isSingle_ite (by simp +decide [hc.single]) (single_declarations hp)
  have hheading : StandsApart (v.heading className) := by
    refine ⟨?_, .bracket (c := '(') (by simp [heading]) (by decide)⟩
    simp +decide only [heading, isSingle_append, hc.single, htaken]
  have hinitializers : ∀ line ∈ v.initializerLines, StandsApart line := by
    unfold initializerLines
    split
    · exact List.forall_mem_nil _
    · have hlist : IsSingle (", ".intercalate (v.initializers.map Initializer.declaration)) :=
        .intercalate (by decide) (List.forall_mem_map.mpr hi)
      have hcut : "        : " ++ ", ".intercalate (v.initializers.map Initializer.declaration) =
          "        " ++ (": " ++ ", ".intercalate (v.initializers.map Initializer.declaration)) := by
        rw [← String.append_assoc]
        rfl
      exact List.forall_mem_singleton.mpr ⟨isSingle_append.mpr ⟨by decide, hlist⟩, .deep hcut⟩
  simp only [lines, List.forall_mem_append, List.forall_mem_singleton]
  exact ⟨⟨hheading, hinitializers⟩, standsApart_bracedLines hb⟩

end Bodies

namespace ModelClass
variable {c : ModelClass} (hc : c.Legal .cpp)

section Head
include hc

theorem standsApart_headLines : ∀ line ∈ c.headLines, StandsApart line := by
  have htemplate : ∀ line ∈ c.templateLines, StandsApart line := by
    unfold templateLines
    split
    · exact List.forall_mem_nil _
    · have hlist : IsSingle (", ".intercalate (c.templateParameters.map ("typename " ++ ·))) :=
        .intercalate (by decide) (List.forall_mem_map.mpr fun parameter hp =>
          isSingle_append.mpr ⟨by decide, (hc.templateParameters parameter hp).single⟩)
      refine List.forall_mem_singleton.mpr ⟨?_, .outside (c := 't') ?_ (by decide) (by decide)⟩
      · simp +decide only [isSingle_append, hlist]
      · simp
  have hclass : StandsApart c.classLine := by
    have hparents : IsSingle (if c.parents.isEmpty then ""
        else " : " ++ ", ".intercalate (c.parents.map ModelParent.spell)) := by
      refine isSingle_ite (by decide) (isSingle_append.mpr ⟨by decide, .intercalate (by decide) ?_⟩)
      refine List.forall_mem_map.mpr fun p hp => ?_
      have haccess : IsSingle p.access.name := by cases p.access <;> decide
      simp +decide only [ModelParent.spell, isSingle_append, haccess, (hc.parents p hp).single]
    refine ⟨?_, .outside (c := 'c') ?_ (by decide) (by decide)⟩
    · simp +decide only [classLine, isSingle_append, hc.name.single, hparents]
    · simp [classLine]
  have hopen : StandsApart "\x7b" := ⟨by decide, .outside (c := '\x7b') rfl (by decide) (by decide)⟩
  have hfriends : ∀ line ∈ c.friends.map friendLine, StandsApart line := by
    refine List.forall_mem_map.mpr fun name hn => ⟨?_, .friend (hc.friends name hn) rfl⟩
    simp +decide only [friendLine, isSingle_append, (hc.friends name hn).single]
  simp only [headLines, List.forall_mem_append, List.forall_mem_cons]
  exact ⟨⟨htemplate, hclass, hopen, List.forall_mem_nil _⟩, hfriends⟩

theorem standsApart_methodLines (access : Access) :
    ∀ line ∈ c.methodLines access, StandsApart line := by
  refine List.forall_mem_map.mpr (List.forall_mem_map.mpr fun m hm => ?_)
  exact MethodText.standsApart_line (hc.methods m (List.mem_of_mem_filter hm))

end Head

section Front
variable (hl : ∀ f ∈ c.fields, ∀ length ∈ f.type.lengthFields, IsName length)
include hc hl

private theorem standsApart_constructorLines :
    ∀ line ∈ c.nativeConstructorTexts.flatMap (ConstructorText.lines c.name), StandsApart line := by
  refine List.forall_mem_flatMap.mpr (List.forall_mem_append.mpr ⟨?_, ?_⟩)
  · refine List.forall_mem_map.mpr fun k hk => ?_
    have hfield (f : Field) (hf : f ∈ c.select k.fields) : f.Legal .cpp :=
      hc.fields f (mem_fields_of_mem_select hf)
    refine ConstructorText.standsApart_lines hc.name ?_ ?_ ?_
    · simp only [ConstructorText.declared]
      split
      · exact List.forall_mem_nil _
      · exact List.forall_mem_map.mpr fun f hf => single_ofField (hfield f hf)
    · refine List.forall_mem_map.mpr fun f hf => ?_
      have hname := (hfield f hf).name.single
      split
      · simp +decide only [Initializer.declaration, Initializer.copied, isSingle_append, hname]
      · simp +decide only [Initializer.declaration, Initializer.own, isSingle_append, hname]
    · simp only [ConstructorText.declared]
      cases k.body with
      | none => exact List.forall_mem_nil _
      | some body => exact isSingle_codeLines body
  · split
    · refine List.forall_mem_singleton.mpr
        (ConstructorText.standsApart_lines hc.name (List.forall_mem_nil _) ?_
          (single_linesOf_copyBody hc hl))
      refine List.forall_mem_map.mpr fun name hn => ?_
      have hname := (forall_copyInitializers (fun f hf => (hc.fields f hf).name) name hn).single
      simp +decide only [Initializer.declaration, Initializer.copied, isSingle_append, hname]
    · exact List.forall_mem_nil _

private theorem standsApart_operatorLines : ∀ line ∈ c.operatorLines, StandsApart line := by
  have hhead : StandsApart ("    " ++ (c.name ++ "& operator=(const " ++ c.name ++ "& other)")) := by
    refine ⟨?_, .bracket (c := '(') (by simp) (by decide)⟩
    simp +decide only [isSingle_append, hc.name.single]
  have hinitializers : ∀ line ∈ c.copyInitializers.map
      (fun name => "        " ++ name ++ " = other." ++ name ++ ";"), StandsApart line := by
    refine List.forall_mem_map.mpr fun name hn => ?_
    have hname := (forall_copyInitializers (fun f hf => (hc.fields f hf).name) name hn).single
    simp only [String.append_assoc]
    exact .deep (by simp +decide only [isSingle_append, hname])
  have hrelease := List.forall_mem_map.mpr fun line hline =>
    StandsApart.deep (single_linesOf_releaseBody hc hl line hline)
  have hcopy := List.forall_mem_map.mpr fun line hline =>
    StandsApart.deep (single_linesOf_copyBody hc hl line hline)
  have hchecked : ∀ line ∈ ["    \x7b", "        if (this == &other)", "        \x7b",
      "            return *this;", "        \x7d"], StandsApart line := by
    have hunchanged : StandsApart ("        " ++ "    return *this;") := .deep (by decide)
    have hopen : StandsApart "    \x7b" := .bracket (by decide) (by decide)
    have hsame : StandsApart "        if (this == &other)" := .bracket (by decide) (by decide)
    have hthen : StandsApart "        \x7b" := .bracket (by decide) (by decide)
    have hdone : StandsApart "        \x7d" := .bracket (by decide) (by decide)
    simp only [List.forall_mem_cons]
    exact ⟨hopen, hsame, hthen, hunchanged, hdone, List.forall_mem_nil _⟩
  have hend : ∀ line ∈ ["        return *this;", "    \x7d"], StandsApart line := by
    have hanswer : StandsApart ("        " ++ "return *this;") := .deep (by decide)
    simp only [List.forall_mem_cons]
    exact ⟨hanswer, .bracket (by decide) (by decide), List.forall_mem_nil _⟩
  unfold operatorLines
  split
  · have hlines : c.assignmentLines.modifyHead ("    " ++ ·) =
        ["    " ++ (c.name ++ "& operator=(const " ++ c.name ++ "& other)")] ++
          ["    \x7b", "        if (this == &other)", "        \x7b", "            return *this;",
            "        \x7d"] ++ (linesOf c.releaseBody).map ("        " ++ ·) ++
          (c.copyInitializers.map (fun name => "        " ++ name ++ " = other." ++ name ++ ";") ++
            (linesOf c.copyBody).map ("        " ++ ·) ++ ["        return *this;", "    \x7d"]) :=
      rfl
    simp only [hlines, List.forall_mem_append]
    exact ⟨⟨⟨List.forall_mem_singleton.mpr hhead, hchecked⟩, hrelease⟩,
      ⟨hinitializers, hcopy⟩, hend⟩
  · exact List.forall_mem_nil _

theorem standsApart_frontLines : ∀ line ∈ c.frontLines, StandsApart line := by
  have hdestructor : ∀ line ∈ c.destructorLines, StandsApart line := by
    have hhead : StandsApart ("    ~" ++ c.name ++ "()") := by
      refine ⟨?_, .bracket (c := '(') (by simp) (by decide)⟩
      simp +decide only [isSingle_append, hc.name.single]
    unfold destructorLines
    split
    · exact List.forall_mem_nil _
    · exact List.forall_mem_append.mpr ⟨List.forall_mem_singleton.mpr hhead,
        standsApart_bracedLines (single_linesOf_releaseBody hc hl)⟩
  have hoverrides : ∀ line ∈ (c.overriddenTexts .cpp).map MethodText.overrideLine, StandsApart line :=
    List.forall_mem_map.mpr (List.forall_mem_map.mpr fun m hm =>
      MethodText.standsApart_overrideLine (hc.overriddenMethods m hm))
  have haccessors : ∀ line ∈ (c.propertyTexts .cpp).flatMap (PropertyText.accessorLines c.name),
      StandsApart line := by
    refine List.forall_mem_flatMap.mpr (List.forall_mem_map.mpr fun f hf => ?_)
    have hf := hc.fields f hf
    refine List.forall_mem_append.mpr ⟨List.forall_mem_map.mpr fun getter hg => ?_,
      List.forall_mem_map.mpr fun setter hs => ?_⟩
    · exact PropertyText.standsApart_getterLine hf (Option.mem_toList.mp hg)
    · exact PropertyText.standsApart_setterLine hf hc.name (Option.mem_toList.mp hs)
  simp only [frontLines, List.forall_mem_append]
  exact ⟨⟨⟨⟨⟨standsApart_constructorLines hc hl, hdestructor⟩, standsApart_operatorLines hc hl⟩,
    standsApart_methodLines hc .pub⟩, hoverrides⟩, haccessors⟩

end Front

end ModelClass

end ClassScaffold
