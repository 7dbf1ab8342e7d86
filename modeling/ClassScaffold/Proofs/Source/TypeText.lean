import ClassScaffold.Proofs.Basic
import ClassScaffold.Proofs.Naming
import ClassScaffold.Source.MemberText

/-! What the text of a type tells. A signature tells the name, the constants and the capacities. The
text in a managed language tells the name and the number of arrays. -/
namespace ClassScaffold

/-- What a signature tells of a type. -/
structure TypeKey where
  isConst : Bool
  name : String
  constPointers : List Bool
  capacities : List UInt32
  deriving DecidableEq

namespace DataType

def key (t : DataType) : TypeKey where
  isConst := t.isConst
  name := t.name
  constPointers := t.pointers.map (·.isConst)
  capacities := t.dimensions.map (·.maxLength)

theorem signPointer_eq (text : String) (p : Pointer) : signPointer text p = text ++ pointerText p := by
  unfold signPointer pointerText
  split
  · exact String.append_assoc
  · rfl

theorem signDimension_eq (text : String) (dim : Dimension) :
    signDimension text dim = text ++ dimensionText dim := by
  rw [signDimension, dimensionText, String.append_assoc, String.append_assoc, String.append_assoc]

/-- To write one item behind the other is to join what they write. -/
theorem foldl_eq_join {α : Type} {write : String → α → String} {textOf : α → String}
    (h : ∀ text a, write text a = text ++ textOf a) (text : String) (items : List α) :
    items.foldl write text = text ++ String.join (items.map textOf) := by
  induction items generalizing text with
  | nil => exact String.append_empty.symm
  | cons a rest ih =>
    rw [List.foldl_cons, h, ih, List.map_cons, String.join_cons, String.append_assoc]

/-- The signature is the text before a declared name and the one behind it. -/
theorem nativeText_eq_signature (t : DataType) :
    t.nativeText.type ++ t.nativeText.suffix = t.signature := by
  have hbase : (if t.isConst then "const " ++ t.name else t.name) =
      (if t.isConst then "const " else "") ++ t.name := by
    cases t.isConst
    · exact String.empty_append.symm
    · rfl
  rw [signature, foldl_eq_join signDimension_eq, foldl_eq_join signPointer_eq, hbase]
  rfl

/-- Every array has a length field, and nothing else has one. -/
theorem managedText_eq (t : DataType) :
    t.managedText = ⟨t.name ++ String.join (List.replicate t.lengthFields.length "[]"), ""⟩ := by
  have harrays : t.dimensions.length + t.pointers.countP (·.isArray) = t.lengthFields.length := by
    rw [lengthFields, List.length_append, List.length_map, List.length_map,
      List.countP_eq_length_filter]
  rw [managedText, harrays]

def constText (isConst : Bool) : List Char :=
  if isConst then "const ".toList else []

def pointersText (ps : List Pointer) : List Char :=
  ps.flatMap fun p => (pointerText p).toList

def dimensionsText (ds : List Dimension) : List Char :=
  ds.flatMap fun dim => (dimensionText dim).toList

theorem toList_nativeType (t : DataType) :
    t.nativeText.type.toList = (constText t.isConst ++ t.name.toList) ++ pointersText t.pointers := by
  have hconst : (if t.isConst then "const " else "").toList = constText t.isConst := by
    cases t.isConst <;> rfl
  simp only [nativeText, String.toList_append, String.toList_join, hconst, List.flatMap_map,
    pointersText]

theorem toList_nativeSuffix (t : DataType) :
    t.nativeText.suffix.toList = dimensionsText t.dimensions := by
  simp only [nativeText, String.toList_join, List.flatMap_map, dimensionsText]

theorem toList_signature (t : DataType) :
    t.signature.toList = (constText t.isConst ++ t.name.toList) ++
      (pointersText t.pointers ++ dimensionsText t.dimensions) := by
  rw [← nativeText_eq_signature, String.toList_append, toList_nativeType, toList_nativeSuffix,
    List.append_assoc]

section Levels
variable {ps qs : List Pointer} {ds es : List Dimension}

private theorem pointersText_nil : pointersText [] = [] := rfl

private theorem dimensionsText_nil : dimensionsText [] = [] := rfl

private theorem pointersText_cons (p : Pointer) (ps : List Pointer) : pointersText (p :: ps) =
    '*' :: ((if p.isConst then " const".toList else []) ++ pointersText ps) := by
  cases hp : p.isConst <;> simp [pointersText, pointerText, hp]

private theorem dimensionsText_cons (dim : Dimension) (ds : List Dimension) :
    dimensionsText (dim :: ds) =
      '[' :: (Nat.toDigits 10 dim.maxLength.toNat ++ ']' :: dimensionsText ds) := by
  simp [dimensionsText, dimensionText, toString, Nat.toList_repr]

private theorem star_ne_dimensionsText (text : List Char) (ds : List Dimension) :
    '*' :: text ≠ dimensionsText ds := by
  cases ds with
  | nil => exact List.cons_ne_nil _ _
  | cons dim ds =>
    rw [dimensionsText_cons]
    exact fun h => absurd (List.cons.inj h).1 (by decide)

/-- Levels start with a star or a bracket, which ends what stands before them. -/
private theorem head_levelsText {p : Char → Bool} (hs : p '*' = false) (hb : p '[' = false)
    (ps : List Pointer) (ds : List Dimension) :
    ∀ c ∈ (pointersText ps ++ dimensionsText ds).head?, p c = false := by
  intro c hc
  cases ps with
  | cons _ ps =>
    rw [pointersText_cons] at hc
    cases hc
    exact hs
  | nil =>
    cases ds with
    | nil => cases hc
    | cons dim ds =>
      rw [dimensionsText_cons] at hc
      cases hc
      exact hb

private theorem toDigits_inj {m n : Nat} : Nat.toDigits 10 m = Nat.toDigits 10 n ↔ m = n := by
  refine ⟨fun h => ?_, congrArg _⟩
  rw [← @Nat.ofDigitChars_ten_toDigits m, h, Nat.ofDigitChars_ten_toDigits]

/-- Digits end where the bracket closes. -/
private theorem dimensionsText_inj :
    dimensionsText ds = dimensionsText es ↔ ds.map (·.maxLength) = es.map (·.maxLength) := by
  have hdigits (n : Nat) : ∀ c ∈ Nat.toDigits 10 n, (c != ']') = true := by
    intro c hc
    have hd := Nat.isDigit_of_mem_toDigits (by decide) (by decide) hc
    rw [bne_iff_ne]
    rintro rfl
    exact absurd hd (by decide)
  induction ds generalizing es with
  | nil =>
    cases es with
    | nil => simp
    | cons dim' es => simp [dimensionsText_cons, dimensionsText_nil]
  | cons dim ds ih =>
    cases es with
    | nil => simp [dimensionsText_cons, dimensionsText_nil]
    | cons dim' es =>
      simp only [dimensionsText_cons, List.map_cons, List.cons.injEq, true_and]
      rw [append_cut_iff (hdigits _) (hdigits _) (by simp) (by simp), toDigits_inj, UInt32.toNat_inj]
      simp only [List.cons.injEq, true_and, ih]

/-- Every pointer starts with its star, and a bracket ends the last one. -/
private theorem levelsText_inj :
    pointersText ps ++ dimensionsText ds = pointersText qs ++ dimensionsText es ↔
      ps.map (·.isConst) = qs.map (·.isConst) ∧ ds.map (·.maxLength) = es.map (·.maxLength) := by
  have hmark (isConst : Bool) : ∀ c ∈ (if isConst then " const".toList else []),
      (c != '*' && c != '[') = true :=
    List.all_eq_true.mp (by cases isConst <;> decide)
  have hend := @head_levelsText (fun c => c != '*' && c != '[') rfl rfl
  induction ps generalizing qs with
  | nil =>
    cases qs with
    | nil =>
      rw [pointersText_nil, List.nil_append, List.nil_append, dimensionsText_inj]
      exact (and_iff_right rfl).symm
    | cons q qs =>
      rw [pointersText_nil, pointersText_cons, List.nil_append, List.cons_append]
      exact iff_of_false (star_ne_dimensionsText _ _).symm (fun h => nomatch h.1)
  | cons p ps ih =>
    cases qs with
    | nil =>
      rw [pointersText_nil, pointersText_cons, List.nil_append, List.cons_append]
      exact iff_of_false (star_ne_dimensionsText _ _) (fun h => nomatch h.1)
    | cons q qs =>
      have hconst : (if p.isConst then " const".toList else []) =
          (if q.isConst then " const".toList else []) ↔ p.isConst = q.isConst := by
        cases p.isConst <;> cases q.isConst <;> decide
      simp only [pointersText_cons, List.map_cons, List.cons_append, List.append_assoc,
        List.cons.injEq, true_and]
      rw [append_cut_iff (hmark _) (hmark _) (hend _ _) (hend _ _), hconst]
      simp only [ih, and_assoc]

private theorem mem_levelsText : ∀ c ∈ pointersText ps ++ dimensionsText ds, c ≠ ',' ∧ c ≠ '&' := by
  have hpointer (p : Pointer) : (pointerText p).toList.all (fun c => c != ',' && c != '&') = true := by
    unfold pointerText
    cases p.isConst <;> decide
  intro c hc
  rw [List.mem_append] at hc
  rcases hc with hc | hc
  · obtain ⟨p, _, hc⟩ := List.mem_flatMap.mp hc
    simpa using List.all_eq_true.mp (hpointer p) c hc
  · induction ds with
    | nil => exact absurd hc List.not_mem_nil
    | cons dim ds ih =>
      rw [dimensionsText_cons, List.mem_cons, List.mem_append, List.mem_cons] at hc
      rcases hc with rfl | hc | rfl | hc
      · decide
      · have hd := Nat.isDigit_of_mem_toDigits (by decide) (by decide) hc
        constructor <;> rintro rfl <;> exact absurd hd (by decide)
      · decide
      · exact ih hc

end Levels

section Signature
variable {t u : DataType}

private theorem mem_constText (isConst : Bool) : ∀ c ∈ constText isConst, isTypeNameChar c = true :=
  List.all_eq_true.mp (by cases isConst <;> decide)

/-- No name starts like a type that is constant. -/
private theorem constText_append_inj (ht : TypeSpelled t.name) (hu : TypeSpelled u.name) :
    constText t.isConst ++ t.name.toList = constText u.isConst ++ u.name.toList ↔
      t.isConst = u.isConst ∧ t.name = u.name := by
  cases t.isConst <;> cases u.isConst
  · exact String.toList_inj.trans (and_iff_right rfl).symm
  · exact iff_of_false (fun h => ht.notConst ⟨_, h.symm⟩) (fun h => nomatch h.1)
  · exact iff_of_false (fun h => hu.notConst ⟨_, h⟩) (fun h => nomatch h.1)
  · rw [List.append_cancel_left_eq]
    exact String.toList_inj.trans (and_iff_right rfl).symm

/-- Signatures are equal only where the types are, up to the names of lengths and the kinds of
pointers. -/
theorem signature_eq_iff (ht : TypeSpelled t.name) (hu : TypeSpelled u.name) :
    t.signature = u.signature ↔ t.key = u.key := by
  have hname {t : DataType} (ht : TypeSpelled t.name) :
      ∀ c ∈ constText t.isConst ++ t.name.toList, isTypeNameChar c = true :=
    fun c hc => (List.mem_append.mp hc).elim (mem_constText _ c) (ht.chars c)
  have hend := @head_levelsText isTypeNameChar (by decide) (by decide)
  rw [← String.toList_inj, toList_signature, toList_signature,
    append_cut_iff (hname ht) (hname hu) (hend _ _) (hend _ _), constText_append_inj ht hu,
    levelsText_inj, key, key, TypeKey.mk.injEq, and_assoc]

theorem signature_ne_nil (ht : TypeSpelled t.name) : t.signature.toList ≠ [] := by
  rw [toList_signature]
  simp [ht.nonempty]

/-- Neither the separator of parameters nor the mark of a reference is in a signature. -/
theorem mem_signature (ht : TypeSpelled t.name) : ∀ c ∈ t.signature.toList, c ≠ ',' ∧ c ≠ '&' := by
  have hname : ∀ c, isTypeNameChar c = true → c ≠ ',' ∧ c ≠ '&' := by
    intro c hc
    constructor <;> rintro rfl <;> exact absurd hc (by decide)
  intro c hc
  rw [toList_signature, List.mem_append, List.mem_append] at hc
  rcases hc with (hc | hc) | hc
  · exact hname c (mem_constText _ c hc)
  · exact hname c (ht.chars c hc)
  · exact mem_levelsText c hc

/-- The text in a managed language tells the name and the number of arrays, and no more. -/
theorem managedText_eq_iff (ht : TypeSpelled t.name) (hu : TypeSpelled u.name) :
    t.managedText.type = u.managedText.type ↔
      t.name = u.name ∧ t.lengthFields.length = u.lengthFields.length := by
  have hend (n : Nat) : ∀ c ∈ ((List.replicate n "[]").flatMap String.toList).head?,
      isTypeNameChar c = false := by
    cases n with
    | zero => simp
    | succ n => simp [List.replicate_succ, isTypeNameChar, isIdentifierRest]
  have hcount {m n : Nat} : (List.replicate m "[]").flatMap String.toList =
      (List.replicate n "[]").flatMap String.toList ↔ m = n := by
    refine ⟨fun h => ?_, fun h => by rw [h]⟩
    have hlength : m * 2 = n * 2 := by
      simpa [List.length_flatMap] using congrArg List.length h
    omega
  rw [← String.toList_inj]
  simp only [managedText_eq, String.toList_append, String.toList_join]
  rw [append_cut_iff ht.chars hu.chars (hend _) (hend _), String.toList_inj, hcount]

theorem mem_managedText (ht : TypeSpelled t.name) :
    ∀ c ∈ t.managedText.type.toList, isTypeNameChar c = true ∨ c = '[' ∨ c = ']' := by
  intro c hc
  rw [managedText, String.toList_append, List.mem_append, String.toList_join] at hc
  rcases hc with hc | hc
  · exact .inl (ht.chars c hc)
  · obtain ⟨brackets, hb, hc⟩ := List.mem_flatMap.mp hc
    rw [List.eq_of_mem_replicate hb] at hc
    right
    simpa using hc

end Signature

end DataType

theorem ConstructorText.types_declared {c : ModelClass} {k : ModelConstructor}
    (h : k.isCopy = false) :
    ((declared .cpp c k).parameters.map fun p => p.type ++ p.arraySuffix) =
      (c.select k.fields).map (·.type.signature) := by
  simp only [declared, h, Bool.false_eq_true, if_false, List.map_map]
  apply List.map_congr_left
  intro f _
  exact f.type.nativeText_eq_signature

end ClassScaffold
