import ClassScaffold.Ownership.Code
import ClassScaffold.Proofs.Ownership.Spelling
import ClassScaffold.Proofs.Ownership.Symmetry
import ClassScaffold.Proofs.Skeleton.Texts
import ClassScaffold.Proofs.Text.Lines

namespace ClassScaffold

open Skeleton Text

/-- The bundled idioms, each of which may be asked for. -/
def Skeleton.Memory.group : Skeleton.Group Skeleton.engine :=
  .ofSkeleton memoryGroupName memoryInstances Memory.skeleton

namespace Fragment

def loopHeader (index length : String) : String :=
  "for (unsigned int " ++ index ++ " = 0; " ++ index ++ " < " ++ length ++ "; ++" ++ index ++ ")"

/-- A loop around lines that are in their place already. -/
def loopLines (index length : String) (body : List String) : List String :=
  [loopHeader index length, "\x7b"] ++ body ++ ["\x7d"]

mutual

/-- The lines of a fragment. What is inside a loop goes one level to the right. -/
def lines : Fragment → List String
  | .assign target source => [target.spell ++ " = " ++ source.spell ++ ";"]
  | .allocate pointer type => [pointer.spell ++ " = new " ++ type ++ ";"]
  | .allocateThenIterate pointer type index length body =>
    [pointer.spell ++ " = new " ++ type ++ "[" ++ length ++ "];"] ++
      loopLines index length ((linesOf body).map ("    " ++ ·))
  | .iterate index length body => loopLines index length ((linesOf body).map ("    " ++ ·))
  | .iterateThenDelete pointer index length body =>
    loopLines index length ((linesOf body).map ("    " ++ ·)) ++
      ["delete[] " ++ pointer.spell ++ ";"]
  | .delete pointer isArray =>
    [(if isArray then "delete[] " else "delete ") ++ pointer.spell ++ ";"]

def linesOf : List Fragment → List String
  | [] => []
  | f :: rest => f.lines ++ linesOf rest

end

theorem linesOf_append (fs gs : List Fragment) : linesOf (fs ++ gs) = linesOf fs ++ linesOf gs := by
  induction fs with
  | nil => rfl
  | cons f rest ih => rw [List.cons_append, linesOf, linesOf, ih, List.append_assoc]

section Idioms
variable (pointer type index length contents : String) (isArray : Bool)

/-- What an idiom writes is known up to the brackets of the appended pieces. -/
private theorem idiom_of_eq {name text written : String} {attributes : List (String × Json)}
    (h : idiom Memory.group name attributes = .ok (closed written))
    (ht : written.toList = text.toList) : idiom Memory.group name attributes = .ok (closed text) := by
  rw [h, String.toList_inj.mp ht]

private theorem idiom_pointerAllocate :
    idiom Memory.group "pointerAllocate"
        [("PointerName", .text pointer), ("DataType", .text type), ("IsArray", .bool isArray)] =
      .ok (closed (pointer ++ " = new " ++ type ++ ";")) :=
  idiom_of_eq rfl (by simp [Json.display])

private theorem idiom_pointerDelete :
    idiom Memory.group "pointerDelete" [("PointerName", .text pointer), ("IsArray", .bool isArray)] =
      .ok (closed ((if isArray then "delete[] " else "delete ") ++ pointer ++ ";")) := by
  cases isArray with
  | false => exact idiom_of_eq rfl (by simp [Json.display])
  | true => exact idiom_of_eq rfl (by simp [Json.display])

private theorem idiom_allocateThenIterate :
    idiom Memory.group "allocateThenIterate"
        [("PointerName", .text pointer), ("DataType", .text type), ("IndexName", .text index),
          ("LengthVariableName", .text length), ("LoopContents", .text contents)] =
      .ok (closed ("\n".intercalate
        ([pointer ++ " = new " ++ type ++ "[" ++ length ++ "];", loopHeader index length, "\x7b"] ++
          [contents] ++ ["\x7d"]))) :=
  idiom_of_eq rfl (by unfold loopHeader; simp [Json.display])

private theorem idiom_iterateArray :
    idiom Memory.group "iterateArray"
        [("IndexName", .text index), ("LengthVariableName", .text length),
          ("LoopContents", .text contents)] =
      .ok (closed ("\n".intercalate
        ([loopHeader index length, "\x7b"] ++ [contents] ++ ["\x7d"]))) :=
  idiom_of_eq rfl (by unfold loopHeader; simp [Json.display])

private theorem idiom_iterateThenDelete :
    idiom Memory.group "iterateThenDelete"
        [("PointerName", .text pointer), ("IndexName", .text index),
          ("LengthVariableName", .text length), ("LoopContents", .text contents)] =
      .ok (closed ("\n".intercalate ([loopHeader index length, "\x7b"] ++ [contents] ++
        ["\x7d", "delete[] " ++ pointer ++ ";"]))) :=
  idiom_of_eq rfl (by unfold loopHeader; simp [Json.display])

end Idioms

section Lines

private theorem visibleLine_semicolon {s : String} (h : IsSingle s) : VisibleLine (s ++ ";") :=
  .behind h ⟨by decide, ';', rfl, by decide⟩

private theorem visibleLine_loopLines {index length : String} {body : List String}
    (hi : IsSingle index) (hl : IsSingle length) (hb : ∀ line ∈ body, VisibleLine line) :
    ∀ line ∈ loopLines index length (body.map ("    " ++ ·)), VisibleLine line := by
  have hheader : VisibleLine (loopHeader index length) :=
    .behind (by simp +decide [hi, hl]) ⟨by decide, ')', rfl, by decide⟩
  have hopen : VisibleLine "\x7b" := ⟨by decide, '\x7b', rfl, by decide⟩
  have hclose : VisibleLine "\x7d" := ⟨by decide, '\x7d', rfl, by decide⟩
  have hbody : ∀ line ∈ body.map ("    " ++ ·), VisibleLine line :=
    List.forall_mem_map.mpr fun line hline => (hb line hline).behind (by decide)
  simp only [loopLines, List.forall_mem_append, List.forall_mem_cons]
  exact ⟨⟨⟨hheader, hopen, List.forall_mem_nil _⟩, hbody⟩, hclose, List.forall_mem_nil _⟩

mutual

/-- Every line ends in a semicolon or a bracket. -/
theorem visibleLine_lines :
    ∀ f : Fragment, (∀ s ∈ f.texts, IsSingle s) → ∀ line ∈ f.lines, VisibleLine line
  | .assign target source, h => by
    simp only [texts, List.forall_mem_cons] at h
    exact List.forall_mem_singleton.mpr (visibleLine_semicolon (by simp +decide [h]))
  | .allocate pointer type, h => by
    simp only [texts, List.forall_mem_cons] at h
    exact List.forall_mem_singleton.mpr (visibleLine_semicolon (by simp +decide [h]))
  | .allocateThenIterate pointer type index length body, h => by
    simp only [texts, List.forall_mem_append, List.forall_mem_cons] at h
    obtain ⟨⟨hp, ht, hi, hl, -⟩, hb⟩ := h
    have hallocation : VisibleLine (pointer.spell ++ " = new " ++ type ++ "[" ++ length ++ "];") :=
      .behind (by simp +decide [hp, ht, hl]) ⟨by decide, ';', rfl, by decide⟩
    exact List.forall_mem_append.mpr ⟨List.forall_mem_singleton.mpr hallocation,
      visibleLine_loopLines hi hl (visibleLine_linesOf body hb)⟩
  | .iterate index length body, h => by
    simp only [texts, List.forall_mem_append, List.forall_mem_cons] at h
    obtain ⟨⟨hi, hl, -⟩, hb⟩ := h
    exact visibleLine_loopLines hi hl (visibleLine_linesOf body hb)
  | .iterateThenDelete pointer index length body, h => by
    simp only [texts, List.forall_mem_append, List.forall_mem_cons] at h
    obtain ⟨⟨hp, hi, hl, -⟩, hb⟩ := h
    have hdeletion : VisibleLine ("delete[] " ++ pointer.spell ++ ";") :=
      visibleLine_semicolon (by simp +decide [hp])
    exact List.forall_mem_append.mpr ⟨visibleLine_loopLines hi hl (visibleLine_linesOf body hb),
      List.forall_mem_singleton.mpr hdeletion⟩
  | .delete pointer isArray, h => by
    simp only [texts, List.forall_mem_cons] at h
    have hkeyword : IsSingle (if isArray then "delete[] " else "delete ") := by
      cases isArray <;> decide
    exact List.forall_mem_singleton.mpr (visibleLine_semicolon (by simp [hkeyword, h]))

theorem visibleLine_linesOf :
    ∀ fs : List Fragment, (∀ s ∈ textsOf fs, IsSingle s) → ∀ line ∈ linesOf fs, VisibleLine line
  | [], _ => List.forall_mem_nil _
  | f :: rest, h => by
    rw [textsOf, List.forall_mem_append] at h
    exact List.forall_mem_append.mpr ⟨visibleLine_lines f h.1, visibleLine_linesOf rest h.2⟩

end

theorem lines_ne_nil (f : Fragment) : f.lines ≠ [] := by
  cases f <;> simp [lines, loopLines]

theorem linesOf_eq_nil_iff {fs : List Fragment} : linesOf fs = [] ↔ fs = [] := by
  cases fs with
  | nil => exact iff_of_true rfl rfl
  | cons f rest =>
    exact iff_of_false (List.append_ne_nil_of_left_ne_nil f.lines_ne_nil _) (List.cons_ne_nil _ _)

end Lines

/-- An idiom that puts its contents between other lines writes a loop around the lines of the body. -/
private theorem loop_eq_printed {name : String} {body : List Fragment}
    (attributes : List (String × Json)) {before after : List String}
    (hs : Memory.group.start name = .ok ⟨Memory.group, name, []⟩)
    (hi : ∀ contents, idiom Memory.group name
      (attributes ++ [("LoopContents", Json.text contents)]) =
      .ok (closed ("\n".intercalate (before ++ [contents] ++ after))))
    (hc : codeOf Memory.group body = .ok (printed (linesOf body))) (hne : body ≠ [])
    (hb : ∀ line ∈ linesOf body, VisibleLine line)
    (hall : ∀ line ∈ before ++ (linesOf body).map ("    " ++ ·) ++ after, VisibleLine line) :
    (do
      let _ ← Memory.group.start name
      let contents ← codeOf Memory.group body
      idiom Memory.group name
        (attributes ++ [("LoopContents", Json.text (indented contents))])) =
        .ok (printed (before ++ (linesOf body).map ("    " ++ ·) ++ after)) := by
  have hinner : (linesOf body).map ("    " ++ ·) ≠ [] := by simpa [linesOf_eq_nil_iff] using hne
  have houter : before ++ (linesOf body).map ("    " ++ ·) ++ after ≠ [] :=
    List.append_ne_nil_of_left_ne_nil (List.append_ne_nil_of_right_ne_nil _ hinner) _
  simp only [hs, hc, bind, Except.bind]
  rw [hi, indented_printed hb, intercalate_nested _ _ hinner, closed_intercalate hall houter]

mutual

theorem code_eq_printed : ∀ f : Fragment, (∀ s ∈ f.texts, IsSingle s) → f.LoopsFilled →
    code Memory.group f = .ok (printed f.lines)
  | .assign target source, h, _ => by
    have hclosed := closed_intercalate (visibleLine_lines _ h) (lines_ne_nil _)
    rw [lines, String.intercalate_singleton] at hclosed
    rw [code, hclosed, lines]
    rfl
  | .allocate pointer type, h, _ => by
    have hclosed := closed_intercalate (visibleLine_lines _ h) (lines_ne_nil _)
    rw [lines, String.intercalate_singleton] at hclosed
    rw [code, idiom_pointerAllocate, hclosed, lines]
  | .allocateThenIterate pointer type index length body, h, hf => by
    have hlines : lines (.allocateThenIterate pointer type index length body) =
        [pointer.spell ++ " = new " ++ type ++ "[" ++ length ++ "];", loopHeader index length,
          "\x7b"] ++ (linesOf body).map ("    " ++ ·) ++ ["\x7d"] := rfl
    have hall := visibleLine_lines _ h
    rw [texts, List.forall_mem_append] at h
    rw [hlines] at hall ⊢
    rw [code]
    exact loop_eq_printed [("PointerName", .text pointer.spell), ("DataType", .text type),
      ("IndexName", .text index), ("LengthVariableName", .text length)] rfl
      (fun contents => idiom_allocateThenIterate pointer.spell type index length contents)
      (codeOf_eq_printed body h.2 hf.2) hf.1 (visibleLine_linesOf body h.2) hall
  | .iterate index length body, h, hf => by
    have hall := visibleLine_lines _ h
    rw [texts, List.forall_mem_append] at h
    rw [code]
    exact loop_eq_printed [("IndexName", .text index), ("LengthVariableName", .text length)] rfl
      (fun contents => idiom_iterateArray index length contents)
      (codeOf_eq_printed body h.2 hf.2) hf.1 (visibleLine_linesOf body h.2) hall
  | .iterateThenDelete pointer index length body, h, hf => by
    have hlines : lines (.iterateThenDelete pointer index length body) =
        [loopHeader index length, "\x7b"] ++ (linesOf body).map ("    " ++ ·) ++
          ["\x7d", "delete[] " ++ pointer.spell ++ ";"] := List.append_assoc _ _ _
    have hall := visibleLine_lines _ h
    rw [texts, List.forall_mem_append] at h
    rw [hlines] at hall ⊢
    rw [code]
    exact loop_eq_printed [("PointerName", .text pointer.spell), ("IndexName", .text index),
      ("LengthVariableName", .text length)] rfl
      (fun contents => idiom_iterateThenDelete pointer.spell index length contents)
      (codeOf_eq_printed body h.2 hf.2) hf.1 (visibleLine_linesOf body h.2) hall
  | .delete pointer isArray, h, _ => by
    have hclosed := closed_intercalate (visibleLine_lines _ h) (lines_ne_nil _)
    rw [lines, String.intercalate_singleton] at hclosed
    rw [code, idiom_pointerDelete, hclosed, lines]

theorem codeOf_eq_printed : ∀ fs : List Fragment, (∀ s ∈ textsOf fs, IsSingle s) →
    AllLoopsFilled fs → codeOf Memory.group fs = .ok (printed (linesOf fs))
  | [], _, _ => rfl
  | f :: rest, h, hf => by
    rw [textsOf, List.forall_mem_append] at h
    rw [codeOf, code_eq_printed f h.1 hf.1, codeOf_eq_printed rest h.2 hf.2, linesOf, printed_append]
    rfl

end

/-- The code of fragments with the bundled idioms. -/
def bundledCode (fs : List Fragment) : Except RenderFault String := do
  codeOf (← SkeletonChoice.bundled.memoryGroup engine) fs

/-- Where the texts of fragments have no line feed and no loop is empty, the bundled idioms write the
lines of the fragments, each ended by one line feed and none of them blank. So the lines of fragments
that are written together are those of the fragments on their own. -/
theorem bundledCode_prints {fs : List Fragment} (hs : ∀ s ∈ textsOf fs, '\n' ∉ s.toList)
    (hf : AllLoopsFilled fs) :
    bundledCode fs = .ok (String.join ((linesOf fs).map (· ++ "\n"))) ∧
      (∀ line ∈ linesOf fs, '\n' ∉ line.toList ∧ isBlankText line = false) ∧
      ∀ gs, (∀ s ∈ textsOf gs, '\n' ∉ s.toList) → AllLoopsFilled gs → ∃ first second both,
        bundledCode fs = .ok first ∧ bundledCode gs = .ok second ∧
          bundledCode (fs ++ gs) = .ok both ∧
          codeLines both = codeLines first ++ codeLines second := by
  have hprints {fs : List Fragment} (hs : ∀ s ∈ textsOf fs, IsSingle s) (hf : AllLoopsFilled fs) :
      bundledCode fs = .ok (printed (linesOf fs)) := by
    rw [bundledCode, memoryGroup_bundled]
    exact codeOf_eq_printed fs hs hf
  have hvisible := visibleLine_linesOf fs hs
  refine ⟨hprints hs hf, fun line hline => ?_, fun gs hgs hgf => ?_⟩
  · exact ⟨(hvisible line hline).single, (hvisible line hline).not_blank⟩
  · have hall : ∀ s ∈ textsOf (fs ++ gs), IsSingle s := by
      rw [textsOf_append]
      exact List.forall_mem_append.mpr ⟨hs, hgs⟩
    refine ⟨_, _, _, hprints hs hf, hprints hgs hgf,
      hprints hall (allLoopsFilled_append.mpr ⟨hf, hgf⟩), ?_⟩
    rw [codeLines_printed hvisible, codeLines_printed (visibleLine_linesOf gs hgs),
      codeLines_printed (visibleLine_linesOf _ hall), linesOf_append]

/-- The copy of a static array of arrays, in which each element owns the arrays inside of it. -/
def tableCopy : List Fragment :=
  DataType.deepCopy (.named "table") (.named "other.table")
    { name := "int", pointers := [⟨false, true, "width"⟩, ⟨false, false, ""⟩],
      dimensions := [⟨8, "used"⟩] }

theorem bundledCode_prints_table :
    (∀ s ∈ textsOf tableCopy, '\n' ∉ s.toList) ∧ AllLoopsFilled tableCopy ∧
      bundledCode tableCopy = .ok
        ("for (unsigned int usedIdx = 0; usedIdx < used; ++usedIdx)\n\x7b\n" ++
          "    table[usedIdx] = new int*[width];\n" ++
          "    for (unsigned int widthIdx = 0; widthIdx < width; ++widthIdx)\n    \x7b\n" ++
          "        table[usedIdx][widthIdx] = new int;\n" ++
          "        (*table[usedIdx][widthIdx]) = (*other.table[usedIdx][widthIdx]);\n" ++
          "    \x7d\n\x7d\n") := by
  have hs : ∀ s ∈ textsOf tableCopy, '\n' ∉ s.toList := by decide +kernel
  have hf : AllLoopsFilled tableCopy := by
    simp [tableCopy, DataType.deepCopy, DataType.levels, Dimension.level, Pointer.level, copySteps,
      AllLoopsFilled, LoopsFilled]
  refine ⟨hs, hf, ?_⟩
  rw [(bundledCode_prints hs hf).1]
  decide +kernel

end Fragment

end ClassScaffold
