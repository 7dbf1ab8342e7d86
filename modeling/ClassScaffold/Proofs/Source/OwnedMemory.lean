import ClassScaffold.Proofs.Ownership.Assignment
import ClassScaffold.Proofs.Ownership.Printing
import ClassScaffold.Proofs.Resolution.ModelNames
import ClassScaffold.Proofs.Skeleton.Evaluation
import ClassScaffold.Proofs.Sources
import ClassScaffold.Proofs.Text.Names

namespace ClassScaffold

open Fragment Skeleton Text

/-- The bundled class skeleton, whose parts may be asked for. -/
def Skeleton.Cpp.group : Skeleton.Group Skeleton.engine :=
  .ofSkeleton Target.cpp.groupName Target.cpp.instances Cpp.skeleton

theorem SkeletonSet.writer_native :
    Target.cpp.bundledSkeletons.writer Skeleton.engine .cpp = .ok (.native Cpp.group Memory.group) :=
  SkeletonSet.writer_bundled .cpp

namespace Fragment

theorem single_spells : Spells IsSingle where
  deref h := by simp +decide [Place.spell, h]
  element h hi := by simp +decide [Place.spell, h, hi]
  index h := by simp +decide [loopIndex, h]
  starred := by
    intro base depth h
    refine isSingle_append.mpr ⟨h, fun hfeed => ?_⟩
    rw [String.toList_ofList] at hfeed
    exact absurd (List.eq_of_mem_replicate hfeed) (by decide)

theorem linesOf_flatMap {α : Type} (items : List α) (plan : α → List Fragment) :
    linesOf (items.flatMap plan) = items.flatMap fun item => linesOf (plan item) := by
  induction items with
  | nil => rfl
  | cons item rest ih => rw [List.flatMap_cons, List.flatMap_cons, linesOf_append, ih]

private theorem isEmpty_printed (lines : List String) : (printed lines).isEmpty = lines.isEmpty := by
  cases lines with
  | nil => rfl
  | cons line rest => simp [printed_cons]

/-- Code gives back its lines, and is empty for no fragments only. -/
theorem codeOf_lines {fs : List Fragment} (hs : ∀ s ∈ textsOf fs, IsSingle s)
    (hf : AllLoopsFilled fs) : ∃ text, codeOf Memory.group fs = .ok text ∧
      codeLines text = linesOf fs ∧ text.isEmpty = fs.isEmpty := by
  refine ⟨_, codeOf_eq_printed fs hs hf, codeLines_printed (visibleLine_linesOf fs hs), ?_⟩
  rw [isEmpty_printed, Bool.eq_iff_iff, List.isEmpty_iff, List.isEmpty_iff, linesOf_eq_nil_iff]

end Fragment

namespace ModelClass

/-- The head of the assignment operator, up to the check that nothing is assigned to itself. -/
def assignmentHead (c : ModelClass) : List String :=
  [c.name ++ "& operator=(const " ++ c.name ++ "& other)", "    \x7b", "        if (this == &other)",
    "        \x7b", "            return *this;", "        \x7d"]

/-- What a copy assigns and allocates, and the end of the operator. -/
def assignmentTail (c : ModelClass) : List String :=
  c.copyInitializers.map (fun name => "        " ++ name ++ " = other." ++ name ++ ";") ++
    (linesOf c.copyBody).map ("        " ++ ·) ++ ["        return *this;", "    \x7d"]

/-- The lines of the assignment operator around those that release. The first line is not indented. -/
def assignmentLines (c : ModelClass) : List String :=
  c.assignmentHead ++ (linesOf c.releaseBody).map ("        " ++ ·) ++ c.assignmentTail

/-- What the operator is given. -/
def assignmentAttributes (c : ModelClass) : List (String × Json) :=
  [("ClassName", .text c.name), ("ReleaseBodyCode", .texts (linesOf c.releaseBody)),
    ("Properties", .texts c.copyInitializers),
    ("DynamicAllocationBodyCode", .texts (linesOf c.copyBody))]

private theorem render_copyAssignOperator (c : ModelClass) :
    (Instance.bindAll ⟨Cpp.group, "copyAssignOperator", []⟩ c.assignmentAttributes).render =
      .ok ("\n".intercalate c.assignmentLines) := by
  refine Instance.render_eq Cpp.copyAssignOperator rfl rfl rfl fun depth => ?_
  have hpieces : List.Forall₂ (fun piece text =>
      renderPiece (Cpp.group.templates.skeleton.calls (.record c.assignmentAttributes) (depth + 2))
        (.ofAttributes c.assignmentAttributes) piece = some text) Cpp.copyAssignOperator.body
      [c.name, "& operator=(const ", c.name, "& other)\n    \x7b\n        if (this == &other)\n" ++
          "        \x7b\n            return *this;\n        \x7d",
        below ((linesOf c.releaseBody).map ("        " ++ ·)),
        String.join (c.copyInitializers.map fun name =>
          "\n        " ++ (name ++ (" = other." ++ (name ++ ";")))),
        below ((linesOf c.copyBody).map ("        " ++ ·)), "\n        return *this;\n    \x7d"] :=
    .cons rfl (.cons rfl (.cons rfl (.cons rfl (.cons (renderPiece_bodyLines rfl)
      (.cons (renderPiece_loop rfl fun _ _ _ _ => rfl) (.cons (renderPiece_bodyLines rfl)
        (.cons rfl .nil)))))))
  rw [renderPieces_eq hpieces, assignmentLines, assignmentHead, assignmentTail]
  refine congrArg some (String.toList_inj.mp ?_)
  simp [intercalate_cons, below, List.flatMap_map]

/-- The text of the operator, where one is asked for. -/
def assignmentText (c : ModelClass) : String :=
  if c.copyAssignment then "\n".intercalate c.assignmentLines else ""

/-- The declared constructors, then the copy that no constructor declares. -/
def nativeConstructorTexts (c : ModelClass) : List ConstructorText :=
  c.constructorTexts .cpp ++
    if c.copyConstructor then
      [{ isCopy := true, parameters := [], initializers := c.copyInitializers.map Initializer.copied,
         body := linesOf c.copyBody }]
    else []

theorem releaseBody_eq_nil_iff {c : ModelClass} :
    c.releaseBody = [] ↔ ∀ f ∈ c.releasedFields, f.type.pointers = [] := by
  rw [releaseBody_eq, List.flatMap_eq_nil_iff]
  refine forall₂_congr fun f _ => ?_
  rw [Field.release, DataType.release, releaseSteps_eq_nil_iff, DataType.countP_isPointer_levels,
    List.length_eq_zero_iff]

/-- There is something to release exactly if the destructor lists a field with a pointer. -/
theorem releaseBody_ne_nil_iff {c : ModelClass} :
    c.releaseBody ≠ [] ↔ ∃ destructor, c.destructor = some destructor ∧
      ∃ f ∈ c.select destructor.fields, f.type.pointers ≠ [] := by
  simp only [ne_eq, releaseBody_eq_nil_iff, releasedFields, List.mem_flatMap, Option.mem_toList,
    not_forall, exists_prop]
  constructor
  · rintro ⟨f, ⟨destructor, hd, hf⟩, hp⟩
    exact ⟨destructor, hd, f, hf, hp⟩
  · rintro ⟨destructor, hd, f, hf, hp⟩
    exact ⟨f, ⟨destructor, hd, hf⟩, hp⟩

section Native
variable {c : ModelClass} (hc : c.Legal .cpp)
  (hl : ∀ f ∈ c.fields, ∀ length ∈ f.type.lengthFields, IsName length)
include hc hl

private theorem spelled_single : ∀ f ∈ c.fields, f.Spelled IsSingle := by
  intro f hf
  have hname := (hc.fields f hf).name.single
  exact {
    place := hname
    otherPlace := isSingle_append.mpr ⟨by decide, hname⟩
    type := Target.single_typeName (hc.fields f hf).type
    lengths := fun length hm => (hl f hf length hm).single }

theorem single_linesOf_copyBody : ∀ line ∈ linesOf c.copyBody, IsSingle line :=
  fun line hline => (visibleLine_linesOf _
    (single_spells.textsOf_copyBody (spelled_single hc hl)) line hline).single

theorem single_linesOf_releaseBody : ∀ line ∈ linesOf c.releaseBody, IsSingle line :=
  fun line hline => (visibleLine_linesOf _
    (single_spells.textsOf_releaseBody (spelled_single hc hl)) line hline).single

theorem codeOf_copyBody : ∃ text, codeOf Memory.group c.copyBody = .ok text ∧
    codeLines text = linesOf c.copyBody := by
  have hfilled : AllLoopsFilled c.copyBody :=
    allLoopsFilled_flatMap fun f _ => allLoopsFilled_copySteps _ _ _ _
  obtain ⟨text, ht, hlines, _⟩ :=
    codeOf_lines (single_spells.textsOf_copyBody (spelled_single hc hl)) hfilled
  exact ⟨text, ht, hlines⟩

theorem codeOf_releaseBody : ∃ text, codeOf Memory.group c.releaseBody = .ok text ∧
    codeLines text = linesOf c.releaseBody ∧ text.isEmpty = c.releaseBody.isEmpty := by
  have hfilled : AllLoopsFilled c.releaseBody := by
    rw [releaseBody_eq]
    exact allLoopsFilled_flatMap fun f _ =>
      allLoopsFilled_releaseSteps _ _ f.type.dimensionsFirst_levels
  exact codeOf_lines (single_spells.textsOf_releaseBody (spelled_single hc hl)) hfilled

/-- What a class is told about its memory: whether there is something to release decides on the
destructor, and its lines are those in the assignment operator. -/
theorem ownershipAttributes_eq : c.ownershipAttributes Cpp.group Memory.group =
    .ok [constructorAttribute c.nativeConstructorTexts,
      ("HasDestructor", .bool !c.releaseBody.isEmpty),
      ("DestructorContents", .texts (linesOf c.releaseBody)),
      ("CopyAssignOperator", .text c.assignmentText)] := by
  obtain ⟨release, hr, hrlines, hrempty⟩ := codeOf_releaseBody hc hl
  obtain ⟨copy, hb, hblines⟩ := codeOf_copyBody hc hl
  have hconstructors : c.nativeConstructors Memory.group = .ok c.nativeConstructorTexts := by
    unfold nativeConstructors nativeConstructorTexts
    cases c.copyConstructor with
    | false => simp [pure, Except.pure]
    | true => simp [hb, implicitCopy, hblines, bind, Except.bind, pure, Except.pure]
  have hassignment : c.copyAssignOperator Cpp.group Memory.group release = .ok c.assignmentText := by
    unfold copyAssignOperator assignmentText
    cases c.copyAssignment with
    | false => rfl
    | true =>
      have hrender := render_copyAssignOperator c
      have hstart : Cpp.group.start "copyAssignOperator" =
          .ok ⟨Cpp.group, "copyAssignOperator", []⟩ := rfl
      simpa [hstart, hb, hrlines, hblines, assignmentAttributes, bind, Except.bind] using hrender
  have hdestructor : (c.destructor.isSome && !release.isEmpty) = !c.releaseBody.isEmpty := by
    rw [hrempty]
    cases hd : c.destructor with
    | none => simp [releaseBody, hd]
    | some d => rfl
  simp only [ownershipAttributes, hr, hconstructors, hassignment, hdestructor, hrlines, bind,
    Except.bind, pure, Except.pure]

end Native

end ModelClass

namespace Diagram

/-- The classes of an accepted diagram have legal names, and so have the lengths of their arrays. -/
theorem legal_class {d : Diagram} {m : Model} (h : d.accept = .ok m) {c : ModelClass}
    (hc : c ∈ m.classes) :
    c.Legal d.target ∧ ∀ f ∈ c.fields, ∀ length ∈ f.type.lengthFields, IsName length := by
  obtain ⟨hvalid, hresolve⟩ := accept_eq_ok_iff.mp h
  have hd := validate_eq_ok_iff.mp hvalid
  obtain ⟨hn, _, all, hw, rfl⟩ := walked_of_resolve hresolve
  obtain ⟨node, hnode, rfl⟩ := List.mem_map.mp hc
  exact ⟨legal_toModel hd hn hw hnode, fun f hf length hl => isName_lengthField hd hn hnode hf hl⟩

/-- Of an accepted diagram, a class that is no interface has a destructor written exactly if its
destructor lists a field with a pointer. It contains the lines that release the listed fields, in the
order of the list, and the assignment operator has the same lines where it releases. -/
theorem ownershipAttributes_of_check {d : Diagram} {m : Model} (h : d.check = .ok m)
    (ht : d.target = .cpp) :
    d.target.bundledSkeletons.writer Skeleton.engine m.target = .ok (.native Cpp.group Memory.group) ∧
      ∀ c ∈ m.classes, c.isInterface = false →
        ∃ constructors hasDestructor contents assignment,
          c.ownershipAttributes Cpp.group Memory.group =
              .ok [ModelClass.constructorAttribute constructors, ("HasDestructor", .bool hasDestructor),
                ("DestructorContents", .texts contents), ("CopyAssignOperator", .text assignment)] ∧
            (hasDestructor = true ↔ ∃ destructor, c.destructor = some destructor ∧
              ∃ f ∈ c.select destructor.fields, f.type.pointers ≠ []) ∧
            contents = c.releasedFields.flatMap (fun f => linesOf f.release) ∧
            assignment = if c.copyAssignment then
              "\n".intercalate (c.assignmentHead ++ contents.map ("        " ++ ·) ++
                c.assignmentTail) else "" := by
  have ha : d.accept = .ok m := mapError_eq_ok_iff.mp h
  refine ⟨by rw [target_of_accept ha, ht, SkeletonSet.writer_native], fun c hc _ => ?_⟩
  obtain ⟨hlegal, hlengths⟩ := legal_class ha hc
  rw [ht] at hlegal
  refine ⟨_, _, _, _, ModelClass.ownershipAttributes_eq hlegal hlengths, ?_, ?_, rfl⟩
  · rw [← ModelClass.releaseBody_ne_nil_iff, Bool.not_eq_true', ← Bool.not_eq_true, List.isEmpty_iff]
  · rw [ModelClass.releaseBody_eq, linesOf_flatMap]

/-- A class that owns rows of cells, and one that holds a static array and owns nothing. Both list what
they hold in their destructors. -/
def boards : Diagram where
  target := .cpp
  classes := [
    { id := "b", body :=
      { name := "Board", copyAssignment := true, destructor := some ⟨["n", "r"]⟩,
        properties := [{ id := "n", name := "number", type := .named "int" },
          { id := "r", name := "rows", type :=
            { name := "Cell", pointers := [⟨false, true, "height"⟩, ⟨false, true, "width"⟩] } }] } },
    { id := "p", body :=
      { name := "Palette", destructor := some ⟨["c"]⟩,
        properties := [
          { id := "c", name := "colors", type := { name := "int", dimensions := [⟨8, "used"⟩] } }] } }]

def boardClass : ModelClass :=
  boards.classes[0].toModel boards.registry ⟨[], [], []⟩

def paletteClass : ModelClass :=
  boards.classes[1].toModel boards.registry ⟨[], [], []⟩

theorem ownershipAttributes_of_check_boards :
    boards.check = .ok { target := .cpp, classes := [boardClass, paletteClass], packages := [] } ∧
      (∃ constructors assignment, boardClass.ownershipAttributes Cpp.group Memory.group =
        .ok [ModelClass.constructorAttribute constructors, ("HasDestructor", .bool true),
          ("DestructorContents", .texts
            ["for (unsigned int heightIdx = 0; heightIdx < height; ++heightIdx)", "\x7b",
              "    delete[] rows[heightIdx];", "\x7d", "delete[] rows;"]),
          ("CopyAssignOperator", .text assignment)]) ∧
      ∃ constructors, paletteClass.ownershipAttributes Cpp.group Memory.group =
        .ok [ModelClass.constructorAttribute constructors, ("HasDestructor", .bool false),
          ("DestructorContents", .texts []), ("CopyAssignOperator", .text "")] := by
  have hok : boards.check =
      .ok { target := .cpp, classes := [boardClass, paletteClass], packages := [] } := by
    cbv
  obtain ⟨_, hall⟩ := ownershipAttributes_of_check hok rfl
  have hboard := hall boardClass List.mem_cons_self rfl
  have hpalette := hall paletteClass (List.mem_cons_of_mem _ List.mem_cons_self) rfl
  refine ⟨hok, ?_, ?_⟩
  · obtain ⟨constructors, destructor, contents, assignment, heq, hiff, hcontents, -⟩ := hboard
    have hlines : boardClass.releasedFields.flatMap (fun f => linesOf f.release) =
        ["for (unsigned int heightIdx = 0; heightIdx < height; ++heightIdx)", "\x7b",
          "    delete[] rows[heightIdx];", "\x7d", "delete[] rows;"] := by
      decide +kernel
    have hdestructor : boardClass.destructor = some ⟨[0, 1]⟩ := by decide +kernel
    have htrue : destructor = true := hiff.mpr ⟨_, hdestructor, by decide +kernel⟩
    rw [hlines] at hcontents
    subst hcontents htrue
    exact ⟨constructors, assignment, heq⟩
  · obtain ⟨constructors, destructor, contents, assignment, heq, hiff, hcontents, hassignment⟩ :=
      hpalette
    have hlines : paletteClass.releasedFields.flatMap (fun f => linesOf f.release) = [] := by
      decide +kernel
    have hdestructor : paletteClass.destructor = some ⟨[0]⟩ := by decide +kernel
    have hplain : ∀ f ∈ paletteClass.select [0], f.type.pointers = [] := by decide +kernel
    have hfalse : destructor = false := by
      refine Bool.eq_false_iff.mpr fun hwritten => ?_
      obtain ⟨listed, hd, f, hf, hp⟩ := hiff.mp hwritten
      cases hdestructor.symm.trans hd
      exact hp (hplain f hf)
    rw [hlines] at hcontents
    subst hcontents hfalse hassignment
    exact ⟨constructors, heq⟩

end Diagram

end ClassScaffold
