import ClassScaffold.Proofs.Basic
import ClassScaffold.Text.Lines
import Mathlib.Data.List.DropRight

/-! Lines of code that are printed one below the other. Where every line ends in something visible,
cutting the text gives the lines back, and they can be indented and closed one by one. -/
namespace ClassScaffold.Text

/-- The lines one below the other, each ended by a line feed. -/
def printed (lines : List String) : String :=
  String.join (lines.map (· ++ "\n"))

/-- The lines below another one, each after a line feed. -/
def below (lines : List String) : String :=
  String.join (lines.map ("\n" ++ ·))

/-- Text without a line feed. -/
def IsSingle (line : String) : Prop :=
  '\n' ∉ line.toList

/-- Text cut at its line feeds, and nowhere else. -/
def cutLines (s : String) : List String :=
  (s.toList.splitOn '\n').map String.ofList

instance (line : String) : Decidable (IsSingle line) :=
  inferInstanceAs (Decidable ('\n' ∉ line.toList))

/-- A line that ends in a visible character, so that nothing is cut off from its end. -/
structure VisibleLine (line : String) : Prop where
  single : IsSingle line
  visible : ∃ c, line.toList.getLast? = some c ∧ isBlank c = false

section Line
variable {line : String}

@[simp] theorem isSingle_append {s t : String} : IsSingle (s ++ t) ↔ IsSingle s ∧ IsSingle t := by
  rw [IsSingle, String.toList_append, List.mem_append, not_or]
  rfl

theorem isSingle_of_forall {p : Char → Bool} (hp : p '\n' = false)
    (h : ∀ c ∈ line.toList, p c = true) : IsSingle line :=
  fun hfeed => absurd (h _ hfeed) (by simp [hp])

theorem IsSingle.join {lines : List String} (h : ∀ line ∈ lines, IsSingle line) :
    IsSingle (String.join lines) := by
  intro hfeed
  rw [String.toList_join] at hfeed
  obtain ⟨line, hline, hfeed⟩ := List.mem_flatMap.mp hfeed
  exact h line hline hfeed

theorem IsSingle.intercalate {separator : String} {words : List String} (hs : IsSingle separator)
    (h : ∀ word ∈ words, IsSingle word) : IsSingle (separator.intercalate words) := by
  intro hfeed
  rw [String.toList_intercalate] at hfeed
  rcases mem_of_mem_intercalate hfeed with hfeed | ⟨_, hmem, hfeed⟩
  · exact hs hfeed
  · obtain ⟨word, hword, rfl⟩ := List.mem_map.mp hmem
    exact h word hword hfeed

theorem VisibleLine.ne_empty (h : VisibleLine line) : line ≠ "" := by
  rintro rfl
  obtain ⟨_, hc, _⟩ := h.visible
  cases hc

theorem VisibleLine.not_blank (h : VisibleLine line) : isBlankText line = false := by
  obtain ⟨c, hc, hvisible⟩ := h.visible
  rw [isBlankText, List.all_eq_false]
  exact ⟨c, List.mem_of_getLast? hc, by simp [hvisible]⟩

theorem VisibleLine.behind {start : String} (hs : IsSingle start) (h : VisibleLine line) :
    VisibleLine (start ++ line) := by
  obtain ⟨c, hc, hvisible⟩ := h.visible
  refine ⟨isSingle_append.mpr ⟨hs, h.single⟩, c, ?_, hvisible⟩
  rw [String.toList_append, List.getLast?_append, hc]
  rfl

theorem VisibleLine.indentedLine (h : VisibleLine line) :
    Text.indentedLine line = "    " ++ line := by
  have hempty : line.isEmpty = false := by simpa using h.ne_empty
  rw [Text.indentedLine, hempty]
  rfl

end Line

section Lines
variable {lines : List String}

theorem printed_cons (line : String) (lines : List String) :
    printed (line :: lines) = line ++ "\n" ++ printed lines := by
  rw [printed, List.map_cons, String.join_cons, printed]

theorem printed_append (lines others : List String) :
    printed (lines ++ others) = printed lines ++ printed others := by
  rw [printed, List.map_append, String.join_append, printed, printed]

@[simp] theorem below_nil : below [] = "" :=
  rfl

@[simp] theorem below_cons (line : String) (lines : List String) :
    below (line :: lines) = "\n" ++ (line ++ below lines) := by
  rw [below, List.map_cons, String.join_cons, String.append_assoc, below]

@[simp] theorem below_append (lines others : List String) :
    below (lines ++ others) = below lines ++ below others := by
  rw [below, List.map_append, String.join_append, below, below]

theorem below_flatMap {α : Type} (items : List α) (lines : α → List String) :
    below (items.flatMap lines) = String.join (items.map fun item => below (lines item)) := by
  induction items with
  | nil => rfl
  | cons item rest ih => rw [List.flatMap_cons, below_append, List.map_cons, String.join_cons, ih]

theorem intercalate_cons (line : String) (lines : List String) :
    "\n".intercalate (line :: lines) = line ++ below lines := by
  induction lines generalizing line with
  | nil => rw [String.intercalate_singleton, below_nil, String.append_empty]
  | cons next rest ih =>
    rw [String.intercalate_cons_cons, ih, below_cons, String.append_assoc]

/-- The last line has no line feed of its own behind it. -/
theorem intercalate_append_feed (line : String) (lines : List String) :
    "\n".intercalate (line :: lines) ++ "\n" = printed (line :: lines) := by
  induction lines generalizing line with
  | nil => rw [String.intercalate_singleton, printed_cons, printed, List.map_nil]; simp
  | cons next rest ih =>
    rw [String.intercalate_cons_cons, String.append_assoc, ih, ← printed_cons]

/-- Lines that are put together already may be put together with others. -/
theorem intercalate_nested (before after : List String) (hne : lines ≠ []) :
    "\n".intercalate (before ++ ["\n".intercalate lines] ++ after) =
      "\n".intercalate (before ++ lines ++ after) := by
  have hfirst : "\n".intercalate (["\n".intercalate lines] ++ after) =
      "\n".intercalate (lines ++ after) := by
    cases after with
    | nil => rw [List.append_nil, List.append_nil, String.intercalate_singleton]
    | cons line rest =>
      rw [String.intercalate_append_of_ne_nil (List.cons_ne_nil _ _) (List.cons_ne_nil _ _),
        String.intercalate_append_of_ne_nil hne (List.cons_ne_nil _ _),
        String.intercalate_singleton]
  cases before with
  | nil => exact hfirst
  | cons line rest =>
    have hrest : lines ++ after ≠ [] := List.append_ne_nil_of_left_ne_nil hne after
    have hnested : ["\n".intercalate lines] ++ after ≠ [] := List.cons_ne_nil _ _
    rw [List.append_assoc, List.append_assoc,
      String.intercalate_append_of_ne_nil (List.cons_ne_nil line rest) hnested, hfirst,
      String.intercalate_append_of_ne_nil (List.cons_ne_nil line rest) hrest]

/-- Lines that are put together are cut apart again. -/
theorem cutLines_intercalate (h : ∀ line ∈ lines, IsSingle line) (hne : lines ≠ []) :
    cutLines ("\n".intercalate lines) = lines := by
  have hsplit : (['\n'].intercalate (lines.map String.toList)).splitOn '\n' =
      lines.map String.toList :=
    List.splitOn_intercalate '\n' (List.forall_mem_map.mpr h) (by simpa using hne)
  have hfeed : "\n".toList = ['\n'] := rfl
  rw [cutLines, String.toList_intercalate, hfeed, hsplit, List.map_map]
  exact (List.map_congr_left fun line _ => String.ofList_toList).trans (List.map_id lines)

private theorem splitLinesFrom_append {line cs : List Char} (rest : List Char) (h : '\n' ∉ cs) :
    splitLinesFrom line (cs ++ rest) = splitLinesFrom (cs.reverse ++ line) rest := by
  induction cs generalizing line with
  | nil => rfl
  | cons c cs ih =>
    obtain ⟨hc, hcs⟩ := not_or.mp (mt List.mem_cons.mpr h)
    rw [List.cons_append, splitLinesFrom.eq_def]
    simp only [if_neg (Ne.symm hc), ih hcs, List.reverse_cons, List.append_assoc,
      List.singleton_append]

/-- A visible line is cut off as it is: there is no carriage return at its end. -/
private theorem splitLines_append {line : String} (h : VisibleLine line) (rest : String) :
    splitLines (line ++ "\n" ++ rest) = line :: splitLines rest := by
  obtain ⟨c, hc, hvisible⟩ := h.visible
  have hreturn (before : List Char) : line.toList.reverse ≠ '\r' :: before := by
    intro heq
    rw [← List.head?_reverse, heq] at hc
    cases hc
    exact absurd hvisible (by decide)
  have hfeed : (line ++ "\n" ++ rest).toList = line.toList ++ '\n' :: rest.toList := by
    rw [String.toList_append, String.toList_append, List.append_assoc]
    rfl
  rw [splitLines, hfeed, splitLinesFrom_append _ h.single, List.append_nil, splitLinesFrom,
    if_pos rfl, List.reverse_reverse, String.ofList_toList, splitLines]
  exact hreturn

private theorem isSingle_splitLinesFrom {line cs : List Char} (hline : '\n' ∉ line) :
    ∀ s ∈ splitLinesFrom line cs, IsSingle s := by
  have hsingle {cs : List Char} (h : '\n' ∉ cs) : IsSingle (String.ofList cs.reverse) := by
    rwa [IsSingle, String.toList_ofList, List.mem_reverse]
  induction cs generalizing line with
  | nil =>
    rw [splitLinesFrom]
    split
    · exact List.forall_mem_nil _
    · exact List.forall_mem_singleton.mpr (hsingle hline)
  | cons c rest ih =>
    unfold splitLinesFrom
    split
    · refine List.forall_mem_cons.mpr ⟨?_, ih List.not_mem_nil⟩
      split
      · exact hsingle fun hfeed => hline (List.mem_cons_of_mem _ hfeed)
      · exact hsingle hline
    · rename_i hc
      exact ih fun hfeed => (List.mem_cons.mp hfeed).elim (fun h => hc h.symm) hline

/-- Whatever the code, there is no line feed inside one of its lines. -/
theorem isSingle_codeLines (s : String) : ∀ line ∈ codeLines s, IsSingle line := by
  intro line hline
  have hsplit : line ∈ splitLines s :=
    List.mem_reverse.mp ((List.dropWhile_sublist _).subset (List.mem_reverse.mp hline))
  exact isSingle_splitLinesFrom List.not_mem_nil line hsplit

section Printed
variable (h : ∀ line ∈ lines, VisibleLine line)
include h

theorem splitLines_printed : splitLines (printed lines) = lines := by
  induction lines with
  | nil => rfl
  | cons line rest ih =>
    obtain ⟨hline, hrest⟩ := List.forall_mem_cons.mp h
    rw [printed_cons, splitLines_append hline, ih hrest]

theorem codeLines_printed : codeLines (printed lines) = lines := by
  rw [codeLines, splitLines_printed h]
  refine List.rdropWhile_eq_self_iff.mpr fun hne => ?_
  rw [(h _ (List.getLast_mem hne)).not_blank]
  exact Bool.false_ne_true

theorem indented_printed :
    indented (printed lines) = "\n".intercalate (lines.map ("    " ++ ·)) := by
  rw [indented, splitLines_printed h]
  exact congrArg _ (List.map_congr_left fun line hline => (h line hline).indentedLine)

private theorem getLast?_intercalate (hne : lines ≠ []) :
    ∃ c, ("\n".intercalate lines).toList.getLast? = some c ∧ isBlank c = false := by
  induction lines with
  | nil => exact absurd rfl hne
  | cons line rest ih =>
    obtain ⟨hline, hrest⟩ := List.forall_mem_cons.mp h
    cases rest with
    | nil =>
      rw [String.intercalate_singleton]
      exact hline.visible
    | cons next rest =>
      obtain ⟨c, hc, hvisible⟩ := ih hrest (List.cons_ne_nil _ _)
      refine ⟨c, ?_, hvisible⟩
      rw [String.intercalate_cons_cons, String.toList_append, List.getLast?_append, hc]
      rfl

/-- Lines that are put together are closed by one more line feed. -/
theorem closed_intercalate (hne : lines ≠ []) : closed ("\n".intercalate lines) = printed lines := by
  obtain ⟨line, rest, rfl⟩ := List.exists_cons_of_ne_nil hne
  obtain ⟨c, hc, hvisible⟩ := getLast?_intercalate h hne
  have hkept : dropEndWhile (· == '\n') ("\n".intercalate (line :: rest)).toList =
      ("\n".intercalate (line :: rest)).toList := by
    refine List.rdropWhile_eq_self_iff.mpr fun hl => ?_
    rw [List.getLast?_eq_some_getLast hl, Option.some.injEq] at hc
    rw [hc, beq_iff_eq]
    rintro rfl
    exact absurd hvisible (by decide)
  rw [closed, hkept, ← intercalate_append_feed]
  split
  · rename_i hnil
    rw [hnil] at hc
    cases hc
  · rw [String.ofList_toList]

end Printed

end Lines

end ClassScaffold.Text
