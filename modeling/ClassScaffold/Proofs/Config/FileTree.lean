import ClassScaffold.Config.FileTree
import Mathlib.Data.List.Infix

/-! A file that was written is found again under the path it was written to, with its text, and no
other file differs. -/
namespace ClassScaffold.FileTree

variable {t : FileTree} {path other : List String} {content : ByteArray}

/-- The path leads to a file or to a name that is still free. -/
def Writable (t : FileTree) (path : String) (steps : List String) : Prop :=
  t.locate path = .ok (.file steps) ∨ t.locate path = .ok (.free steps)

theorem lookup_put_self : (t.put path content).files.lookup path = some content := by
  simp [put]

theorem lookup_put_of_ne (h : other ≠ path) :
    (t.put path content).files.lookup other = t.files.lookup other := by
  have hb : (other == path) = false := beq_false_of_ne h
  rw [put, List.lookup_cons, hb]
  generalize t.files = files
  induction files with
  | nil => rfl
  | cons file files ih =>
    obtain ⟨p, bytes⟩ := file
    by_cases hp : p = path
    · subst hp
      simpa [List.lookup_cons, hb] using ih
    · by_cases ho : other = p
      · simp [hp, ho]
      · have hne : (other == p) = false := beq_false_of_ne ho
        simpa [hp, List.lookup_cons, hne] using ih

theorem isFile_put : (t.put path content).isFile path = true := by
  simp [isFile, put]

theorem isDirectory_eq_true_iff : t.isDirectory other = true ↔
    (∃ d ∈ t.workingDirectory :: t.directories, other.isPrefixOf d = true) ∨
      ∃ file ∈ t.files, other.length < file.1.length ∧ other.isPrefixOf file.1 = true := by
  simp only [isDirectory, Bool.or_eq_true, List.any_eq_true, Bool.and_eq_true, decide_eq_true_eq]

/-- A new file takes no directory away. -/
theorem isDirectory_put (h : t.isDirectory other = true) :
    (t.put path content).isDirectory other = true := by
  rw [isDirectory_eq_true_iff] at h ⊢
  refine h.imp_right fun ⟨⟨p, bytes⟩, hm, hp⟩ => ?_
  by_cases he : p = path
  · subst he
    exact ⟨(p, content), List.mem_cons_self, hp⟩
  · exact ⟨(p, bytes), List.mem_cons_of_mem _ (List.mem_filter.mpr ⟨hm, by simpa using he⟩), hp⟩

theorem isDirectory_put_self (h : t.isDirectory path = false) :
    (t.put path content).isDirectory path = false := by
  rw [← Bool.not_eq_true, isDirectory_eq_true_iff] at h ⊢
  rintro (hd | ⟨⟨p, bytes⟩, hm, hlt, hp⟩)
  · exact h (.inl hd)
  · rcases List.mem_cons.mp hm with he | hm
    · cases he
      exact absurd hlt (Nat.lt_irrefl _)
    · exact h (.inr ⟨(p, bytes), List.mem_of_mem_filter hm, hlt, hp⟩)

/-- A name of no directory leads to the file that was put there. -/
theorem follow_put_last {directory : List String} {step : String}
    (hstay : ¬ (step = "" ∨ step = ".")) (hup : step ≠ "..")
    (hshort : ¬ nameLimit < step.utf8ByteSize) (hd : ¬ t.isDirectory (directory ++ [step]) = true) :
    (t.put (directory ++ [step]) content).follow directory [step] =
      .ok (.file (directory ++ [step])) := by
  rw [follow, if_neg hstay, if_neg hup, if_neg hshort]
  simp only [isDirectory_put_self (Bool.eq_false_iff.mpr hd), isFile_put]
  rfl

/-- Where a path led to a file or to a free name, it leads to the file that was put there. -/
theorem follow_put {steps directory : List String}
    (h : t.follow directory steps = .ok (.file path) ∨ t.follow directory steps = .ok (.free path)) :
    (t.put path content).follow directory steps = .ok (.file path) := by
  fun_induction follow t directory steps with
  | case1 | case4 | case7 | case9 => simp at h
  | case2 directory step rest hstay ih => rw [follow, if_pos hstay, ih h]
  | case3 directory rest hstay ih => rw [follow, if_neg hstay, if_pos rfl, ih h]
  | case5 directory step rest hstay hup hshort below hd ih =>
    -- a directory above the file is one before and after
    rw [follow, if_neg hstay, if_neg hup, if_neg hshort]
    exact (if_pos (isDirectory_put hd)).trans (ih h)
  | case6 directory step rest hstay hup hshort below hd _ hlast
  | case8 directory step rest hstay hup hshort below hd _ hlast =>
    obtain rfl : below = path := by simpa using h
    rw [List.isEmpty_iff.mp hlast]
    exact follow_put_last hstay hup hshort hd

theorem fromUTF8?_toUTF8 (s : String) : String.fromUTF8? s.toUTF8 = some s := by
  rw [String.fromUTF8?, String.toUTF8_eq_toByteArray, dif_pos s.isValidUTF8]
  rfl

variable {name text : String}

theorem Writable.write (h : t.Writable name path) :
    t.write name text = .ok (t.put path text.toUTF8) := by
  rcases h with h | h <;> rw [FileTree.write, h]

theorem Writable.locate_put (h : t.Writable name path) :
    (t.put path content).locate name = .ok (.file path) := by
  rw [Writable, locate] at h
  rw [locate]
  split at h
  · simp at h
  · exact follow_put h

theorem Writable.read_put (h : t.Writable name path) :
    (t.put path text.toUTF8).read name = .ok text := by
  rw [read, h.locate_put]
  simp only [lookup_put_self, Option.bind_some, fromUTF8?_toUTF8]

/-- Where a path leads to neither a file nor a free name, nothing is written. -/
theorem exists_write_error (h : ∀ path, ¬ t.Writable name path) :
    ∃ fault, t.write name text = .error fault := by
  rw [FileTree.write]
  split
  · rename_i hl
    exact absurd (.inl hl) (h _)
  · rename_i hl
    exact absurd (.inr hl) (h _)
  · exact ⟨_, rfl⟩
  · exact ⟨_, rfl⟩

end ClassScaffold.FileTree
