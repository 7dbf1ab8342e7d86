import ClassScaffold.Fault
import ClassScaffold.Proofs.Resolution.Acceptance
import ClassScaffold.Proofs.Resolution.Paths
import ClassScaffold.Proofs.Skeleton.Texts
import ClassScaffold.Proofs.Source.ClassText

/-! Generating with the bundled skeletons fails where checking does, and nowhere else. -/
namespace ClassScaffold

theorem Config.skeletons_default (read : TextReader) (target : Target) :
    ({} : Config).skeletons read target = .ok target.bundledSkeletons := by
  cases target <;> rfl

theorem SkeletonSet.writer_bundled (target : Target) :
    target.bundledSkeletons.writer Skeleton.engine target =
      .ok (target.writerOf target.bundledSkeleton Skeleton.Memory.skeleton) := by
  have hclasses := Skeleton.classGroup_bundled target
  cases target with
  | cpp =>
    simp only [writer, Target.bundledSkeletons, Target.managesMemory, if_true, hclasses,
      Skeleton.memoryGroup_bundled]
    rfl
  | csharp | java =>
    simp only [writer, Target.bundledSkeletons, hclasses]
    rfl

/-- A writer that can write every class gives sources to every model. -/
theorem Model.sources_ok {engine : TemplateEngine} {skeletons : SkeletonSet}
    {writer : ClassWriter engine} {m : Model} (hw : skeletons.writer engine m.target = .ok writer)
    (hc : ∀ c, ∃ text, writer.write c = .ok text) :
    ∃ sources, m.sources engine skeletons = .ok sources := by
  obtain ⟨pairs, hp⟩ : ∃ pairs, m.classes.mapM (ModelClass.source writer) = .ok pairs := by
    refine exists_mapM_ok fun c _ => ?_
    obtain ⟨text, ht⟩ := hc c
    exact ⟨(c.id, text), by simp only [ModelClass.source, ht]⟩
  refine ⟨Sources.ofPairs pairs, ?_⟩
  exact bind_eq_ok_iff.mpr ⟨writer, hw, bind_eq_ok_iff.mpr ⟨pairs, hp, rfl⟩⟩

namespace Diagram

theorem generate_bundled_ok {d : Diagram} {m : Model} (ha : d.accept = .ok m) :
    ∃ sources, d.generate Skeleton.engine d.target.bundledSkeletons = .ok sources := by
  have hw : d.target.bundledSkeletons.writer Skeleton.engine m.target =
      .ok (d.target.writerOf d.target.bundledSkeleton Skeleton.Memory.skeleton) := by
    rw [target_of_accept ha, SkeletonSet.writer_bundled]
  obtain ⟨sources, hs⟩ := Model.sources_ok hw fun c =>
    d.target.write_writerOf_ok (Skeleton.suits_bundled d.target) Skeleton.suits_memory c
  exact ⟨sources, bind_eq_ok_iff.mpr ⟨m, mapError_eq_ok_iff.mpr ha, hs⟩⟩

/-- Without a configuration, generating succeeds exactly where checking does. Elsewhere it fails with
the same fault, which is never one of rendering. The bundled skeletons look up nothing that they are
not given: even if they failed whenever they did, every class of a checked diagram could be written. -/
theorem generateWith_agrees_check (read : TextReader) (d : Diagram) :
    ((∃ sources, d.generateWith Skeleton.engine read {} = .ok sources) ↔ ∃ m, d.check = .ok m) ∧
      (∀ fault, d.check = .error fault → d.generateWith Skeleton.engine read {} = .error fault) ∧
      (∀ fault, d.generateWith Skeleton.engine read {} = .error fault →
        fault.kind ≠ .render ∧ fault.kind ≠ .internal) ∧
      ∀ m, d.check = .ok m → ∀ c ∈ m.classes, ∃ text,
        (d.target.writerOf d.target.bundledSkeleton.strict Skeleton.Memory.skeleton.strict).write c =
          .ok text := by
  have hwrite (m : Model) (c : ModelClass) (_ : c ∈ m.classes) :=
    d.target.write_writerOf_ok (Skeleton.suits_strict_bundled d.target)
      Skeleton.suits_strict_memory c
  cases ha : d.accept with
  | error r =>
    have hc : d.check = .error (Fault.ofRejection r) := by simp only [check, ha, Except.mapError]
    have hg : d.generateWith Skeleton.engine read {} = .error (Fault.ofRejection r) := by
      simp only [generateWith, Config.skeletons_default, generate, ha, Except.mapError, bind,
        Except.bind]
      rfl
    refine ⟨by simp [hc, hg], fun fault hf => ?_, fun fault hf => ?_, fun m _ => hwrite m⟩
    · cases hc.symm.trans hf
      exact hg
    · cases hg.symm.trans hf
      cases r <;> exact ⟨nofun, nofun⟩
  | ok m =>
    have hc : d.check = .ok m := by simp only [check, ha, Except.mapError]
    obtain ⟨sources, hs⟩ : ∃ sources,
        m.sources Skeleton.engine d.target.bundledSkeletons = .ok sources := by
      refine Model.sources_ok (by rw [target_of_accept ha, SkeletonSet.writer_bundled]) fun c => ?_
      exact d.target.write_writerOf_ok (Skeleton.suits_bundled d.target) Skeleton.suits_memory c
    have hg : d.generateWith Skeleton.engine read {} = .ok sources := by
      simp only [generateWith, Config.skeletons_default, generate, ha, Except.mapError, bind,
        Except.bind, hs]
    refine ⟨by simp [hc, hg], fun fault hf => ?_, fun fault hf => ?_, fun m _ => hwrite m⟩
    · cases hc.symm.trans hf
    · cases hg.symm.trans hf

theorem generateWith_nested :
    (∃ m, nested.check = .ok m) ∧
      ∃ sources, nested.generateWith Skeleton.engine (fun _ => .error .notFound) {} = .ok sources := by
  have hok : nested.check.toBool = true := by decide +kernel
  have hc : ∃ m, nested.check = .ok m := exists_ok_of_toBool hok
  exact ⟨hc, (generateWith_agrees_check _ nested).1.mpr hc⟩

end Diagram

end ClassScaffold
