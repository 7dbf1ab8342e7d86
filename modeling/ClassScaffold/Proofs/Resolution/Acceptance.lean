import ClassScaffold.Proofs.Resolution.Lookup
import ClassScaffold.Resolution

namespace ClassScaffold

namespace Diagram

/-- What is resolved has distinct ids, references that hold, and a placement. -/
theorem resolve_eq_ok_iff {d : Diagram} {m : Model} :
    d.resolve = .ok m ↔ d.nodeIds.Nodup ∧ verdict d.registry.classViolations = .ok () ∧
      ∃ placement, Placement.ofRegistry d.registry = .ok placement ∧
        d.registry.toModel placement = m := by
  unfold resolve
  simp only [bind_eq_ok_iff, build_eq_ok_iff]
  constructor
  · rintro ⟨_, ⟨hn, rfl⟩, ⟨⟩, hv, placement, hp, hm⟩
    exact ⟨hn, hv, placement, hp, Except.ok.inj hm⟩
  · rintro ⟨hn, hv, placement, hp, rfl⟩
    exact ⟨_, ⟨hn, rfl⟩, (), hv, placement, hp, rfl⟩

theorem accept_eq_ok_iff {d : Diagram} {m : Model} :
    d.accept = .ok m ↔ d.validate = .ok () ∧ d.resolve = .ok m := by
  unfold accept
  rw [bind_eq_ok_iff]
  exact ⟨fun ⟨⟨⟩, hv, hr⟩ => ⟨hv, hr⟩, fun ⟨hv, hr⟩ => ⟨(), hv, hr⟩⟩

theorem target_of_accept {d : Diagram} {m : Model} (h : d.accept = .ok m) : m.target = d.target := by
  obtain ⟨_, hr⟩ := accept_eq_ok_iff.mp h
  obtain ⟨_, _, placement, _, rfl⟩ := resolve_eq_ok_iff.mp hr
  rfl

end Diagram

end ClassScaffold
