import TypeGraph.Proofs.Compatibility
import TypeGraph.Proofs.Substitution

set_option autoImplicit false

namespace TypeGraph.Arena

variable {arena : Arena} {a b id base : NodeId} {kinds : List Kind}

theorem Strips.width (straight : arena.Straight) (founded : arena.Founded)
    (strips : arena.Strips id kinds base) :
    arena.width id = if .pointer ∈ kinds then .ok pointerWidth else arena.width base := by
  induction strips with
  | bare found plain => rfl
  | @under id base node kinds found stands rest ih =>
    have valid := founded id node found stands
    obtain ⟨target, canonical, payload⟩ := node
    cases payload with
    | pointer =>
      have rests : arena.Rests id ⟨target, canonical, .pointer⟩ := ⟨found, nofun⟩
      rw [rests.width]
      exact (if_pos List.mem_cons_self).symm
    | array size =>
      have onward : arena.Leads Node.measured id target.node :=
        leads_of_mem found List.mem_cons_self valid
      rw [straight.width_of_leads onward, ih]
      simp [Node.kind, Payload.kind]
    | tagged sort body => cases sort <;> cases stands
    | _ => cases stands

/-- In every arena that is built, types that are compatible have the same width, be it a number or the
reason why there is none, and asking for it comes to an end. -/
theorem compatible_share_width (built : Built arena) (a b : NodeId)
    (compatible : arena.compatible a b = .ok true) :
    arena.width a = arena.width b ∧ (arena.width a).Ends := by
  obtain ⟨kinds, base, left, right, -⟩ := built.compatible_iff.mp compatible
  have straight := built.sound.toStraight
  refine ⟨?_, (straight.width_settles a).1⟩
  rw [left.width straight built.founded, right.width straight built.founded]

-- Arrays of arrays of a struct, which has no width yet, the inner ones of different sizes.
def structArrays : List Call :=
  [.newTagged .struct "S", .newArray (Handle.ofNode ⟨64⟩) none,
    .newArray ⟨⟨64⟩, Qualifiers.const⟩ (some (.borrowed (.integer 3))),
    .newArray (Handle.ofNode ⟨65⟩) none, .newArray (Handle.ofNode ⟨66⟩) none]

theorem compatible_share_width_structArrays :
    let arena := Arena.empty.run structArrays
    Built arena ∧ arena.compatible ⟨67⟩ ⟨68⟩ = .ok true ∧
      arena.width ⟨67⟩ = .error (.refused (.unsupported "width" .struct)) ∧
      arena.width ⟨68⟩ = .error (.refused (.unsupported "width" .struct)) := by
  have built := Built.empty.run structArrays (by cbv)
  have compatible : (Arena.empty.run structArrays).compatible ⟨67⟩ ⟨68⟩ = .ok true := by cbv
  have left : (Arena.empty.run structArrays).width ⟨67⟩ =
      .error (.refused (.unsupported "width" .struct)) := by cbv
  have shared := (compatible_share_width built ⟨67⟩ ⟨68⟩ compatible).1
  exact ⟨built, compatible, left, shared.symm.trans left⟩

end TypeGraph.Arena
