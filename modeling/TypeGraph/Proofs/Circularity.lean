import TypeGraph.Proofs.Unread

set_option autoImplicit false

namespace TypeGraph.Arena

open Relation Descent PrinterOver Printer

variable {part : Node → Node} {next : Node → List Handle} {arena other : Arena} {a b : NodeId}
  {target : Handle}

/-- Whether a type leads to a node that leads back to itself, by the handles that `next` takes. -/
def Circular (arena : Arena) (next : Node → List Handle) (target : Handle) : Prop :=
  target.isNull = false ∧ Winds (arena.Leads next) target.node

theorem Matches.leads (matched : Matches part arena other)
    (told : ∀ node, next (part node) = next node) (leads : arena.Leads next a b) :
    other.Leads next a b := by
  obtain ⟨node, found, link⟩ := leads
  rcases matched.lookup_cases a with ⟨refusal, here, there⟩ | ⟨node', other', here, there, same⟩
  · cases here.symm.trans found
  · cases here.symm.trans found
    refine ⟨other', there, ?_⟩
    rwa [← told other', ← same, told node]

theorem Matches.circular_iff (matched : Matches part arena other)
    (told : ∀ node, next (part node) = next node) (target : Handle) :
    arena.Circular next target ↔ other.Circular next target := by
  have same : arena.Leads next = other.Leads next := by
    funext a b
    exact propext ⟨matched.leads told, Matches.leads (Eq.symm matched) told⟩
  simp only [Circular, same]

theorem returns_iff {circular : Prop} {run : Nat → Printer} {result : Printer} {bound : Nat}
    (only : ∀ levels, StopsOnly (· = .outOfFuel) (run levels))
    (settles : ¬ circular → Settles Ends run bound result)
    (endless : circular → ∀ levels, Endless (run levels)) :
    (∃ levels sink, (run levels sink).stop = none) ↔ ¬ circular := by
  constructor
  · rintro ⟨levels, sink, done⟩ round
    cases done.symm.trans (endless round levels sink)
  · intro free
    obtain ⟨ends, same⟩ := settles free
    refine ⟨bound, Sink.plain, ?_⟩
    cases stopped : (run bound Sink.plain).stop with
    | none => rfl
    | some reason =>
      have spent := only bound Sink.plain reason stopped
      rw [same bound (Nat.le_refl _)] at stopped
      exact absurd spent (ends Sink.plain reason stopped)

theorem effective_settles_of_not_circular (free : ¬ arena.Circular Node.inlined target) :
    Settles Ends (fun levels => Printer.handle (arena.effectiveWithin levels) target)
      (arena.size + 1) (arena.writeEffective target) :=
  effective_settles_of_free fun valid winds => free ⟨valid, winds⟩

theorem shallow_settles_of_not_circular (indent : Nat)
    (free : ¬ arena.Circular Node.nested target) :
    Settles Ends (fun levels => dumpHandle (arena.dumpWithin levels .shallow indent) indent target)
      (arena.size + 1) (arena.writeDump target indent .shallow) :=
  shallow_settles_of_free indent fun valid winds => free ⟨valid, winds⟩

/-- The effective form of a type is written to its end exactly if the type does not lead to a cycle
along aliases, elements, results and arguments, and the shallow dump exactly if it does not lead to one
along elements, results and arguments. Then as many levels are enough as the arena has nodes, and one
more. Neither kind of cycle comes about by attaching members, nor the second by resolving an alias. -/
theorem collapsed_forms_end_iff (arena : Arena) (target : Handle) (indent : Nat) :
    ((∃ levels sink, (Printer.handle (arena.effectiveWithin levels) target sink).stop = none) ↔
      ¬ arena.Circular Node.inlined target) ∧
    ((∃ levels sink,
        (dumpHandle (arena.dumpWithin levels .shallow indent) indent target sink).stop = none) ↔
      ¬ arena.Circular Node.nested target) ∧
    (¬ arena.Circular Node.inlined target →
      Settles Ends (fun levels => Printer.handle (arena.effectiveWithin levels) target)
        (arena.size + 1) (arena.writeEffective target)) ∧
    (¬ arena.Circular Node.nested target →
      Settles Ends
        (fun levels => dumpHandle (arena.dumpWithin levels .shallow indent) indent target)
        (arena.size + 1) (arena.writeDump target indent .shallow)) ∧
    (∀ calls, calls.all Call.attaches = true →
      ((arena.run calls).Circular Node.inlined target ↔ arena.Circular Node.inlined target)) ∧
    ∀ calls, calls.all Call.completes = true →
      ((arena.run calls).Circular Node.nested target ↔ arena.Circular Node.nested target) := by
  have effective := returns_iff
    (fun levels => stopsOnly_handle fun _ => arena.stopsOnly_effective levels target.node)
    effective_settles_of_not_circular
    fun round levels => endless_handle round.1 (stopsOnly_effective levels _)
      (effective_endless_of_winds round.2 levels)
  have shallow := returns_iff
    (fun levels => stopsOnly_dumpHandle indent fun _ =>
      arena.stopsOnly_shallow levels indent target.node)
    (shallow_settles_of_not_circular indent)
    fun round levels => endless_dumpHandle indent round.1 (stopsOnly_shallow levels indent _)
      (shallow_endless_of_winds round.2 levels indent)
  refine ⟨effective, shallow, effective_settles_of_not_circular,
    shallow_settles_of_not_circular indent, fun calls attach => ?_, fun calls complete => ?_⟩
  · exact (bodiless_run arena calls attach).circular_iff Node.inlined_bodiless target
  · exact (unresolved_run arena calls complete).circular_iff Node.nested_unresolved target

-- An alias of a function that takes itself as its argument, and a struct that holds itself.
def callback : List Call :=
  [.newFunction Handle.null, .appendArgument ⟨64⟩ (Handle.ofNode ⟨64⟩),
    .newUser (.identifier none "Callback"), .resolve ⟨65⟩ (Handle.ofNode ⟨64⟩),
    .newTagged .struct "Node", .attachMembers ⟨66⟩ [.plain "inner" (Handle.ofNode ⟨66⟩)]]

theorem collapsed_forms_end_iff_callback :
    let arena := Arena.empty.run callback
    Built arena ∧
      (¬ ∃ levels sink,
        (Printer.handle (arena.effectiveWithin levels) (Handle.ofNode ⟨65⟩) sink).stop = none) ∧
      ¬ arena.Circular Node.nested (Handle.ofNode ⟨65⟩) ∧
      ¬ arena.Circular Node.inlined (Handle.ofNode ⟨66⟩) := by
  have built := Built.empty.run callback (by cbv)
  have named : (Arena.empty.run callback).lookup ⟨65⟩ = .ok ⟨Handle.ofNode ⟨64⟩, Handle.null,
      .user (some (.identifier none "Callback"))⟩ := by cbv
  have func : (Arena.empty.run callback).lookup ⟨64⟩ =
      .ok ⟨Handle.null, Handle.ofNode ⟨64⟩, .func [Handle.ofNode ⟨64⟩]⟩ := by cbv
  -- The way from the alias goes to the function and round on it.
  have first : (Arena.empty.run callback).Leads Node.inlined ⟨65⟩ ⟨64⟩ :=
    ⟨_, named, _, List.mem_cons_self, rfl, rfl⟩
  have around : (Arena.empty.run callback).Leads Node.inlined ⟨64⟩ ⟨64⟩ :=
    ⟨_, func, _, List.mem_cons_of_mem _ List.mem_cons_self, rfl, rfl⟩
  have round : (Arena.empty.run callback).Circular Node.inlined (Handle.ofNode ⟨65⟩) :=
    ⟨rfl, ⟨64⟩, .single first, .single around⟩
  have ofAlias := collapsed_forms_end_iff (Arena.empty.run callback) (Handle.ofNode ⟨65⟩) 0
  have ofStruct := collapsed_forms_end_iff (Arena.empty.run callback) (Handle.ofNode ⟨66⟩) 0
  refine ⟨built, fun ends => ofAlias.1.mp ends round, ofAlias.2.1.mp ⟨1, Sink.plain, ?_⟩,
    ofStruct.1.mp ⟨1, Sink.plain, ?_⟩⟩
  · cbv
  · cbv

end TypeGraph.Arena
