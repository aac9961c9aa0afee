import TypeGraph.Proofs.Links

set_option autoImplicit false

namespace TypeGraph.Arena

open Relation Descent

variable {arena before after : Arena} {call : Call} {id other a b : NodeId} {node old new : Node}
  {handle : Handle} {next : Node → List Handle}

/-- Whether one node refers to another by one of the handles that `next` takes from it. -/
def Leads (arena : Arena) (next : Node → List Handle) (a b : NodeId) : Prop :=
  ∃ node, arena.lookup a = .ok node ∧ ∃ handle ∈ next node, handle.isNull = false ∧ handle.node = b

structure Straight (arena : Arena) : Prop where
  acyclic : Acyclic (arena.Leads Node.spine)

structure Upright (arena : Arena) : Prop extends Straight arena where
  closed : ∀ id node, arena.lookup id = .ok node →
    ∀ handle ∈ node.spine, arena.resolves handle = true

structure Sound (arena : Arena) : Prop extends Straight arena where
  closed : ∀ id node, arena.lookup id = .ok node →
    ∀ handle ∈ node.handles, arena.resolves handle = true

theorem Leads.eq_target (leads : arena.Leads Node.spine a b) (found : arena.lookup a = .ok node) :
    node.spine = [node.target] ∧ node.target.isNull = false ∧ node.target.node = b := by
  obtain ⟨met, found', handle, member, valid, same⟩ := leads
  obtain rfl : met = node := Except.ok.inj (found'.symm.trans found)
  obtain rfl := Node.eq_target_of_mem_spine member
  refine ⟨?_, valid, same⟩
  rw [Node.spine_eq_ite] at member ⊢
  split at member
  · rw [if_pos ‹_›]
  · cases member

theorem mem_ids_of_mem (bare : ∀ builtin, next (Node.ofBuiltin builtin) = [])
    (found : arena.lookup id = .ok node) (member : handle ∈ next node) : id ∈ arena.ids := by
  rcases lookup_eq_ok_iff.mp found with ⟨builtin, -, rfl⟩ | owned
  · rw [bare] at member
    cases member
  · exact mem_ids owned

theorem Leads.mem_ids (bare : ∀ builtin, next (Node.ofBuiltin builtin) = [])
    (leads : arena.Leads next a b) : a ∈ arena.ids := by
  obtain ⟨node, found, handle, member, -⟩ := leads
  exact mem_ids_of_mem bare found member

theorem leads_of_mem (found : arena.lookup id = .ok node) (member : handle ∈ next node)
    (valid : handle.isNull = false) : arena.Leads next id handle.node :=
  ⟨node, found, handle, member, valid, rfl⟩

theorem Upright.contains_of_leads (upright : arena.Upright) (leads : arena.Leads Node.spine a b) :
    arena.contains b = true := by
  obtain ⟨node, found, handle, member, valid, rfl⟩ := leads
  simpa [resolves, valid] using upright.closed a node found handle member

theorem reachesWithin_of_lookup (levels : Nat) (valid : handle.isNull = false)
    (different : handle.node ≠ id) (found : arena.lookup handle.node = .ok node) :
    arena.reachesWithin id (levels + 1) handle =
      if node.spine = [] then .ok false else arena.reachesWithin id levels node.target := by
  simp only [reachesWithin, valid, different, found, Bool.false_eq_true, if_false]
  rcases node with ⟨target, canonical, payload⟩
  cases payload with
  | tagged sort body => cases sort <;> rfl
  | _ => rfl

/-- Whether the way from a type along aliases, pointers and arrays meets neither a certain id nor one
that names no node. -/
def Clear (arena : Arena) (handle : Handle) (id : NodeId) : Prop :=
  handle.isNull = false → ∀ met, ReflTransGen (arena.Leads Node.spine) handle.node met →
    met ≠ id ∧ arena.contains met = true

theorem clear_of_reachesWithin (levels : Nat) (handle : Handle)
    (apart : arena.reachesWithin id levels handle = .ok false) : arena.Clear handle id := by
  induction levels generalizing handle with
  | zero => cases apart
  | succ levels ih =>
    intro valid met path
    have different : handle.node ≠ id := by
      intro same
      simp [reachesWithin, valid, same] at apart
    cases found : arena.lookup handle.node with
    | error refusal => simp [reachesWithin, valid, different, found] at apart
    | ok node =>
      rcases ReflTransGen.cases_head path with rfl | ⟨next, first, rest⟩
      · exact ⟨different, contains_iff.mpr ⟨node, found⟩⟩
      -- The walk takes the first step of the path, since there is one way down only.
      · obtain ⟨stands, valid', rfl⟩ := first.eq_target found
        rw [reachesWithin_of_lookup levels valid different found, if_neg (by simp [stands])] at apart
        exact ih node.target apart valid' met rest

theorem Leads.of_exchange
    (exchanged : ∀ other, after.lookup other = if other = id then .ok new else before.lookup other)
    (leads : after.Leads next a b) :
    before.Leads next a b ∨
      a = id ∧ ∃ handle ∈ next new, handle.isNull = false ∧ handle.node = b := by
  obtain ⟨node, found, link⟩ := leads
  rw [exchanged] at found
  split at found
  · cases found
    exact .inr ⟨‹_›, link⟩
  · exact .inl ⟨node, found, link⟩

theorem acyclic_of_exchange (acyclic : Acyclic (before.Leads Node.spine))
    (exchanged : ∀ other, after.lookup other = if other = id then .ok new else before.lookup other)
    (apart : ∀ handle ∈ new.spine, handle.isNull = false →
      ¬ ReflTransGen (before.Leads Node.spine) handle.node id) :
    Acyclic (after.Leads Node.spine) := by
  -- The exchange adds one link, from the node to its new target, or none.
  by_cases stands : new.target ∈ new.spine ∧ new.target.isNull = false
  · refine acyclic.add_link ?_ (apart _ stands.1 stands.2)
    intro a b leads
    rcases leads.of_exchange exchanged with old | ⟨rfl, handle, member, -, rfl⟩
    · exact .inl old
    · exact .inr ⟨rfl, by rw [Node.eq_target_of_mem_spine member]⟩
  · apply acyclic.mono
    intro a b leads
    rcases leads.of_exchange exchanged with old | ⟨-, handle, member, valid, -⟩
    · exact old
    · cases Node.eq_target_of_mem_spine member
      exact absurd ⟨member, valid⟩ stands

theorem resolves_of_exchange
    (exchanged : ∀ other, after.lookup other = if other = id then .ok new else before.lookup other)
    (resolved : before.resolves handle = true) : after.resolves handle = true := by
  by_cases same : handle.node = id
  · simp [resolves, contains, exchanged, same]
  · simpa [resolves, contains, exchanged, same] using resolved

theorem closed_of_exchange
    (closed : ∀ other node, before.lookup other = .ok node →
      ∀ handle ∈ next node, before.resolves handle = true)
    (exchanged : ∀ other, after.lookup other = if other = id then .ok new else before.lookup other)
    (grounded : ∀ handle ∈ next new, before.resolves handle = true) :
    ∀ other node, after.lookup other = .ok node →
      ∀ handle ∈ next node, after.resolves handle = true := by
  intro other node found handle member
  apply resolves_of_exchange exchanged
  rw [exchanged] at found
  split at found
  · cases found
    exact grounded handle member
  · exact closed other node found handle member

theorem closed_of_effect
    (closed : ∀ id node, arena.lookup id = .ok node →
      ∀ handle ∈ next node, arena.resolves handle = true)
    (made : ∀ node id, call.Makes node →
      ∀ handle ∈ next (node.settled id), arena.resolves handle = true)
    (shared : ∀ element, call = .pointerTo element →
      ∀ handle ∈ next ⟨element, Handle.null, .pointer⟩, arena.resolves handle = true)
    (edited : ∀ id old new, arena.owned id = .ok old → call.Edits arena id old new →
      ∀ handle ∈ next new, arena.resolves handle = true)
    (effect : call.Effect arena after) :
    ∀ id node, after.lookup id = .ok node →
      ∀ handle ∈ next node, after.resolves handle = true := by
  -- A node that is added is an exchange as well: of nothing for it.
  cases effect with
  | nothing => exact closed
  | made wanted issued =>
    exact closed_of_exchange closed (fun _ => lookup_push issued) (made _ _ wanted)
  | shared wanted valid missing issued =>
    exact closed_of_exchange closed (fun _ => lookup_push issued) (shared _ wanted)
  | edited found edit =>
    exact closed_of_exchange closed (fun _ => lookup_store found) (edited _ _ _ found edit)

theorem not_path_of_issued
    (closed : ∀ a b, arena.Leads Node.spine a b → arena.contains b = true)
    (issued : NodeId.ofIndex? arena.size = some id) (resolved : arena.resolves handle = true)
    (valid : handle.isNull = false) :
    ¬ ReflTransGen (arena.Leads Node.spine) handle.node id := by
  -- The id names nothing yet, and all links lead to nodes.
  have absent := not_contains_of_issued issued
  intro path
  rcases ReflTransGen.cases_tail path with same | ⟨met, -, last⟩
  · simp [resolves, valid, ← same, absent] at resolved
  · rw [closed met id last] at absent
    cases absent

theorem Straight.apart_of_edits (straight : arena.Straight) (found : arena.owned id = .ok old)
    (edit : call.Edits arena id old new) (keeps : call.isOverwrite = false) :
    ∀ handle ∈ new.spine, handle.isNull = false →
      ¬ ReflTransGen (arena.Leads Node.spine) handle.node id := by
  intro handle member valid path
  rcases edit.spine_cases keeps with same | ⟨target, apart, stands⟩
  · -- A way back from where the node stood already would have been a cycle before.
    rw [same] at member
    exact straight.acyclic _ (.head' (leads_of_mem (lookup_of_owned found) member valid) path)
  · rw [stands, List.mem_singleton] at member
    subst member
    exact (clear_of_reachesWithin _ _ apart valid _ path).1 rfl

theorem Upright.effect (upright : arena.Upright) (keeps : call.isOverwrite = false)
    (grounded : ∀ handle ∈ call.elements, arena.resolves handle = true)
    (effect : call.Effect arena after) : after.Upright := by
  have made (node : Node) (id : NodeId) (wanted : call.Makes node) :
      ∀ handle ∈ (node.settled id).spine, arena.resolves handle = true := by
    intro handle member
    rw [Node.spine_settled] at member
    rcases wanted.mem_spine member with null | element
    · simp [resolves, null]
    · exact grounded handle element
  have shared (element : Handle) (wanted : call = .pointerTo element) :
      ∀ handle ∈ Node.spine ⟨element, Handle.null, .pointer⟩, arena.resolves handle = true := by
    intro handle member
    subst wanted
    exact grounded handle member
  have edited (id : NodeId) (old new : Node) (found : arena.owned id = .ok old)
      (edit : call.Edits arena id old new) :
      ∀ handle ∈ new.spine, arena.resolves handle = true := by
    intro handle member
    rcases edit.spine_cases keeps with same | ⟨target, apart, stands⟩
    · rw [same] at member
      exact upright.closed id old (lookup_of_owned found) handle member
    · -- The search that let the target pass has been to the end of its way.
      rw [stands, List.mem_singleton] at member
      subst member
      cases null : handle.isNull with
      | true => simp [resolves, null]
      | false =>
        have known := (clear_of_reachesWithin _ _ apart null _ .refl).2
        simp [resolves, known]
  refine { closed := closed_of_effect upright.closed made shared edited effect, acyclic := ?_ }
  cases effect with
  | nothing => exact upright.acyclic
  | made wanted issued =>
    exact acyclic_of_exchange upright.acyclic (fun _ => lookup_push issued) fun handle member =>
      not_path_of_issued (fun _ _ => upright.contains_of_leads) issued (made _ _ wanted handle member)
  | shared wanted valid missing issued =>
    exact acyclic_of_exchange upright.acyclic (fun _ => lookup_push issued) fun handle member =>
      not_path_of_issued (fun _ _ => upright.contains_of_leads) issued (shared _ wanted handle member)
  | edited found edit =>
    exact acyclic_of_exchange upright.acyclic (fun _ => lookup_store found)
      (upright.apart_of_edits found edit keeps)

theorem Sound.upright (sound : arena.Sound) : arena.Upright where
  toStraight := sound.toStraight
  closed id node found handle member :=
    sound.closed id node found handle (Node.mem_handles_of_mem_spine member)

theorem Sound.contains_of_leads (sound : arena.Sound) (leads : arena.Leads Node.spine a b) :
    arena.contains b = true :=
  sound.upright.contains_of_leads leads

theorem Sound.perform (sound : arena.Sound) (call : Call) (keeps : call.isOverwrite = false)
    (grounded : call.isGrounded arena = true) : (call.perform arena).arena.Sound := by
  have resolves : ∀ handle ∈ call.handles, arena.resolves handle = true :=
    List.all_eq_true.mp grounded
  have effect := effect_perform call arena
  have upright := sound.upright.effect keeps
    (fun handle member => resolves handle (Call.handles_of_mem_elements member)) effect
  refine { toStraight := upright.toStraight
           closed := closed_of_effect sound.closed ?_ ?_ ?_ effect }
  · intro node id wanted handle member
    rw [Node.handles_settled] at member
    rcases wanted.mem_handles member with null | passed
    · simp [Arena.resolves, null]
    · exact resolves handle passed
  · rintro element rfl handle member
    exact resolves handle member
  · intro id old new found edit handle member
    rcases edit.mem_handles keeps member with kept | passed
    · exact sound.closed _ _ (lookup_of_owned found) handle kept
    · exact resolves handle passed

theorem Sound.empty : Arena.empty.Sound where
  closed id node found handle member := by
    obtain ⟨builtin, rfl⟩ := lookup_empty found
    cases List.mem_singleton.mp member
    rfl
  acyclic a cycle := by
    obtain ⟨b, first, -⟩ := TransGen.head'_iff.mp cycle
    have source := first.mem_ids fun _ => rfl
    simp [ids, size, Arena.empty] at source

theorem Built.sound (built : Built arena) : arena.Sound := by
  induction built with
  | empty => exact .empty
  | step _ call keeps grounded ih => exact ih.perform call keeps grounded

end TypeGraph.Arena
