import TypeGraph.Proofs.Descent
import TypeGraph.Proofs.Effect
import TypeGraph.Proofs.Lookup

set_option autoImplicit false

namespace TypeGraph

open Relation Descent

namespace Node

-- The canonical type of a node is left out: nothing that walks or prints types follows it.
def handles (node : Node) : List Handle :=
  node.target :: (node.args ++ node.members.map Member.type)

/-- What an alias, a pointer or an array stands on. -/
def spine (node : Node) : List Handle :=
  match node.payload with
  | .user _ | .pointer | .array _ => [node.target]
  | _ => []

theorem spine_eq_ite (node : Node) :
    node.spine =
      if node.kind = .user ∨ node.kind = .pointer ∨ node.kind = .array then [node.target]
      else [] := by
  rcases node with ⟨target, canonical, payload⟩
  cases payload with
  | tagged sort body => cases sort <;> rfl
  | _ => rfl

theorem eq_target_of_mem_spine {node : Node} {handle : Handle} (member : handle ∈ node.spine) :
    handle = node.target := by
  rw [spine_eq_ite] at member
  split at member
  · exact List.mem_singleton.mp member
  · cases member

theorem target_mem_spine {node : Node} (stands : node.spine ≠ []) : node.target ∈ node.spine := by
  rw [spine_eq_ite] at stands ⊢
  split
  · exact List.mem_singleton_self _
  · simp_all

theorem spine_of_needsElement {node : Node} (element : node.kind.needsElement = true) :
    node.spine = [node.target] := by
  rw [spine_eq_ite]
  cases kind : node.kind <;> simp_all [Kind.needsElement]

@[simp] theorem settled_kind (node : Node) (id : NodeId) : (node.settled id).kind = node.kind := by
  unfold settled
  split <;> rfl

@[simp] theorem settled_target (node : Node) (id : NodeId) :
    (node.settled id).target = node.target := by
  unfold settled
  split <;> rfl

@[simp] theorem settled_payload (node : Node) (id : NodeId) :
    (node.settled id).payload = node.payload := by
  unfold settled
  split <;> rfl

@[simp] theorem handles_settled (node : Node) (id : NodeId) :
    (node.settled id).handles = node.handles := by
  unfold settled
  split <;> rfl

@[simp] theorem spine_settled (node : Node) (id : NodeId) :
    (node.settled id).spine = node.spine := by
  simp only [spine, settled_payload, settled_target]

theorem mem_handles_of_mem_spine {node : Node} {handle : Handle} (member : handle ∈ node.spine) :
    handle ∈ node.handles := by
  rw [eq_target_of_mem_spine member]
  exact List.mem_cons_self

end Node

namespace Call

variable {call : Call} {arena : Arena} {id : NodeId} {node old new : Node} {handle : Handle}

theorem Makes.mem_handles (wanted : call.Makes node) (member : handle ∈ node.handles) :
    handle.isNull = true ∨ handle ∈ call.handles := by
  cases call with
  | newUser expr =>
    cases wanted
    exact .inl (List.mem_singleton.mp member ▸ rfl)
  | newTagged sort tag =>
    cases wanted
    exact .inl (List.mem_singleton.mp member ▸ rfl)
  | newFunction result =>
    cases wanted
    exact .inr member
  | newArray element size =>
    obtain ⟨-, rfl⟩ := Node.arrayOf_eq_ok wanted
    exact .inr member
  | _ => cases wanted

def elements : Call → List Handle
  | .newArray element _ => [element]
  | .pointerTo element => [element]
  | _ => []

theorem handles_of_mem_elements (member : handle ∈ call.elements) : handle ∈ call.handles := by
  cases call with
  | newArray element size => exact member
  | pointerTo element => exact member
  | _ => cases member

theorem Makes.mem_spine (wanted : call.Makes node) (member : handle ∈ node.spine) :
    handle.isNull = true ∨ handle ∈ call.elements := by
  cases call with
  | newUser expr =>
    cases wanted
    exact .inl (List.mem_singleton.mp member ▸ rfl)
  | newTagged sort tag =>
    cases wanted
    cases member
  | newFunction result =>
    cases wanted
    cases member
  | newArray element size =>
    obtain ⟨-, rfl⟩ := Node.arrayOf_eq_ok wanted
    exact .inr member
  | _ => cases wanted

theorem Edits.mem_handles (edit : call.Edits arena id old new) (keeps : call.isOverwrite = false)
    (member : handle ∈ new.handles) : handle ∈ old.handles ∨ handle ∈ call.handles := by
  cases call with
  | attachMembers place members =>
    -- Members are attached once, so that none are lost.
    obtain ⟨sort, body, tagged, unset, rfl⟩ := Node.attachMembers_eq_ok edit.2
    simp only [Node.handles, Node.args, Node.members, Node.members?, Node.body?, tagged] at member ⊢
    simpa [Call.handles, unset] using member
  | assignResult place result =>
    obtain ⟨-, rfl⟩ := Node.assignResult_eq_ok edit.2
    rcases List.mem_cons.mp member with same | kept
    · exact .inr (by simp [Call.handles, same])
    · exact .inl (List.mem_cons_of_mem _ kept)
  | appendArgument place arg =>
    obtain ⟨args, func, rfl⟩ := Node.appendArgument_eq_ok edit.2
    simp only [Node.handles, Node.args, Node.members, Node.members?, Node.body?, func] at member ⊢
    simpa [Call.handles, or_assoc] using member
  | resolve place target =>
    obtain ⟨-, rfl⟩ := Node.resolve_eq_ok edit.2.2
    rcases List.mem_cons.mp member with same | kept
    · exact .inr (by simp [Call.handles, same])
    · exact .inl (List.mem_cons_of_mem _ kept)
  | assignCanonical place canonical =>
    obtain ⟨-, rfl⟩ := Node.assignCanonical_eq_ok edit.2
    exact .inl member
  | overwrite place kind target => cases keeps
  | _ => cases edit

theorem Edits.spine_cases (edit : call.Edits arena id old new) (keeps : call.isOverwrite = false) :
    new.spine = old.spine ∨ ∃ target, arena.reaches target id = .ok false ∧ new.spine = [target] := by
  cases call with
  | attachMembers place members =>
    obtain ⟨sort, body, tagged, -, rfl⟩ := Node.attachMembers_eq_ok edit.2
    exact .inl (by simp [Node.spine, tagged])
  | assignResult place result =>
    obtain ⟨⟨args, func⟩, rfl⟩ := Node.assignResult_eq_ok edit.2
    exact .inl (by simp [Node.spine, func])
  | appendArgument place arg =>
    obtain ⟨args, func, rfl⟩ := Node.appendArgument_eq_ok edit.2
    exact .inl (by simp [Node.spine, func])
  | resolve place target =>
    obtain ⟨⟨expr, user⟩, rfl⟩ := Node.resolve_eq_ok edit.2.2
    -- The one edit that changes what a node stands on is the one that is guarded.
    exact .inr ⟨target, edit.2.1, by simp [Node.spine, user]⟩
  | assignCanonical place canonical =>
    obtain ⟨-, rfl⟩ := Node.assignCanonical_eq_ok edit.2
    exact .inl rfl
  | overwrite place kind target => cases keeps
  | _ => cases edit

theorem Makes.element_valid (wanted : call.Makes node)
    (element : node.kind.needsElement = true) : node.target.isNull = false := by
  cases call with
  | newArray target size =>
    obtain ⟨valid, rfl⟩ := Node.arrayOf_eq_ok wanted
    exact valid
  | newTagged sort tag =>
    cases wanted
    cases sort <;> cases element
  | newUser expr =>
    cases wanted
    cases element
  | newFunction result =>
    cases wanted
    cases element
  | _ => cases wanted

theorem Edits.element_valid (edit : call.Edits arena id old new)
    (before : old.kind.needsElement = true → old.target.isNull = false)
    (element : new.kind.needsElement = true) : new.target.isNull = false := by
  cases keeps : call.isOverwrite with
  | false =>
    rw [edit.kind_eq keeps] at element
    rw [edit.target_eq keeps element]
    exact before element
  | true =>
    cases call with
    | overwrite place kind target =>
      obtain ⟨same, rfl, valid⟩ := Node.bare_eq_ok edit.2
      exact valid (same ▸ element)
    | _ => cases keeps

theorem Makes.kind_ne_builtin (wanted : call.Makes node) : node.kind ≠ .builtin := by
  cases call with
  | newTagged sort tag =>
    cases wanted
    cases sort <;> nofun
  | newArray element size =>
    obtain ⟨-, rfl⟩ := Node.arrayOf_eq_ok wanted
    nofun
  | newUser expr =>
    cases wanted
    nofun
  | newFunction result =>
    cases wanted
    nofun
  | _ => cases wanted

theorem Edits.kind_ne_builtin (edit : call.Edits arena id old new) (before : old.kind ≠ .builtin) :
    new.kind ≠ .builtin := by
  cases keeps : call.isOverwrite with
  | false => rwa [edit.kind_eq keeps]
  | true =>
    cases call with
    | overwrite place kind target =>
      obtain ⟨rfl, -, -⟩ := Node.bare_eq_ok edit.2
      intro same
      have refused := edit.2
      cases null : target.isNull <;>
        simp [Node.bare, same, Kind.needsElement, Handle.isValid, null] at refused
    | _ => cases keeps

end Call

namespace Arena

theorem nodes_hold {arena after : Arena} {call : Call} {holds : Node → Prop}
    (made : ∀ node id, call.Makes node → holds (node.settled id))
    (shared : ∀ element : Handle, element.isNull = false → holds ⟨element, Handle.null, .pointer⟩)
    (edited : ∀ id old new, call.Edits arena id old new → holds old → holds new)
    (before : ∀ id node, arena.lookup id = .ok node → holds node)
    (effect : call.Effect arena after) : ∀ id node, after.lookup id = .ok node → holds node := by
  intro id node found
  cases effect with
  | nothing => exact before id node found
  | made wanted issued =>
    rw [lookup_push issued] at found
    split at found
    · cases found
      exact made _ _ wanted
    · exact before id node found
  | shared wanted valid missing issued =>
    rw [lookup_push issued] at found
    split at found
    · cases found
      exact shared _ valid
    · exact before id node found
  | edited present edit =>
    rw [lookup_store present] at found
    split at found
    · cases found
      exact edited _ _ _ edit (before _ _ (lookup_of_owned present))
    · exact before id node found

/-- Whether every pointer and every array stands on an element. Only the target of an alias and the
result of a function may be null. -/
def Founded (arena : Arena) : Prop :=
  ∀ id node, arena.lookup id = .ok node → node.kind.needsElement = true →
    node.target.isNull = false

theorem Founded.empty : Arena.empty.Founded := by
  intro id node found element
  obtain ⟨builtin, rfl⟩ := lookup_empty found
  cases element

theorem Founded.effect {arena after : Arena} {call : Call} (founded : arena.Founded)
    (effect : call.Effect arena after) : after.Founded := by
  apply nodes_hold ?_ (fun _ valid _ => valid) (fun _ _ _ edit => edit.element_valid) founded effect
  intro node id wanted element
  simp only [Node.settled_kind, Node.settled_target] at element ⊢
  exact wanted.element_valid element

theorem Built.founded {arena : Arena} (built : Built arena) : arena.Founded :=
  built.holds .empty fun _ _ _ _ effect founded => founded.effect effect

theorem Founded.run {arena : Arena} (founded : arena.Founded) (calls : List Call) :
    (arena.run calls).Founded :=
  run_holds (fun _ _ _ _ effect founded => founded.effect effect) founded calls fun _ _ => trivial

def SharesBuiltins (arena : Arena) : Prop :=
  ∀ id node, arena.owned id = .ok node → node.kind ≠ .builtin

theorem SharesBuiltins.empty : Arena.empty.SharesBuiltins :=
  fun _ _ found => absurd found not_owned_empty

theorem SharesBuiltins.effect {arena after : Arena} {call : Call} (shares : arena.SharesBuiltins)
    (effect : call.Effect arena after) : after.SharesBuiltins := by
  intro id node found
  cases effect with
  | nothing => exact shares id node found
  | @made made id' wanted issued =>
    rcases owned_push issued found with rfl | kept
    · simpa using wanted.kind_ne_builtin
    · exact shares id node kept
  | shared wanted valid missing issued =>
    rcases owned_push issued found with rfl | kept
    · nofun
    · exact shares id node kept
  | edited present edit =>
    rcases owned_store present found with rfl | kept
    · exact edit.kind_ne_builtin (shares _ _ present)
    · exact shares id node kept

theorem Built.sharesBuiltins {arena : Arena} (built : Built arena) : arena.SharesBuiltins :=
  built.holds .empty fun _ _ _ _ effect shares => shares.effect effect

theorem SharesBuiltins.builtin? {arena : Arena} {id : NodeId} {node : Node}
    (shares : arena.SharesBuiltins) (found : arena.lookup id = .ok node)
    (kind : node.kind = .builtin) :
    ∃ builtin, id.builtin? = some builtin ∧ node = Node.ofBuiltin builtin := by
  rcases lookup_eq_ok_iff.mp found with named | owned
  · exact named
  · exact absurd kind (shares id node owned)

end Arena

end TypeGraph
