import Mathlib.Data.Finset.Card
import TypeGraph.Arena

set_option autoImplicit false

namespace TypeGraph

namespace NodeId

theorem index?_injective {a b : NodeId} {index : Nat} (left : a.index? = some index)
    (right : b.index? = some index) : a = b :=
  Option.some.inj ((ofIndex?_of_index? left).symm.trans (ofIndex?_of_index? right))

theorem builtin?_of_index? {id : NodeId} {index : Nat} (owned : id.index? = some index) :
    id.builtin? = none := by
  unfold index? at owned
  split at owned
  · cases owned
  · rename_i outside
    simp only [Bool.or_eq_true, decide_eq_true_eq, not_or, Nat.not_lt] at outside
    apply List.getElem?_eq_none
    exact Nat.le_trans (by decide) outside.2

theorem isNull_of_index? {id : NodeId} {index : Nat} (owned : id.index? = some index) :
    id.isNull = false := by
  unfold index? at owned
  split at owned
  · cases owned
  · rename_i outside
    simp only [Bool.or_eq_true, not_or, Bool.not_eq_true] at outside
    exact outside.1

theorem isBuiltin_eq_isSome (id : NodeId) : id.isBuiltin = id.builtin?.isSome := by
  rw [Bool.eq_iff_iff]
  simp [isBuiltin, builtin?]

end NodeId

namespace Arena

variable {arena : Arena} {id other : NodeId} {node old new : Node}

theorem owned_eq_ok_iff :
    arena.owned id = .ok node ↔
      ∃ index, id.index? = some index ∧ arena.nodes[index]? = some node := by
  constructor
  · intro found
    unfold owned lookup at found
    rw [NodeId.isBuiltin_eq_isSome] at found
    cases builtin : id.builtin? with
    | some _ => simp [builtin] at found
    | none =>
      simp only [builtin, Option.isSome_none, Bool.false_eq_true, if_false] at found
      split at found
      · cases found
      · split at found
        · rename_i same
          cases found
          exact Option.bind_eq_some_iff.mp same
        · cases found
  · rintro ⟨index, position, present⟩
    simp [owned, lookup, NodeId.isBuiltin_eq_isSome, NodeId.builtin?_of_index? position,
      NodeId.isNull_of_index? position, position, present]

theorem lookup_of_owned (found : arena.owned id = .ok node) : arena.lookup id = .ok node := by
  unfold owned at found
  split at found
  · cases found
  · exact found

theorem lookup_eq_ok_iff :
    arena.lookup id = .ok node ↔
      (∃ builtin, id.builtin? = some builtin ∧ node = Node.ofBuiltin builtin) ∨
        arena.owned id = .ok node := by
  constructor
  · intro found
    cases named : id.builtin? with
    | some builtin =>
      simp only [lookup, named, Except.ok.injEq] at found
      exact .inl ⟨builtin, rfl, found.symm⟩
    | none => exact .inr (by simpa [owned, NodeId.isBuiltin_eq_isSome, named] using found)
  · rintro (⟨builtin, named, rfl⟩ | found)
    · simp [lookup, named]
    · exact lookup_of_owned found

theorem isNull_of_lookup (found : arena.lookup id = .ok node) : id.isNull = false := by
  rcases lookup_eq_ok_iff.mp found with ⟨builtin, named, -⟩ | owned
  · cases null : id.isNull with
    | false => rfl
    | true =>
      rw [NodeId.eq_null_of_isNull null] at named
      cases named
  · obtain ⟨index, position, -⟩ := owned_eq_ok_iff.mp owned
    exact NodeId.isNull_of_index? position

theorem lookup_error_cases {refusal : Refusal} (missing : arena.lookup id = .error refusal) :
    (id.isNull = true ∧ refusal = .nullType) ∨
      (id.isNull = false ∧ refusal = .unknownType id) := by
  unfold lookup at missing
  split at missing
  · cases missing
  · cases null : id.isNull with
    | true =>
      simp only [null, if_true] at missing
      cases missing
      exact .inl ⟨rfl, rfl⟩
    | false =>
      simp only [null, Bool.false_eq_true, if_false] at missing
      split at missing
      · cases missing
      · cases missing
        exact .inr ⟨rfl, rfl⟩

theorem lookup_congr {before after : Arena} (builtin : id.builtin? = none)
    (same : (id.index?.bind fun index => before.nodes[index]?) =
      id.index?.bind fun index => after.nodes[index]?) :
    before.lookup id = after.lookup id := by
  simp only [lookup, builtin, same]

theorem store_eq (new : Node) (found : arena.owned id = .ok old) :
    ∃ index, id.index? = some index ∧ arena.nodes[index]? = some old ∧
      arena.store id new = { arena with nodes := arena.nodes.setIfInBounds index new } := by
  obtain ⟨index, position, present⟩ := owned_eq_ok_iff.mp found
  exact ⟨index, position, present, by simp [store, position]⟩

theorem lookup_store (found : arena.owned id = .ok old) :
    (arena.store id new).lookup other =
      if other = id then .ok new else arena.lookup other := by
  obtain ⟨index, position, present, stored⟩ := store_eq new found
  obtain ⟨below, -⟩ := Array.getElem?_eq_some_iff.mp present
  rw [stored]
  split
  case isTrue same =>
    subst same
    apply lookup_of_owned
    exact owned_eq_ok_iff.mpr ⟨index, position, by simp [below]⟩
  case isFalse different =>
    cases builtin : other.builtin? with
    | some builtin => simp [lookup, builtin]
    | none =>
      apply lookup_congr builtin
      cases elsewhere : other.index? with
      | none => rfl
      | some position' =>
        have apart : index ≠ position' := by
          rintro rfl
          exact different (NodeId.index?_injective elsewhere position)
        simp [apart]

theorem map_nodes_store {α : Type} (part : Node → α) (found : arena.owned id = .ok old)
    (same : part new = part old) :
    (arena.store id new).nodes.toList.map part = arena.nodes.toList.map part := by
  obtain ⟨index, -, present, stored⟩ := store_eq new found
  obtain ⟨below, rfl⟩ := Array.getElem?_eq_some_iff.mp present
  have inside : index < (arena.nodes.toList.map part).length := by simpa using below
  have kept : (arena.nodes.toList.map part)[index] = part arena.nodes[index] := by
    simp
  rw [stored]
  simp only [Array.toList_setIfInBounds, List.map_set]
  rw [same, ← kept, List.set_getElem_self]

@[simp] theorem size_store : (arena.store id new).size = arena.size := by
  unfold store
  split <;> simp [size]

@[simp] theorem pointers_store : (arena.store id new).pointers = arena.pointers := by
  unfold store
  split <;> rfl

theorem lookup_push {pointers : Std.HashMap Handle NodeId}
    (issued : NodeId.ofIndex? arena.size = some id) :
    (Arena.mk (arena.nodes.push node) pointers).lookup other =
      if other = id then .ok node else arena.lookup other := by
  have position := NodeId.index?_of_ofIndex? issued
  split
  case isTrue same =>
    subst same
    apply lookup_of_owned
    exact owned_eq_ok_iff.mpr ⟨arena.size, position, by simp [size]⟩
  case isFalse different =>
    cases builtin : other.builtin? with
    | some builtin => simp [lookup, builtin]
    | none =>
      apply lookup_congr builtin
      cases elsewhere : other.index? with
      | none => rfl
      | some position' =>
        have apart : position' ≠ arena.nodes.size := by
          rintro rfl
          exact different (NodeId.index?_injective elsewhere position)
        simp [Array.getElem?_push, apart]

def parts {α : Type} (arena : Arena) (part : Node → α) : List (NodeId × α) :=
  arena.toList.map fun entry => (entry.1, part entry.2)

theorem parts_eq {α : Type} (arena : Arena) (part : Node → α) :
    arena.parts part = (arena.nodes.toList.map part).zipIdx.filterMap fun entry =>
      (NodeId.ofIndex? entry.2).map fun id => (id, entry.1) := by
  simp only [parts, toList, List.zipIdx_map, List.filterMap_map, List.map_filterMap]
  congr 1
  funext ⟨node, index⟩
  cases issued : NodeId.ofIndex? index <;> simp [issued]

theorem parts_push {α : Type} {pointers : Std.HashMap Handle NodeId} (part : Node → α)
    (issued : NodeId.ofIndex? arena.size = some id) :
    (Arena.mk (arena.nodes.push node) pointers).parts part =
      arena.parts part ++ [(id, part node)] := by
  have position : NodeId.ofIndex? arena.nodes.size = some id := issued
  simp only [parts_eq, Array.toList_push, List.map_append, List.zipIdx_append, List.filterMap_append]
  simp [position]

theorem parts_store {α : Type} (part : Node → α) (found : arena.owned id = .ok old)
    (same : part new = part old) : (arena.store id new).parts part = arena.parts part := by
  rw [parts_eq, parts_eq, map_nodes_store part found same]

theorem owned_of_lookup (plain : id.builtin? = none) : arena.owned id = arena.lookup id := by
  simp [owned, NodeId.isBuiltin_eq_isSome, plain]

theorem builtin?_of_owned (found : arena.owned id = .ok node) : id.builtin? = none := by
  obtain ⟨index, position, -⟩ := owned_eq_ok_iff.mp found
  exact NodeId.builtin?_of_index? position

theorem owned_push {pointers : Std.HashMap Handle NodeId}
    (issued : NodeId.ofIndex? arena.size = some id)
    (found : (Arena.mk (arena.nodes.push new) pointers).owned other = .ok node) :
    node = new ∨ arena.owned other = .ok node := by
  have plain := builtin?_of_owned found
  rw [owned_of_lookup plain, lookup_push issued] at found
  split at found
  · exact .inl (Except.ok.inj found).symm
  · exact .inr (by rwa [owned_of_lookup plain])

theorem owned_store (present : arena.owned id = .ok old)
    (found : (arena.store id new).owned other = .ok node) :
    node = new ∨ arena.owned other = .ok node := by
  have plain := builtin?_of_owned found
  rw [owned_of_lookup plain, lookup_store present] at found
  split at found
  · exact .inl (Except.ok.inj found).symm
  · exact .inr (by rwa [owned_of_lookup plain])

theorem not_owned_empty : Arena.empty.owned id ≠ .ok node := by
  intro found
  obtain ⟨index, -, present⟩ := owned_eq_ok_iff.mp found
  simp [Arena.empty] at present

theorem lookup_empty (found : Arena.empty.lookup id = .ok node) :
    ∃ builtin, node = Node.ofBuiltin builtin := by
  rcases lookup_eq_ok_iff.mp found with ⟨builtin, -, same⟩ | owned
  · exact ⟨builtin, same⟩
  · exact absurd owned not_owned_empty

theorem contains_iff : arena.contains id = true ↔ ∃ node, arena.lookup id = .ok node := by
  unfold contains
  cases arena.lookup id <;> simp

theorem not_contains_of_issued (issued : NodeId.ofIndex? arena.size = some id) :
    arena.contains id = false := by
  have position := NodeId.index?_of_ofIndex? issued
  simp [contains, lookup, NodeId.builtin?_of_index? position, NodeId.isNull_of_index? position,
    position, size]

def ids (arena : Arena) : Finset NodeId :=
  ((List.range arena.size).filterMap NodeId.ofIndex?).toFinset

theorem mem_ids (found : arena.owned id = .ok node) : id ∈ arena.ids := by
  obtain ⟨index, position, present⟩ := owned_eq_ok_iff.mp found
  obtain ⟨below, -⟩ := Array.getElem?_eq_some_iff.mp present
  simp only [ids, List.mem_toFinset, List.mem_filterMap, List.mem_range]
  exact ⟨index, below, NodeId.ofIndex?_of_index? position⟩

theorem card_ids_le (arena : Arena) : arena.ids.card ≤ arena.size := by
  calc arena.ids.card
      ≤ ((List.range arena.size).filterMap NodeId.ofIndex?).length := List.toFinset_card_le _
    _ ≤ (List.range arena.size).length := List.length_filterMap_le _ _
    _ = arena.size := List.length_range

end Arena

end TypeGraph
