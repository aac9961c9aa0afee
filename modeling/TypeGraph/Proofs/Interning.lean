import Mathlib.Data.List.Nodup
import TypeGraph.Proofs.Effect
import TypeGraph.Proofs.Lookup

set_option autoImplicit false

namespace TypeGraph

namespace Node

def pointee (node : Node) : Option Handle :=
  if node.kind = .pointer then some node.target else none

theorem isSome_pointee (node : Node) : node.pointee.isSome = decide (node.kind = .pointer) := by
  unfold pointee
  split <;> simp [*]

@[simp] theorem pointee_settled (node : Node) (id : NodeId) :
    (node.settled id).pointee = node.pointee := by
  unfold settled
  split <;> rfl

end Node

namespace Call

variable {call : Call} {arena : Arena} {id : NodeId} {node old new : Node}

theorem Makes.kind_ne (wanted : call.Makes node) : node.kind ≠ .pointer := by
  cases call with
  | newTagged sort tag =>
    cases wanted
    cases sort <;> nofun
  | newArray element size =>
    obtain ⟨-, rfl⟩ := Node.arrayOf_eq_ok wanted
    nofun
  | newUser expr =>
    cases wanted
    nofun
  | newFunction result =>
    cases wanted
    nofun
  | _ => cases wanted

theorem Makes.pointee_eq (wanted : call.Makes node) : node.pointee = none :=
  if_neg wanted.kind_ne

theorem Edits.pointee_eq (edit : call.Edits arena id old new) (keeps : call.isOverwrite = false) :
    new.pointee = old.pointee := by
  simp only [Node.pointee, edit.kind_eq keeps]
  split
  · rename_i pointer
    rw [edit.target_eq keeps (by rw [pointer]; rfl)]
  · rfl

end Call

namespace Arena

variable {arena after : Arena} {call : Call} {element other pointer : Handle} {id : NodeId}
  {node : Node}

theorem size_le_of_effect (effect : call.Effect arena after) : arena.size ≤ after.size := by
  cases effect with
  | nothing => exact Nat.le_refl _
  | made wanted issued => simp [size]
  | shared wanted valid missing issued => simp [size]
  | edited found edit => simp

theorem pointers_of_effect (effect : call.Effect arena after)
    (known : arena.pointers[element]? = some id) : after.pointers[element]? = some id := by
  cases effect with
  | nothing => exact known
  | made wanted issued => exact known
  | shared _ _ missing _ =>
    rw [Std.HashMap.getElem?_insert]
    split
    -- The element of the new entry had none before.
    · rename_i same
      rw [eq_of_beq same, known] at missing
      cases missing
    · exact known
  | edited found edit => simpa using known

theorem pointers_of_run (calls : List Call) (known : arena.pointers[element]? = some id) :
    (arena.run calls).pointers[element]? = some id :=
  run_holds (fun _ _ _ _ effect known => pointers_of_effect effect known) known calls fun _ _ => trivial

structure Interned (arena : Arena) : Prop where
  valid : ∀ (element : Handle) (id : NodeId), arena.pointers[element]? = some id →
    element.isNull = false
  issued : ∀ (element : Handle) (id : NodeId), arena.pointers[element]? = some id →
    ∃ index, id.index? = some index ∧ index < arena.size
  injective : ∀ (element other : Handle) (id : NodeId), arena.pointers[element]? = some id →
    arena.pointers[other]? = some id → element = other

theorem Interned.empty : Arena.empty.Interned where
  valid element id known := by simp [Arena.empty] at known
  issued element id known := by simp [Arena.empty] at known
  injective element other id known := by simp [Arena.empty] at known

theorem Interned.insert (interned : arena.Interned) (valid : element.isNull = false)
    (issued : NodeId.ofIndex? arena.size = some id) :
    (Arena.mk (arena.nodes.push node) (arena.pointers.insert element id)).Interned := by
  have position := NodeId.index?_of_ofIndex? issued
  -- The new id lies above every id of the table.
  have fresh (other : Handle) : arena.pointers[other]? ≠ some id := by
    intro known
    obtain ⟨index, same, below⟩ := interned.issued other id known
    rw [position] at same
    cases same
    exact Nat.lt_irrefl _ below
  constructor
  · intro other id' known
    simp only [Std.HashMap.getElem?_insert] at known
    split at known
    · rename_i same
      rwa [← eq_of_beq same]
    · exact interned.valid other id' known
  · intro other id' known
    simp only [Std.HashMap.getElem?_insert] at known
    split at known
    · cases known
      exact ⟨arena.size, position, by simp [size]⟩
    · obtain ⟨index, same, below⟩ := interned.issued other id' known
      exact ⟨index, same, Nat.lt_of_lt_of_le below (by simp [size])⟩
  · intro one other id' known known'
    simp only [Std.HashMap.getElem?_insert] at known known'
    split at known <;> split at known'
    · rename_i same same'
      exact (eq_of_beq same).symm.trans (eq_of_beq same')
    · cases known
      exact absurd known' (fresh other)
    · cases known'
      exact absurd known (fresh one)
    · exact interned.injective one other id' known known'

theorem Interned.of_pointers (interned : arena.Interned) (same : after.pointers = arena.pointers)
    (grown : arena.size ≤ after.size) : after.Interned where
  valid element id known := interned.valid element id (same ▸ known)
  issued element id known := by
    obtain ⟨index, position, below⟩ := interned.issued element id (same ▸ known)
    exact ⟨index, position, Nat.lt_of_lt_of_le below grown⟩
  injective element other id known known' :=
    interned.injective element other id (same ▸ known) (same ▸ known')

theorem Interned.effect (interned : arena.Interned) (effect : call.Effect arena after) :
    after.Interned := by
  have grown := size_le_of_effect effect
  cases effect with
  | nothing => exact interned
  | made wanted issued => exact interned.of_pointers rfl grown
  | shared wanted valid missing issued => exact interned.insert valid issued
  | edited found edit => exact interned.of_pointers pointers_store grown

theorem Interned.run (interned : arena.Interned) (calls : List Call) :
    (arena.run calls).Interned :=
  run_holds (fun _ _ _ _ effect interned => interned.effect effect) interned calls
    fun _ _ => trivial

theorem pointers_of_pointerTo (answered : (arena.pointerTo element).answer = .ok pointer) :
    (arena.pointerTo element).arena.pointers[element]? = some pointer.node ∧
      pointer = Handle.ofNode pointer.node := by
  rcases arena.pointerTo_cases element with
    ⟨id, known, reply⟩ | ⟨stop, reply⟩ | ⟨id, -, -, -, reply⟩
  · rw [reply] at answered ⊢
    cases answered
    exact ⟨known, rfl⟩
  · rw [reply] at answered
    cases answered
  · rw [reply] at answered ⊢
    cases answered
    exact ⟨Std.HashMap.getElem?_insert_self, rfl⟩

def scan (arena : Arena) (element : Handle) : List NodeId :=
  (arena.toList.filter fun entry => entry.2.pointee = some element).map Prod.fst

/-- The table finds what the search finds, and holds nothing else. -/
structure Scanned (arena : Arena) : Prop where
  found : ∀ element : Handle, arena.scan element = arena.pointers[element]?.toList
  counted : arena.pointers.size = arena.nodes.toList.countP fun node => node.pointee.isSome

theorem scan_eq (arena : Arena) (element : Handle) :
    arena.scan element =
      ((arena.parts Node.pointee).filter fun entry => entry.2 = some element).map Prod.fst := by
  simp only [scan, parts, List.filter_map, List.map_map]
  rfl

theorem scan_push {pointers : Std.HashMap Handle NodeId}
    (issued : NodeId.ofIndex? arena.size = some id) :
    (Arena.mk (arena.nodes.push node) pointers).scan element =
      arena.scan element ++ if node.pointee = some element then [id] else [] := by
  rw [scan_eq, scan_eq, parts_push Node.pointee issued, List.filter_append, List.map_append]
  by_cases same : node.pointee = some element <;> simp [same]

theorem scan_store {old new : Node} (found : arena.owned id = .ok old)
    (same : new.pointee = old.pointee) : (arena.store id new).scan element = arena.scan element := by
  rw [scan_eq, scan_eq, parts_store Node.pointee found same]

theorem Scanned.push (scanned : arena.Scanned) (issued : NodeId.ofIndex? arena.size = some id)
    (plain : node.pointee = none) :
    (Arena.mk (arena.nodes.push node) arena.pointers).Scanned where
  found element := by
    rw [scan_push issued, plain, if_neg nofun, List.append_nil]
    exact scanned.found element
  counted := by
    simp [scanned.counted, plain]

theorem Scanned.insert (scanned : arena.Scanned) (missing : arena.pointers[element]? = none)
    (issued : NodeId.ofIndex? arena.size = some id) :
    (Arena.mk (arena.nodes.push ⟨element, Handle.null, .pointer⟩)
      (arena.pointers.insert element id)).Scanned where
  found other := by
    have pointer : Node.pointee ⟨element, Handle.null, .pointer⟩ = some element := rfl
    rw [scan_push issued, scanned.found, pointer, Std.HashMap.getElem?_insert]
    by_cases same : element = other
    · subst same
      simp [missing]
    · simp [same]
  counted := by
    have pointer : Node.pointee ⟨element, Handle.null, .pointer⟩ = some element := rfl
    have absent : element ∉ arena.pointers := by
      simpa using missing
    simp [Std.HashMap.size_insert, absent, scanned.counted, pointer]

theorem Scanned.store {old new : Node} (scanned : arena.Scanned) (found : arena.owned id = .ok old)
    (same : new.pointee = old.pointee) : (arena.store id new).Scanned where
  found element := by
    rw [scan_store found same, pointers_store]
    exact scanned.found element
  counted := by
    have count (arena : Arena) : (arena.nodes.toList.countP fun node => node.pointee.isSome) =
        (arena.nodes.toList.map Node.pointee).countP Option.isSome := by
      rw [List.countP_map]
      rfl
    rw [pointers_store, count, map_nodes_store Node.pointee found same, ← count]
    exact scanned.counted

theorem Scanned.effect (scanned : arena.Scanned) (keeps : call.isOverwrite = false)
    (effect : call.Effect arena after) : after.Scanned := by
  cases effect with
  | nothing => exact scanned
  | made wanted issued =>
    apply scanned.push issued
    rw [Node.pointee_settled, wanted.pointee_eq]
  | shared wanted valid missing issued => exact scanned.insert missing issued
  | edited found edit => exact scanned.store found (edit.pointee_eq keeps)

theorem Scanned.run (scanned : arena.Scanned) (calls : List Call)
    (keep : ∀ call ∈ calls, call.isOverwrite = false) : (arena.run calls).Scanned :=
  run_holds (fun _ _ _ keeps effect scanned => scanned.effect keeps effect) scanned calls keep

theorem mem_scan {node : Node} (found : arena.owned id = .ok node)
    (stands : node.pointee = some element) : id ∈ arena.scan element := by
  obtain ⟨index, position, present⟩ := owned_eq_ok_iff.mp found
  have entry : (node, index) ∈ arena.nodes.toList.zipIdx := by
    simpa [List.mk_mem_zipIdx_iff_getElem?] using present
  have listed : (id, node) ∈ arena.toList :=
    List.mem_filterMap.mpr ⟨(node, index), entry, by simp [NodeId.ofIndex?_of_index? position]⟩
  exact List.mem_map.mpr ⟨(id, node), List.mem_filter.mpr ⟨listed, by simp [stands]⟩, rfl⟩

theorem Scanned.unique {node other : Node} {id' : NodeId} (scanned : arena.Scanned)
    (found : arena.owned id = .ok node) (stands : node.pointee = some element)
    (found' : arena.owned id' = .ok other) (stands' : other.pointee = some element) : id = id' := by
  have one := mem_scan found stands
  have two := mem_scan found' stands'
  rw [scanned.found, Option.mem_toList] at one two
  exact Option.some.inj (one.symm.trans two)

theorem Scanned.empty : Arena.empty.Scanned where
  found element := by simp [scan, toList, Arena.empty]
  counted := rfl

theorem Built.scanned (built : Built arena) : arena.Scanned :=
  built.holds .empty fun _ _ _ keeps effect scanned => scanned.effect keeps effect

/-- Whatever is done to an arena, an element keeps the pointer that it was given, and no other
element is given the same. As long as no node is overwritten, the table agrees with a search through
all nodes and holds as many entries as there are pointers. -/
theorem pointers_are_shared (calls : List Call) :
    (∀ element pointer, ((Arena.empty.run calls).pointerTo element).answer = .ok pointer →
      ∀ more : List Call,
        let later := ((Arena.empty.run calls).pointerTo element).arena.run more
        (later.pointerTo element).answer = .ok pointer ∧
        (later.pointerTo element).arena = later ∧
        ∀ other, other ≠ element → (later.pointerTo other).answer ≠ .ok pointer) ∧
    ((∀ call ∈ calls, call.isOverwrite = false) →
      (∀ element : Handle, (Arena.empty.run calls).scan element =
        (Arena.empty.run calls).pointers[element]?.toList) ∧
      (Arena.empty.run calls).pointers.size =
        (Arena.empty.run calls).nodes.toList.countP fun node => node.kind = .pointer) := by
  constructor
  · intro element pointer answered more
    obtain ⟨known, same⟩ := pointers_of_pointerTo answered
    have kept := pointers_of_run more known
    refine ⟨?_, ?_, ?_⟩
    · rw [pointerTo_known kept, same]
      rfl
    · rw [pointerTo_known kept]
    · intro other different answered'
      -- Both elements are in the table once the second request is answered.
      have interned := ((Interned.empty.run calls).effect (effect_pointerTo element)).run more
      have interned' := interned.effect (effect_pointerTo other)
      have kept' := pointers_of_effect (effect_pointerTo other) kept
      exact different (interned'.injective other element pointer.node
        (pointers_of_pointerTo answered').1 kept')
  · intro keep
    have scanned := Scanned.empty.run calls keep
    exact ⟨scanned.found, by simpa [Node.isSome_pointee] using scanned.counted⟩

-- An alias with a pointer to it as a constant, to which it cannot be resolved.
def constantAlias : List Call :=
  [.newUser (.identifier none "T"), .pointerTo (Handle.ofNode ⟨64⟩).withConst,
    .resolve ⟨64⟩ (Handle.ofNode ⟨65⟩)]

theorem pointers_are_shared_constantAlias :
    ((Arena.empty.run constantAlias).pointerTo (Handle.ofNode ⟨64⟩).withConst).answer =
        .ok (Handle.ofNode ⟨65⟩) ∧
      (∀ more, (((Arena.empty.run constantAlias).pointerTo
        (Handle.ofNode ⟨64⟩).withConst).arena.run more |>.pointerTo (Handle.ofNode ⟨64⟩)).answer ≠
          .ok (Handle.ofNode ⟨65⟩)) ∧
      (Arena.empty.run constantAlias).scan (Handle.ofNode ⟨64⟩).withConst = [⟨65⟩] := by
  have answered : ((Arena.empty.run constantAlias).pointerTo
      (Handle.ofNode ⟨64⟩).withConst).answer = .ok (Handle.ofNode ⟨65⟩) := by cbv
  have entry : (Arena.empty.run constantAlias).pointers[(Handle.ofNode ⟨64⟩).withConst]? =
      some ⟨65⟩ := by cbv
  obtain ⟨kept, scanned⟩ := pointers_are_shared constantAlias
  refine ⟨answered, fun more => ?_, ?_⟩
  · exact (kept _ _ answered more).2.2 _ (by decide)
  · rw [(scanned (by decide)).1, entry]
    rfl

end Arena

end TypeGraph
