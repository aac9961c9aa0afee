import TypeGraph.Proofs.Replay

set_option autoImplicit false

namespace TypeGraph

theorem Builtin.index_lt (builtin : Builtin) : builtin.index < 14 := by
  cases builtin <;> decide

namespace NodeId

def supply : Nat := UInt32.size - 65

variable {id : NodeId} {index : Nat} {builtin : Builtin}

theorem ofIndex?_eq_none_iff : ofIndex? index = none ↔ supply ≤ index := by
  have last : null.raw.toNat = 4294967295 := rfl
  unfold ofIndex? supply firstOwned UInt32.size
  split
  · simp only [reduceCtorEq, false_iff, Nat.not_le]
    omega
  · simp only [true_iff]
    omega

theorem exists_ofIndex?_iff : (∃ id, ofIndex? index = some id) ↔ index < supply := by
  rw [← Nat.not_le, ← ofIndex?_eq_none_iff, ← Option.isSome_iff_exists,
    ← Option.not_isSome_iff_eq_none, not_not]

theorem isNull_iff : id.isNull = true ↔ id.raw.toNat = UInt32.size - 1 := by
  have last : null.raw.toNat = UInt32.size - 1 := rfl
  rw [isNull, beq_iff_eq, ← UInt32.toNat_inj, last]

theorem isBuiltin_iff : id.isBuiltin = true ↔ id.raw.toNat < 14 := decide_eq_true_iff

theorem builtin?_eq_some_iff : id.builtin? = some builtin ↔ builtin.index = id.raw.toNat := by
  have distinct : Builtin.all.Nodup := by decide
  have own := Builtin.getElem?_all_index builtin
  obtain ⟨inside, -⟩ := List.getElem?_eq_some_iff.mp own
  constructor
  · intro named
    exact (List.getElem?_inj inside distinct).mp (own.trans named.symm)
  · intro same
    rw [builtin?, ← same, own]

theorem index?_of_high (high : 64 ≤ id.raw.toNat) (other : id.raw.toNat ≠ UInt32.size - 1) :
    id.index? = some (id.raw.toNat - 64) := by
  have valid : id.isNull = false := Bool.eq_false_iff.mpr fun null => other (isNull_iff.mp null)
  have owned : ¬ id.raw.toNat < 64 := Nat.not_lt.mpr high
  simp [index?, firstOwned, valid, owned]

end NodeId

/-- Whether a call is settled before a node is made: by a pointer that is known, or by an element
that is refused. -/
def Call.NeedsNoId (arena : Arena) : Call → Prop
  | .newArray element _ => element.isNull = true
  | .pointerTo element => element.isNull = true ∨ ∃ id, arena.pointers[element]? = some id
  | _ => False

namespace Arena

open NodeId

variable {arena after : Arena} {id : NodeId} {node : Node} {call : Call}

theorem lookup_of_low (low : id.raw.toNat < 14) :
    ∃ builtin : Builtin, builtin.index = id.raw.toNat ∧
      arena.lookup id = .ok (Node.ofBuiltin builtin) := by
  obtain ⟨builtin, named⟩ : ∃ builtin, id.builtin? = some builtin :=
    ⟨_, List.getElem?_eq_getElem low⟩
  exact ⟨builtin, builtin?_eq_some_iff.mp named, by simp only [lookup, named]⟩

theorem lookup_of_last (last : id.raw.toNat = UInt32.size - 1) :
    arena.lookup id = .error .nullType := by
  have null := isNull_iff.mpr last
  cases found : arena.lookup id with
  | ok node =>
    rw [isNull_of_lookup found] at null
    cases null
  | error refusal =>
    rcases lookup_error_cases found with ⟨-, rfl⟩ | ⟨valid, -⟩
    · rfl
    · rw [null] at valid
      cases valid

theorem lookup_of_issued (fits : arena.size ≤ supply) (high : 64 ≤ id.raw.toNat)
    (below : id.raw.toNat < 64 + arena.size) :
    ∃ index node, id.raw.toNat = 64 + index ∧ arena.nodes[index]? = some node ∧
      arena.lookup id = .ok node := by
  have other : id.raw.toNat ≠ UInt32.size - 1 := by
    unfold supply at fits
    omega
  have position := index?_of_high high other
  have inside : id.raw.toNat - 64 < arena.nodes.size := by
    unfold size at below
    omega
  have present := Array.getElem?_eq_getElem inside
  exact ⟨_, _, toNat_of_index? position, present,
    lookup_of_owned (owned_eq_ok_iff.mpr ⟨_, position, present⟩)⟩

theorem lookup_of_unissued (high : ¬ id.raw.toNat < 14) (other : id.raw.toNat ≠ UInt32.size - 1)
    (outside : ¬ (64 ≤ id.raw.toNat ∧ id.raw.toNat < 64 + arena.size)) :
    arena.lookup id = .error (.unknownType id) := by
  cases found : arena.lookup id with
  | ok node =>
    rcases lookup_eq_ok_iff.mp found with ⟨builtin, named, -⟩ | owned
    · rw [← builtin?_eq_some_iff.mp named] at high
      exact absurd builtin.index_lt high
    · obtain ⟨index, position, present⟩ := owned_eq_ok_iff.mp owned
      obtain ⟨below, -⟩ := Array.getElem?_eq_some_iff.mp present
      have number := toNat_of_index? position
      unfold firstOwned at number
      unfold size at outside
      omega
  | error refusal =>
    rcases lookup_error_cases found with ⟨null, -⟩ | ⟨-, rfl⟩
    · exact absurd (isNull_iff.mp null) other
    · rfl

/-- Whether an id names what its number says: below fourteen a builtin, from sixty-four on a node of
the arena as far as it has any, at the end of the range no type, and nothing otherwise. -/
structure Sorts (arena : Arena) (id : NodeId) : Prop where
  builtin_iff : (∃ builtin : Builtin, builtin.index = id.raw.toNat ∧
    arena.lookup id = .ok (Node.ofBuiltin builtin)) ↔ id.raw.toNat < 14
  null_iff : arena.lookup id = .error .nullType ↔ id.raw.toNat = UInt32.size - 1
  owned_iff : (∃ index node, id.raw.toNat = 64 + index ∧ arena.nodes[index]? = some node ∧
    arena.lookup id = .ok node) ↔ 64 ≤ id.raw.toNat ∧ id.raw.toNat < 64 + arena.size
  unknown_iff : arena.lookup id = .error (.unknownType id) ↔
    ¬ id.raw.toNat < 14 ∧ id.raw.toNat ≠ UInt32.size - 1 ∧
      ¬ (64 ≤ id.raw.toNat ∧ id.raw.toNat < 64 + arena.size)

theorem sorts_of_fits (fits : arena.size ≤ supply) (id : NodeId) : arena.Sorts id where
  builtin_iff := ⟨fun ⟨builtin, number, _⟩ => number ▸ builtin.index_lt, lookup_of_low⟩
  null_iff := by
    refine ⟨fun missing => ?_, lookup_of_last⟩
    rcases lookup_error_cases missing with ⟨null, -⟩ | ⟨-, other⟩
    · exact isNull_iff.mp null
    · cases other
  owned_iff := by
    refine ⟨fun ⟨index, node, number, present, _⟩ => ?_, fun within => ?_⟩
    · obtain ⟨below, -⟩ := Array.getElem?_eq_some_iff.mp present
      unfold size
      omega
    · exact lookup_of_issued fits within.1 within.2
  unknown_iff := by
    refine ⟨fun missing => ⟨fun low => ?_, fun last => ?_, fun within => ?_⟩, fun outside => ?_⟩
    · obtain ⟨builtin, -, found⟩ := lookup_of_low low
      rw [missing] at found
      cases found
    · rw [lookup_of_last last] at missing
      cases missing
    · obtain ⟨index, node, -, -, found⟩ := lookup_of_issued fits within.1 within.2
      rw [missing] at found
      cases found
    · exact lookup_of_unissued outside.1 outside.2.1 outside.2.2

theorem size_le_supply (effect : call.Effect arena after) (fits : arena.size ≤ supply) :
    after.size ≤ supply := by
  have more {id : NodeId} (issued : ofIndex? arena.size = some id) : arena.size + 1 ≤ supply :=
    exists_ofIndex?_iff.mp ⟨id, issued⟩
  cases effect with
  | nothing => exact fits
  | made wanted issued => simpa [size] using more issued
  | shared wanted valid missing issued => simpa [size] using more issued
  | edited found edit => simpa using fits

section Exhausted

variable (full : ofIndex? arena.size = none)
include full

theorem create_exhausted (node : Node) :
    arena.create node =
      { answer := .error (.fault .exhaustedIds), arena := arena, events := [] } := by
  simp only [create, full]

theorem newArray_exhausted (element : Handle) (size : Option ArrayBound) :
    (arena.newArray element size).arena = arena ∧
      ((arena.newArray element size).answer = .error (.fault .exhaustedIds) ↔
        ¬ element.isNull = true) := by
  unfold newArray create?
  cases null : element.isNull with
  | true => simp [Node.arrayOf, Node.bare, Kind.needsElement, null, Except.map]
  | false =>
    simp [Node.arrayOf, Node.bare, Kind.needsElement, null, Handle.isValid, create_exhausted full,
      Except.map]

theorem pointerTo_of_exhausted (element : Handle) :
    (arena.pointerTo element).arena = arena ∧
      ((arena.pointerTo element).answer = .error (.fault .exhaustedIds) ↔
        ¬ (element.isNull = true ∨ ∃ id, arena.pointers[element]? = some id)) := by
  cases known : arena.pointers[element]? with
  | some id => simp [pointerTo_known known]
  | none =>
    cases null : element.isNull with
    | true => simp [pointerTo_null known null]
    | false => simp [pointerTo_exhausted known null full]

theorem perform_exhausted (asks : call.born?.isSome = true) :
    (call.perform arena).arena = arena ∧
      ((call.perform arena).answer = .error (.fault .exhaustedIds) ↔ ¬ call.NeedsNoId arena) := by
  have created (node : Node) :
      ((arena.create node).map fun id => some (Handle.ofNode id)).arena = arena ∧
        (((arena.create node).map fun id => some (Handle.ofNode id)).answer =
          .error (.fault .exhaustedIds) ↔ ¬ False) := by
    rw [create_exhausted full]
    exact ⟨rfl, iff_of_true rfl not_false⟩
  cases call with
  | newUser expr => exact created _
  | newTagged sort tag => exact created _
  | newFunction result => exact created _
  | newArray element size =>
    obtain ⟨same, stopped⟩ := newArray_exhausted full element size
    exact ⟨same, Reply.map_eq_error.trans stopped⟩
  | pointerTo element =>
    obtain ⟨same, stopped⟩ := pointerTo_of_exhausted full element
    exact ⟨same, Reply.map_eq_error.trans stopped⟩
  | _ => cases asks

end Exhausted

/-- The numbers of ids are apart and can be told back. A position below the supply has the id whose
number is sixty-four more, which names no builtin, is not reserved and is not that of no type, and
tells the position; a position from there on has none; and an id that tells a position is the id of
it. An arena that calls bring about fits the supply. In one that does, every id names what its
number says, only builtins may not be changed, and those ids are contained that name a node. As soon
as the supply is used up, a call that asks for a node is misused and leaves the nodes and the table
of pointers as they were, unless it asks for a pointer that is known or passes a null element. -/
theorem ids_are_numbered :
    (∀ index, index < UInt32.size - 65 → ∃ id, NodeId.ofIndex? index = some id ∧
      id.raw.toNat = index + 64 ∧ id.isBuiltin = false ∧
      ¬ (14 ≤ id.raw.toNat ∧ id.raw.toNat < 64) ∧ id.isNull = false ∧ id.index? = some index) ∧
    (∀ index, UInt32.size - 65 ≤ index → NodeId.ofIndex? index = none) ∧
    (∀ (id : NodeId) (index : Nat), id.index? = some index → NodeId.ofIndex? index = some id) ∧
    (∀ calls, (Arena.empty.run calls).size ≤ UInt32.size - 65) ∧
    ∀ arena : Arena, arena.size ≤ UInt32.size - 65 →
      (∀ id, arena.Sorts id ∧
        (id.raw.toNat < 14 → arena.owned id = .error
          (.invalidOperation "get_mut" .builtin "builtin types are shared and immutable")) ∧
        (14 ≤ id.raw.toNat → arena.owned id = arena.lookup id) ∧
        (arena.contains id = true ↔ ∃ node, arena.lookup id = .ok node)) ∧
      (arena.size = UInt32.size - 65 → ∀ call : Call, call.born?.isSome = true →
        (call.perform arena).arena = arena ∧
        ((call.perform arena).answer = .error (.fault .exhaustedIds) ↔
          ¬ call.NeedsNoId arena)) := by
  refine ⟨fun index below => ?_, fun _ => ofIndex?_eq_none_iff.mpr, fun _ _ => ofIndex?_of_index?,
    fun calls => ?_, fun arena fits => ⟨fun id => ?_, fun full call asks => ?_⟩⟩
  · obtain ⟨id, issued⟩ := exists_ofIndex?_iff.mpr below
    have position := index?_of_ofIndex? issued
    have number := toNat_of_index? position
    unfold firstOwned at number
    have high : ¬ id.isBuiltin = true := fun low => absurd (isBuiltin_iff.mp low) (by omega)
    exact ⟨id, issued, by omega, Bool.eq_false_iff.mpr high, by omega, isNull_of_index? position,
      position⟩
  · have step (before after : Arena) (call : Call) (_ : True) (effect : call.Effect before after) :
        before.size ≤ supply → after.size ≤ supply := size_le_supply effect
    exact run_holds step (Nat.zero_le _) calls fun _ _ => trivial
  · refine ⟨sorts_of_fits fits id, fun low => ?_, fun high => ?_, contains_iff⟩
    · rw [owned, if_pos (isBuiltin_iff.mpr low)]
    · rw [owned, if_neg fun low => absurd (isBuiltin_iff.mp low) (Nat.not_lt.mpr high)]
  · exact perform_exhausted (ofIndex?_eq_none_iff.mpr full.ge) asks

-- One node for every id.
def crowd : List Call := List.replicate (UInt32.size - 65) (.newUser (.integer 0))

theorem size_run_newUser (expr : Expr) (count : Nat) (fits : arena.size + count ≤ supply) :
    (arena.run (List.replicate count (.newUser expr))).size = arena.size + count := by
  induction count generalizing arena with
  | zero => rfl
  | succ count ih =>
    obtain ⟨id, issued⟩ := exists_ofIndex?_iff.mpr (show arena.size < supply by omega)
    have grown : ((Call.newUser expr).perform arena).arena.size = arena.size + 1 := by
      simp only [Call.perform, Reply.map, newUser, create, issued]
      exact Array.size_push _
    rw [List.replicate_succ, run_cons, ih (by omega), grown]
    omega

theorem ids_are_numbered_crowd :
    let arena := Arena.empty.run crowd
    arena.size = UInt32.size - 65 ∧ arena.contains ⟨4294967294⟩ = true ∧
      arena.lookup ⟨4294967295⟩ = .error .nullType ∧
      ((Call.newTagged .struct "S").perform arena).answer = .error (.fault .exhaustedIds) := by
  have full : (Arena.empty.run crowd).size = UInt32.size - 65 :=
    (size_run_newUser (.integer 0) _ (by decide)).trans (Nat.zero_add _)
  obtain ⟨named, exhausted⟩ := ids_are_numbered.2.2.2.2 (Arena.empty.run crowd) full.le
  have within : 64 ≤ (⟨4294967294⟩ : NodeId).raw.toNat ∧
      (⟨4294967294⟩ : NodeId).raw.toNat < 64 + (Arena.empty.run crowd).size := by
    rw [full]
    decide
  obtain ⟨sorts, -, -, contained⟩ := named ⟨4294967294⟩
  obtain ⟨-, node, -, -, found⟩ := sorts.owned_iff.mpr within
  exact ⟨full, contained.mpr ⟨node, found⟩, (named ⟨4294967295⟩).1.null_iff.mpr rfl,
    (exhausted full (.newTagged .struct "S") rfl).2.mpr not_false⟩

end Arena

end TypeGraph
