import TypeGraph.Proofs.Spelling
import TypeGraph.Proofs.Walk

set_option autoImplicit false

namespace TypeGraph

theorem Node.target_mem_spine_of_needsElement {node : Node}
    (stands : node.kind.needsElement = true) : node.target ∈ node.spine := by
  rw [Node.spine_of_needsElement stands]
  exact List.mem_cons_self

namespace Arena

variable {arena : Arena} {a b id base base' : NodeId} {left right node : Node}
  {kinds kinds' : List Kind}

/-- The kinds of the pointers and arrays that are met from a node down, and the first node of another
kind below them. -/
inductive Strips (arena : Arena) : NodeId → List Kind → NodeId → Prop where
  | bare {id : NodeId} {node : Node} (found : arena.lookup id = .ok node)
      (plain : node.kind.needsElement = false) : Strips arena id [] id
  | under {id base : NodeId} {node : Node} {kinds : List Kind}
      (found : arena.lookup id = .ok node) (stands : node.kind.needsElement = true)
      (rest : Strips arena node.target.node kinds base) : Strips arena id (node.kind :: kinds) base

theorem Strips.unique (strips : arena.Strips id kinds base) (other : arena.Strips id kinds' base') :
    kinds' = kinds ∧ base' = base := by
  induction strips generalizing kinds' base' with
  | bare found plain =>
    cases other with
    | bare => exact ⟨rfl, rfl⟩
    | under found' stands =>
      cases found.symm.trans found'
      simp [plain] at stands
  | under found stands rest ih =>
    cases other with
    | bare found' plain =>
      cases found.symm.trans found'
      simp [plain] at stands
    | under found' _ rest' =>
      cases found.symm.trans found'
      obtain ⟨rfl, rfl⟩ := ih rest'
      exact ⟨rfl, rfl⟩

theorem Sound.exists_strips (sound : arena.Sound) (founded : arena.Founded)
    (present : arena.contains id = true) : ∃ kinds base, arena.Strips id kinds base := by
  -- Induction on how far it is to the base.
  induction depth : arena.depth id using Nat.strong_induction_on generalizing id with
  | _ levels ih =>
    obtain ⟨node, found⟩ := contains_iff.mp present
    cases stands : node.kind.needsElement with
    | false => exact ⟨[], id, .bare found stands⟩
    | true =>
      have leads := leads_of_mem found (Node.target_mem_spine_of_needsElement stands)
        (founded id node found stands)
      obtain ⟨kinds, base, rest⟩ :=
        ih _ (depth ▸ sound.depth_lt leads) (sound.contains_of_leads leads) rfl
      exact ⟨node.kind :: kinds, base, .under found stands rest⟩

def IsAlias (arena : Arena) (id : NodeId) : Prop :=
  ∃ node, arena.lookup id = .ok node ∧ node.kind = .user

section Comparison

variable (founded : arena.Founded) (shares : arena.SharesBuiltins)
include founded shares

theorem compatibleWithin_of_lookup (levels : Nat) (foundLeft : arena.lookup a = .ok left)
    (foundRight : arena.lookup b = .ok right) :
    arena.compatibleWithin (levels + 1) a b =
      if left.kind = .user ∨ right.kind = .user then .error (.refused (incomparable .user))
      else if left.kind ≠ right.kind then .ok false
      else if left.kind.needsElement then
        arena.compatibleWithin levels left.target.node right.target.node
      else if a = b then .ok true
      else if left.kind = .builtin then .ok false
      else .error (.refused (incomparable left.kind)) := by
  rw [compatibleWithin_succ levels foundLeft foundRight]
  split
  · rfl
  split
  · rfl
  rename_i same
  rw [not_not] at same
  split
  · rename_i stands
    rw [Handle.andThen_of_valid (founded a left foundLeft stands),
      Handle.andThen_of_valid (founded b right foundRight (same ▸ stands))]
  cases kind : left.kind with
  | builtin =>
    -- Builtins have different names, and each of them is found under one id.
    obtain ⟨first, named, rfl⟩ := shares.builtin? foundLeft kind
    obtain ⟨second, named', rfl⟩ := shares.builtin? foundRight (same ▸ kind)
    by_cases equal : a = b
    · obtain rfl : first = second := by
        subst equal
        exact Option.some.inj (named.symm.trans named')
      simp [compareBases, kind, equal]
    · have apart : first.name ≠ second.name := by
        intro names
        obtain rfl := Builtin.name_injective names
        exact equal (NodeId.eq_of_builtin? named named')
      simp only [compareBases, kind]
      simp [equal, Node.ofBuiltin, Node.builtin?, apart]
  | _ => simp [compareBases, kind]

theorem strips_of_compatibleWithin (levels : Nat)
    (compatible : arena.compatibleWithin levels a b = .ok true) :
    ∃ kinds base, arena.Strips a kinds base ∧ arena.Strips b kinds base ∧ ¬ arena.IsAlias base := by
  induction levels generalizing a b with
  | zero => cases compatible
  | succ levels ih =>
    cases foundLeft : arena.lookup a with
    | error refusal => simp [compatibleWithin, foundLeft] at compatible
    | ok left =>
      cases foundRight : arena.lookup b with
      | error refusal => simp [compatibleWithin, foundLeft, foundRight] at compatible
      | ok right =>
        rw [compatibleWithin_of_lookup founded shares levels foundLeft foundRight] at compatible
        split at compatible
        · cases compatible
        rename_i plain
        split at compatible
        · cases compatible
        rename_i same
        rw [not_not] at same
        split at compatible
        · rename_i stands
          obtain ⟨kinds, base, stripsLeft, stripsRight, proper⟩ := ih compatible
          refine ⟨left.kind :: kinds, base, .under foundLeft stands stripsLeft, ?_, proper⟩
          rw [same] at stands ⊢
          exact .under foundRight stands stripsRight
        · rename_i bottom
          split at compatible
          · rename_i equal
            subst equal
            have bare : arena.Strips a [] a := .bare foundLeft (Bool.eq_false_iff.mpr bottom)
            refine ⟨[], a, bare, bare, ?_⟩
            rintro ⟨node, found, user⟩
            cases found.symm.trans foundLeft
            exact plain (.inl user)
          · split at compatible <;> cases compatible

theorem Strips.compatibleWithin (left : arena.Strips a kinds base)
    (right : arena.Strips b kinds base) (proper : ¬ arena.IsAlias base) (levels : Nat) :
    arena.compatibleWithin (kinds.length + 1 + levels) a b = .ok true := by
  induction left generalizing b with
  | @bare id node found plain =>
    cases right with
    | bare found' plain' =>
      have apart : node.kind ≠ .user := fun user => proper ⟨node, found, user⟩
      rw [List.length_nil, Nat.add_right_comm,
        compatibleWithin_of_lookup founded shares _ found found]
      simp [apart, plain]
  | @under id base node kinds found stands rest ih =>
    generalize leftKind : node.kind = kind at right
    cases right with
    | @under _ _ other _ found' stands' rest' =>
      have apart : node.kind ≠ .user := by
        intro user
        simp [user, Kind.needsElement] at stands
      rw [List.length_cons, Nat.add_right_comm,
        compatibleWithin_of_lookup founded shares _ found found']
      simpa [← leftKind, apart, stands] using ih rest' proper

theorem compatibleWithin_comm (sound : arena.Sound) (levels : Nat)
    (presentLeft : arena.contains a = true) (presentRight : arena.contains b = true) :
    arena.compatibleWithin levels a b = arena.compatibleWithin levels b a := by
  induction levels generalizing a b with
  | zero => rfl
  | succ levels ih =>
    obtain ⟨left, foundLeft⟩ := contains_iff.mp presentLeft
    obtain ⟨right, foundRight⟩ := contains_iff.mp presentRight
    rw [compatibleWithin_of_lookup founded shares levels foundLeft foundRight,
      compatibleWithin_of_lookup founded shares levels foundRight foundLeft]
    simp only [or_comm (a := right.kind = .user), eq_comm (a := b), ne_comm (a := right.kind)]
    split
    · rfl
    split
    · rfl
    rename_i same
    rw [← not_not.mp same]
    split
    · rename_i stands
      have below {id : NodeId} {node : Node} (found : arena.lookup id = .ok node)
          (stands : node.kind.needsElement = true) : arena.contains node.target.node = true :=
        sound.contains_of_leads (leads_of_mem found (Node.target_mem_spine_of_needsElement stands)
          (founded id node found stands))
      exact ih (below foundLeft stands) (below foundRight (not_not.mp same ▸ stands))
    · rfl

end Comparison

theorem Built.compatible_iff (built : Built arena) :
    arena.compatible a b = .ok true ↔
      ∃ kinds base, arena.Strips a kinds base ∧ arena.Strips b kinds base ∧ ¬ arena.IsAlias base := by
  constructor
  · exact strips_of_compatibleWithin built.founded built.sharesBuiltins _
  · rintro ⟨kinds, base, left, right, proper⟩
    -- Enough levels for the chain and for the comparison to have settled.
    rw [← (built.sound.compatible_settles a b).2 (kinds.length + 1 + (arena.size + 1)) (by omega)]
    exact left.compatibleWithin built.founded built.sharesBuiltins right proper _

theorem Built.compatible_comm (built : Built arena) (presentLeft : arena.contains a = true)
    (presentRight : arena.contains b = true) : arena.compatible a b = arena.compatible b a :=
  compatibleWithin_comm built.founded built.sharesBuiltins built.sound _ presentLeft presentRight

def Comparable (arena : Arena) (id : NodeId) : Prop :=
  ∃ kinds base, arena.Strips id kinds base ∧ ¬ arena.IsAlias base

theorem Built.compatible_equivalence (built : Built arena) :
    Equivalence fun a b : {id // arena.Comparable id} =>
      arena.compatible a.val b.val = .ok true where
  refl a := by
    obtain ⟨kinds, base, strips, proper⟩ := a.property
    exact built.compatible_iff.mpr ⟨kinds, base, strips, strips, proper⟩
  symm {a b} compatible := by
    obtain ⟨kinds, base, left, right, proper⟩ := built.compatible_iff.mp compatible
    exact built.compatible_iff.mpr ⟨kinds, base, right, left, proper⟩
  trans {a b c} first second := by
    obtain ⟨kinds, base, left, middle, proper⟩ := built.compatible_iff.mp first
    obtain ⟨kinds', base', middle', right, -⟩ := built.compatible_iff.mp second
    obtain ⟨rfl, rfl⟩ := middle.unique middle'
    exact built.compatible_iff.mpr ⟨_, _, left, right, proper⟩

/-- In every arena that is built, two nodes are compatible if and only if the same pointers and arrays
lead from them to the same node below, which is not an alias. So compatibility is an equivalence where
no alias lies below, and the answer, whatever it is, does not depend on the order of the two. -/
theorem compatible_iff_same_strip (built : Built arena) :
    (∀ id, arena.contains id = true →
      ∃! strip : List Kind × NodeId, arena.Strips id strip.1 strip.2) ∧
    (∀ a b, arena.contains a = true → arena.contains b = true →
      (arena.compatible a b = .ok true ↔
        ∃ kinds base, arena.Strips a kinds base ∧ arena.Strips b kinds base ∧
          ¬ arena.IsAlias base)) ∧
    (Equivalence fun a b : {id // arena.Comparable id} =>
      arena.compatible a.val b.val = .ok true) ∧
    (∀ a b, arena.contains a = true → arena.contains b = true →
      arena.compatible a b = arena.compatible b a) := by
  refine ⟨fun id present => ?_, fun a b _ _ => built.compatible_iff, built.compatible_equivalence,
    fun a b => built.compatible_comm⟩
  obtain ⟨kinds, base, strips⟩ := built.sound.exists_strips built.founded present
  exact ⟨(kinds, base), strips, fun other strips' => Prod.ext_iff.mpr (strips.unique strips')⟩

-- A struct behind two arrays of pointers to it that differ in size and in qualifiers, and an alias of
-- the struct behind another.
def arraysOfPointers : List Call :=
  [.newTagged .struct "S", .pointerTo (Handle.ofNode ⟨64⟩), .pointerTo ⟨⟨64⟩, Qualifiers.const⟩,
    .newArray (Handle.ofNode ⟨65⟩) none, .newArray (Handle.ofNode ⟨66⟩) (some (.owned (.integer 3))),
    .newUser (.identifier none "T"), .resolve ⟨69⟩ (Handle.ofNode ⟨64⟩),
    .pointerTo (Handle.ofNode ⟨69⟩), .newArray (Handle.ofNode ⟨70⟩) none]

theorem compatible_iff_same_strip_arraysOfPointers :
    let arena := Arena.empty.run arraysOfPointers
    Built arena ∧ arena.compatible ⟨67⟩ ⟨68⟩ = .ok true ∧
      (∃ kinds base, arena.Strips ⟨67⟩ kinds base ∧ arena.Strips ⟨68⟩ kinds base ∧
        ¬ arena.IsAlias base) ∧
      arena.compatible ⟨67⟩ ⟨71⟩ = .error (.refused (incomparable .user)) ∧
      arena.compatible ⟨71⟩ ⟨67⟩ = .error (.refused (incomparable .user)) := by
  have built := Built.empty.run arraysOfPointers (by cbv)
  obtain ⟨-, strips, -, swapped⟩ := compatible_iff_same_strip built
  have same : (Arena.empty.run arraysOfPointers).compatible ⟨67⟩ ⟨68⟩ = .ok true := by cbv
  have aliased : (Arena.empty.run arraysOfPointers).compatible ⟨67⟩ ⟨71⟩ =
      .error (.refused (incomparable .user)) := by cbv
  exact ⟨built, same, (strips _ _ (by cbv) (by cbv)).mp same, aliased,
    (swapped _ _ (by cbv) (by cbv)).trans aliased⟩

end Arena

end TypeGraph
