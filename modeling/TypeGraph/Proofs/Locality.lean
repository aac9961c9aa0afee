import Mathlib.Data.Finset.Prod
import TypeGraph.Proofs.AgreedForms
import TypeGraph.Proofs.Interning
import TypeGraph.Proofs.Replay

set_option autoImplicit false

namespace TypeGraph

open Relation Descent PrinterOver

namespace Node

def measured (node : Node) : List Handle :=
  match node.payload with
  | .user _ | .array _ => [node.target]
  | _ => []

theorem mem_handles_of_mem_measured {node : Node} {handle : Handle}
    (member : handle ∈ node.measured) : handle ∈ node.handles := by
  obtain ⟨target, canonical, payload⟩ := node
  cases payload with
  | user name => exact mem_handles_of_mem_spine member
  | array size => exact mem_handles_of_mem_spine member
  | _ => cases member

end Node

theorem Handle.andThen_congr {α : Type} {handle : Handle} {next more : NodeId → Answer α}
    (same : handle.isNull = false → next handle.node = more handle.node) :
    handle.andThen next = handle.andThen more := by
  cases null : handle.isNull with
  | true => rw [andThen_of_null null, andThen_of_null null]
  | false => rw [andThen_of_valid null, andThen_of_valid null, same null]

namespace Arena

variable {inside within : NodeId → Prop} {arena later after : Arena} {call : Call}
  {target : Handle} {id a b : NodeId}

theorem widthWithin_of_leads (levels : Nat) (leads : arena.Leads Node.measured a b) :
    arena.widthWithin (levels + 1) a = arena.widthWithin levels b := by
  obtain ⟨node, found, handle, member, valid, rfl⟩ := leads
  obtain ⟨target, canonical, payload⟩ := node
  cases payload with
  | user name =>
    cases List.mem_singleton.mp member
    simp [widthWithin, found, valid, Handle.andThen_of_valid valid]
  | array size =>
    cases List.mem_singleton.mp member
    simp [widthWithin, found, Handle.andThen_of_valid valid]
  | _ => cases member

theorem Agrees.width_eq (agrees : Agrees inside arena later) (start : inside id) :
    arena.width id = later.width id := by
  apply agrees.alike (fun _ _ => Node.mem_handles_of_mem_measured) widthWithin
    (· = .error .outOfFuel) (fun _ _ => rfl)
    (fun _ levels _ _ leads endless => (widthWithin_of_leads levels leads).trans endless) Eq 0
    (fun _ _ left right => left.trans right.symm) ?_ start arena.size_lt_levels
    (agrees.grows.trans_lt later.size_lt_levels)
  intro id start levels levels' _ _ below
  have found' := agrees.same id start
  cases found : arena.lookup id with
  | error refusal => simp only [widthWithin, found, found']
  | ok node =>
    have onward (member : node.target ∈ node.measured) :
        node.target.andThen (arena.widthWithin levels) =
          node.target.andThen (later.widthWithin levels') :=
      Handle.andThen_congr fun valid => below _ (leads_of_mem found member valid)
    simp only [widthWithin, found, found']
    obtain ⟨target, canonical, payload⟩ := node
    cases payload with
    | user name =>
      simp only
      rw [onward List.mem_cons_self]
    | array size => exact onward List.mem_cons_self
    | tagged sort body => cases sort <;> rfl
    | _ => rfl

theorem aliasName_stuck (arena : Arena) (levels : Nat) (a b : NodeId)
    (leads : arena.Leads Node.elements a b)
    (endless : arena.aliasNameWithin levels b = .error .outOfFuel) :
    arena.aliasNameWithin (levels + 1) a = .error .outOfFuel := by
  obtain ⟨node, found, handle, member, valid, rfl⟩ := leads
  obtain ⟨target, canonical, payload⟩ := node
  cases payload with
  | pointer =>
    cases List.mem_singleton.mp member
    simp [aliasNameWithin, found, Node.kind, Payload.kind, Handle.andThen_of_valid valid, endless]
  | array size =>
    cases List.mem_singleton.mp member
    simp [aliasNameWithin, found, Node.kind, Payload.kind, Handle.andThen_of_valid valid, endless]
  | _ => cases member

theorem Agrees.aliasName_eq (agrees : Agrees inside arena later) (start : inside id) :
    arena.aliasName id = later.aliasName id := by
  apply agrees.alike (fun _ _ => Node.mem_handles_of_mem_elements) aliasNameWithin
    (· = .error .outOfFuel) (fun _ _ => rfl) aliasName_stuck Eq 0
    (fun _ _ left right => left.trans right.symm) ?_ start arena.size_lt_levels
    (agrees.grows.trans_lt later.size_lt_levels)
  intro id start levels levels' _ _ below
  have found' := agrees.same id start
  cases found : arena.lookup id with
  | error refusal => simp only [aliasNameWithin, found, found']
  | ok node =>
    have onward (member : node.target ∈ node.elements) :
        node.target.andThen (arena.aliasNameWithin levels) =
          node.target.andThen (later.aliasNameWithin levels') :=
      Handle.andThen_congr fun valid => below _ (leads_of_mem found member valid)
    simp only [aliasNameWithin, found, found']
    obtain ⟨target, canonical, payload⟩ := node
    cases payload with
    | pointer => exact onward List.mem_cons_self
    | array size => exact onward List.mem_cons_self
    | tagged sort body => cases sort <;> rfl
    | _ => rfl

theorem Agrees.canonical_eq (agrees : Agrees inside arena later) (start : inside target.node) :
    target.canonical arena = target.canonical later := by
  unfold Handle.canonical Handle.lookup Handle.nodeId?
  cases null : target.isNull with
  | true => rfl
  | false => simp only [Bool.false_eq_true, if_false, agrees.same _ start]

structure Abreast (arena : Arena) (pair next : NodeId × NodeId) : Prop where
  left : arena.Leads Node.elements pair.1 next.1
  right : arena.Leads Node.elements pair.2 next.2
  kinds : (arena.lookup pair.1).map Node.kind = (arena.lookup pair.2).map Node.kind

theorem abreast_stuck (arena : Arena) (levels : Nat) (pair next : NodeId × NodeId)
    (abreast : arena.Abreast pair next)
    (endless : arena.compatibleWithin levels next.1 next.2 = .error .outOfFuel) :
    arena.compatibleWithin (levels + 1) pair.1 pair.2 = .error .outOfFuel := by
  obtain ⟨left, foundLeft, handle, member, valid, first⟩ := abreast.left
  obtain ⟨right, foundRight, handle', member', valid', second⟩ := abreast.right
  obtain ⟨element, rfl⟩ := Node.mem_elements_iff.mp member
  obtain ⟨element', rfl⟩ := Node.mem_elements_iff.mp member'
  have kinds : left.kind = right.kind := by
    simpa [foundLeft, foundRight, Except.map] using abreast.kinds
  have plain {node : Node} (element : node.kind.needsElement = true) : node.kind ≠ .user := by
    intro user
    simp [user, Kind.needsElement] at element
  rw [compatibleWithin_succ levels foundLeft foundRight,
    if_neg (not_or.mpr ⟨plain element, plain element'⟩), if_neg (not_not.mpr kinds), if_pos element,
    Handle.andThen_of_valid valid, Handle.andThen_of_valid valid', first, second, endless]

section Comparison

variable {pair next : NodeId × NodeId} (agrees : Agrees inside arena later)
  (agrees' : Agrees within arena later)
include agrees agrees'

theorem Abreast.onward (abreast : arena.Abreast pair next) (start : inside pair.1 ∧ within pair.2) :
    inside next.1 ∧ within next.2 :=
  ⟨agrees.closed _ _ start.1 (abreast.left.mono fun _ _ => Node.mem_handles_of_mem_elements),
    agrees'.closed _ _ start.2 (abreast.right.mono fun _ _ => Node.mem_handles_of_mem_elements)⟩

theorem Abreast.kept (abreast : arena.Abreast pair next) (start : inside pair.1 ∧ within pair.2) :
    later.Abreast pair next := by
  refine ⟨agrees.leads start.1 abreast.left, agrees'.leads start.2 abreast.right, ?_⟩
  rw [agrees.same _ start.1, agrees'.same _ start.2]
  exact abreast.kinds

theorem both_outOfFuel (start : inside pair.1 ∧ within pair.2)
    (winds : Winds arena.Abreast pair) (levels : Nat) :
    arena.compatibleWithin levels pair.1 pair.2 = .error .outOfFuel ∧
      later.compatibleWithin levels pair.1 pair.2 = .error .outOfFuel := by
  refine holds_of_winds
    (fun levels pair => inside pair.1 ∧ within pair.2 →
      arena.compatibleWithin levels pair.1 pair.2 = .error .outOfFuel ∧
        later.compatibleWithin levels pair.1 pair.2 = .error .outOfFuel)
    (fun _ _ => ⟨rfl, rfl⟩) ?_ levels winds start
  intro levels pair next abreast below start
  obtain ⟨here, there⟩ := below (abreast.onward agrees agrees' start)
  exact ⟨abreast_stuck arena levels pair next abreast here,
    abreast_stuck later levels pair next (abreast.kept agrees agrees' start) there⟩

theorem compatible_step (start : inside pair.1 ∧ within pair.2) (levels levels' : Nat)
    (below : ∀ next, arena.Abreast pair next →
      arena.compatibleWithin levels next.1 next.2 = later.compatibleWithin levels' next.1 next.2) :
    arena.compatibleWithin (levels + 1) pair.1 pair.2 =
      later.compatibleWithin (levels' + 1) pair.1 pair.2 := by
  have foundLeft' := agrees.same _ start.1
  have foundRight' := agrees'.same _ start.2
  cases foundLeft : arena.lookup pair.1 with
  | error refusal => simp only [compatibleWithin, foundLeft', foundLeft]
  | ok left =>
    cases foundRight : arena.lookup pair.2 with
    | error refusal =>
      simp only [compatibleWithin, foundLeft', foundLeft, foundRight', foundRight]
    | ok right =>
      rw [foundLeft] at foundLeft'
      rw [foundRight] at foundRight'
      rw [compatibleWithin_succ levels foundLeft foundRight,
        compatibleWithin_succ levels' foundLeft' foundRight']
      split
      · rfl
      split
      · rfl
      rename_i same
      rw [not_not] at same
      split
      · rename_i element
        have member := Node.mem_elements_iff.mpr ⟨element, rfl⟩
        have member' := Node.mem_elements_iff.mpr ⟨same ▸ element, rfl⟩
        apply Handle.andThen_congr
        intro valid
        apply Handle.andThen_congr
        intro valid'
        apply below (left.target.node, right.target.node)
        refine ⟨leads_of_mem foundLeft member valid, leads_of_mem foundRight member' valid', ?_⟩
        simp [foundLeft, foundRight, Except.map, same]
      · rfl

theorem Agrees.compatible_eq (start : inside a) (start' : within b) :
    arena.compatible a b = later.compatible a b := by
  -- Both sides go down at once, so that the recursion is over pairs of nodes.
  have few : (arena.ids ×ˢ arena.ids).card ≤ arena.size * arena.size := by
    rw [Finset.card_product]
    exact Nat.mul_le_mul arena.card_ids_le arena.card_ids_le
  have enough {top : Nat} (above : arena.size < top) :
      (arena.ids ×ˢ arena.ids).card + 0 < top * top :=
    Nat.lt_of_le_of_lt few (Nat.mul_self_lt_mul_self above)
  apply alike_along arena.Abreast (arena.ids ×ˢ arena.ids)
    (fun levels pair => arena.compatibleWithin levels pair.1 pair.2)
    (fun levels pair => later.compatibleWithin levels pair.1 pair.2) Eq
    (fun pair => inside pair.1 ∧ within pair.2) 0 ?_
    (fun pair next start abreast => abreast.onward agrees agrees' start) ?_
    (fun pair start levels levels' _ _ => compatible_step agrees agrees' start levels levels')
    (a := (a, b)) ⟨start, start'⟩ (enough arena.size_lt_levels)
    (enough (agrees.grows.trans_lt later.size_lt_levels))
  · intro pair next abreast
    exact Finset.mem_product.mpr
      ⟨abreast.left.mem_ids fun _ => rfl, abreast.right.mem_ids fun _ => rfl⟩
  · intro pair start winds levels levels'
    have endless := both_outOfFuel agrees agrees' start winds
    exact (endless levels).1.trans (endless levels').2.symm

end Comparison

theorem lookup_of_effect (effect : call.Effect arena after) (present : arena.contains id = true)
    (apart : call.place? ≠ some id) : after.lookup id = arena.lookup id := by
  have issued_ne {other : NodeId} (issued : NodeId.ofIndex? arena.size = some other) :
      id ≠ other := by
    rintro rfl
    simp [not_contains_of_issued issued] at present
  cases effect with
  | nothing => rfl
  | made wanted issued => rw [lookup_push issued, if_neg (issued_ne issued)]
  | shared wanted valid missing issued => rw [lookup_push issued, if_neg (issued_ne issued)]
  | edited found edit =>
    rw [lookup_store found, if_neg]
    rintro rfl
    exact apart edit.place?_eq.1

theorem lookup_run (calls : List Call) (present : arena.contains id = true)
    (apart : ∀ call ∈ calls, call.place? ≠ some id) :
    (arena.run calls).lookup id = arena.lookup id := by
  induction calls generalizing arena with
  | nil => rfl
  | cons call calls ih =>
    obtain ⟨head, tail⟩ := List.forall_mem_cons.mp apart
    have kept := lookup_of_effect (effect_perform call arena) present head
    refine (ih ?_ tail).trans kept
    rwa [contains, kept, ← contains]

theorem size_le_of_run (arena : Arena) (calls : List Call) :
    arena.size ≤ (arena.run calls).size :=
  @run_holds arena _ (fun after => arena.size ≤ after.size)
    (fun _ _ _ _ effect grown => grown.trans (size_le_of_effect effect)) (Nat.le_refl _) calls
    fun _ _ => trivial

theorem agrees_run
    (closed : ∀ id node, arena.lookup id = .ok node →
      ∀ handle ∈ node.handles, arena.resolves handle = true)
    (present : arena.contains id = true) (calls : List Call)
    (apart : ∀ call ∈ calls, ∀ place, call.place? = some place →
      ¬ ReflTransGen (arena.Leads Node.handles) id place) :
    Agrees (ReflTransGen (arena.Leads Node.handles) id) arena (arena.run calls) where
  same met path := by
    apply lookup_run calls
    · rcases ReflTransGen.cases_tail path with rfl | ⟨before, -, leads⟩
      · exact present
      · obtain ⟨node, found, handle, member, valid, rfl⟩ := leads
        simpa [resolves, valid] using closed before node found handle member
    · intro call member place
      exact apart call member met place path
  closed a b path leads := path.tail leads
  grows := size_le_of_run arena calls

/-- What calls do to other nodes is not seen from a type: if every type that a node refers to is null
or names a node as well, then after any calls, of which none is on a node that the type leads to, each
form of the type is written as before into any sink, the canonical type is the same, and the same
answers are given about its node. What came to no end before comes to none. -/
theorem unreached_calls_unseen
    (closed : ∀ id node, arena.lookup id = .ok node →
      ∀ handle ∈ node.handles, arena.resolves handle = true)
    (present : arena.contains target.node = true) (calls : List Call)
    (apart : ∀ call ∈ calls, ∀ place, call.place? = some place →
      ¬ ReflTransGen (arena.Leads Node.handles) target.node place) :
    let later := arena.run calls
    Alike (arena.writeName target) (later.writeName target) ∧
    (∀ indent, Alike (arena.writeFull target indent) (later.writeFull target indent)) ∧
    Alike (arena.writeEffective target) (later.writeEffective target) ∧
    (∀ indent scope,
      Alike (arena.writeDump target indent scope) (later.writeDump target indent scope)) ∧
    target.canonical arena = target.canonical later ∧
    arena.width target.node = later.width target.node ∧
    arena.aliasName target.node = later.aliasName target.node ∧
    (∀ other, arena.contains other = true →
      (∀ call ∈ calls, ∀ place, call.place? = some place →
        ¬ ReflTransGen (arena.Leads Node.handles) other place) →
      arena.compatible target.node other = later.compatible target.node other ∧
        arena.compatible other target.node = later.compatible other target.node) := by
  have agrees := agrees_run closed present calls apart
  have start : target.isNull = false →
      ReflTransGen (arena.Leads Node.handles) target.node target.node := fun _ => .refl
  refine ⟨agrees.name_alike start, agrees.full_alike start, agrees.effective_alike start,
    agrees.dump_alike start, agrees.canonical_eq .refl, agrees.width_eq .refl,
    agrees.aliasName_eq .refl, fun other present' apart' => ?_⟩
  have agrees' := agrees_run closed present' calls apart'
  exact ⟨agrees.compatible_eq agrees' .refl .refl, agrees'.compatible_eq agrees .refl .refl⟩

-- A struct with a pointer to it as its member, and an alias of which more is said afterwards: the
-- alias is resolved to the pointer, and a function of the alias takes the struct.
def listNode : List Call :=
  [.newTagged .struct "N", .pointerTo (Handle.ofNode ⟨64⟩),
    .attachMembers ⟨64⟩ [.plain "next" (Handle.ofNode ⟨65⟩)], .newUser (.identifier none "L")]

def listUses : List Call :=
  [.resolve ⟨66⟩ (Handle.ofNode ⟨65⟩), .newFunction (Handle.ofNode ⟨66⟩),
    .appendArgument ⟨67⟩ (Handle.ofNode ⟨64⟩)]

theorem unreached_calls_unseen_listNode :
    let arena := Arena.empty.run listNode
    let later := arena.run listUses
    Built arena ∧ arena.contains ⟨64⟩ = true ∧
      later.width ⟨66⟩ = .ok pointerWidth ∧
      Alike (arena.writeFull (Handle.ofNode ⟨65⟩) 0) (later.writeFull (Handle.ofNode ⟨65⟩) 0) ∧
      arena.compatible ⟨65⟩ ⟨64⟩ = later.compatible ⟨65⟩ ⟨64⟩ := by
  have built := Built.empty.run listNode (by cbv)
  have record : (Arena.empty.run listNode).lookup ⟨64⟩ = .ok ⟨Handle.null, Handle.ofNode ⟨64⟩,
      .tagged .struct ⟨"N", some [.plain "next" (Handle.ofNode ⟨65⟩)]⟩⟩ := by cbv
  have pointer : (Arena.empty.run listNode).lookup ⟨65⟩ =
      .ok ⟨Handle.ofNode ⟨64⟩, Handle.null, .pointer⟩ := by cbv
  have present : (Arena.empty.run listNode).contains ⟨64⟩ = true := by cbv
  have present' : (Arena.empty.run listNode).contains (Handle.ofNode ⟨65⟩).node = true := by cbv
  -- The struct and the pointer lead to each other and to nothing else.
  have met (start id : NodeId) (among : start = ⟨64⟩ ∨ start = ⟨65⟩)
      (path : ReflTransGen ((Arena.empty.run listNode).Leads Node.handles) start id) :
      id = ⟨64⟩ ∨ id = ⟨65⟩ := by
    induction path with
    | refl => exact among
    | tail _ leads ih =>
      obtain ⟨node, found, handle, member, valid, rfl⟩ := leads
      rcases ih with rfl | rfl
      · cases found.symm.trans record
        rcases List.mem_pair.mp member with rfl | rfl
        · cases valid
        · exact .inr rfl
      · cases found.symm.trans pointer
        cases List.mem_singleton.mp member
        exact .inl rfl
  have apart (start : NodeId) (among : start = ⟨64⟩ ∨ start = ⟨65⟩) (call : Call)
      (member : call ∈ listUses) (place : NodeId) (on : call.place? = some place) :
      ¬ ReflTransGen ((Arena.empty.run listNode).Leads Node.handles) start place := by
    have elsewhere : listUses.all fun call =>
        call.place? ≠ some ⟨64⟩ ∧ call.place? ≠ some ⟨65⟩ := by decide
    have different := of_decide_eq_true (List.all_eq_true.mp elsewhere call member)
    intro path
    rcases met start place among path with rfl | rfl
    · exact different.1 on
    · exact different.2 on
  obtain ⟨-, full, -, -, -, -, -, compatible⟩ :=
    unreached_calls_unseen built.sound.closed present' listUses (apart ⟨65⟩ (.inr rfl))
  exact ⟨built, present, by cbv, full 0,
    (compatible ⟨64⟩ present (apart ⟨64⟩ (.inl rfl))).1⟩

end Arena

end TypeGraph
