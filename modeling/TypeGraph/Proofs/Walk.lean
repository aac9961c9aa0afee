import TypeGraph.Form.Name
import TypeGraph.Proofs.Printing
import TypeGraph.Proofs.Spine
import TypeGraph.Query.AliasName
import TypeGraph.Query.Compatibility
import TypeGraph.Query.Width

set_option autoImplicit false

namespace TypeGraph

open Relation Descent PrinterOver

namespace Answer

variable {α : Type}

def Ends (answer : Answer α) : Prop := answer ≠ .error .outOfFuel

@[simp] theorem ends_ok (value : α) : Ends (.ok value) := nofun

@[simp] theorem ends_refused (error : Refusal) : Ends (.error (.refused error) : Answer α) := nofun

@[simp] theorem ends_fault (fault : Fault) : Ends (.error (.fault fault) : Answer α) := nofun

end Answer

namespace Handle

variable {α : Type} {handle : Handle} {next more : NodeId → Answer α}

theorem andThen_of_valid (valid : handle.isNull = false) : handle.andThen next = next handle.node := by
  simp [andThen, nodeId, valid]

theorem andThen_of_null (null : handle.isNull = true) :
    handle.andThen next = .error (.fault .nullHandle) := by
  simp [andThen, nodeId, null]

theorem andThen_settles (same : handle.isNull = false →
      next handle.node = more handle.node ∧ (next handle.node).Ends) :
    handle.andThen next = handle.andThen more ∧ (handle.andThen next).Ends := by
  cases null : handle.isNull with
  | true => simp [andThen_of_null null]
  | false => simpa [andThen_of_valid null] using same null

end Handle

namespace Arena

variable {arena : Arena} {id : NodeId} {node : Node}

noncomputable def depth (arena : Arena) (id : NodeId) : Nat :=
  height (arena.Leads Node.spine) arena.ids id

theorem depth_le_size (arena : Arena) (id : NodeId) : arena.depth id ≤ arena.size :=
  height_le_card.trans arena.card_ids_le

theorem depth_lt {a b : NodeId} (free : ¬ TransGen (arena.Leads Node.spine) a a)
    (leads : arena.Leads Node.spine a b) : arena.depth b < arena.depth a :=
  height_lt (leads.mem_ids fun _ => rfl) leads free

theorem Straight.depth_lt (straight : arena.Straight)
    {a b : NodeId} (leads : arena.Leads Node.spine a b) :
    arena.depth b < arena.depth a :=
  Arena.depth_lt (straight.acyclic a) leads

-- How far down a handle can lead along some links. A null handle lies below every node that stands on
-- something.
noncomputable def depthBy (arena : Arena) (link : NodeId → NodeId → Prop) (handle : Handle) : Nat :=
  if handle.isNull then 0 else height link arena.ids handle.node

theorem depthBy_le (arena : Arena) (link : NodeId → NodeId → Prop) (handle : Handle) :
    arena.depthBy link handle ≤ arena.ids.card := by
  unfold depthBy
  split
  · exact Nat.zero_le _
  · exact height_le_card

theorem depthBy_lt {link : NodeId → NodeId → Prop} {handle below : Handle}
    (free : ¬ TransGen link handle.node handle.node) (valid : handle.isNull = false)
    (found : arena.lookup handle.node = .ok node) (stands : below ∈ node.spine)
    (linked : below.isNull = false → link handle.node below.node) :
    arena.depthBy link below < arena.depthBy link handle := by
  have present := mem_ids_of_mem (fun _ => rfl) found stands
  simp only [depthBy, valid, Bool.false_eq_true, if_false]
  split
  · exact height_pos present
  · rename_i valid'
    exact height_lt present (linked (Bool.eq_false_iff.mpr valid')) free

noncomputable def handleDepth (arena : Arena) (handle : Handle) : Nat :=
  if handle.isNull then 0 else arena.depth handle.node

theorem handleDepth_le (arena : Arena) (handle : Handle) :
    arena.handleDepth handle ≤ arena.ids.card :=
  arena.depthBy_le (arena.Leads Node.spine) handle

theorem handleDepth_lt {handle below : Handle}
    (free : ¬ TransGen (arena.Leads Node.spine) handle.node handle.node)
    (valid : handle.isNull = false) (found : arena.lookup handle.node = .ok node)
    (stands : below ∈ node.spine) : arena.handleDepth below < arena.handleDepth handle :=
  depthBy_lt free valid found stands (leads_of_mem found stands)

theorem Straight.settles (straight : arena.Straight)
    {β : Type} {run : Nat → NodeId → β} {ended : β → Prop}
    (step : ∀ id levels more,
      (∀ b, arena.Leads Node.spine id b → run levels b = run more b ∧ ended (run levels b)) →
        run (levels + 1) id = run (more + 1) id ∧ ended (run (levels + 1) id))
    (id : NodeId) {top : Nat} (above : arena.size + 1 ≤ top) :
    Settles ended (fun levels => run levels id) (arena.size + 1) (run top id) := by
  apply settles_along run (fun _ _ leads => leads.mem_ids fun _ => rfl) step ?_
    (Nat.lt_succ_of_le arena.card_ids_le) above
  rintro ⟨c, -, cycle⟩
  exact straight.acyclic c cycle

theorem size_lt_levels (arena : Arena) : arena.size + 1 ≤ arena.levels := Nat.le_succ _

theorem onward {α : Type} {levels more : NodeId → Answer α} (found : arena.lookup id = .ok node)
    (stands : node.spine = [node.target])
    (below : ∀ b, arena.Leads Node.spine id b → levels b = more b ∧ (levels b).Ends) :
    node.target.andThen levels = node.target.andThen more ∧ (node.target.andThen levels).Ends :=
  Handle.andThen_settles fun valid =>
    below _ (leads_of_mem found (stands ▸ List.mem_singleton_self _) valid)

theorem Straight.width_settles (straight : arena.Straight) (id : NodeId) :
    Settles Answer.Ends (fun levels => arena.widthWithin levels id) (arena.size + 1)
      (arena.width id) := by
  apply straight.settles ?_ id arena.size_lt_levels
  intro id levels more below
  cases found : arena.lookup id with
  | error refusal => simp [widthWithin, found]
  | ok node =>
    simp only [widthWithin, found]
    obtain ⟨target, canonical, payload⟩ := node
    cases payload with
    | user expr =>
      cases null : target.isNull with
      | true => simp
      | false => simpa [null] using onward found rfl below
    | array bound => exact onward found rfl below
    | tagged sort body => cases sort <;> simp
    | _ => simp

theorem Straight.aliasName_settles (straight : arena.Straight) (id : NodeId) :
    Settles Answer.Ends (fun levels => arena.aliasNameWithin levels id) (arena.size + 1)
      (arena.aliasName id) := by
  apply straight.settles ?_ id arena.size_lt_levels
  intro id levels more below
  cases found : arena.lookup id with
  | error refusal => simp [aliasNameWithin, found]
  | ok node =>
    simp only [aliasNameWithin, found]
    obtain ⟨target, canonical, payload⟩ := node
    cases payload with
    | user expr => cases expr <;> simp [Node.kind, Payload.kind, Node.expr?]
    | pointer => exact onward found rfl below
    | array bound => exact onward found rfl below
    | tagged sort body => cases sort <;> simp [Node.kind, Payload.kind, TagKind.kind]
    | _ => simp [Node.kind, Payload.kind]

theorem onward_handle {next : Node → List Handle} {handle : Handle} {levels more : NodeId → Printer}
    (found : arena.lookup id = .ok node) (member : handle ∈ next node)
    (below : ∀ b, arena.Leads next id b → levels b = more b ∧ Ends (levels b)) :
    Printer.handle levels handle = Printer.handle more handle ∧
      Ends (Printer.handle levels handle) := by
  have leads (valid : handle.isNull = false) := below _ (leads_of_mem found member valid)
  exact ⟨Printer.handle_congr fun valid => (leads valid).1,
    Printer.stopsOnly_handle fun valid => (leads valid).2⟩

theorem Straight.nodeName_settles (straight : arena.Straight) (id : NodeId) :
    Settles Ends (fun levels => arena.nameWithin levels id) (arena.size + 1)
      (arena.writeNodeName id) := by
  apply straight.settles ?_ id arena.size_lt_levels
  intro id levels more below
  cases found : arena.lookup id with
  | error refusal =>
    simp only [nameWithin, found, true_and]
    exact ends_refused refusal
  | ok node =>
    simp only [nameWithin, found]
    obtain ⟨target, canonical, payload⟩ := node
    cases payload with
    | user expr =>
      cases null : target.isNull with
      | true =>
        simp only [Handle.isValid, null, Bool.not_true, Bool.false_eq_true, if_false, true_and]
        exact Printer.stopsOnly_optional (by simp)
      | false => simpa [Handle.isValid, null] using onward_handle found List.mem_cons_self below
    | pointer =>
      obtain ⟨same, ends⟩ := onward_handle found List.mem_cons_self below
      exact ⟨by rw [same], stopsOnly_seq (by simp [ends])⟩
    | array bound =>
      obtain ⟨same, ends⟩ := onward_handle found List.mem_cons_self below
      exact ⟨by rw [same], stopsOnly_seq (by simp [ends])⟩
    | tagged sort body => exact ⟨rfl, stopsOnly_seq (by simp)⟩
    | func args => exact ⟨rfl, ends_refused _⟩
    | builtin which => exact ⟨rfl, by simp⟩

def compareBases (left right : Node) (a b : NodeId) : Answer Bool :=
  match left.kind with
  | .builtin => .ok (left.builtin?.map Builtin.name == right.builtin?.map Builtin.name)
  | kind => if a = b then .ok true else .error (.refused (incomparable kind))

theorem compareBases_ends (left right : Node) (a b : NodeId) :
    (compareBases left right a b).Ends := by
  unfold compareBases
  split
  · exact Answer.ends_ok _
  · split <;> simp

theorem compatibleWithin_succ {left right : Node} {a b : NodeId} (levels : Nat)
    (foundLeft : arena.lookup a = .ok left) (foundRight : arena.lookup b = .ok right) :
    arena.compatibleWithin (levels + 1) a b =
      if left.kind = .user ∨ right.kind = .user then .error (.refused (incomparable .user))
      else if left.kind ≠ right.kind then .ok false
      else if left.kind.needsElement then
        left.target.andThen fun a => right.target.andThen fun b => arena.compatibleWithin levels a b
      else compareBases left right a b := by
  simp only [compatibleWithin, foundLeft, foundRight, Bool.or_eq_true, decide_eq_true_eq]
  split
  · rfl
  split
  · rfl
  cases kind : left.kind <;> simp [compareBases, kind, Kind.needsElement]

theorem Straight.compatible_settles (straight : arena.Straight) (a b : NodeId) :
    Settles Answer.Ends (fun levels => arena.compatibleWithin levels a b) (arena.size + 1)
      (arena.compatible a b) := by
  -- The two sides go down together, so that the left one alone bounds the recursion.
  have step : ∀ pair : NodeId × NodeId, True → ∀ levels more,
      (∀ below : NodeId × NodeId, arena.Leads Node.spine pair.1 below.1 →
        arena.compatibleWithin levels below.1 below.2 =
            arena.compatibleWithin more below.1 below.2 ∧
          (arena.compatibleWithin levels below.1 below.2).Ends) →
      arena.compatibleWithin (levels + 1) pair.1 pair.2 =
          arena.compatibleWithin (more + 1) pair.1 pair.2 ∧
        (arena.compatibleWithin (levels + 1) pair.1 pair.2).Ends := by
    rintro ⟨a, b⟩ - levels more below
    cases foundLeft : arena.lookup a with
    | error refusal => simp [compatibleWithin, foundLeft]
    | ok left =>
      cases foundRight : arena.lookup b with
      | error refusal => simp [compatibleWithin, foundLeft, foundRight]
      | ok right =>
        have together (next : NodeId) (leads : arena.Leads Node.spine a next) :
            (right.target.andThen fun b => arena.compatibleWithin levels next b) =
                (right.target.andThen fun b => arena.compatibleWithin more next b) ∧
              (right.target.andThen fun b => arena.compatibleWithin levels next b).Ends :=
          Handle.andThen_settles fun _ => below (next, right.target.node) leads
        rw [compatibleWithin_succ levels foundLeft foundRight,
          compatibleWithin_succ more foundLeft foundRight]
        split
        · simp
        split
        · simp
        split
        · rename_i element
          exact onward foundLeft (Node.spine_of_needsElement element) together
        · exact ⟨rfl, compareBases_ends left right a b⟩
  apply settles_of_step (fun levels pair => arena.compatibleWithin levels pair.1 pair.2)
    (fun pair below => arena.Leads Node.spine pair.1 below.1) (fun _ => True)
    (fun pair => arena.depth pair.1) (fun _ => Answer.Ends)
    (fun pair below _ leads => ⟨trivial, straight.depth_lt leads⟩) step (a, b) trivial
  · exact Nat.lt_succ_of_le (arena.depth_le_size a)
  · exact Nat.le_trans arena.size_lt_levels (Nat.le_mul_self _)

def Avoids (arena : Arena) (id a b : NodeId) : Prop := a ≠ id ∧ arena.Leads Node.spine a b

/-- Whether the way from a type along aliases, pointers and arrays goes on for ever without meeting
`id`. -/
def Circles (arena : Arena) (id : NodeId) (target : Handle) : Prop :=
  target.isNull = false ∧ Winds (arena.Avoids id) target.node

theorem reaches_settles_of_not_circles {target : Handle} (free : ¬ arena.Circles id target) :
    Settles Answer.Ends (fun levels => arena.reachesWithin id levels target) (arena.size + 1)
      (arena.reaches target id) := by
  -- The way goes over handles, since it ends at a null handle rather than before it.
  let next (handle below : Handle) : Prop := handle.isNull = false ∧ handle.node ≠ id ∧
    ∃ node, arena.lookup handle.node = .ok node ∧ below ∈ node.spine
  have falls (handle below : Handle) (free : ¬ arena.Circles id handle) (down : next handle below) :
      ¬ arena.Circles id below ∧
        arena.depthBy (arena.Avoids id) below < arena.depthBy (arena.Avoids id) handle := by
    obtain ⟨valid, different, node, found, stands⟩ := down
    have link (valid' : below.isNull = false) : arena.Avoids id handle.node below.node :=
      ⟨different, leads_of_mem found stands valid'⟩
    constructor
    · rintro ⟨valid', c, path, cycle⟩
      exact free ⟨valid, c, .head (link valid') path, cycle⟩
    · exact depthBy_lt (fun cycle => free ⟨valid, _, .refl, cycle⟩) valid found stands link
  have step (handle : Handle) (levels more : Nat)
      (below : ∀ below, next handle below →
        arena.reachesWithin id levels below = arena.reachesWithin id more below ∧
          (arena.reachesWithin id levels below).Ends) :
      arena.reachesWithin id (levels + 1) handle = arena.reachesWithin id (more + 1) handle ∧
        (arena.reachesWithin id (levels + 1) handle).Ends := by
    cases null : handle.isNull with
    | true => simp [reachesWithin, null]
    | false =>
      by_cases same : handle.node = id
      · simp [reachesWithin, null, same]
      · cases found : arena.lookup handle.node with
        | error refusal => simp [reachesWithin, null, same, found]
        | ok node =>
          rw [reachesWithin_of_lookup levels null same found,
            reachesWithin_of_lookup more null same found]
          split
          · simp
          · exact below node.target ⟨null, same, node, found, Node.target_mem_spine ‹_›⟩
  apply settles_of_step (fun levels handle => arena.reachesWithin id levels handle) next
    (fun handle => ¬ arena.Circles id handle) (arena.depthBy (arena.Avoids id))
    (fun _ => Answer.Ends) falls (fun handle _ => step handle) target free ?_ arena.size_lt_levels
  exact Nat.lt_succ_of_le ((arena.depthBy_le _ target).trans arena.card_ids_le)

theorem Straight.not_circles (straight : arena.Straight) (id : NodeId) (target : Handle) :
    ¬ arena.Circles id target := by
  rintro ⟨-, c, -, cycle⟩
  exact straight.acyclic c (TransGen.mono (fun _ _ step => step.2) c c cycle)

theorem Straight.reaches_settles (straight : arena.Straight) (target : Handle) (id : NodeId) :
    Settles Answer.Ends (fun levels => arena.reachesWithin id levels target) (arena.size + 1)
      (arena.reaches target id) :=
  reaches_settles_of_not_circles (straight.not_circles id target)

theorem Straight.name_settles (straight : arena.Straight) (target : Handle) :
    Settles Ends (fun levels => Printer.handle (arena.nameWithin levels) target) (arena.size + 1)
      (arena.writeName target) := by
  obtain ⟨ends, same⟩ := straight.nodeName_settles target.node
  exact ⟨Printer.stopsOnly_handle fun _ => ends,
    fun levels enough => Printer.handle_congr fun _ => same levels enough⟩

/-- In every arena that is built, no way along aliases, pointers and arrays comes back to a node, and
the walks along them end: on as many levels as the arena has nodes and one more, each level being
one node met, and with the same answer on any number of levels above. -/
theorem walks_settle (built : Built arena) :
    (∀ path : List NodeId, path.IsChain (arena.Leads Node.spine) →
      path.Nodup ∧ path.length ≤ arena.size + 1) ∧
    (∀ target id, Settles Answer.Ends (fun levels => arena.reachesWithin id levels target)
      (arena.size + 1) (arena.reaches target id)) ∧
    (∀ id, Settles Answer.Ends (fun levels => arena.widthWithin levels id)
      (arena.size + 1) (arena.width id)) ∧
    (∀ a b, Settles Answer.Ends (fun levels => arena.compatibleWithin levels a b)
      (arena.size + 1) (arena.compatible a b)) ∧
    (∀ id, Settles Answer.Ends (fun levels => arena.aliasNameWithin levels id)
      (arena.size + 1) (arena.aliasName id)) ∧
    (∀ target, Settles Ends (fun levels => Printer.handle (arena.nameWithin levels) target)
      (arena.size + 1) (arena.writeName target)) := by
  have sound := built.sound
  refine ⟨fun path linked => ⟨nodup_of_path sound.acyclic path linked, ?_⟩, sound.reaches_settles,
    sound.width_settles, sound.compatible_settles, sound.aliasName_settles, sound.name_settles⟩
  cases path with
  | nil => exact Nat.zero_le _
  | cons first rest =>
    have met := length_le_height sound.acyclic (fun _ _ leads => leads.mem_ids fun _ => rfl) rest linked
    exact Nat.succ_le_succ (met.trans (arena.depth_le_size first))

-- Two aliases of which one is resolved to an array of pointers to the other, back to nothing, and
-- then the target of the other, after that was refused before.
def turnedAliases : List Call :=
  [.newUser (.identifier none "A"), .newUser (.identifier none "B"),
    .pointerTo (Handle.ofNode ⟨65⟩), .newArray (Handle.ofNode ⟨66⟩) none,
    .resolve ⟨64⟩ (Handle.ofNode ⟨67⟩), .resolve ⟨65⟩ (Handle.ofNode ⟨64⟩),
    .resolve ⟨64⟩ Handle.null, .resolve ⟨65⟩ (Handle.ofNode ⟨64⟩)]

theorem walks_settle_turnedAliases :
    let arena := Arena.empty.run turnedAliases
    Built arena ∧ arena.resolves (Handle.ofNode ⟨67⟩) = true ∧
      Settles Answer.Ends (fun levels => arena.reachesWithin ⟨64⟩ levels (Handle.ofNode ⟨67⟩))
        (arena.size + 1) (arena.reaches (Handle.ofNode ⟨67⟩) ⟨64⟩) := by
  have built := Built.empty.run turnedAliases (by cbv)
  exact ⟨built, by cbv, (walks_settle built).2.1 _ _⟩

end Arena

end TypeGraph
