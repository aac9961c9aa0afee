import TypeGraph.Proofs.Effect
import TypeGraph.Proofs.Lookup

set_option autoImplicit false

namespace TypeGraph

structure Entry where
  call : Call
  answer : Answer (Option Handle)

namespace Call

def born? : Call → Option Node
  | .newUser expr => some (Node.ofExpr expr)
  | .newTagged sort tag => some (Node.ofTag sort tag)
  | .newFunction result => some (Node.ofReturn result)
  | .newArray element size => some ⟨element, Handle.null, .array size⟩
  | .pointerTo element => some ⟨element, Handle.null, .pointer⟩
  | _ => none

def place? : Call → Option NodeId
  | .attachMembers id _ | .assignResult id _ | .appendArgument id _ | .resolve id _
  | .assignCanonical id _ | .overwrite id _ _ => some id
  | _ => none

def isPointer : Call → Bool
  | .pointerTo _ => true
  | _ => false

def members? : Call → Option (List Member)
  | .attachMembers _ members => some members
  | _ => none

def result? : Call → Option Handle
  | .assignResult _ result => some result
  | _ => none

def arg? : Call → Option Handle
  | .appendArgument _ arg => some arg
  | _ => none

def target? : Call → Option Handle
  | .resolve _ target => some target
  | _ => none

def canonical? : Call → Option Handle
  | .assignCanonical _ canonical => some canonical
  | _ => none

end Call

namespace Entry

variable {call : Call} {answer : Option Handle} {earlier : List Entry} {element : Handle}

def answered (entry : Entry) : Bool := entry.answer.isOk

@[simp] theorem answered_ok : answered ⟨call, .ok answer⟩ = true := rfl

-- A node is made each time that one is asked for, but a pointer only the first time.
def bears (earlier : List Entry) (entry : Entry) : Bool :=
  entry.answered && entry.call.born?.isSome &&
    !(entry.call.isPointer && earlier.any fun birth => birth.call = entry.call)

def births (history : List Entry) : List Entry :=
  history.foldl
    (fun earlier entry => if entry.bears earlier then earlier ++ [entry] else earlier) []

def changes (history : List Entry) (id : NodeId) : List Call :=
  (history.filter fun entry => entry.answered && entry.call.place? = some id).map Entry.call

theorem bears_plain (born : call.born?.isSome = true) (plain : call.isPointer = false) :
    bears earlier ⟨call, .ok answer⟩ = true := by
  simp [bears, born, plain]

theorem bears_pointerTo :
    bears earlier ⟨.pointerTo element, .ok answer⟩ = true ↔
      ¬ ∃ birth ∈ earlier, birth.call = .pointerTo element := by
  simp [bears, Call.born?, Call.isPointer]

theorem births_snoc (history : List Entry) (entry : Entry) :
    births (history ++ [entry]) =
      if entry.bears (births history) then births history ++ [entry] else births history := by
  rw [births, List.foldl_append]
  rfl

theorem changes_snoc (history : List Entry) (entry : Entry) (id : NodeId) :
    changes (history ++ [entry]) id =
      changes history id ++
        if entry.answered && entry.call.place? = some id then [entry.call] else [] := by
  simp only [changes, List.filter_append, List.map_append]
  by_cases changed : (entry.answered && entry.call.place? = some id) = true <;> simp [changed]

theorem births_prefix (history later : List Entry) :
    births history <+: births (history ++ later) := by
  induction later generalizing history with
  | nil => simp
  | cons entry later ih =>
    have grown : births history <+: births (history ++ [entry]) := by
      rw [births_snoc]
      split
      · exact List.prefix_append _ _
      · exact List.prefix_rfl
    rw [List.append_cons]
    exact grown.trans (ih _)

end Entry

/-- What the calls that were answered make of a node: the members are those of the first, the
arguments those of all, and of the result, the target of an alias and the canonical type the last
ones count. Everything else stays as it was when the node was made. -/
structure Node.Grown (first : Node) (id : NodeId) (changes : List Call) (node : Node) : Prop where
  kind : node.kind = first.kind
  tag : node.tag? = first.tag?
  expr : node.expr? = first.expr?
  size : node.size? = first.size?
  element : first.kind ≠ .user → first.kind ≠ .func → node.target = first.target
  members : node.members? = (changes.filterMap Call.members?).head?
  args : node.args = changes.filterMap Call.arg?
  result : node.result = (changes.filterMap Call.result?).getLast?.getD first.result
  target : first.kind = .user →
    node.target = (changes.filterMap Call.target?).getLast?.getD Handle.null
  canonical : node.canonical =
    if first.kind.isCanonical then Handle.ofNode id
    else (changes.filterMap Call.canonical?).getLast?.getD Handle.null

structure Call.Amends (call : Call) (old new : Node) : Prop where
  kind : new.kind = old.kind
  tag : new.tag? = old.tag?
  expr : new.expr? = old.expr?
  size : new.size? = old.size?
  element : old.kind ≠ .user → old.kind ≠ .func → new.target = old.target
  members : new.members? = old.members?.or call.members?
  args : new.args = old.args ++ call.arg?.toList
  result : new.result = call.result?.getD old.result
  target : old.kind = .user → new.target = call.target?.getD old.target
  canonical : new.canonical =
    if old.kind.isCanonical then old.canonical else call.canonical?.getD old.canonical

theorem Call.Edits.amends {call : Call} {arena : Arena} {id : NodeId} {old new : Node}
    (edit : call.Edits arena id old new) (keeps : call.isOverwrite = false) :
    call.Amends old new := by
  -- A call leaves all fields alone but the one that it is for.
  obtain ⟨target, canonical, payload⟩ := old
  cases call with
  | attachMembers place members =>
    obtain ⟨sort, ⟨tag, before⟩, tagged, unset, rfl⟩ := Node.attachMembers_eq_ok edit.2
    cases tagged
    cases unset
    have own : sort.kind.isCanonical = true := by cases sort <;> rfl
    exact ⟨rfl, rfl, rfl, rfl, fun _ _ => rfl, rfl, rfl, rfl, fun _ => rfl, (if_pos own).symm⟩
  | assignResult place result =>
    obtain ⟨⟨args, func⟩, rfl⟩ := Node.assignResult_eq_ok edit.2
    cases func
    exact ⟨rfl, rfl, rfl, rfl, fun _ func => absurd rfl func, rfl, (List.append_nil _).symm, rfl,
      nofun, rfl⟩
  | appendArgument place arg =>
    obtain ⟨args, func, rfl⟩ := Node.appendArgument_eq_ok edit.2
    cases func
    exact ⟨rfl, rfl, rfl, rfl, fun _ _ => rfl, rfl, rfl, rfl, nofun, rfl⟩
  | resolve place target =>
    obtain ⟨⟨expr, user⟩, rfl⟩ := Node.resolve_eq_ok edit.2.2
    cases user
    exact ⟨rfl, rfl, rfl, rfl, fun user => absurd rfl user, rfl, rfl, rfl, fun _ => rfl, rfl⟩
  | assignCanonical place canonical =>
    obtain ⟨free, rfl⟩ := Node.assignCanonical_eq_ok edit.2
    refine ⟨rfl, rfl, rfl, rfl, fun _ _ => rfl, ?_, (List.append_nil _).symm, rfl, fun _ => rfl, ?_⟩
    · exact (Option.or_none).symm
    · simp [free, Call.canonical?]
  | overwrite place kind target => cases keeps
  | _ => cases edit

namespace Node

variable {first node other old new : Node} {id : NodeId} {changes : List Call} {call : Call}

theorem grown_settled (born : call.born? = some first) : Grown first id [] (first.settled id) := by
  cases call with
  | newTagged sort tag =>
    cases born
    cases sort <;> constructor <;> simp [ofTag, settled, Node.kind, Payload.kind, TagKind.kind,
      Kind.isCanonical, tag?, body?, expr?, size?, members?, args, result]
  | _ =>
    cases born <;> constructor <;> simp [ofExpr, ofReturn, settled, Node.kind, Payload.kind,
      Kind.isCanonical, tag?, body?, expr?, size?, members?, args, result]

theorem Grown.amended (grown : Grown first id changes old) (amends : call.Amends old new) :
    Grown first id (changes ++ [call]) new where
  kind := amends.kind.trans grown.kind
  tag := amends.tag.trans grown.tag
  expr := amends.expr.trans grown.expr
  size := amends.size.trans grown.size
  element notUser notFunc := by
    rw [← grown.kind] at notUser notFunc
    exact (amends.element notUser notFunc).trans
      (grown.element (grown.kind ▸ notUser) (grown.kind ▸ notFunc))
  members := by
    rw [amends.members, grown.members]
    cases passed : call.members? <;> simp [List.filterMap_append, passed]
  args := by
    rw [amends.args, grown.args]
    cases passed : call.arg? <;> simp [List.filterMap_append, passed]
  result := by
    rw [amends.result, grown.result]
    cases passed : call.result? <;> simp [List.filterMap_append, passed]
  target user := by
    rw [amends.target (grown.kind.trans user), grown.target user]
    cases passed : call.target? <;> simp [List.filterMap_append, passed]
  canonical := by
    rw [amends.canonical, grown.canonical, grown.kind]
    cases first.kind.isCanonical <;> cases passed : call.canonical? <;>
      simp [List.filterMap_append, passed]

theorem payload_eq (made : node.kind ≠ .builtin) (kind : node.kind = other.kind)
    (tag : node.tag? = other.tag?) (expr : node.expr? = other.expr?)
    (size : node.size? = other.size?) (members : node.members? = other.members?)
    (args : node.args = other.args) : node.payload = other.payload := by
  obtain ⟨target, canonical, payload⟩ := node
  obtain ⟨target', canonical', payload'⟩ := other
  -- Payloads of different kinds are ruled out by the kind, the others agree in what they hold.
  cases payload with
  | builtin builtin => exact absurd rfl made
  | tagged sort body =>
    cases payload' with
    | tagged sort' body' =>
      obtain ⟨tag', members'⟩ := body'
      cases tag
      cases members
      cases sort <;> cases sort' <;> first | rfl | cases kind
    | _ => cases sort <;> cases kind
  | user name =>
    cases payload' with
    | user name' => exact congrArg Payload.user expr
    | tagged sort body => cases sort <;> cases kind
    | _ => cases kind
  | func list =>
    cases payload' with
    | func list' => exact congrArg Payload.func args
    | tagged sort body => cases sort <;> cases kind
    | _ => cases kind
  | pointer =>
    cases payload' with
    | pointer => rfl
    | tagged sort body => cases sort <;> cases kind
    | _ => cases kind
  | array bound =>
    cases payload' with
    | array bound' => exact congrArg Payload.array size
    | tagged sort body => cases sort <;> cases kind
    | _ => cases kind

theorem Grown.unique (made : first.kind ≠ .builtin)
    (grown : Grown first id changes node) (grown' : Grown first id changes other) :
    node = other := by
  have kind := grown.kind.trans grown'.kind.symm
  have payload : node.payload = other.payload :=
    payload_eq (grown.kind ▸ made) kind (grown.tag.trans grown'.tag.symm)
      (grown.expr.trans grown'.expr.symm) (grown.size.trans grown'.size.symm)
      (grown.members.trans grown'.members.symm) (grown.args.trans grown'.args.symm)
  have canonical := grown.canonical.trans grown'.canonical.symm
  have target : node.target = other.target := by
    by_cases user : first.kind = .user
    · exact (grown.target user).trans (grown'.target user).symm
    by_cases func : first.kind = .func
    · obtain ⟨args, held⟩ := kind_eq_func (grown.kind.trans func)
      have result := grown.result.trans grown'.result.symm
      simpa [Node.result, ← payload, held] using result
    · exact (grown.element user func).trans (grown'.element user func).symm
  obtain ⟨target, canonical, payload⟩ := node
  simp_all

end Node

namespace Call

variable {call : Call} {arena : Arena} {id : NodeId} {old new : Node}

theorem Makes.born?_eq (wanted : call.Makes new) :
    call.born? = some new ∧ call.isPointer = false := by
  cases call with
  | newArray element size =>
    obtain ⟨-, rfl⟩ := Node.arrayOf_eq_ok wanted
    exact ⟨rfl, rfl⟩
  | newUser | newTagged | newFunction =>
    cases wanted
    exact ⟨rfl, rfl⟩
  | _ => cases wanted

theorem Edits.place?_eq (edit : call.Edits arena id old new) :
    call.place? = some id ∧ call.born? = none := by
  cases call with
  | newUser | newTagged | newFunction | newArray | pointerTo => cases edit
  | _ => exact ⟨congrArg some edit.1, rfl⟩

theorem place?_eq_none (born : call.born? = some new) : call.place? = none := by
  cases call with
  | newUser | newTagged | newFunction | newArray | pointerTo => rfl
  | _ => cases born

theorem kind_ne_of_born (born : call.born? = some new) : new.kind ≠ .builtin := by
  cases call with
  | newTagged sort tag =>
    cases born
    cases sort <;> nofun
  | _ => cases born <;> nofun

end Call

theorem NodeId.toNat_of_index? {id : NodeId} {index : Nat} (owned : id.index? = some index) :
    id.raw.toNat = firstOwned + index := by
  unfold index? at owned
  split at owned
  · cases owned
  · rename_i outside
    simp only [Bool.or_eq_true, decide_eq_true_eq, not_or, Nat.not_lt] at outside
    have position : id.raw.toNat - firstOwned = index := Option.some.inj owned
    omega

namespace Arena

open Entry

variable {arena : Arena} {call : Call} {past : List Entry} {id : NodeId} {old new first node : Node}
  {pointers : Std.HashMap Handle NodeId} {entry : Entry} {reply : Reply (Option Handle)}

def history (arena : Arena) : List Call → List Entry
  | [] => []
  | call :: calls =>
    ⟨call, (call.perform arena).answer⟩ :: (call.perform arena).arena.history calls

theorem history_append (arena : Arena) (calls later : List Call) :
    arena.history (calls ++ later) = arena.history calls ++ (arena.run calls).history later := by
  induction calls generalizing arena with
  | nil => rfl
  | cons call calls ih => simp [history, ih]

structure Replays (arena : Arena) (past : List Entry) : Prop where
  size : arena.size = (births past).length
  born : ∀ index birth, (births past)[index]? = some birth → ∃ id first node,
    NodeId.ofIndex? index = some id ∧ birth.answer = .ok (some (Handle.ofNode id)) ∧
      birth.call.born? = some first ∧ arena.lookup id = .ok node ∧
      Node.Grown first id (changes past id) node
  placed : ∀ id, changes past id ≠ [] → arena.contains id = true
  shared : ∀ element, (∃ birth ∈ births past, birth.call = .pointerTo element) ↔
    (arena.pointers[element]?).isSome = true

theorem Replays.empty : Arena.empty.Replays [] where
  size := rfl
  born index birth present := by simp [births] at present
  placed id changed := absurd rfl changed
  shared element := by simp [births, Arena.empty]

theorem Replays.idle (replays : arena.Replays past) (barren : entry.bears (births past) = false)
    (still : entry.answered = false ∨ entry.call.place? = none) :
    arena.Replays (past ++ [entry]) := by
  have births_same : births (past ++ [entry]) = births past := by simp [births_snoc, barren]
  have changes_same (id : NodeId) : changes (past ++ [entry]) id = changes past id := by
    rcases still with refused | creates
    · simp [changes_snoc, refused]
    · simp [changes_snoc, creates]
  constructor
  · rw [births_same, replays.size]
  · simpa only [births_same, changes_same] using replays.born
  · simpa only [changes_same] using replays.placed
  · simpa only [births_same] using replays.shared

theorem Replays.push (replays : arena.Replays past)
    (issued : NodeId.ofIndex? arena.size = some id) (born : call.born? = some first)
    (bears : Entry.bears (births past) ⟨call, .ok (some (Handle.ofNode id))⟩ = true)
    (shared : ∀ element : Handle,
      ((∃ birth ∈ births past, birth.call = .pointerTo element) ∨ call = .pointerTo element) ↔
        (pointers[element]?).isSome = true) :
    (Arena.mk (arena.nodes.push (first.settled id)) pointers).Replays
      (past ++ [⟨call, .ok (some (Handle.ofNode id))⟩]) := by
  have births_grown := births_snoc past ⟨call, .ok (some (Handle.ofNode id))⟩
  rw [if_pos bears] at births_grown
  have changes_same (other : NodeId) :
      changes (past ++ [⟨call, .ok (some (Handle.ofNode id))⟩]) other = changes past other := by
    simp [changes_snoc, Call.place?_eq_none born]
  have unknown := not_contains_of_issued issued
  constructor
  · have grown :
        (Arena.mk (arena.nodes.push (first.settled id)) pointers).size = arena.size + 1 := by
      simp [Arena.size]
    rw [births_grown, grown, replays.size, List.length_append, List.length_singleton]
  · intro index birth present
    rw [births_grown] at present
    simp only [changes_same]
    by_cases last : index = arena.size
    · rw [last, replays.size, List.getElem?_concat_length] at present
      cases present
      -- No change was answered on an id that was not given out before.
      have untouched : changes past id = [] := by
        by_contra changed
        rw [replays.placed id changed] at unknown
        cases unknown
      refine ⟨id, first, first.settled id, last ▸ issued, rfl, born, ?_, ?_⟩
      · rw [lookup_push issued, if_pos rfl]
      · rw [untouched]
        exact Node.grown_settled born
    · obtain ⟨below, -⟩ := List.getElem?_eq_some_iff.mp present
      rw [List.length_append, List.length_singleton, ← replays.size] at below
      have earlier : index < (births past).length := replays.size ▸ (by omega : index < arena.size)
      rw [List.getElem?_append_left earlier] at present
      obtain ⟨other, first', node, position, answer', born', found, grown⟩ :=
        replays.born index birth present
      refine ⟨other, first', node, position, answer', born', ?_, grown⟩
      rw [lookup_push issued, if_neg, found]
      rintro rfl
      rw [contains_iff.mpr ⟨node, found⟩] at unknown
      cases unknown
  · intro other changed
    rw [changes_same] at changed
    obtain ⟨node, found⟩ := contains_iff.mp (replays.placed other changed)
    rw [contains_iff, lookup_push issued]
    split
    · exact ⟨_, rfl⟩
    · exact ⟨node, found⟩
  · simpa [births_grown, or_and_right, exists_or] using shared

theorem Replays.amend (replays : arena.Replays past) (found : arena.owned id = .ok old)
    (amends : call.Amends old new) (place : call.place? = some id) (born : call.born? = none) :
    (arena.store id new).Replays (past ++ [⟨call, .ok none⟩]) := by
  have births_same : births (past ++ [⟨call, .ok none⟩]) = births past := by
    simp [births_snoc, bears, born]
  have changes_grown (other : NodeId) : changes (past ++ [⟨call, .ok none⟩]) other =
      changes past other ++ if other = id then [call] else [] := by
    by_cases same : other = id
    · simp [changes_snoc, place, same]
    · simp [changes_snoc, place, same, Ne.symm same]
  constructor
  · rw [births_same, size_store, replays.size]
  · intro index birth present
    rw [births_same] at present
    obtain ⟨other, first, node, position, answer, born, found', grown⟩ :=
      replays.born index birth present
    simp only [changes_grown, lookup_store found]
    by_cases same : other = id
    · subst same
      obtain rfl : old = node := Except.ok.inj ((lookup_of_owned found).symm.trans found')
      refine ⟨other, first, new, position, answer, born, if_pos rfl, ?_⟩
      simpa using grown.amended amends
    · refine ⟨other, first, node, position, answer, born, ?_, ?_⟩
      · rw [if_neg same, found']
      · simpa [same] using grown
  · intro other changed
    rw [contains_iff, lookup_store found]
    by_cases same : other = id
    · exact ⟨new, if_pos same⟩
    · rw [changes_grown, if_neg same, List.append_nil] at changed
      rw [if_neg same]
      exact contains_iff.mp (replays.placed other changed)
  · rw [births_same, pointers_store]
    exact replays.shared

theorem Replays.step (replays : arena.Replays past) (keeps : call.isOverwrite = false)
    (outcome : call.Outcome arena reply) :
    reply.arena.Replays (past ++ [⟨call, reply.answer⟩]) := by
  cases outcome with
  | refused stop events told => exact replays.idle rfl (.inl rfl)
  | @known element id wanted present =>
    subst wanted
    have before := (replays.shared element).mpr (by simp [present])
    refine replays.idle ?_ (.inr rfl)
    exact Bool.eq_false_iff.mpr fun bears => bears_pointerTo.mp bears before
  | @made node id wanted issued =>
    obtain ⟨born, plain⟩ := wanted.born?_eq
    refine replays.push issued born (bears_plain (by simp [born]) plain) fun element => ?_
    have other : call ≠ .pointerTo element := by
      rintro rfl
      cases plain
    simpa [other] using replays.shared element
  | @shared element id wanted valid missing issued =>
    subst wanted
    have fresh : ¬ ∃ birth ∈ births past, birth.call = .pointerTo element := by
      rw [replays.shared element, missing]
      nofun
    have new : (Call.pointerTo element).born? = some ⟨element, Handle.null, .pointer⟩ := rfl
    refine replays.push issued new (bears_pointerTo.mpr fresh) fun other => ?_
    rw [Std.HashMap.getElem?_insert]
    by_cases same : element = other
    · subst same
      simp
    · simpa [same] using replays.shared other
  | edited found edit =>
    obtain ⟨place, born⟩ := edit.place?_eq
    exact replays.amend found (edit.amends keeps) place born

theorem Replays.run (replays : arena.Replays past) (calls : List Call)
    (keep : ∀ call ∈ calls, call.isOverwrite = false) :
    (arena.run calls).Replays (past ++ arena.history calls) := by
  induction calls generalizing arena past with
  | nil => simpa [history] using replays
  | cons call calls ih =>
    obtain ⟨keeps, keep⟩ := List.forall_mem_cons.mp keep
    simpa [history] using ih (replays.step keeps (outcome_perform call arena)) keep

theorem toList_eq_map (issued : ∀ index < arena.size, (NodeId.ofIndex? index).isSome = true) :
    arena.toList = arena.nodes.toList.zipIdx.map fun entry =>
      ((NodeId.ofIndex? entry.2).getD NodeId.null, entry.1) := by
  rw [toList, ← List.filterMap_eq_map']
  apply List.filterMap_congr
  rintro ⟨node, index⟩ member
  have below : index < arena.size := by
    have bounds := List.mem_zipIdx member
    simpa [size] using bounds.2.1
  obtain ⟨id, position⟩ := Option.isSome_iff_exists.mp (issued index below)
  simp [position]

theorem Replays.issued (replays : arena.Replays past) :
    ∀ index < arena.size, (NodeId.ofIndex? index).isSome = true := by
  intro index below
  rw [replays.size] at below
  obtain ⟨id, -, -, position, -⟩ := replays.born index _ (List.getElem?_eq_getElem below)
  simp [position]

theorem Replays.length_toList (replays : arena.Replays past) :
    arena.toList.length = (births past).length := by
  rw [toList_eq_map replays.issued, ← replays.size]
  simp [Arena.size]

theorem Replays.getElem?_toList (replays : arena.Replays past) {index : Nat}
    (position : NodeId.ofIndex? index = some id) (found : arena.lookup id = .ok node) :
    arena.toList[index]? = some (id, node) := by
  have owns := NodeId.index?_of_ofIndex? position
  have present : arena.nodes[index]? = some node := by
    rcases lookup_eq_ok_iff.mp found with ⟨builtin, named, -⟩ | owned
    · rw [NodeId.builtin?_of_index? owns] at named
      cases named
    · obtain ⟨place, owns', present⟩ := owned_eq_ok_iff.mp owned
      cases owns.symm.trans owns'
      exact present
  rw [toList_eq_map replays.issued]
  simp [present, position]

/-- Every arena that calls bring about without overwriting a node is the replay of its history. Its
nodes are those that the calls made, numbered from the first owned id in their order, for good. Each
of them is what the answered changes have made of it, and no other node would be. -/
theorem arena_replays_history (calls : List Call)
    (keep : ∀ call ∈ calls, call.isOverwrite = false) :
    let arena := Arena.empty.run calls
    let past := Arena.empty.history calls
    arena.toList.length = (births past).length ∧
    (∀ later, births past <+: births (Arena.empty.history (calls ++ later))) ∧
    ∀ index birth, (births past)[index]? = some birth → ∃ id first node,
      id.raw.toNat = NodeId.firstOwned + index ∧
      birth.answer = .ok (some (Handle.ofNode id)) ∧ birth.call.born? = some first ∧
      arena.toList[index]? = some (id, node) ∧ arena.lookup id = .ok node ∧
      (∀ other, Node.Grown first id (changes past id) other ↔ other = node) ∧
      (∀ place, node.arg place =
        ((changes past id).filterMap Call.arg?)[place]?.getD Handle.null) ∧
      ∀ quals, (Handle.mk id quals).canonical arena =
        .ok (if node.canonical.isNull then Handle.null else ⟨node.canonical.node, quals⟩) := by
  intro arena past
  have replays : arena.Replays past := Replays.empty.run calls keep
  refine ⟨replays.length_toList, ?_, ?_⟩
  · intro later
    rw [history_append]
    exact births_prefix _ _
  · intro index birth present
    obtain ⟨id, first, node, position, answer, born, found, grown⟩ :=
      replays.born index birth present
    have owns := NodeId.index?_of_ofIndex? position
    refine ⟨id, first, node, NodeId.toNat_of_index? owns, answer, born,
      replays.getElem?_toList position found, found, ?_, ?_, ?_⟩
    · intro other
      constructor
      · exact fun grown' => grown'.unique (Call.kind_ne_of_born born) grown
      · rintro rfl
        exact grown
    · intro place
      rw [Node.arg, grown.args]
    · intro quals
      have valid : (Handle.mk id quals).isNull = false := NodeId.isNull_of_index? owns
      simp only [Handle.canonical, Handle.lookup, Handle.nodeId?, valid, found, Bool.false_eq_true,
        if_false]
      split <;> rfl

-- A function that gets its arguments and another result after a pointer to it was asked for twice,
-- with an argument in between that is refused.
def lateSignature : List Call :=
  [.newFunction Handle.null, .pointerTo (Handle.ofNode ⟨64⟩), .pointerTo (Handle.ofNode ⟨64⟩),
    .newUser (.identifier none "T"), .appendArgument ⟨64⟩ (Handle.ofNode ⟨65⟩),
    .appendArgument ⟨65⟩ (Handle.ofNode ⟨64⟩), .resolve ⟨66⟩ (Handle.ofNode ⟨65⟩),
    .assignResult ⟨64⟩ (Handle.ofNode ⟨66⟩), .appendArgument ⟨64⟩ (Handle.ofNode ⟨66⟩)]

theorem arena_replays_history_lateSignature :
    (∀ call ∈ lateSignature, call.isOverwrite = false) ∧
      (births (Arena.empty.history lateSignature)).length = 3 ∧
      ∃ node, (Arena.empty.run lateSignature).lookup ⟨64⟩ = .ok node ∧
        node.args = [Handle.ofNode ⟨65⟩, Handle.ofNode ⟨66⟩] ∧
        node.result = Handle.ofNode ⟨66⟩ := by
  have keep : ∀ call ∈ lateSignature, call.isOverwrite = false := by decide
  obtain ⟨-, -, made⟩ := arena_replays_history lateSignature keep
  have present : (births (Arena.empty.history lateSignature))[0]? =
      some ⟨.newFunction Handle.null, .ok (some (Handle.ofNode ⟨64⟩))⟩ := by cbv
  have changed : changes (Arena.empty.history lateSignature) ⟨64⟩ =
      [.appendArgument ⟨64⟩ (Handle.ofNode ⟨65⟩), .assignResult ⟨64⟩ (Handle.ofNode ⟨66⟩),
        .appendArgument ⟨64⟩ (Handle.ofNode ⟨66⟩)] := by cbv
  obtain ⟨id, first, node, -, answer, born, -, found, replayed, -⟩ := made 0 _ present
  cases answer
  cases born
  have grown := (replayed node).mpr rfl
  rw [changed] at grown
  exact ⟨keep, by cbv, node, found, grown.args, grown.result⟩

end Arena

end TypeGraph
