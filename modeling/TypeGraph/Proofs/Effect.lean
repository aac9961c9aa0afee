import TypeGraph.Arena.Call

set_option autoImplicit false

namespace TypeGraph

namespace Node

variable {node new : Node}

theorem attachMembers_eq_ok {members : List Member}
    (attached : node.attachMembers members = .ok new) :
    ∃ sort body, node.payload = .tagged sort body ∧ body.members = none ∧
      new = { node with payload := .tagged sort { body with members := some members } } := by
  unfold attachMembers at attached
  split at attached
  · rename_i sort body tagged
    split at attached
    · cases attached
    · rename_i unset
      cases attached
      exact ⟨sort, body, tagged, by simpa using unset, rfl⟩
  · cases attached

theorem kind_eq_func (func : node.kind = .func) : ∃ args, node.payload = .func args := by
  unfold kind at func
  cases payload : node.payload with
  | func args => exact ⟨args, rfl⟩
  | tagged sort body => cases sort <;> simp [payload, Payload.kind, TagKind.kind] at func
  | _ => simp [payload, Payload.kind] at func

theorem kind_eq_user (user : node.kind = .user) : ∃ expr, node.payload = .user expr := by
  unfold kind at user
  cases payload : node.payload with
  | user expr => exact ⟨expr, rfl⟩
  | tagged sort body => cases sort <;> simp [payload, Payload.kind, TagKind.kind] at user
  | _ => simp [payload, Payload.kind] at user

theorem assignResult_eq_ok {result : Handle} (assigned : node.assignResult result = .ok new) :
    (∃ args, node.payload = .func args) ∧ new = { node with target := result } := by
  unfold assignResult at assigned
  split at assigned
  · cases assigned
    exact ⟨kind_eq_func ‹_›, rfl⟩
  · cases assigned

theorem appendArgument_eq_ok {arg : Handle} (appended : node.appendArgument arg = .ok new) :
    ∃ args, node.payload = .func args ∧ new = { node with payload := .func (args ++ [arg]) } := by
  unfold appendArgument at appended
  split at appended
  · cases appended
    exact ⟨_, ‹_›, rfl⟩
  · cases appended

theorem resolve_eq_ok {target : Handle} (resolved : node.resolve target = .ok new) :
    (∃ expr, node.payload = .user expr) ∧ new = { node with target := target } := by
  unfold resolve at resolved
  split at resolved
  · cases resolved
    exact ⟨kind_eq_user ‹_›, rfl⟩
  · cases resolved

theorem assignCanonical_eq_ok {canonical : Handle}
    (assigned : node.assignCanonical canonical = .ok new) :
    node.kind.isCanonical = false ∧ new = { node with canonical := canonical } := by
  unfold assignCanonical at assigned
  split at assigned
  · cases assigned
  · rename_i free
    cases assigned
    exact ⟨Bool.eq_false_iff.mpr free, rfl⟩

theorem arrayOf_eq_ok {element : Handle} {size : Option ArrayBound}
    (built : arrayOf element size = .ok new) :
    element.isNull = false ∧ new = ⟨element, Handle.null, .array size⟩ := by
  cases null : element.isNull with
  | true => simp [arrayOf, bare, Kind.needsElement, null, Except.map] at built
  | false =>
    simp only [arrayOf, bare, Kind.needsElement, null, Except.map] at built
    cases built
    exact ⟨rfl, rfl⟩

theorem bare_eq_ok {kind : Kind} {target : Handle} (built : bare kind target = .ok new) :
    new.kind = kind ∧ new.target = target ∧
      (kind.needsElement = true → target.isNull = false) := by
  cases null : target.isNull <;> cases kind <;>
    simp [bare, Kind.needsElement, Handle.isValid, null] at built <;> subst built <;>
    simp [Node.kind, Payload.kind, TagKind.kind, Kind.needsElement]

end Node

namespace Call

variable {call : Call} {arena : Arena} {id : NodeId} {node old new : Node}

def Makes : Call → Node → Prop
  | .newUser expr, node => node = Node.ofExpr expr
  | .newTagged sort tag, node => node = Node.ofTag sort tag
  | .newFunction result, node => node = Node.ofReturn result
  | .newArray element size, node => Node.arrayOf element size = .ok node
  | _, _ => False

def Edits (call : Call) (arena : Arena) (id : NodeId) (old new : Node) : Prop :=
  match call with
  | .attachMembers place members => place = id ∧ old.attachMembers members = .ok new
  | .assignResult place result => place = id ∧ old.assignResult result = .ok new
  | .appendArgument place arg => place = id ∧ old.appendArgument arg = .ok new
  | .resolve place target =>
    place = id ∧ arena.reaches target id = .ok false ∧ old.resolve target = .ok new
  | .assignCanonical place canonical => place = id ∧ old.assignCanonical canonical = .ok new
  | .overwrite place kind target => place = id ∧ Node.bare kind target = .ok new
  | _ => False

theorem Edits.kind_eq (edit : call.Edits arena id old new) (keeps : call.isOverwrite = false) :
    new.kind = old.kind := by
  cases call with
  | attachMembers place members =>
    obtain ⟨sort, body, tagged, -, rfl⟩ := Node.attachMembers_eq_ok edit.2
    simp [Node.kind, tagged, Payload.kind]
  | assignResult place result =>
    obtain ⟨-, rfl⟩ := Node.assignResult_eq_ok edit.2
    rfl
  | appendArgument place arg =>
    obtain ⟨args, func, rfl⟩ := Node.appendArgument_eq_ok edit.2
    simp [Node.kind, func, Payload.kind]
  | resolve place target =>
    obtain ⟨-, rfl⟩ := Node.resolve_eq_ok edit.2.2
    rfl
  | assignCanonical place canonical =>
    obtain ⟨-, rfl⟩ := Node.assignCanonical_eq_ok edit.2
    rfl
  | overwrite place kind target => cases keeps
  | _ => cases edit

theorem Edits.target_eq (edit : call.Edits arena id old new) (keeps : call.isOverwrite = false)
    (stands : old.kind.needsElement = true) : new.target = old.target := by
  cases call with
  | attachMembers place members =>
    obtain ⟨sort, body, -, -, rfl⟩ := Node.attachMembers_eq_ok edit.2
    rfl
  | assignResult place result =>
    obtain ⟨⟨args, func⟩, -⟩ := Node.assignResult_eq_ok edit.2
    simp [Node.kind, func, Payload.kind, Kind.needsElement] at stands
  | appendArgument place arg =>
    obtain ⟨args, -, rfl⟩ := Node.appendArgument_eq_ok edit.2
    rfl
  | resolve place target =>
    obtain ⟨⟨expr, user⟩, -⟩ := Node.resolve_eq_ok edit.2.2
    simp [Node.kind, user, Payload.kind, Kind.needsElement] at stands
  | assignCanonical place canonical =>
    obtain ⟨-, rfl⟩ := Node.assignCanonical_eq_ok edit.2
    rfl
  | overwrite place kind target => cases keeps
  | _ => cases edit

-- The five ways in which a call ends, each with its answer, the arena after it and what it reports.
inductive Outcome (call : Call) (arena : Arena) : Arena.Reply (Option Handle) → Prop where
  | refused (stop : Stop) (events : List Event) (told : ∀ event ∈ events, event.level = .debug) :
      Outcome call arena ⟨.error stop, arena, events⟩
  | known {element : Handle} {id : NodeId} (wanted : call = .pointerTo element)
      (present : arena.pointers[element]? = some id) :
      Outcome call arena ⟨.ok (some (Handle.ofNode id)), arena, [.reusedPointer id]⟩
  | made {node : Node} {id : NodeId} (wanted : call.Makes node)
      (issued : NodeId.ofIndex? arena.size = some id) :
      Outcome call arena ⟨.ok (some (Handle.ofNode id)),
        ⟨arena.nodes.push (node.settled id), arena.pointers⟩, [.created id node.kind]⟩
  | shared {element : Handle} {id : NodeId} (wanted : call = .pointerTo element)
      (valid : element.isNull = false) (missing : arena.pointers[element]? = none)
      (issued : NodeId.ofIndex? arena.size = some id) :
      Outcome call arena ⟨.ok (some (Handle.ofNode id)),
        ⟨arena.nodes.push ⟨element, Handle.null, .pointer⟩, arena.pointers.insert element id⟩,
        [.created id .pointer]⟩
  | edited {id : NodeId} {old new : Node} (found : arena.owned id = .ok old)
      (edit : call.Edits arena id old new) : Outcome call arena ⟨.ok none, arena.store id new, []⟩

-- What of it is left in the arena. All that is shown to hold in the arenas of a run is shown of these.
inductive Effect (call : Call) (arena : Arena) : Arena → Prop where
  | nothing : Effect call arena arena
  | made {node : Node} {id : NodeId} (wanted : call.Makes node)
      (issued : NodeId.ofIndex? arena.size = some id) :
      Effect call arena ⟨arena.nodes.push (node.settled id), arena.pointers⟩
  | shared {element : Handle} {id : NodeId} (wanted : call = .pointerTo element)
      (valid : element.isNull = false) (missing : arena.pointers[element]? = none)
      (issued : NodeId.ofIndex? arena.size = some id) :
      Effect call arena
        ⟨arena.nodes.push ⟨element, Handle.null, .pointer⟩, arena.pointers.insert element id⟩
  | edited {id : NodeId} {old new : Node} (found : arena.owned id = .ok old)
      (edit : call.Edits arena id old new) : Effect call arena (arena.store id new)

theorem Outcome.effect {call : Call} {arena : Arena} {reply : Arena.Reply (Option Handle)}
    (outcome : call.Outcome arena reply) : call.Effect arena reply.arena := by
  cases outcome with
  | refused stop events told => exact .nothing
  | known wanted present => exact .nothing
  | made wanted issued => exact .made wanted issued
  | shared wanted valid missing issued => exact .shared wanted valid missing issued
  | edited found edit => exact .edited found edit

end Call

namespace Arena

open Call

namespace Reply

variable {α β : Type} {reply : Reply α} {read : α → β}

theorem map_eq_ok {value : β} :
    (reply.map read).answer = .ok value ↔ ∃ whole, reply.answer = .ok whole ∧ read whole = value := by
  obtain ⟨answer, arena, events⟩ := reply
  cases answer <;> simp [Reply.map, Except.map]

theorem map_eq_error {stop : Stop} :
    (reply.map read).answer = .error stop ↔ reply.answer = .error stop := by
  obtain ⟨answer, arena, events⟩ := reply
  cases answer <;> simp [Reply.map, Except.map]

end Reply

variable {arena : Arena} {call : Call}

theorem outcome_create {node : Node} (wanted : call.Makes node) :
    call.Outcome arena ((arena.create node).map fun id => some (Handle.ofNode id)) := by
  unfold create
  split
  · exact .made wanted ‹_›
  · exact .refused _ _ nofun

theorem outcome_newArray (element : Handle) (size : Option ArrayBound) :
    (Call.newArray element size).Outcome arena ((arena.newArray element size).map some) := by
  unfold newArray create?
  split
  · exact .refused _ _ nofun
  · rename_i node built
    cases issued : NodeId.ofIndex? arena.size with
    | some id =>
      simp only [create, issued]
      exact .made built issued
    | none =>
      simp only [create, issued]
      exact .refused _ _ nofun

theorem bare_pointer {element : Handle} (valid : element.isNull = false) :
    Node.bare .pointer element = .ok ⟨element, Handle.null, .pointer⟩ := by
  simp [Node.bare, Kind.needsElement, valid]

theorem bare_pointer_null {element : Handle} (null : element.isNull = true) :
    Node.bare .pointer element =
      .error (.invalidConstruction .pointer "an element type is required") := by
  simp [Node.bare, Kind.needsElement, null]

theorem pointerTo_known {element : Handle} {id : NodeId}
    (known : arena.pointers[element]? = some id) :
    arena.pointerTo element =
      { answer := .ok (Handle.ofNode id), arena := arena, events := [.reusedPointer id] } := by
  simp [pointerTo, known]

theorem pointerTo_null {element : Handle} (missing : arena.pointers[element]? = none)
    (null : element.isNull = true) :
    arena.pointerTo element =
      { answer := .error (.refused
          (.invalidConstruction .pointer "an element type is required"))
        arena := arena
        events := [] } := by
  simp [pointerTo, missing, create?, bare_pointer_null null]

theorem pointerTo_exhausted {element : Handle} (missing : arena.pointers[element]? = none)
    (valid : element.isNull = false) (full : NodeId.ofIndex? arena.size = none) :
    arena.pointerTo element =
      { answer := .error (.fault .exhaustedIds), arena := arena, events := [] } := by
  simp [pointerTo, missing, create?, bare_pointer valid, create, full, Except.map]

theorem pointerTo_fresh {element : Handle} {id : NodeId}
    (missing : arena.pointers[element]? = none) (valid : element.isNull = false)
    (issued : NodeId.ofIndex? arena.size = some id) :
    arena.pointerTo element =
      { answer := .ok (Handle.ofNode id)
        arena :=
          ⟨arena.nodes.push ⟨element, Handle.null, .pointer⟩, arena.pointers.insert element id⟩
        events := [.created id .pointer] } := by
  simp [pointerTo, missing, create?, bare_pointer valid, create, issued, Except.map, intern,
    Handle.ofNode, Node.settled, Node.kind, Payload.kind, Kind.isCanonical]

theorem pointerTo_cases (arena : Arena) (element : Handle) :
    (∃ id, arena.pointers[element]? = some id ∧
      arena.pointerTo element =
        { answer := .ok (Handle.ofNode id), arena := arena, events := [.reusedPointer id] }) ∨
    (∃ stop, arena.pointerTo element = { answer := .error stop, arena := arena, events := [] }) ∨
    ∃ id, element.isNull = false ∧ arena.pointers[element]? = none ∧
      NodeId.ofIndex? arena.size = some id ∧
      arena.pointerTo element =
        { answer := .ok (Handle.ofNode id)
          arena :=
            ⟨arena.nodes.push ⟨element, Handle.null, .pointer⟩, arena.pointers.insert element id⟩
          events := [.created id .pointer] } := by
  cases known : arena.pointers[element]? with
  | some id => exact .inl ⟨id, rfl, pointerTo_known known⟩
  | none =>
    cases valid : element.isNull with
    | true => exact .inr (.inl ⟨_, pointerTo_null known valid⟩)
    | false =>
      cases issued : NodeId.ofIndex? arena.size with
      | none => exact .inr (.inl ⟨_, pointerTo_exhausted known valid issued⟩)
      | some id => exact .inr (.inr ⟨id, rfl, rfl, rfl, pointerTo_fresh known valid issued⟩)

theorem outcome_pointerTo (element : Handle) :
    (Call.pointerTo element).Outcome arena ((arena.pointerTo element).map some) := by
  rcases arena.pointerTo_cases element with
    ⟨id, present, reply⟩ | ⟨stop, reply⟩ | ⟨id, valid, missing, issued, reply⟩
  · rw [reply]
    exact .known rfl present
  · rw [reply]
    exact .refused _ _ nofun
  · rw [reply]
    exact .shared rfl valid missing issued

theorem change_cases (arena : Arena) (id : NodeId) (edit : Node → Except Refusal Node)
    (report : Refusal → List Event) :
    (∃ error, arena.owned id = .error error ∧
      arena.change id edit report =
        { answer := .error (.refused error), arena := arena, events := [] }) ∨
    (∃ old error, arena.owned id = .ok old ∧ edit old = .error error ∧
      arena.change id edit report =
        { answer := .error (.refused error), arena := arena, events := report error }) ∨
    ∃ old new, arena.owned id = .ok old ∧ edit old = .ok new ∧
      arena.change id edit report =
        { answer := .ok (), arena := arena.store id new, events := [] } := by
  cases found : arena.owned id with
  | error error => exact .inl ⟨error, rfl, by simp [change, found]⟩
  | ok old =>
    cases edited : edit old with
    | error error => exact .inr (.inl ⟨old, error, rfl, edited, by simp [change, found, edited]⟩)
    | ok new => exact .inr (.inr ⟨old, new, rfl, edited, by simp [change, found, edited]⟩)

theorem outcome_change {id : NodeId} {edit : Node → Except Refusal Node}
    {report : Refusal → List Event} (told : ∀ error, ∀ event ∈ report error, event.level = .debug)
    (wanted : ∀ old new, edit old = .ok new → call.Edits arena id old new) :
    call.Outcome arena ((arena.change id edit report).map fun _ => none) := by
  rcases arena.change_cases id edit report with
    ⟨error, -, reply⟩ | ⟨old, error, -, -, reply⟩ | ⟨old, new, found, edited, reply⟩
  · rw [reply]
    exact .refused _ _ nofun
  · rw [reply]
    exact .refused _ _ (told error)
  · rw [reply]
    exact .edited found (wanted old new edited)

theorem outcome_resolve (id : NodeId) (target : Handle) :
    (Call.resolve id target).Outcome arena ((arena.resolve id target).map fun _ => none) := by
  unfold resolve
  split
  · exact .refused _ _ nofun
  · exact .refused _ _ (by simp [Event.level])
  · rename_i apart
    exact outcome_change (by simp [Event.level]) fun old new edited => ⟨rfl, apart, edited⟩

theorem outcome_overwrite (id : NodeId) (kind : Kind) (target : Handle) :
    (Call.overwrite id kind target).Outcome arena
      ((arena.overwrite id kind target).map fun _ => none) := by
  unfold overwrite
  split
  · exact .refused _ _ nofun
  · rename_i node built
    apply outcome_change (by simp)
    rintro old new ⟨⟩
    exact ⟨rfl, built⟩

theorem outcome_perform (call : Call) (arena : Arena) :
    call.Outcome arena (call.perform arena) := by
  cases call with
  | newUser expr => exact outcome_create rfl
  | newTagged sort tag => exact outcome_create rfl
  | newFunction result => exact outcome_create rfl
  | newArray element size => exact outcome_newArray element size
  | pointerTo element => exact outcome_pointerTo element
  | attachMembers id members =>
    exact outcome_change (by simp [Event.level]) fun old new edited => ⟨rfl, edited⟩
  | assignResult id result =>
    exact outcome_change (by simp [Event.level]) fun old new edited => ⟨rfl, edited⟩
  | appendArgument id arg =>
    exact outcome_change (by simp [Event.level]) fun old new edited => ⟨rfl, edited⟩
  | resolve id target => exact outcome_resolve id target
  | assignCanonical id canonical =>
    exact outcome_change (by simp [Event.level]) fun old new edited => ⟨rfl, edited⟩
  | overwrite id kind target => exact outcome_overwrite id kind target

theorem effect_perform (call : Call) (arena : Arena) :
    call.Effect arena (call.perform arena).arena :=
  (outcome_perform call arena).effect

theorem arena_of_refused (refused : (call.perform arena).answer.isOk = false) :
    (call.perform arena).arena = arena := by
  have outcome := outcome_perform call arena
  generalize call.perform arena = reply at outcome refused ⊢
  cases outcome with
  | refused stop events told => rfl
  | _ => cases refused

theorem effect_pointerTo (element : Handle) :
    (Call.pointerTo element).Effect arena (arena.pointerTo element).arena :=
  effect_perform (.pointerTo element) arena

theorem Built.holds {holds : Arena → Prop} (built : Built arena) (empty : holds Arena.empty)
    (step : ∀ before after call, call.isOverwrite = false → Effect call before after →
      holds before → holds after) : holds arena := by
  induction built with
  | empty => exact empty
  | step built call keeps grounded ih => exact step _ _ call keeps (effect_perform call _) ih

theorem run_holds {allowed : Call → Prop} {holds : Arena → Prop}
    (step : ∀ before after call, allowed call → Effect call before after → holds before →
      holds after)
    (start : holds arena) (calls : List Call) (all : ∀ call ∈ calls, allowed call) :
    holds (arena.run calls) := by
  induction calls generalizing arena with
  | nil => exact start
  | cons call calls ih =>
    obtain ⟨head, tail⟩ := List.forall_mem_cons.mp all
    exact ih (step arena _ call head (effect_perform call arena) start) tail

end Arena

end TypeGraph
