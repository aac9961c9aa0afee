import TypeGraph.Proofs.Admission
import TypeGraph.Proofs.Enclosing
import TypeGraph.Proofs.SelfReference

set_option autoImplicit false

namespace TypeGraph

open PrinterOver

inductive Setting where
  | members (members : List Member)
  | result (result : Handle)
  | argument (arg : Handle)
  deriving DecidableEq

namespace Setting

def apply (setting : Setting) (node : Node) : Except Refusal Node :=
  match setting with
  | .members list => node.attachMembers list
  | .result type => node.assignResult type
  | .argument arg => node.appendArgument arg

def call (setting : Setting) (id : NodeId) : Call :=
  match setting with
  | .members list => .attachMembers id list
  | .result type => .assignResult id type
  | .argument arg => .appendArgument id arg

end Setting

/-- All that may be done to an arena: calls, and changes to a node that is lent out. -/
inductive Operation where
  | call (call : Call)
  | set (id : NodeId) (setting : Setting)
  deriving DecidableEq

namespace Operation

def perform (operation : Operation) (arena : Arena) : Arena :=
  match operation with
  | .call made => (made.perform arena).arena
  | .set id setting => (arena.change id setting.apply fun _ => []).arena

def asCall : Operation → Call
  | .call made => made
  | .set id setting => setting.call id

end Operation

namespace Arena

def operate (arena : Arena) (operations : List Operation) : Arena :=
  operations.foldl (fun arena operation => operation.perform arena) arena

def overwritesNone (arena : Arena) : List Operation → Bool
  | [] => true
  | operation :: rest =>
    (!operation.asCall.isOverwrite || !(operation.asCall.perform arena).answer.isOk) &&
      (operation.perform arena).overwritesNone rest

theorem change_arena (arena : Arena) (id : NodeId) (edit : Node → Except Refusal Node)
    (report report' : Refusal → List Event) :
    (arena.change id edit report).arena = (arena.change id edit report').arena := by
  unfold change
  cases arena.owned id with
  | error refusal => rfl
  | ok node =>
    simp only
    cases edit node <;> rfl

theorem perform_asCall (operation : Operation) (arena : Arena) :
    operation.perform arena = (operation.asCall.perform arena).arena := by
  cases operation with
  | call call => rfl
  | set id setting => cases setting <;> exact change_arena arena id _ _ _

theorem operate_eq_run (arena : Arena) (operations : List Operation) :
    arena.operate operations = arena.run (operations.map Operation.asCall) := by
  induction operations generalizing arena with
  | nil => rfl
  | cons operation rest ih =>
    simp only [operate, List.foldl_cons, List.map_cons, run_cons, perform_asCall] at ih ⊢
    exact ih _

end Arena

namespace Answer

variable {α : Type}

def Faultless (answer : Answer α) : Prop := ∀ fault, answer ≠ .error (.fault fault)

@[simp] theorem faultless_ok (value : α) : Faultless (.ok value) := nofun

@[simp] theorem faultless_refused (error : Refusal) :
    Faultless (.error (.refused error) : Answer α) := nofun

@[simp] theorem faultless_outOfFuel : Faultless (.error .outOfFuel : Answer α) := nofun

end Answer

namespace Handle

variable {α : Type} {handle : Handle} {next : NodeId → Answer α}

theorem andThen_faultless (valid : handle.isNull = false) (below : (next handle.node).Faultless) :
    (handle.andThen next).Faultless := by
  rwa [andThen_of_valid valid]

end Handle

namespace PrinterOver

variable {σ : Type} {target : Handle} {print : NodeId → PrinterOver σ}

def asking (target : Handle) (print : NodeId → PrinterOver σ) : PrinterOver σ :=
  match target.nodeId with
  | .ok id => print id
  | .error reason => stop reason

theorem asking_of_valid (valid : target.isNull = false) : asking target print = print target.node := by
  simp [asking, Handle.nodeId, valid]

end PrinterOver

namespace Stop

def NoFault (reason : Stop) : Prop := ∀ fault, reason ≠ .fault fault

theorem noFault_refused (error : Refusal) : NoFault (.refused error) := nofun

theorem noFault_outOfFuel : NoFault .outOfFuel := nofun

end Stop

namespace Arena

open Printer

variable {arena : Arena} {id : NodeId} {node : Node}

theorem Founded.width_faultless (founded : arena.Founded) (levels : Nat) (id : NodeId) :
    (arena.widthWithin levels id).Faultless := by
  induction levels generalizing id with
  | zero => simp [widthWithin]
  | succ levels ih =>
    cases found : arena.lookup id with
    | error refusal => simp [widthWithin, found]
    | ok node =>
      have element := founded id node found
      simp only [widthWithin, found]
      obtain ⟨target, canonical, payload⟩ := node
      cases payload with
      | user expr =>
        cases null : target.isNull with
        | true => simp
        | false => simpa using Handle.andThen_faultless null (ih target.node)
      | array size => exact Handle.andThen_faultless (element rfl) (ih target.node)
      | tagged sort body => cases sort <;> simp
      | _ => simp

theorem Founded.aliasName_faultless (founded : arena.Founded) (levels : Nat) (id : NodeId) :
    (arena.aliasNameWithin levels id).Faultless := by
  induction levels generalizing id with
  | zero => simp [aliasNameWithin]
  | succ levels ih =>
    cases found : arena.lookup id with
    | error refusal => simp [aliasNameWithin, found]
    | ok node =>
      have element := founded id node found
      simp only [aliasNameWithin, found]
      obtain ⟨target, canonical, payload⟩ := node
      cases payload with
      | user expr => cases expr <;> simp [Node.kind, Payload.kind, Node.expr?]
      | pointer => exact Handle.andThen_faultless (element rfl) (ih target.node)
      | array size => exact Handle.andThen_faultless (element rfl) (ih target.node)
      | tagged sort body => cases sort <;> simp [Node.kind, Payload.kind, TagKind.kind]
      | _ => simp [Node.kind, Payload.kind]

theorem Founded.compatible_faultless (founded : arena.Founded) (levels : Nat) (a b : NodeId) :
    (arena.compatibleWithin levels a b).Faultless := by
  induction levels generalizing a b with
  | zero => simp [compatibleWithin]
  | succ levels ih =>
    cases foundLeft : arena.lookup a with
    | error refusal => simp [compatibleWithin, foundLeft]
    | ok left =>
      cases foundRight : arena.lookup b with
      | error refusal => simp [compatibleWithin, foundLeft, foundRight]
      | ok right =>
        rw [compatibleWithin_succ levels foundLeft foundRight]
        split
        · simp
        split
        · simp
        rename_i same
        split
        · -- Both nodes are of one kind here, so that the right one has an element as well.
          rename_i element
          have element' : right.kind.needsElement = true := by
            rwa [← not_not.mp same]
          exact Handle.andThen_faultless (founded a left foundLeft element)
            (Handle.andThen_faultless (founded b right foundRight element') (ih _ _))
        · unfold compareBases
          split
          · simp
          · split <;> simp

theorem reaches_faultless (levels : Nat) (id : NodeId) (handle : Handle) :
    (arena.reachesWithin id levels handle).Faultless := by
  intro fault stopped
  rcases reachesWithin_stop levels handle _ stopped with same | ⟨error, same⟩
  · cases same
  · cases same

theorem resolve_faultless (id : NodeId) (target : Handle) :
    (arena.resolve id target).answer.Faultless := by
  have walk := arena.reaches_faultless arena.levels id target
  unfold resolve reaches
  split
  · rename_i stop stopped
    rw [stopped] at walk
    exact fun fault same => walk fault (congrArg Except.error (Except.error.inj same))
  · simp
  · rcases arena.change_answer id (fun node => node.resolve target)
        (fun error => [.rejected .target id error]) with same | ⟨error, same⟩ <;> simp [same]

theorem stopsOnly_name (levels : Nat) (id : NodeId) :
    StopsOnly Stop.NoFault (arena.nameWithin levels id) := by
  induction levels generalizing id with
  | zero => exact stopsOnly_stop Stop.noFault_outOfFuel
  | succ levels ih =>
    have onward (target : Handle) :
        StopsOnly Stop.NoFault (Printer.handle (arena.nameWithin levels) target) :=
      stopsOnly_handle fun _ => ih target.node
    cases found : arena.lookup id with
    | error refusal =>
      simp only [nameWithin, found]
      exact stopsOnly_stop (Stop.noFault_refused _)
    | ok node =>
      simp only [nameWithin, found]
      obtain ⟨target, canonical, payload⟩ := node
      cases payload with
      | builtin which => exact stopsOnly_text _
      | user name =>
        simp only
        split
        · exact onward target
        · exact stopsOnly_optional (by simp)
      | tagged sort body => exact stopsOnly_seq (by simp)
      | func args => exact stopsOnly_stop (Stop.noFault_refused _)
      | pointer => exact stopsOnly_seq (by simp [onward])
      | array size => exact stopsOnly_seq (by simp [onward])

theorem stopsOnly_writeName (target : Handle) :
    StopsOnly Stop.NoFault (arena.writeName target) :=
  stopsOnly_handle fun _ => stopsOnly_name arena.levels target.node

theorem stopsOnly_expand (levels : Nat) (active : List NodeId) (indent : Nat) (target : Handle) :
    StopsOnly Stop.NoFault (arena.expandWithin levels active indent target) := by
  induction levels generalizing active indent target with
  | zero => exact stopsOnly_stop Stop.noFault_outOfFuel
  | succ levels ih =>
    apply stopsOnly_handle
    intro _
    cases found : arena.lookup target.node with
    | error refusal =>
      simp only [expandNode, found]
      exact stopsOnly_stop (Stop.noFault_refused _)
    | ok node =>
      simp only [expandNode, found]
      obtain ⟨element, canonical, payload⟩ := node
      cases payload with
      | builtin which => exact stopsOnly_text _
      | user name =>
        simp only
        split
        · exact ih active indent element
        · exact stopsOnly_optional (by simp)
      | tagged sort body =>
        have line (member : Member) : StopsOnly Stop.NoFault
            (seq [spaces (indent + indentStep),
              arena.expandWithin levels (target.node :: active) (indent + indentStep) member.type,
              text (" " ++ member.name ++ ";\n")]) :=
          stopsOnly_seq (by simp [ih])
        have lines := stopsOnly_each fun member (_ : member ∈ body.members.getD []) => line member
        have expanded : StopsOnly Stop.NoFault (expandBody
            (arena.expandWithin levels (target.node :: active) (indent + indentStep)) indent sort
            body) :=
          stopsOnly_seq (by simp [lines])
        cases sort with
        | enum => exact stopsOnly_text _
        | _ =>
          simp only
          split
          · exact stopsOnly_name arena.levels target.node
          · exact expanded
      | func args =>
        have list := stopsOnly_separated fun arg (_ : arg ∈ args) => arena.stopsOnly_writeName arg
        exact stopsOnly_seq (by simp [stopsOnly_writeName, list])
      | pointer => exact stopsOnly_seq (by simp [ih])
      | array size => exact stopsOnly_seq (by simp [ih])

theorem stopsOnly_full (levels indent : Nat) (target : Handle) :
    StopsOnly Stop.NoFault (arena.fullWithin levels indent target) := by
  rintro ⟨sink, active⟩ reason stopped
  obtain ⟨after, ran, -⟩ := arena.follows_full levels active indent target sink
  rw [ran] at stopped
  exact stopsOnly_expand levels active indent target sink reason stopped

theorem stopsOnly_dump (levels : Nat) (scope : DumpScope) (indent : Nat) (id : NodeId) :
    StopsOnly (· = .outOfFuel) (arena.dumpWithin levels scope indent id) := by
  induction levels generalizing scope indent id with
  | zero => exact stopsOnly_stop rfl
  | succ levels ih =>
    have onward (scope : DumpScope) (indent : Nat) (target : Handle) : StopsOnly (· = .outOfFuel)
        (dumpHandle (arena.dumpWithin levels scope indent) indent target) :=
      stopsOnly_dumpHandle indent fun _ => ih scope indent target.node
    cases found : arena.lookup id with
    | error refusal =>
      simp only [dumpWithin, found]
      exact stopsOnly_refusedDump _ id indent
    | ok node =>
      obtain ⟨target, canonical, payload⟩ := node
      simp only [dumpWithin, found]
      apply stopsOnly_seq
      simp only [List.forall_mem_cons, stopsOnly_spaces, stopsOnly_text, true_and]
      refine ⟨?_, by simp⟩
      cases payload with
      | builtin which => exact stopsOnly_text _
      | user name =>
        have resolved : StopsOnly (· = .outOfFuel) (arena.writeEffective target) :=
          stopsOnly_handle fun _ => stopsOnly_effective arena.levels target.node
        have line : StopsOnly (· = .outOfFuel)
            (seq [label (indent + indentStep) .cyan "resolved to:", text " ",
              arena.writeEffective target, text "\n"]) :=
          stopsOnly_seq (by simp [resolved])
        apply stopsOnly_seq
        simp only [List.forall_mem_cons, stopsOnly_text, stopsOnly_optionalTree, true_and]
        refine ⟨?_, by simp⟩
        split
        · exact line
        · exact stopsOnly_nil
      | tagged sort body =>
        apply stopsOnly_seq
        simp only [List.forall_mem_cons, stopsOnly_kind, stopsOnly_text, true_and]
        refine ⟨?_, by simp⟩
        split
        · exact stopsOnly_each fun member _ => stopsOnly_seq (by simp [onward])
        · exact stopsOnly_nil
      | func args =>
        have list (indent : Nat) := stopsOnly_each fun arg (_ : arg ∈ args) =>
          onward .shallow indent arg
        exact stopsOnly_seq (by simp [onward, list])
      | pointer => exact stopsOnly_seq (by simp [onward])
      | array size => exact stopsOnly_seq (by simp [onward])

/-- Whether no query and no form of a type comes to a fault, on any number of levels: an answer is
given or refused, a text is written or its writing is refused. The effective form and the dump are
not even refused. -/
structure Faultless (arena : Arena) : Prop where
  width : ∀ levels id, (arena.widthWithin levels id).Faultless
  compatible : ∀ levels a b, (arena.compatibleWithin levels a b).Faultless
  aliasName : ∀ levels id, (arena.aliasNameWithin levels id).Faultless
  reaches : ∀ levels id target, (arena.reachesWithin id levels target).Faultless
  resolve : ∀ id target, (arena.resolve id target).answer.Faultless
  handleWidth : ∀ target : Handle, (target.width arena).Faultless
  handleCompatible : ∀ a b : Handle, (a.compatible b arena).Faultless
  name : ∀ levels id, StopsOnly Stop.NoFault (arena.nameWithin levels id)
  handleName : ∀ levels target,
    StopsOnly Stop.NoFault (Printer.handle (arena.nameWithin levels) target)
  full : ∀ levels indent target, StopsOnly Stop.NoFault (arena.fullWithin levels indent target)
  effective : ∀ levels id, StopsOnly (· = .outOfFuel) (arena.effectiveWithin levels id)
  handleEffective : ∀ levels target,
    StopsOnly (· = .outOfFuel) (Printer.handle (arena.effectiveWithin levels) target)
  dump : ∀ levels scope indent id,
    StopsOnly (· = .outOfFuel) (arena.dumpWithin levels scope indent id)
  handleDump : ∀ levels scope indent target,
    StopsOnly (· = .outOfFuel) (dumpHandle (arena.dumpWithin levels scope indent) indent target)

theorem Founded.faultless (founded : arena.Founded) : arena.Faultless where
  width := founded.width_faultless
  compatible := founded.compatible_faultless
  aliasName := founded.aliasName_faultless
  reaches := reaches_faultless
  resolve := resolve_faultless
  handleWidth target := by
    unfold Handle.width
    cases target.nodeId? with
    | error refusal => simp
    | ok id => exact founded.width_faultless arena.levels id
  handleCompatible a b := by
    unfold Handle.compatible
    cases a.nodeId? with
    | error refusal => simp
    | ok left =>
      cases b.nodeId? with
      | error refusal => simp
      | ok right => exact founded.compatible_faultless _ left right
  name := stopsOnly_name
  handleName levels target := stopsOnly_handle fun _ => stopsOnly_name levels target.node
  full := stopsOnly_full
  effective := stopsOnly_effective
  handleEffective levels target := stopsOnly_handle fun _ => stopsOnly_effective levels target.node
  dump := stopsOnly_dump
  handleDump levels scope indent target :=
    stopsOnly_dumpHandle indent fun _ => stopsOnly_dump levels scope indent target.node

/-- Whether the walk and the forms use the id of a handle behind a test for null only: to ask for the
id there as one does who takes it for granted makes no difference. -/
structure GuardsNull (arena : Arena) : Prop where
  reaches : ∀ levels id target, arena.reachesWithin id (levels + 1) target =
    if target.isNull then .ok false
    else target.andThen fun current => arena.reachesWithin id (levels + 1) (Handle.ofNode current)
  full : ∀ levels indent target, arena.fullWithin (levels + 1) indent target =
    if target.isNull then Expander.text "NULL"
    else seq [Expander.plain (keywords target.quals),
      asking target fun current => arena.fullWithin (levels + 1) indent (Handle.ofNode current)]
  handle : ∀ (print : NodeId → Printer) (target : Handle), Printer.handle print target =
    if target.isNull then text "NULL" else seq [keywords target.quals, asking target print]
  dump : ∀ (print : NodeId → Printer) (indent : Nat) (target : Handle),
    dumpHandle print indent target =
      if target.isNull then seq [spaces indent, text "NULL\n"]
      else seq [asking target print, qualifierLine target.quals indent]

theorem guardsNull (arena : Arena) : arena.GuardsNull where
  reaches levels id target := by
    cases null : target.isNull with
    | true => simp [reachesWithin, null]
    | false =>
      have valid : Handle.isNull ⟨target.node, Qualifiers.none⟩ = false := null
      simp only [Handle.andThen_of_valid null, reachesWithin, null, valid, Handle.ofNode,
        Bool.false_eq_true, if_false]
      rfl
  full levels indent target := by
    cases null : target.isNull with
    | true => simp [fullWithin, null]
    | false =>
      have valid : Handle.isNull ⟨target.node, Qualifiers.none⟩ = false := null
      have bare (body : Expander) : seq [Expander.plain (keywords Qualifiers.none), body] = body :=
        seq_singleton body
      simp only [asking_of_valid null, fullWithin, null, valid, Handle.ofNode, bare,
        Bool.false_eq_true, if_false]
  handle print target := by
    cases null : target.isNull with
    | true => simp [Printer.handle, null]
    | false => simp [Printer.handle, null, asking_of_valid null]
  dump print indent target := by
    cases null : target.isNull with
    | true => simp [dumpHandle, null]
    | false => simp [dumpHandle, null, asking_of_valid null]

def NamesAliases (arena : Arena) : Prop :=
  ∀ id node, arena.lookup id = .ok node → node.payload ≠ .user none

theorem NamesAliases.empty : Arena.empty.NamesAliases := by
  intro id node found
  obtain ⟨builtin, rfl⟩ := lookup_empty found
  nofun

end Arena

namespace Call

variable {call : Call} {arena : Arena} {id : NodeId} {node old new : Node}

theorem Makes.payload_ne (wanted : call.Makes node) : node.payload ≠ .user none := by
  cases call with
  | newArray element size =>
    obtain ⟨-, rfl⟩ := Node.arrayOf_eq_ok wanted
    nofun
  | newUser expr =>
    cases wanted
    nofun
  | newTagged sort tag =>
    cases wanted
    nofun
  | newFunction result =>
    cases wanted
    nofun
  | _ => cases wanted

theorem Edits.payload_ne (edit : call.Edits arena id old new) (keeps : call.isOverwrite = false)
    (before : old.payload ≠ .user none) : new.payload ≠ .user none := by
  cases call with
  | attachMembers place members =>
    obtain ⟨sort, body, -, -, rfl⟩ := Node.attachMembers_eq_ok edit.2
    nofun
  | assignResult place result =>
    obtain ⟨-, rfl⟩ := Node.assignResult_eq_ok edit.2
    exact before
  | appendArgument place arg =>
    obtain ⟨args, -, rfl⟩ := Node.appendArgument_eq_ok edit.2
    nofun
  | resolve place target =>
    obtain ⟨-, rfl⟩ := Node.resolve_eq_ok edit.2.2
    exact before
  | assignCanonical place canonical =>
    obtain ⟨-, rfl⟩ := Node.assignCanonical_eq_ok edit.2
    exact before
  | overwrite place kind target => cases keeps
  | _ => cases edit

end Call

namespace Arena

variable {arena after : Arena} {call : Call}

theorem NamesAliases.effect (named : arena.NamesAliases) (keeps : call.isOverwrite = false)
    (effect : call.Effect arena after) : after.NamesAliases := by
  apply nodes_hold ?_ (fun _ _ => nofun) (fun _ _ _ edit => edit.payload_ne keeps) named effect
  intro node id wanted
  simpa using wanted.payload_ne

theorem NamesAliases.operate (named : arena.NamesAliases) (operations : List Operation)
    (keeps : arena.overwritesNone operations = true) : (arena.operate operations).NamesAliases := by
  induction operations generalizing arena with
  | nil => exact named
  | cons operation rest ih =>
    simp only [overwritesNone, Bool.and_eq_true, Bool.or_eq_true, Bool.not_eq_true'] at keeps
    have next : (operation.perform arena).NamesAliases := by
      rw [perform_asCall]
      rcases keeps.1 with plain | refused
      · exact named.effect plain (effect_perform _ _)
      · rwa [arena_of_refused refused]
    exact ih next keeps.2

def namelessAlias : Refusal :=
  .invalidOperation "base_user_expr" .user "the user type has no name expression"

theorem NamesAliases.aliasName_ne (named : arena.NamesAliases) (levels : Nat) (id : NodeId) :
    arena.aliasNameWithin levels id ≠ .error (.refused namelessAlias) := by
  induction levels generalizing id with
  | zero => nofun
  | succ levels ih =>
    cases found : arena.lookup id with
    | error refusal =>
      rcases lookup_error_cases found with ⟨-, rfl⟩ | ⟨-, rfl⟩ <;>
        simp [aliasNameWithin, found, namelessAlias]
    | ok node =>
      have present := named id node found
      simp only [aliasNameWithin, found]
      obtain ⟨target, canonical, payload⟩ := node
      have onward : target.andThen (arena.aliasNameWithin levels) ≠
          .error (.refused namelessAlias) := by
        cases null : target.isNull with
        | true => simp [Handle.andThen_of_null null]
        | false => simpa [Handle.andThen_of_valid null] using ih target.node
      cases payload with
      | user expr =>
        cases expr with
        | none => exact absurd rfl present
        | some expr => simp [Node.kind, Payload.kind, Node.expr?]
      | pointer => exact onward
      | array size => exact onward
      | tagged sort body =>
        cases sort <;> simp [Node.kind, Payload.kind, TagKind.kind, namelessAlias]
      | _ => simp [Node.kind, Payload.kind, namelessAlias]

/-- Whatever calls are made on an arena and whatever is done to single nodes, with handles that are
null or lead nowhere and with nodes overwritten, every pointer and array stands on an element, and no
query or form comes to a fault. If no node was overwritten, the name of an alias is never missing. -/
theorem queries_never_fault (operations : List Operation) :
    (Arena.empty.operate operations).Founded ∧
      (Arena.empty.operate operations).Faultless ∧
      (Arena.empty.operate operations).GuardsNull ∧
      (Arena.empty.overwritesNone operations = true → ∀ levels id,
        (Arena.empty.operate operations).aliasNameWithin levels id ≠
          .error (.refused namelessAlias)) := by
  have founded : (Arena.empty.operate operations).Founded := by
    rw [operate_eq_run]
    exact Founded.empty.run _
  exact ⟨founded, founded.faultless, guardsNull _,
    fun keeps => (NamesAliases.empty.operate operations keeps).aliasName_ne⟩

-- A pointer to itself, an alias, an array of a node that is never made, and a function with a null
-- argument under a qualifier. What is to be overwritten last does not exist.
def strayHandles : List Operation :=
  [.call (.pointerTo (Handle.ofNode ⟨64⟩)), .call (.newUser (.identifier none "T")),
    .call (.newArray (Handle.ofNode ⟨99⟩) none), .call (.newFunction (Handle.ofNode ⟨66⟩)),
    .set ⟨67⟩ (.argument Handle.null.withConst), .call (.resolve ⟨65⟩ (Handle.ofNode ⟨67⟩)),
    .call (.overwrite ⟨98⟩ .user Handle.null)]

theorem queries_never_fault_strayHandles :
    let arena := Arena.empty.operate strayHandles
    Arena.empty.overwritesNone strayHandles = true ∧ arena.size = 4 ∧ arena.Faultless ∧
      arena.aliasName ⟨64⟩ = .error .outOfFuel ∧
      arena.aliasName ⟨65⟩ ≠ .error (.refused namelessAlias) := by
  have keeps : Arena.empty.overwritesNone strayHandles = true := by cbv
  obtain ⟨-, faultless, -, named⟩ := queries_never_fault strayHandles
  exact ⟨keeps, by cbv, faultless, by cbv, named keeps _ _⟩

-- A name can be missing after a node was overwritten.
example : (Arena.empty.operate [.call (.newUser (.identifier none "T")),
    .call (.overwrite ⟨64⟩ .user Handle.null)]).aliasName ⟨64⟩ =
      .error (.refused namelessAlias) := by cbv

-- A pointer without an element, which no run of operations brings about, would be a fault.
example : (Arena.mk #[⟨Handle.null, Handle.null, .pointer⟩] ∅).aliasName ⟨64⟩ =
    .error (.fault .nullHandle) := by cbv

end Arena

end TypeGraph
