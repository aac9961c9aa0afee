import TypeGraph.Form.Dump
import TypeGraph.Proofs.Walk

set_option autoImplicit false

namespace TypeGraph

open Relation Descent PrinterOver

namespace Node

def inlined (node : Node) : List Handle :=
  match node.payload with
  | .func args => node.target :: args
  | _ => node.spine

/-- The types that stand in the shallow dump of a node, which unlike the effective form does not go
into the target of an alias. -/
def nested (node : Node) : List Handle :=
  match node.payload with
  | .func args => node.target :: args
  | .pointer | .array _ => [node.target]
  | _ => []

theorem mem_spine_of_inlined {node : Node} {handle : Handle} (member : handle ∈ node.inlined) :
    handle ∈ node.spine ∨ node.kind = .func := by
  rcases node with ⟨target, canonical, payload⟩
  cases payload with
  | func args => exact .inr rfl
  | _ => exact .inl member

theorem mem_spine_of_nested {node : Node} {handle : Handle} (member : handle ∈ node.nested) :
    handle ∈ node.spine ∨ node.kind = .func := by
  rcases node with ⟨target, canonical, payload⟩
  cases payload with
  | func args => exact .inr rfl
  | pointer => exact .inl member
  | array size => exact .inl member
  | _ => cases member

end Node

namespace Arena

open Printer

variable {arena : Arena} {id : NodeId} {node : Node} {handle target : Handle}
  {next : Node → List Handle}

/-- Whether a type leads to a function that leads back to itself. -/
def Entangled (arena : Arena) (next : Node → List Handle) (target : Handle) : Prop :=
  target.isNull = false ∧ ∃ id node, ReflTransGen (arena.Leads next) target.node id ∧
    arena.lookup id = .ok node ∧ node.kind = .func ∧ TransGen (arena.Leads next) id id

theorem Sound.entangled_of_winds (sound : arena.Sound) (valid : target.isNull = false)
    (within : ∀ node, ∀ handle ∈ next node, handle ∈ node.spine ∨ node.kind = .func)
    (winds : Winds (arena.Leads next) target.node) : arena.Entangled next target := by
  -- Aliases, pointers and arrays alone close no cycle, so that a function lies on it.
  have plain (a b : NodeId) (leads : arena.Leads next a b) : arena.Leads Node.spine a b ∨
      ∃ node, arena.lookup a = .ok node ∧ node.kind = .func := by
    obtain ⟨node, found, handle, member, link⟩ := leads
    rcases within node handle member with stands | func
    · exact .inl ⟨node, found, handle, stands, link⟩
    · exact .inr ⟨node, found, func⟩
  obtain ⟨id, ⟨node, found, func⟩, path, cycle⟩ := winds.marked sound.acyclic plain
  exact ⟨valid, id, node, path, found, func, cycle⟩

theorem Entangled.winds (entangled : arena.Entangled next target) :
    Winds (arena.Leads next) target.node := by
  obtain ⟨-, id, node, path, -, -, cycle⟩ := entangled
  exact ⟨id, path, cycle⟩

theorem not_entangled_of_plain
    (plain : (arena.nodes.toList.all fun node => decide (node.kind ≠ .func)) = true) :
    ¬ arena.Entangled next target := by
  rintro ⟨-, id, node, -, found, func, -⟩
  rcases lookup_eq_ok_iff.mp found with ⟨builtin, -, rfl⟩ | owned
  · cases func
  · obtain ⟨index, -, present⟩ := owned_eq_ok_iff.mp owned
    have member : node ∈ arena.nodes.toList := by
      simpa using Array.mem_of_getElem? present
    exact of_decide_eq_true (List.all_eq_true.mp plain node member) func

def effectiveBody (print : Handle → Printer) (node : Node) : Printer :=
  match node.payload with
  | .builtin builtin => text builtin.name
  | .user name => if node.target.isValid then print node.target else Printer.optional name expr
  | .tagged sort _ => kind sort.kind
  | .func args =>
    seq [text "func ", print node.target, text "(", separated args print, text ")"]
  | .pointer => seq [print node.target, text "*"]
  | .array size => seq [print node.target, brackets size]

theorem effective_of_lookup (found : arena.lookup id = .ok node) (levels : Nat) :
    arena.effectiveWithin (levels + 1) id =
      effectiveBody (Printer.handle (arena.effectiveWithin levels)) node := by
  simp only [effectiveWithin, found]
  rfl

section EffectiveBody

variable {allowed : Stop → Prop} {print more : Handle → Printer}

theorem stopsOnly_effectiveBody (only : ∀ handle ∈ node.inlined, StopsOnly allowed (print handle)) :
    StopsOnly allowed (effectiveBody print node) := by
  obtain ⟨target, canonical, payload⟩ := node
  cases payload with
  | builtin which => exact stopsOnly_text _
  | user expr =>
    simp only [effectiveBody]
    split
    · exact only target List.mem_cons_self
    · exact stopsOnly_optional (by simp)
  | tagged sort body => exact stopsOnly_kind _
  | func args =>
    have list : StopsOnly allowed (separated args print) :=
      stopsOnly_separated fun arg member => only arg (List.mem_cons_of_mem _ member)
    exact stopsOnly_seq (by simp [only target List.mem_cons_self, list])
  | pointer => exact stopsOnly_seq (by simp [only target List.mem_cons_self])
  | array size => exact stopsOnly_seq (by simp [only target List.mem_cons_self])

theorem effectiveBody_congr (same : ∀ handle ∈ node.inlined, print handle = more handle) :
    effectiveBody print node = effectiveBody more node := by
  obtain ⟨target, canonical, payload⟩ := node
  cases payload with
  | builtin which => rfl
  | user expr => simp only [effectiveBody, same target List.mem_cons_self]
  | tagged sort body => rfl
  | func args =>
    have list := separated_congr fun arg member => same arg (List.mem_cons_of_mem _ member)
    simp only [effectiveBody, same target List.mem_cons_self, list]
  | pointer => simp only [effectiveBody, same target List.mem_cons_self]
  | array size => simp only [effectiveBody, same target List.mem_cons_self]

theorem endless_effectiveBody (member : handle ∈ node.inlined) (valid : handle.isNull = false)
    (only : ∀ handle, StopsOnly (· = .outOfFuel) (print handle)) (endless : Endless (print handle)) :
    Endless (effectiveBody print node) := by
  obtain ⟨target, canonical, payload⟩ := node
  cases payload with
  | builtin which => cases member
  | user expr =>
    cases List.mem_singleton.mp member
    simpa [effectiveBody, Handle.isValid, valid] using endless
  | tagged sort body => cases member
  | func args =>
    have list := stopsOnly_separated fun arg (_ : arg ∈ args) => only arg
    apply endless_seq
    · simp [only, list]
    · rcases List.mem_cons.mp member with rfl | arg
      · exact ⟨_, by simp, endless⟩
      · exact ⟨_, by simp, endless_separated (fun arg _ => only arg) ⟨handle, arg, endless⟩⟩
  | pointer =>
    cases List.mem_singleton.mp member
    exact endless_seq (by simp [only]) ⟨_, List.mem_cons_self, endless⟩
  | array size =>
    cases List.mem_singleton.mp member
    exact endless_seq (by simp [only]) ⟨_, List.mem_cons_self, endless⟩

end EffectiveBody

theorem effective_of_refusal {refusal : Refusal} (missing : arena.lookup id = .error refusal)
    (levels : Nat) : arena.effectiveWithin (levels + 1) id = invalid id := by
  simp only [effectiveWithin, missing]

theorem stopsOnly_effective (levels : Nat) (id : NodeId) :
    StopsOnly (· = .outOfFuel) (arena.effectiveWithin levels id) := by
  induction levels generalizing id with
  | zero => exact stopsOnly_stop rfl
  | succ levels ih =>
    cases found : arena.lookup id with
    | error refusal =>
      rw [effective_of_refusal found]
      exact stopsOnly_invalid id
    | ok node =>
      rw [effective_of_lookup found]
      exact stopsOnly_effectiveBody fun handle _ => stopsOnly_handle fun _ => ih handle.node

theorem effective_step (id : NodeId) (levels more : Nat)
    (below : ∀ b, arena.Leads Node.inlined id b →
      arena.effectiveWithin levels b = arena.effectiveWithin more b ∧
        Ends (arena.effectiveWithin levels b)) :
    arena.effectiveWithin (levels + 1) id = arena.effectiveWithin (more + 1) id ∧
      Ends (arena.effectiveWithin (levels + 1) id) := by
  cases found : arena.lookup id with
  | error refusal =>
    rw [effective_of_refusal found, effective_of_refusal found]
    exact ⟨rfl, stopsOnly_invalid id⟩
  | ok node =>
    have part (handle : Handle) (member : handle ∈ node.inlined) :=
      onward_handle found member below
    rw [effective_of_lookup found, effective_of_lookup found]
    exact ⟨effectiveBody_congr fun handle member => (part handle member).1,
      stopsOnly_effectiveBody fun handle member => (part handle member).2⟩

theorem effective_stuck (levels : Nat) (a b : NodeId) (leads : arena.Leads Node.inlined a b)
    (endless : Endless (arena.effectiveWithin levels b)) :
    Endless (arena.effectiveWithin (levels + 1) a) := by
  obtain ⟨node, found, handle, member, valid, rfl⟩ := leads
  rw [effective_of_lookup found]
  apply endless_effectiveBody member valid
  · exact fun _ => stopsOnly_handle fun _ => stopsOnly_effective levels _
  · exact endless_handle valid (stopsOnly_effective levels _) endless

theorem effective_settles_of_free
    (free : target.isNull = false → ¬ Winds (arena.Leads Node.inlined) target.node) :
    Settles Ends (fun levels => Printer.handle (arena.effectiveWithin levels) target)
      (arena.size + 1) (arena.writeEffective target) := by
  have settled (valid : target.isNull = false) :
      Settles Ends (fun levels => arena.effectiveWithin levels target.node) (arena.size + 1)
        (arena.writeNodeEffective target.node) :=
    settles_along _ (fun _ _ leads => leads.mem_ids fun _ => rfl) effective_step (free valid)
      (Nat.lt_succ_of_le arena.card_ids_le) arena.size_lt_levels
  refine ⟨stopsOnly_handle fun valid => (settled valid).1, fun levels enough => ?_⟩
  exact handle_congr fun valid => (settled valid).2 levels enough

theorem Sound.effective_settles (sound : arena.Sound)
    (free : ¬ arena.Entangled Node.inlined target) :
    Settles Ends (fun levels => Printer.handle (arena.effectiveWithin levels) target)
      (arena.size + 1) (arena.writeEffective target) := by
  apply effective_settles_of_free
  intro valid winds
  exact free (sound.entangled_of_winds valid (fun _ _ => Node.mem_spine_of_inlined) winds)

theorem effective_endless_of_winds (winds : Winds (arena.Leads Node.inlined) id) (levels : Nat) :
    Endless (arena.effectiveWithin levels id) :=
  holds_of_winds (fun levels id => Endless (arena.effectiveWithin levels id))
    (fun _ => endless_stop) effective_stuck levels winds

theorem Entangled.effective_endless (entangled : arena.Entangled Node.inlined target)
    (levels : Nat) : Endless (Printer.handle (arena.effectiveWithin levels) target) :=
  endless_handle entangled.1 (stopsOnly_effective levels _)
    (effective_endless_of_winds entangled.winds levels)

section Dump

variable {allowed : Stop → Prop} {print more : NodeId → Printer}

@[simp] theorem stopsOnly_qualifierLine (quals : Qualifiers) (indent : Nat) :
    StopsOnly allowed (qualifierLine quals indent) := by
  unfold qualifierLine
  split <;> exact stopsOnly_seq (by simp)

@[simp] theorem stopsOnly_label (indent : Nat) (color : Color) (word : String) :
    StopsOnly allowed (label indent color word) :=
  stopsOnly_seq (by simp)

theorem stopsOnly_dumpHandle (indent : Nat)
    (only : target.isNull = false → StopsOnly allowed (print target.node)) :
    StopsOnly allowed (dumpHandle print indent target) := by
  unfold dumpHandle
  cases null : target.isNull with
  | true => exact stopsOnly_seq (by simp)
  | false => exact stopsOnly_seq (by simp [only null])

theorem dumpHandle_congr (indent : Nat)
    (same : target.isNull = false → print target.node = more target.node) :
    dumpHandle print indent target = dumpHandle more indent target := by
  unfold dumpHandle
  cases null : target.isNull with
  | true => rfl
  | false => simp only [same null]

theorem endless_dumpHandle (indent : Nat) (valid : target.isNull = false)
    (only : StopsOnly (· = .outOfFuel) (print target.node)) (endless : Endless (print target.node)) :
    Endless (dumpHandle print indent target) := by
  simp only [dumpHandle, valid, Bool.false_eq_true, if_false]
  apply endless_seq
  · simp [only]
  · exact ⟨_, List.mem_cons_self, endless⟩

end Dump

def shallowBody (print : Nat → Handle → Printer) (indent : Nat) (node : Node) : Printer :=
  let child := indent + indentStep
  let below := child + indentStep
  match node.payload with
  | .builtin builtin => text ("(builtin) " ++ builtin.name ++ "\n")
  | .user name => seq [text "(user)\n", Printer.optional name fun name => exprTree name child, seq []]
  | .tagged sort body => seq [kind sort.kind, text (" " ++ body.tag ++ "\n"), seq []]
  | .func args =>
    seq [text "(func)\n", label child .blue "returns:", text "\n", print below node.target,
      label child .blue "args:", text "\n", each args (print below)]
  | .pointer => seq [text "(pointer)\n", print child node.target]
  | .array size =>
    seq [text "(array)\n", print child node.target,
      Printer.optional size fun size =>
        seq [label child .blue "size:", text "\n", exprTree size.expr below]]

def shallowHandle (arena : Arena) (levels indent : Nat) (target : Handle) : Printer :=
  dumpHandle (arena.dumpWithin levels .shallow indent) indent target

theorem shallow_of_lookup (found : arena.lookup id = .ok node) (levels indent : Nat) :
    arena.dumpWithin (levels + 1) .shallow indent id =
      seq [spaces indent, text "[type] ", shallowBody (arena.shallowHandle levels) indent node] := by
  simp only [dumpWithin, found]
  obtain ⟨target, canonical, payload⟩ := node
  cases payload with
  | user expr => simp [shallowBody]
  | tagged sort body => simp [shallowBody]
  | _ => rfl

theorem shallow_of_refusal {refusal : Refusal} (missing : arena.lookup id = .error refusal)
    (levels indent : Nat) :
    arena.dumpWithin (levels + 1) .shallow indent id =
      seq [spaces indent, text "[type] ", seq [invalid id, text "\n"]] := by
  simp only [dumpWithin, missing]

section ShallowBody

variable {print more : Nat → Handle → Printer} {allowed : Stop → Prop}

@[simp] theorem stopsOnly_sizeTree (size : Option ArrayBound) (child below : Nat) :
    StopsOnly allowed (Printer.optional size fun size =>
      seq [label child .blue "size:", text "\n", exprTree size.expr below]) :=
  stopsOnly_optional fun _ => stopsOnly_seq (by simp)

theorem stopsOnly_shallowBody (indent : Nat)
    (only : ∀ handle ∈ node.nested, ∀ indent, StopsOnly allowed (print indent handle)) :
    StopsOnly allowed (shallowBody print indent node) := by
  obtain ⟨target, canonical, payload⟩ := node
  cases payload with
  | builtin which => exact stopsOnly_text _
  | user expr => exact stopsOnly_seq (by simp)
  | tagged sort body => exact stopsOnly_seq (by simp)
  | func args =>
    have list (indent : Nat) : StopsOnly allowed (each args (print indent)) :=
      stopsOnly_each fun arg member => only arg (List.mem_cons_of_mem _ member) indent
    exact stopsOnly_seq (by simp [only target List.mem_cons_self, list])
  | pointer => exact stopsOnly_seq (by simp [only target List.mem_cons_self])
  | array size => exact stopsOnly_seq (by simp [only target List.mem_cons_self])

theorem shallowBody_congr (indent : Nat)
    (same : ∀ handle ∈ node.nested, ∀ indent, print indent handle = more indent handle) :
    shallowBody print indent node = shallowBody more indent node := by
  obtain ⟨target, canonical, payload⟩ := node
  cases payload with
  | func args =>
    have list (indent : Nat) : each args (print indent) = each args (more indent) :=
      each_congr fun arg member => same arg (List.mem_cons_of_mem _ member) indent
    simp only [shallowBody, same target List.mem_cons_self, list]
  | pointer => simp only [shallowBody, same target List.mem_cons_self]
  | array size => simp only [shallowBody, same target List.mem_cons_self]
  | _ => rfl

theorem endless_shallowBody (indent : Nat) (member : handle ∈ node.nested)
    (only : ∀ handle ∈ node.nested, ∀ indent, StopsOnly (· = .outOfFuel) (print indent handle))
    (endless : ∀ indent, Endless (print indent handle)) :
    Endless (shallowBody print indent node) := by
  obtain ⟨target, canonical, payload⟩ := node
  cases payload with
  | builtin which => cases member
  | user expr => cases member
  | tagged sort body => cases member
  | func args =>
    have each (indent : Nat) (arg : Handle) (present : arg ∈ args) :=
      only arg (List.mem_cons_of_mem _ present) indent
    have list (indent : Nat) := stopsOnly_each (each indent)
    apply endless_seq
    · simp [only target List.mem_cons_self, list]
    · rcases List.mem_cons.mp member with rfl | arg
      · exact ⟨_, by simp, endless (indent + indentStep + indentStep)⟩
      · have never := endless_each (each (indent + indentStep + indentStep))
          ⟨handle, arg, endless _⟩
        exact ⟨_, by simp, never⟩
  | pointer =>
    cases List.mem_singleton.mp member
    exact endless_seq (by simp [only target List.mem_cons_self])
      ⟨_, by simp, endless (indent + indentStep)⟩
  | array size =>
    cases List.mem_singleton.mp member
    exact endless_seq (by simp [only target List.mem_cons_self])
      ⟨_, by simp, endless (indent + indentStep)⟩

end ShallowBody

theorem stopsOnly_refusedDump (allowed : Stop → Prop) (id : NodeId) (indent : Nat) :
    StopsOnly allowed (seq [spaces indent, text "[type] ", seq [invalid id, text "\n"]]) := by
  have line : StopsOnly allowed (seq [invalid id, text "\n"]) := stopsOnly_seq (by simp)
  exact stopsOnly_seq (by simp [line])

theorem stopsOnly_shallow (levels indent : Nat) (id : NodeId) :
    StopsOnly (· = .outOfFuel) (arena.dumpWithin levels .shallow indent id) := by
  induction levels generalizing id indent with
  | zero => exact stopsOnly_stop rfl
  | succ levels ih =>
    cases found : arena.lookup id with
    | error refusal =>
      rw [shallow_of_refusal found]
      exact stopsOnly_refusedDump _ id indent
    | ok node =>
      have body : StopsOnly (· = .outOfFuel)
          (shallowBody (arena.shallowHandle levels) indent node) :=
        stopsOnly_shallowBody indent fun handle _ indent =>
          stopsOnly_dumpHandle indent fun _ => ih indent handle.node
      rw [shallow_of_lookup found]
      exact stopsOnly_seq (by simp [body])

theorem shallow_step (id : NodeId) (levels more : Nat)
    (below : ∀ b, arena.Leads Node.nested id b → ∀ indent,
      arena.dumpWithin levels .shallow indent b = arena.dumpWithin more .shallow indent b ∧
        Ends (arena.dumpWithin levels .shallow indent b)) (indent : Nat) :
    arena.dumpWithin (levels + 1) .shallow indent id =
        arena.dumpWithin (more + 1) .shallow indent id ∧
      Ends (arena.dumpWithin (levels + 1) .shallow indent id) := by
  cases found : arena.lookup id with
  | error refusal =>
    rw [shallow_of_refusal found, shallow_of_refusal found]
    exact ⟨rfl, stopsOnly_refusedDump _ id indent⟩
  | ok node =>
    have leads (handle : Handle) (member : handle ∈ node.nested) (valid : handle.isNull = false) :=
      below _ (leads_of_mem found member valid)
    have same : shallowBody (arena.shallowHandle levels) indent node =
        shallowBody (arena.shallowHandle more) indent node :=
      shallowBody_congr indent fun handle member indent =>
        dumpHandle_congr indent fun valid => (leads handle member valid indent).1
    have ends : Ends (shallowBody (arena.shallowHandle levels) indent node) :=
      stopsOnly_shallowBody indent fun handle member indent =>
        stopsOnly_dumpHandle indent fun valid => (leads handle member valid indent).2
    rw [shallow_of_lookup found, shallow_of_lookup found, same]
    rw [same] at ends
    exact ⟨rfl, stopsOnly_seq (by simp [ends])⟩

theorem shallow_stuck (levels : Nat) (a b : NodeId) (leads : arena.Leads Node.nested a b)
    (endless : ∀ indent, Endless (arena.dumpWithin levels .shallow indent b)) (indent : Nat) :
    Endless (arena.dumpWithin (levels + 1) .shallow indent a) := by
  obtain ⟨node, found, handle, member, valid, rfl⟩ := leads
  have only (handle : Handle) (indent : Nat) :
      StopsOnly (· = .outOfFuel) (arena.shallowHandle levels indent handle) :=
    stopsOnly_dumpHandle indent fun _ => stopsOnly_shallow levels indent _
  have body := endless_shallowBody indent member (fun handle _ => only handle) fun indent =>
    endless_dumpHandle indent valid (stopsOnly_shallow levels indent _) (endless indent)
  rw [shallow_of_lookup found]
  apply endless_seq
  · simp [stopsOnly_shallowBody indent fun handle _ => only handle]
  · exact ⟨_, by simp, body⟩

-- The indentation grows on the way down, so that the recursion is over dumps at any of it.
theorem shallowNode_settles_of_free (free : ¬ Winds (arena.Leads Node.nested) id) :
    Settles (fun dump => ∀ indent, Ends (dump indent))
      (fun levels indent => arena.dumpWithin levels .shallow indent id)
      (arena.size + 1) (fun indent => arena.writeNodeDump id indent .shallow) := by
  have step (id : NodeId) (levels more : Nat)
      (below : ∀ b, arena.Leads Node.nested id b →
        (fun indent => arena.dumpWithin levels .shallow indent b) =
            (fun indent => arena.dumpWithin more .shallow indent b) ∧
          ∀ indent, Ends (arena.dumpWithin levels .shallow indent b)) :
      (fun indent => arena.dumpWithin (levels + 1) .shallow indent id) =
          (fun indent => arena.dumpWithin (more + 1) .shallow indent id) ∧
        ∀ indent, Ends (arena.dumpWithin (levels + 1) .shallow indent id) := by
    have all := shallow_step id levels more fun b leads indent =>
      ⟨congrFun (below b leads).1 indent, (below b leads).2 indent⟩
    exact ⟨funext fun indent => (all indent).1, fun indent => (all indent).2⟩
  have above : arena.size + 1 ≤ arena.levels * 2 :=
    arena.size_lt_levels.trans (Nat.le_mul_of_pos_right _ Nat.two_pos)
  exact settles_along (fun levels id indent => arena.dumpWithin levels .shallow indent id)
    (fun _ _ leads => leads.mem_ids fun _ => rfl) step free
    (Nat.lt_succ_of_le arena.card_ids_le) above

theorem shallow_settles_of_free (indent : Nat)
    (free : target.isNull = false → ¬ Winds (arena.Leads Node.nested) target.node) :
    Settles Ends (fun levels => dumpHandle (arena.dumpWithin levels .shallow indent) indent target)
      (arena.size + 1) (arena.writeDump target indent .shallow) := by
  have settled (valid : target.isNull = false) := shallowNode_settles_of_free (free valid)
  refine ⟨stopsOnly_dumpHandle indent fun valid => (settled valid).1 indent, ?_⟩
  intro levels enough
  exact dumpHandle_congr indent fun valid => congrFun ((settled valid).2 levels enough) indent

theorem Sound.shallow_settles (sound : arena.Sound) (indent : Nat)
    (free : ¬ arena.Entangled Node.nested target) :
    Settles Ends (fun levels => dumpHandle (arena.dumpWithin levels .shallow indent) indent target)
      (arena.size + 1) (arena.writeDump target indent .shallow) := by
  apply shallow_settles_of_free indent
  intro valid winds
  exact free (sound.entangled_of_winds valid (fun _ _ => Node.mem_spine_of_nested) winds)

theorem shallow_endless_of_winds (winds : Winds (arena.Leads Node.nested) id)
    (levels indent : Nat) : Endless (arena.dumpWithin levels .shallow indent id) :=
  holds_of_winds (fun levels id => ∀ indent, Endless (arena.dumpWithin levels .shallow indent id))
    (fun _ _ => endless_stop) shallow_stuck levels winds indent

theorem Entangled.shallow_endless (entangled : arena.Entangled Node.nested target)
    (levels indent : Nat) :
    Endless (dumpHandle (arena.dumpWithin levels .shallow indent) indent target) :=
  endless_dumpHandle indent entangled.1 (stopsOnly_shallow levels indent _)
    (shallow_endless_of_winds entangled.winds levels indent)

theorem not_settles_of_endless {run : Nat → Printer} {bound : Nat} {result : Printer}
    (endless : Endless result) : ¬ Settles Ends run bound result :=
  fun settled => settled.1 Sink.plain .outOfFuel (endless Sink.plain) rfl

/-- In every arena that is built, the effective form and the shallow dump come to an end on a type
unless it leads to a function that leads back to itself. If it does, no number of levels is enough
for them, whatever they start from. -/
theorem one_line_and_shallow_settle_iff (built : Built arena) (target : Handle) (indent : Nat) :
    (Settles Ends (fun levels => Printer.handle (arena.effectiveWithin levels) target)
        (arena.size + 1) (arena.writeEffective target) ↔ ¬ arena.Entangled Node.inlined target) ∧
      (Settles Ends
        (fun levels => dumpHandle (arena.dumpWithin levels .shallow indent) indent target)
        (arena.size + 1) (arena.writeDump target indent .shallow) ↔
          ¬ arena.Entangled Node.nested target) ∧
      (arena.Entangled Node.inlined target → ∀ levels,
        Endless (Printer.handle (arena.effectiveWithin levels) target)) ∧
      (arena.Entangled Node.nested target → ∀ levels,
        Endless (dumpHandle (arena.dumpWithin levels .shallow indent) indent target)) := by
  have sound := built.sound
  refine ⟨⟨fun settled entangled => ?_, sound.effective_settles⟩,
    ⟨fun settled entangled => ?_, sound.shallow_settles indent⟩,
    fun entangled => entangled.effective_endless,
    fun entangled levels => entangled.shallow_endless levels indent⟩
  · exact not_settles_of_endless (entangled.effective_endless _) settled
  · exact not_settles_of_endless (entangled.shallow_endless _ indent) settled

def linkedList : List Call :=
  [.newTagged .struct "Node", .pointerTo (Handle.ofNode ⟨64⟩),
    .attachMembers ⟨64⟩ [.plain "next" (Handle.ofNode ⟨65⟩)]]

theorem one_line_and_shallow_settle_linkedList :
    Built (Arena.empty.run linkedList) ∧
      Settles Ends
        (fun levels =>
          Printer.handle ((Arena.empty.run linkedList).effectiveWithin levels) (Handle.ofNode ⟨65⟩))
        ((Arena.empty.run linkedList).size + 1)
        ((Arena.empty.run linkedList).writeEffective (Handle.ofNode ⟨65⟩)) := by
  have built := Built.empty.run linkedList (by cbv)
  have plain : ((Arena.empty.run linkedList).nodes.toList.all
      fun node => decide (node.kind ≠ .func)) = true := by cbv
  exact ⟨built, (one_line_and_shallow_settle_iff built _ 0).1.mpr (not_entangled_of_plain plain)⟩

-- A function that takes itself as its argument.
def selfArgument : List Call :=
  [.newFunction Handle.null, .appendArgument ⟨64⟩ (Handle.ofNode ⟨64⟩)]

theorem selfArgument_endless :
    Built (Arena.empty.run selfArgument) ∧
      (∀ levels, Endless (Printer.handle ((Arena.empty.run selfArgument).effectiveWithin levels)
        (Handle.ofNode ⟨64⟩))) ∧
      ∀ levels indent, Endless
        (dumpHandle ((Arena.empty.run selfArgument).dumpWithin levels .shallow indent) indent
          (Handle.ofNode ⟨64⟩)) := by
  have found : (Arena.empty.run selfArgument).lookup ⟨64⟩ =
      .ok ⟨Handle.null, Handle.ofNode ⟨64⟩, .func [Handle.ofNode ⟨64⟩]⟩ := by cbv
  have around (next : Node → List Handle)
      (goes : Handle.ofNode ⟨64⟩ ∈
        next ⟨Handle.null, Handle.ofNode ⟨64⟩, .func [Handle.ofNode ⟨64⟩]⟩) :
      (Arena.empty.run selfArgument).Entangled next (Handle.ofNode ⟨64⟩) :=
    ⟨rfl, _, _, .refl, found, rfl, .single (leads_of_mem found goes rfl)⟩
  exact ⟨Built.empty.run selfArgument (by cbv),
    (around Node.inlined (by decide)).effective_endless,
    (around Node.nested (by decide)).shallow_endless⟩

end Arena

end TypeGraph
