import TypeGraph.Proofs.AgreedForms
import TypeGraph.Proofs.Faultless
import TypeGraph.Proofs.FormLayout

set_option autoImplicit false

namespace TypeGraph

open Relation Descent PrinterOver Printer

namespace Printer

variable {colors : Bool} {printer first outer middle inner : Printer} {parts : List Printer}
  {part later opening closing opening' closing' : String} {ended ended' : Option Stop}

theorem Writes.unique (writes : Writes colors printer part ended)
    (writes' : Writes colors printer later ended') : part = later ∧ ended = ended' := by
  have same := (writes { colors := colors } rfl).symm.trans (writes' _ rfl)
  simpa [Sink.append] using same

theorem Steady.writes (steady : Steady colors printer) (never : StopsOnly (fun _ => False) printer) :
    ∃ part, Writes colors printer part none := by
  obtain ⟨part, ended, writes⟩ := steady
  cases ended with
  | none => exact ⟨part, writes⟩
  | some reason => exact (writes.allowed never).elim

/-- Whether one printer writes what another does between two texts, and stops where the other does. -/
structure Frames (colors : Bool) (outer inner : Printer) (opening closing : String) : Prop where
  written : ∀ part, Writes colors inner part none →
    Writes colors outer (opening ++ part ++ closing) none
  stopped : ∀ part reason, Writes colors inner part (some reason) →
    Writes colors outer (opening ++ part) (some reason)

theorem Frames.refl (printer : Printer) : Frames colors printer printer "" "" where
  written part writes := by simpa using writes
  stopped part reason writes := by simpa using writes

theorem Frames.trans (wide : Frames colors outer middle opening closing)
    (narrow : Frames colors middle inner opening' closing') :
    Frames colors outer inner (opening ++ opening') (closing' ++ closing) where
  written part writes := by
    simpa [String.append_assoc] using wide.written _ (narrow.written part writes)
  stopped part reason writes := by
    simpa [String.append_assoc] using wide.stopped _ reason (narrow.stopped part reason writes)

theorem frames_head (rest : Writes colors (seq parts) later none) :
    Frames colors (seq (first :: parts)) first "" later where
  written part writes := by simpa using writes_cons writes rest
  stopped part reason writes := by simpa using writes_cons_stop writes

theorem frames_cons (head : Writes colors first part none)
    (rest : Frames colors (seq parts) inner opening closing) :
    Frames colors (seq (first :: parts)) inner (part ++ opening) closing where
  written part writes := by
    simpa [String.append_assoc] using writes_cons head (rest.written part writes)
  stopped part reason writes := by
    simpa [String.append_assoc] using writes_cons head (rest.stopped part reason writes)

theorem frames_last (head : Writes colors first part none) :
    Frames colors (seq [first, printer]) printer part "" where
  written part writes := by simpa using writes_pair head writes
  stopped part reason writes := writes_pair head writes

theorem Frames.ended_eq (frames : Frames colors outer inner opening closing)
    (writes : Writes colors inner part ended) {sink : Sink} (same : sink.colors = colors)
    (ends : (outer sink).stop = none) : ended = none := by
  cases ended with
  | none => rfl
  | some reason =>
    rw [(frames.stopped part reason writes).stop_eq same] at ends
    cases ends

end Printer

namespace Arena

variable {arena : Arena} {colors : Bool} {id base : NodeId} {node : Node} {handle target : Handle}
  {steps levels indent : Nat}

/-- Whether so many pointers and arrays lead from a node to another, which may name nothing, but is no
pointer and no array. -/
inductive Above (arena : Arena) : NodeId → Nat → NodeId → Prop where
  | here {id : NodeId} (bare : ∀ node, arena.lookup id = .ok node → node.elements = []) :
      Above arena id 0 id
  | link {id base : NodeId} {node : Node} {target : Handle} {steps : Nat}
      (found : arena.lookup id = .ok node) (element : target ∈ node.elements)
      (valid : target.isNull = false) (rest : Above arena target.node steps base) :
      Above arena id (steps + 1) base

theorem not_winds_elements (free : ¬ Winds (arena.Leads Node.nested) id) :
    ¬ Winds (arena.Leads Node.elements) id := by
  intro winds
  refine free (winds.mono ?_)
  rintro a b ⟨node, found, handle, element, link⟩
  exact ⟨node, found, handle, by simp [Node.nested_of_mem_elements element], link⟩

theorem exists_above (founded : arena.Founded) (free : ¬ Winds (arena.Leads Node.elements) id) :
    ∃ steps base, arena.Above id steps base ∧ steps ≤ arena.size := by
  have few := arena.card_ids_le
  suffices bounded : ∃ steps base, arena.Above id steps base ∧
      steps ≤ height (arena.Leads Node.elements) arena.ids id by
    obtain ⟨steps, base, above, enough⟩ := bounded
    exact ⟨steps, base, above, (enough.trans height_le_card).trans few⟩
  induction depth : height (arena.Leads Node.elements) arena.ids id
    using Nat.strong_induction_on generalizing id with
  | _ depth ih =>
    by_cases bare : ∀ node, arena.lookup id = .ok node → node.elements = []
    · exact ⟨0, id, .here bare, Nat.zero_le _⟩
    · push Not at bare
      obtain ⟨node, found, some⟩ := bare
      obtain ⟨target, element⟩ := List.exists_mem_of_ne_nil _ some
      obtain ⟨stands, rfl⟩ := Node.mem_elements_iff.mp element
      have valid := founded id node found stands
      have leads := leads_of_mem found element valid
      have lower := height_lt (leads.mem_ids fun _ => rfl) leads
        fun cycle => free ⟨id, .refl, cycle⟩
      obtain ⟨steps, base, above, enough⟩ := ih _ (by omega)
        (fun ⟨c, path, cycle⟩ => free ⟨c, .head leads path, cycle⟩) rfl
      exact ⟨steps + 1, base, .link found element valid above, by omega⟩

theorem Above.unique {base' : NodeId} {steps' : Nat} (above : arena.Above id steps base)
    (above' : arena.Above id steps' base') : steps = steps' ∧ base = base' := by
  induction above generalizing steps' with
  | here bare =>
    cases above' with
    | here bare' => exact ⟨rfl, rfl⟩
    | link found element valid rest => simp [bare _ found] at element
  | link found element valid rest ih =>
    cases above' with
    | here bare => simp [bare _ found] at element
    | link found' element' valid' rest' =>
      obtain rfl := Except.ok.inj (found.symm.trans found')
      obtain rfl := (Node.mem_elements_iff.mp element).2
      obtain rfl := (Node.mem_elements_iff.mp element').2
      obtain ⟨rfl, rfl⟩ := ih rest'
      exact ⟨rfl, rfl⟩

theorem Above.bare (above : arena.Above id steps base) :
    ∀ node, arena.lookup base = .ok node → node.elements = [] := by
  induction above with
  | here bare => exact bare
  | link _ _ _ _ ih => exact ih

theorem Above.winds (above : arena.Above id steps base) (winds : Winds (arena.Leads Node.nested) base) :
    Winds (arena.Leads Node.nested) id := by
  induction above with
  | here bare => exact winds
  | link found element valid _ ih =>
    have nested := Node.nested_of_mem_elements element
    have leads := leads_of_mem found (nested ▸ List.mem_singleton_self _) valid
    obtain ⟨c, path, cycle⟩ := ih winds
    exact ⟨c, .head leads path, cycle⟩

/-- What a deep dump goes on with behind the lines of a node that is no pointer and no array, over the
printer of the types of members. -/
def unfolding (arena : Arena) (print : Nat → Handle → Printer) (id : NodeId) (indent : Nat) :
    Printer :=
  match arena.lookup id with
  | .error _ => seq []
  | .ok node =>
    match node.payload with
    | .user _ => if node.target.isValid then arena.resolvedLine node.target indent else seq []
    | .tagged _ body => each (body.members.getD []) fun member => memberTree print member indent
    | _ => seq []

theorem deep_of_bare (bare : ∀ node, arena.lookup id = .ok node → node.elements = [])
    (levels indent : Nat) :
    arena.dumpWithin (levels + 1) .deep indent id =
      seq [arena.dumpWithin (levels + 1) .shallow indent id,
        arena.unfolding (arena.shallowHandle levels) id (indent + indentStep)] := by
  unfold unfolding
  cases found : arena.lookup id with
  | error refusal => simp only [dumpWithin, found, seq_nil_last]
  | ok node =>
    have none := bare node found
    obtain ⟨target, canonical, payload⟩ := node
    cases payload with
    | user name =>
      have out := seq_last_out [spaces indent, text "[type] "]
        [text "(user)\n", optional name fun name => exprTree name (indent + indentStep)]
        (if target.isValid then arena.resolvedLine target (indent + indentStep) else seq [])
      simpa [dumpWithin, found, resolvedLine] using out
    | tagged sort body =>
      have out := seq_last_out [spaces indent, text "[type] "]
        [kind sort.kind, text (" " ++ body.tag ++ "\n")]
        (each (body.members.getD []) fun member =>
          memberTree (arena.shallowHandle levels) member (indent + indentStep))
      simpa [dumpWithin, found, memberTree, shallowHandle, Node.members, Node.members?, Node.body?]
        using out
    | pointer => cases none
    | array size => cases none
    | _ => simp only [dumpWithin, found, seq_nil_last]

theorem steady_dump (arena : Arena) (colors : Bool) (levels : Nat) (scope : DumpScope)
    (indent : Nat) (id : NodeId) : Steady colors (arena.dumpWithin levels scope indent id) :=
  (laysOut_dump control_none arena.lacks_none levels scope id).steady colors indent

theorem exists_writes_qualifierLine (colors : Bool) (quals : Qualifiers) (indent : Nat) :
    ∃ part, Writes colors (qualifierLine quals indent) part none :=
  ((control_none.qualifierLine quals).steady colors indent).writes (stopsOnly_qualifierLine quals indent)

theorem exists_writes_sizeTree (colors : Bool) (size : Option ArrayBound) (indent : Nat) :
    ∃ part, Writes colors (optional size fun size => seq [label indent .blue "size:", text "\n",
      exprTree size.expr (indent + indentStep)]) part none :=
  ((control_none.sizeTree fun _ _ _ _ => id).steady colors indent).writes
    (stopsOnly_sizeTree size indent _)

theorem frames_dumpHandle (valid : target.isNull = false) (colors : Bool) (indent : Nat) :
    ∃ closing, ∀ print : NodeId → Printer,
      Frames colors (dumpHandle print indent target) (print target.node) "" closing := by
  obtain ⟨closing, writes⟩ := exists_writes_qualifierLine colors target.quals indent
  refine ⟨closing, fun print => ?_⟩
  simp only [dumpHandle, valid, Bool.false_eq_true, if_false]
  exact frames_head (by simpa only [seq_singleton] using writes)

theorem dump_of_element (found : arena.lookup id = .ok node) (element : target ∈ node.elements)
    (levels : Nat) (scope : DumpScope) (indent : Nat) :
    arena.dumpWithin (levels + 1) scope indent id = seq [spaces indent, text "[type] ",
      shallowBody (fun indent => dumpHandle (arena.dumpWithin levels scope indent) indent) indent
        node] := by
  cases scope with
  | deep => exact deep_of_lookup found element levels indent
  | shallow => exact shallow_of_lookup found levels indent

theorem frames_of_element (found : arena.lookup id = .ok node) (element : target ∈ node.elements)
    (valid : target.isNull = false) (colors : Bool) (indent : Nat) :
    ∃ opening closing, ∀ levels scope,
      Frames colors (arena.dumpWithin (levels + 1) scope indent id)
        (arena.dumpWithin levels scope (indent + indentStep) target.node) opening closing := by
  obtain ⟨closing, below⟩ := frames_dumpHandle valid colors (indent + indentStep)
  have heading (body : Printer) : Frames colors (seq [spaces indent, text "[type] ", body]) body
      ("".pushn ' ' indent ++ "[type] ") "" :=
    frames_cons (writes_spaces indent) (frames_last (writes_text "[type] "))
  simp only [dump_of_element found element]
  obtain ⟨element', canonical, payload⟩ := node
  obtain rfl := (Node.mem_elements_iff.mp element).2
  cases payload with
  | pointer =>
    exact ⟨_, _, fun levels scope =>
      (heading _).trans ((frames_last (writes_text "(pointer)\n")).trans (below _))⟩
  | array size =>
    obtain ⟨bound, writes⟩ := exists_writes_sizeTree colors size (indent + indentStep)
    have last := writes_cons writes writes_nil
    exact ⟨_, _, fun levels scope =>
      (heading _).trans ((frames_cons (writes_text "(array)\n") (frames_head last)).trans (below _))⟩
  | _ => cases element

theorem Above.frames (above : arena.Above id steps base) (colors : Bool) (indent : Nat) :
    ∃ opening closing, ∀ levels scope,
      Frames colors (arena.dumpWithin (levels + steps) scope indent id)
        (arena.dumpWithin levels scope (indent + steps * indentStep) base) opening closing := by
  induction above generalizing indent with
  | here bare => exact ⟨"", "", fun levels scope => by simpa using Frames.refl _⟩
  | @link id base node target steps found element valid _ ih =>
    obtain ⟨opening, closing, frames⟩ := frames_of_element found element valid colors indent
    obtain ⟨opening', closing', frames'⟩ := ih (indent + indentStep)
    have deeper : indent + (steps + 1) * indentStep = indent + indentStep + steps * indentStep := by
      rw [Nat.succ_mul]
      omega
    rw [deeper]
    exact ⟨_, _, fun levels scope => (frames (levels + steps) scope).trans (frames' levels scope)⟩

theorem Above.frames_writeDump (above : arena.Above target.node steps base)
    (valid : target.isNull = false) (split : arena.levels * 2 = levels + steps) (colors : Bool)
    (indent : Nat) :
    ∃ opening closing, ∀ scope, Frames colors (arena.writeDump target indent scope)
      (arena.dumpWithin levels scope (indent + steps * indentStep) base) opening closing := by
  obtain ⟨below, outer⟩ := frames_dumpHandle valid colors indent
  obtain ⟨opening, closing, inner⟩ := above.frames colors indent
  refine ⟨"" ++ opening, closing ++ below, fun scope => ?_⟩
  apply (outer fun id => arena.writeNodeDump id indent scope).trans
  simpa only [writeNodeDump, split] using inner levels scope

theorem laysOut_unfolding {odd : Char → Prop} (control : Control odd) (plain : arena.Lacks odd)
    {print : Nat → Handle → Printer}
    (below : ∀ target, LaysOut odd Visible .start .start fun indent => print indent target)
    (id : NodeId) :
    LaysOut odd Visible .start .start (arena.unfolding print id) := by
  unfold unfolding
  cases found : arena.lookup id with
  | error refusal => exact laysOut_nil
  | ok node =>
    obtain ⟨target, canonical, payload⟩ := node
    cases payload with
    | user name =>
      simp only
      split
      · exact laysOut_resolvedLine control plain target
      · exact laysOut_nil
    | tagged sort body =>
      exact laysOut_each fun member present => laysOut_memberTree control plain below found present
    | _ => exact laysOut_nil

theorem steady_unfolding (arena : Arena) (colors : Bool) (levels : Nat) (id : NodeId)
    (indent : Nat) : Steady colors (arena.unfolding (arena.shallowHandle levels) id indent) := by
  have below (target : Handle) : LaysOut (fun _ => False) Visible .start .start fun indent =>
      arena.shallowHandle levels indent target :=
    laysOut_dumpHandle control_none fun _ =>
      laysOut_dump control_none arena.lacks_none levels .shallow target.node
  exact (laysOut_unfolding control_none arena.lacks_none below id).steady colors indent

theorem stopsOnly_memberTree (levels : Nat) (member : Member) (indent : Nat) :
    StopsOnly (· = .outOfFuel) (memberTree (arena.shallowHandle levels) member indent) := by
  have below : StopsOnly (· = .outOfFuel)
      (arena.shallowHandle levels (indent + indentStep) member.type) :=
    stopsOnly_dumpHandle _ fun _ => stopsOnly_shallow levels _ member.type.node
  exact stopsOnly_seq (by simp [below])

theorem endless_memberTree {member : Member} (valid : member.type.isNull = false)
    (winds : Winds (arena.Leads Node.nested) member.type.node) (levels indent : Nat) :
    Endless (memberTree (arena.shallowHandle levels) member indent) := by
  have below : Endless (arena.shallowHandle levels (indent + indentStep) member.type) :=
    endless_dumpHandle _ valid (stopsOnly_shallow levels _ _)
      (shallow_endless_of_winds winds levels _)
  exact endless_seq (by simp [stopsOnly_of_endless below]) ⟨_, by simp, below⟩

theorem unfolding_settles {part : String} (indent : Nat)
    (writes : Writes colors (arena.unfolding (arena.shallowHandle levels) id indent) part none)
    (enough : arena.size + 1 ≤ levels) :
    arena.unfolding (arena.shallowHandle levels) id indent =
      arena.unfolding (fun indent type => arena.writeDump type indent .shallow) id indent := by
  unfold unfolding at writes ⊢
  cases found : arena.lookup id with
  | error refusal => rfl
  | ok node =>
    obtain ⟨target, canonical, payload⟩ := node
    cases payload with
    | tagged sort body =>
      simp only [found] at writes
      apply each_congr
      intro member present
      have free (valid : member.type.isNull = false) :
          ¬ Winds (arena.Leads Node.nested) member.type.node := by
        intro winds
        have never := endless_each (fun member _ => stopsOnly_memberTree levels member indent)
          ⟨member, present, endless_memberTree valid winds levels indent⟩
        have stopped := never { colors := colors }
        rw [writes.stop_eq rfl] at stopped
        cases stopped
      have same : arena.shallowHandle levels (indent + indentStep) member.type =
          arena.writeDump member.type (indent + indentStep) .shallow :=
        (shallow_settles_of_free (indent + indentStep) free).2 levels enough
      simp only [memberTree, same]
    | _ => rfl

def Unfolds (arena : Arena) (id : NodeId) : Prop :=
  ∃ node, arena.lookup id = .ok node ∧
    (node.kind = .user ∧ node.target.isNull = false ∨ node.members ≠ [])

theorem unfolding_of_not_unfolds {print : Nat → Handle → Printer} (folded : ¬ arena.Unfolds id)
    (indent : Nat) : arena.unfolding print id indent = seq [] := by
  unfold unfolding
  cases found : arena.lookup id with
  | error refusal => rfl
  | ok node =>
    obtain ⟨target, canonical, payload⟩ := node
    cases payload with
    | user name =>
      cases null : target.isNull with
      | true => simp [Handle.isValid, null]
      | false => exact absurd ⟨_, found, .inl ⟨rfl, null⟩⟩ folded
    | tagged sort body =>
      by_cases none : body.members.getD [] = []
      · simp only [none]
        rfl
      · exact absurd ⟨_, found, .inr none⟩ folded
    | _ => rfl

theorem not_winds_of_shallow_ends (valid : target.isNull = false) {sink : Sink}
    (ends : (arena.writeDump target indent .shallow sink).stop = none) :
    ¬ Winds (arena.Leads Node.nested) target.node := by
  intro winds
  have endless : Endless (arena.writeDump target indent .shallow) :=
    endless_dumpHandle indent valid (stopsOnly_shallow _ indent _)
      (shallow_endless_of_winds winds _ indent)
  have stopped := endless sink
  rw [ends] at stopped
  cases stopped

/-- Both dumps of a type, after any calls and wherever both come to an end: there is a node that
pointers and arrays lead down to, and the dumps differ behind its lines only. The shallow dump goes on
with what belongs to the pointers and arrays; the deep one first writes out the target of an alias
on a line, or the members, with shallow dumps of their types. -/
theorem deep_dump_unfolds (calls : List Call) {target : Handle} (valid : target.isNull = false)
    {indent : Nat} {sink : Sink}
    (deep : ((Arena.empty.run calls).writeDump target indent .deep sink).stop = none)
    (shallow : ((Arena.empty.run calls).writeDump target indent .shallow sink).stop = none) :
    let arena := Arena.empty.run calls
    ∃ steps base opening own unfolded closing,
      arena.Above target.node steps base ∧
      Writes sink.colors (arena.writeNodeDump base (indent + steps * indentStep) .shallow) own none ∧
      Writes sink.colors (arena.unfolding (fun indent type => arena.writeDump type indent .shallow)
        base (indent + steps * indentStep + indentStep)) unfolded none ∧
      (¬ arena.Unfolds base → unfolded = "") ∧
      Writes sink.colors (arena.writeDump target indent .deep)
        (opening ++ own ++ unfolded ++ closing) none ∧
      Writes sink.colors (arena.writeDump target indent .shallow) (opening ++ own ++ closing)
        none := by
  intro arena
  have founded : arena.Founded := Founded.empty.run calls
  have free := not_winds_of_shallow_ends valid shallow
  obtain ⟨steps, base, above, few⟩ := exists_above founded (not_winds_elements free)
  obtain ⟨levels, split, enough⟩ : ∃ levels, arena.levels * 2 = levels + 1 + steps ∧
      arena.size + 1 ≤ levels := ⟨arena.levels * 2 - steps - 1, by simp only [Arena.levels]; omega⟩
  obtain ⟨opening, closing, frames⟩ := above.frames_writeDump valid split sink.colors indent
  obtain ⟨own, ended, writes⟩ := arena.steady_dump sink.colors (levels + 1) .shallow
    (indent + steps * indentStep) base
  obtain rfl := (frames .shallow).ended_eq writes rfl shallow
  obtain ⟨unfolded, ended, goes⟩ := arena.steady_unfolding sink.colors levels base
    (indent + steps * indentStep + indentStep)
  have both := writes_pair writes goes
  rw [← deep_of_bare above.bare] at both
  obtain rfl := (frames .deep).ended_eq both rfl deep
  have settled := (shallowNode_settles_of_free fun winds => free (above.winds winds)).2 (levels + 1)
    (by omega)
  refine ⟨steps, base, opening, own, unfolded, closing, above, ?_, ?_, ?_, ?_, ?_⟩
  · rwa [← congrFun settled]
  · rwa [← unfolding_settles _ goes enough]
  · intro folded
    rw [unfolding_of_not_unfolds folded] at goes
    exact (goes.unique writes_nil).1
  · simpa only [String.append_assoc] using (frames .deep).written _ both
  · exact (frames .shallow).written _ writes

-- A struct that holds an array of such structs.
def nestedTree : List Call :=
  [.newTagged .struct "Tree", .newArray (Handle.ofNode ⟨64⟩) none,
    .attachMembers ⟨64⟩ [.plain "children" (Handle.ofNode ⟨65⟩)]]

theorem deep_dump_unfolds_nestedTree :
    let dump scope := ((Arena.empty.run nestedTree).writeDump ⟨⟨65⟩, .const⟩ 0 scope).toText
    ∃ opening closing,
      dump .deep = .ok (opening ++ "   [type] (struct) Tree\n" ++ ("      [member] children\n" ++
        "         [type] (array)\n            [type] (struct) Tree\n") ++ closing) ∧
      dump .shallow = .ok (opening ++ "   [type] (struct) Tree\n" ++ closing) := by
  have array : (Arena.empty.run nestedTree).lookup ⟨65⟩ =
      .ok ⟨Handle.ofNode ⟨64⟩, .null, .array none⟩ := rfl
  have struct : (Arena.empty.run nestedTree).lookup ⟨64⟩ = .ok
      ⟨.null, Handle.ofNode ⟨64⟩,
        .tagged .struct ⟨"Tree", some [.plain "children" (Handle.ofNode ⟨65⟩)]⟩⟩ := rfl
  have above : (Arena.empty.run nestedTree).Above ⟨65⟩ 1 ⟨64⟩ := by
    apply Above.link array (List.mem_singleton_self _) rfl (.here ?_)
    intro node found
    obtain rfl := Except.ok.inj (struct.symm.trans found)
    rfl
  have deep : ((Arena.empty.run nestedTree).writeDump ⟨⟨65⟩, .const⟩ 0 .deep .plain).stop = none := by
    decide +kernel
  have shallow :
      ((Arena.empty.run nestedTree).writeDump ⟨⟨65⟩, .const⟩ 0 .shallow .plain).stop = none := by
    decide +kernel
  obtain ⟨steps, base, opening, own, unfolded, closing, above', lines, rest, -, deep, shallow⟩ :=
    deep_dump_unfolds nestedTree rfl deep shallow
  obtain ⟨rfl, rfl⟩ := above.unique above'
  have linesText : ((Arena.empty.run nestedTree).writeNodeDump ⟨64⟩ 3 .shallow).toText =
      .ok "   [type] (struct) Tree\n" := by decide +kernel
  have restText : ((Arena.empty.run nestedTree).unfolding (fun indent type =>
      (Arena.empty.run nestedTree).writeDump type indent .shallow) ⟨64⟩ 6).toText = .ok
        ("      [member] children\n" ++
          "         [type] (array)\n            [type] (struct) Tree\n") := by decide +kernel
  obtain ⟨-, rfl⟩ := lines.of_toText linesText
  obtain ⟨-, rfl⟩ := rest.of_toText restText
  exact ⟨opening, closing, deep.toText_eq, shallow.toText_eq⟩

end Arena

end TypeGraph
