import TypeGraph.Proofs.Expansion

set_option autoImplicit false

namespace TypeGraph

open PrinterOver

namespace Expander

variable {active : List NodeId} {id : NodeId} {first : Expander} {printer : Printer}
  {parts : List Expander} {printers : List Printer}

/-- Whether an expander does what a printer does wherever `active` is being written out, and leaves
it at that if it comes to its end. -/
def Follows (active : List NodeId) (expander : Expander) (printer : Printer) : Prop :=
  ∀ sink, ∃ after, expander ⟨sink, active⟩ = ⟨⟨(printer sink).state, after⟩, (printer sink).stop⟩ ∧
    ((printer sink).stop = none → after = active)

theorem follows_plain (printer : Printer) : Follows active (plain printer) printer :=
  fun _ => ⟨active, rfl, fun _ => rfl⟩

theorem follows_text (part : String) : Follows active (text part) (Printer.text part) :=
  follows_plain _

theorem follows_stop (reason : Stop) : Follows active (stop reason) (stop reason) :=
  fun _ => ⟨active, rfl, nofun⟩

theorem follows_nil : Follows active (seq []) (seq []) := fun _ => ⟨active, rfl, fun _ => rfl⟩

theorem follows_cons (head : Follows active first printer)
    (tail : Follows active (seq parts) (seq printers)) :
    Follows active (seq (first :: parts)) (seq (printer :: printers)) := by
  intro sink
  obtain ⟨after, ran, back⟩ := head sink
  cases wrote : printer sink with
  | mk state reason =>
    rw [wrote] at ran back
    cases reason with
    | none =>
      obtain rfl : after = active := back rfl
      rw [seq_cons_of_done ran, seq_cons_of_done wrote]
      exact tail state
    | some reason =>
      rw [seq_cons_of_stop ran, seq_cons_of_stop wrote]
      exact ⟨after, rfl, nofun⟩

theorem follows_each {α : Type} {items : List α} {print : α → Expander} {write : α → Printer}
    (same : ∀ item ∈ items, Follows active (print item) (write item)) :
    Follows active (each items print) (each items write) := by
  induction items with
  | nil => exact follows_nil
  | cons item rest ih =>
    obtain ⟨head, tail⟩ := List.forall_mem_cons.mp same
    exact follows_cons head (ih tail)

theorem follows_scope (inner : Follows (id :: active) first printer)
    (later : Follows active (seq parts) (seq printers)) :
    Follows active (seq (enter id :: first :: leave :: parts)) (seq (printer :: printers)) := by
  intro sink
  have entered : enter id ⟨sink, active⟩ = ⟨⟨sink, id :: active⟩, none⟩ := rfl
  rw [seq_cons_of_done entered]
  obtain ⟨after, ran, back⟩ := inner sink
  cases wrote : printer sink with
  | mk state reason =>
    rw [wrote] at ran back
    cases reason with
    | none =>
      -- Leaving takes the entered node off again, since what was entered in between was left.
      obtain rfl : after = id :: active := back rfl
      have left : leave ⟨state, id :: active⟩ = ⟨⟨state, active⟩, none⟩ := rfl
      rw [seq_cons_of_done ran, seq_cons_of_done left, seq_cons_of_done wrote]
      exact later state
    | some reason =>
      rw [seq_cons_of_stop ran, seq_cons_of_stop wrote]
      exact ⟨after, rfl, nofun⟩

theorem follows_ifActive {yes no : Expander} {named expanded : Printer}
    (inside : Follows active yes named) (outside : Follows active no expanded) :
    Follows active (ifActive id yes no) (if id ∈ active then named else expanded) := by
  intro sink
  by_cases present : id ∈ active
  · simpa [ifActive, present] using inside sink
  · simpa [ifActive, present] using outside sink

theorem Follows.toPrinter {expander : Expander} (follows : Follows [] expander printer) :
    toPrinter expander = printer := by
  funext sink
  obtain ⟨after, ran, -⟩ := follows sink
  simp only [Expander.toPrinter, ran]

section Left

variable {expander : Expander} {state after : Expansion}

theorem active_of_plain (ran : plain printer state = ⟨after, none⟩) : after.active = state.active :=
  (congrArg (fun written => written.state.active) ran).symm

theorem Follows.active_eq (follows : Follows active expander printer)
    (start : state.active = active) (ran : expander state = ⟨after, none⟩) :
    after.active = active := by
  subst start
  obtain ⟨left, wrote, back⟩ := follows state.sink
  have same := wrote.symm.trans ran
  rw [Written.mk.injEq] at same
  rw [← same.1]
  exact back same.2

end Left

end Expander

namespace Arena

open Expander Printer

variable {arena : Arena} {id : NodeId} {node : Node} {handle target : Handle}
  {active : List NodeId}

def expandBody (print : Handle → Printer) (indent : Nat) (sort : TagKind) (body : Body) : Printer :=
  seq [text (headline sort body.tag ++ " \x7b\n"),
    each (body.members.getD []) fun member =>
      seq [spaces (indent + indentStep), print member.type, text (" " ++ member.name ++ ";\n")],
    spaces indent, text "\x7d"]

def expandNode (arena : Arena) (print : List NodeId → Nat → Handle → Printer)
    (active : List NodeId) (indent : Nat) (id : NodeId) : Printer :=
  match arena.lookup id with
  | .error refusal => stop (.refused refusal)
  | .ok node =>
    match node.payload with
    | .builtin builtin => text builtin.name
    | .user name =>
      if node.target.isValid then print active indent node.target else optional name expr
    | .tagged .enum body => text (headline .enum body.tag)
    | .tagged sort body =>
      if id ∈ active then arena.writeNodeName id
      else expandBody (print (id :: active) (indent + indentStep)) indent sort body
    | .func args =>
      seq [text "func ", arena.writeName node.target, text "(", separated args arena.writeName,
        text ")"]
    | .pointer => seq [print active indent node.target, text "*"]
    | .array size => seq [print active indent node.target, brackets size]

def expandWithin (arena : Arena) : Nat → List NodeId → Nat → Handle → Printer
  | 0, _, _, _ => stop .outOfFuel
  | levels + 1, active, indent, target =>
    Printer.handle (arena.expandNode (arena.expandWithin levels) active indent) target

def memberLine (below : Nat → Handle → Expander) (indent : Nat) (member : Member) : Expander :=
  seq [plain (spaces indent), below indent member.type, Expander.text (" " ++ member.name ++ ";\n")]

theorem follows_memberLine {below : Nat → Handle → Expander} {indent : Nat} {member : Member}
    {print : Printer} (inner : Follows active (below indent member.type) print) :
    Follows active (memberLine below indent member)
      (seq [spaces indent, print, text (" " ++ member.name ++ ";\n")]) :=
  follows_cons (follows_plain _) (follows_cons inner (follows_cons (follows_text _) follows_nil))

theorem follows_full (levels : Nat) (active : List NodeId) (indent : Nat) (target : Handle) :
    Follows active (arena.fullWithin levels indent target)
      (arena.expandWithin levels active indent target) := by
  induction levels generalizing active indent target with
  | zero => exact follows_stop _
  | succ levels ih =>
    simp only [fullWithin, expandWithin, Printer.handle]
    cases null : target.isNull with
    | true => exact follows_text _
    | false =>
      simp only [Bool.false_eq_true, if_false, expandNode]
      apply follows_cons (follows_plain _)
      apply follows_cons ?_ follows_nil
      cases found : arena.lookup target.node with
      | error refusal => exact follows_stop _
      | ok node =>
        obtain ⟨element, canonical, payload⟩ := node
        cases payload with
        | builtin which => exact follows_text _
        | user expr =>
          simp only
          split
          · exact ih active indent element
          · exact follows_plain _
        | tagged sort body =>
          have line (member : Member) :=
            follows_memberLine (ih (target.node :: active) (indent + indentStep) member.type)
          have expanded := follows_cons (follows_text (headline sort body.tag ++ " \x7b\n"))
            (follows_scope (follows_each fun item (_ : item ∈ body.members.getD []) => line item)
              (follows_cons (follows_plain (spaces indent))
                (follows_cons (follows_text "\x7d") follows_nil)))
          cases sort with
          | struct => exact follows_ifActive (follows_plain _) expanded
          | union => exact follows_ifActive (follows_plain _) expanded
          | enum => exact follows_text _
        | func args =>
          apply follows_cons (follows_text _)
          apply follows_cons (follows_plain _)
          apply follows_cons (follows_text _)
          exact follows_cons (follows_plain _) (follows_cons (follows_text _) follows_nil)
        | pointer =>
          exact follows_cons (ih active indent element) (follows_cons (follows_text _) follows_nil)
        | array size =>
          exact follows_cons (ih active indent element) (follows_cons (follows_plain _) follows_nil)

theorem writeFull_eq (arena : Arena) (target : Handle) (indent : Nat) :
    arena.writeFull target indent =
      seq [spaces indent, arena.expandWithin (arena.levels * arena.levels) [] indent target] := by
  rw [writeFull, (follows_full _ [] indent target).toPrinter]

theorem Straight.expand_levels (straight : arena.Straight) (indent : Nat) (target : Handle)
    {levels : Nat} (enough : (arena.size + 1) * (arena.size + 1) ≤ levels) :
    arena.expandWithin levels [] indent target =
      arena.expandWithin (arena.levels * arena.levels) [] indent target := by
  have same := (straight.expansion_settles target).2 levels enough
  rw [← (follows_full levels [] indent target).toPrinter,
    ← (follows_full (arena.levels * arena.levels) [] indent target).toPrinter]
  funext sink
  have run := congrFun (congrFun same indent) sink
  simp only [toPrinter, run]

end Arena

end TypeGraph
