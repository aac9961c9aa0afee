import TypeGraph.Proofs.Enclosing
import TypeGraph.Proofs.SelfReference

set_option autoImplicit false

namespace TypeGraph

open PrinterOver

namespace Sink

theorem append_empty (sink : Sink) : sink.append "" = sink := by
  simp [append]

theorem pushn_eq_append (text : String) (c : Char) (width : Nat) :
    text.pushn c width = text ++ "".pushn c width := by
  simp only [String.pushn_eq_repeat_push]
  induction width with
  | zero => simp [Nat.repeat]
  | succ width ih =>
    rw [Nat.repeat, Nat.repeat, ih, String.push_eq_append, String.push_eq_append,
      String.append_assoc]

theorem indent_eq_append (sink : Sink) (width : Nat) :
    sink.indent width = sink.append ("".pushn ' ' width) := by
  rw [indent, append, pushn_eq_append]

end Sink

namespace Printer

variable {α : Type} {colors : Bool} {printer first : Printer} {parts : List Printer}
  {part later : String} {ended : Option Stop} {reason : Stop}

/-- Whether a printer appends a text to every sink that marks colours, or to every one that does
not, and then comes to its end or stops for a reason. -/
def Writes (colors : Bool) (printer : Printer) (part : String) (ended : Option Stop) : Prop :=
  ∀ sink : Sink, sink.colors = colors → printer sink = ⟨sink.append part, ended⟩

def Steady (colors : Bool) (printer : Printer) : Prop :=
  ∃ part ended, Writes colors printer part ended

theorem Writes.stop_eq {sink : Sink} (writes : Writes colors printer part ended)
    (same : sink.colors = colors) : (printer sink).stop = ended := by
  rw [writes sink same]

theorem Writes.text_eq (writes : Writes colors printer part ended) :
    (printer { colors := colors }).state.text = part := by
  rw [writes _ rfl]
  exact String.empty_append

theorem Writes.toText_eq (writes : Writes false printer part none) : printer.toText = .ok part := by
  have written := writes Sink.plain rfl
  simp only [toText, written]
  exact congrArg Except.ok String.empty_append

theorem Writes.of_toText {whole : String} (writes : Writes false printer part ended)
    (written : printer.toText = .ok whole) : ended = none ∧ part = whole := by
  simp only [toText, writes Sink.plain rfl] at written
  cases ended with
  | none =>
    cases written
    exact ⟨rfl, String.empty_append.symm⟩
  | some reason => cases written

theorem toText_of_endless {printer : Printer} (endless : Endless printer) :
    printer.toText = .error .outOfFuel := by
  have stopped := endless Sink.plain
  unfold toText
  cases wrote : printer Sink.plain with
  | mk sink reason =>
    rw [wrote] at stopped
    subst stopped
    rfl

theorem Writes.allowed {allowed : Stop → Prop} (writes : Writes colors printer part (some reason))
    (only : StopsOnly allowed printer) : allowed reason :=
  only { colors := colors } reason (by rw [writes _ rfl])

theorem writes_nil : Writes colors (seq []) "" none := by
  intro sink _
  rw [sink.append_empty]
  rfl

theorem writes_stop (reason : Stop) : Writes colors (stop reason) "" (some reason) := by
  intro sink _
  rw [sink.append_empty]
  rfl

theorem writes_text (part : String) : Writes colors (text part) part none := fun _ _ => rfl

theorem writes_expr (value : Expr) : Writes colors (expr value) value.inline none :=
  fun _ _ => rfl

theorem writes_spaces (width : Nat) : Writes colors (spaces width) ("".pushn ' ' width) none := by
  intro sink _
  rw [spaces, edit, sink.indent_eq_append]

theorem writes_cons (head : Writes colors first part none)
    (tail : Writes colors (seq parts) later ended) :
    Writes colors (seq (first :: parts)) (part ++ later) ended := by
  intro sink same
  rw [seq_cons_of_done (head sink same), tail (sink.append part) same, Sink.append_append]

theorem writes_cons_stop (head : Writes colors first part (some reason)) :
    Writes colors (seq (first :: parts)) part (some reason) :=
  fun sink same => seq_cons_of_stop (head sink same)

theorem writes_pair (head : Writes colors first part none)
    (tail : Writes colors printer later ended) :
    Writes colors (seq [first, printer]) (part ++ later) ended := by
  cases ended with
  | none => simpa using writes_cons head (writes_cons tail writes_nil)
  | some reason => exact writes_cons head (writes_cons_stop tail)

theorem writes_each {items : List α} {print : α → Printer} {written : α → String}
    (item : ∀ item ∈ items, Writes colors (print item) (written item) none) :
    Writes colors (each items print) (String.join (items.map written)) none := by
  induction items with
  | nil => exact writes_nil
  | cons first rest ih =>
    obtain ⟨head, tail⟩ := List.forall_mem_cons.mp item
    rw [List.map_cons, String.join_cons]
    exact writes_cons head (ih tail)

end Printer

def Handle.opening (handle : Handle) : String :=
  String.join (handle.quals.keywords.map fun keyword => keyword ++ " ")

namespace Printer

variable {colors : Bool} {print : NodeId → Printer} {target : Handle} {part : String}
  {ended : Option Stop}

theorem writes_handle (valid : target.isNull = false)
    (node : Writes colors (print target.node) part ended) :
    Writes colors (Printer.handle print target) (target.opening ++ part) ended := by
  simp only [Printer.handle, valid, Bool.false_eq_true, if_false]
  exact writes_pair (writes_each fun _ _ => writes_text _) node

end Printer

end TypeGraph
