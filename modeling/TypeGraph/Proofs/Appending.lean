import TypeGraph.Proofs.FormLayout

set_option autoImplicit false

namespace TypeGraph

open PrinterOver

namespace Printer

variable {printer : Printer}

/-- Whether a printer only appends: what it leaves in a sink is what the sink held and then what it
leaves in the emptied sink, the choice of colours stays as it was, and it stops for the same reason
in both, if it stops. -/
structure Appends (printer : Printer) : Prop where
  text_eq : ∀ sink, (printer sink).state.text = sink.text ++ (printer sink.clear).state.text
  colors_eq : ∀ sink, (printer sink).state.colors = sink.colors
  stop_eq : ∀ sink, (printer sink).stop = (printer sink.clear).stop

theorem appends_of_steady (steady : ∀ colors, Steady colors printer) : Appends printer := by
  have alike (sink : Sink) : ∃ part ended,
      printer sink = ⟨sink.append part, ended⟩ ∧
        printer sink.clear = ⟨sink.clear.append part, ended⟩ := by
    obtain ⟨part, ended, writes⟩ := steady sink.colors
    exact ⟨part, ended, writes sink rfl, writes sink.clear rfl⟩
  constructor <;> intro sink <;> obtain ⟨part, ended, wrote, wrote'⟩ := alike sink
  · rw [wrote, wrote', Sink.text_append, Sink.text_append]
    exact congrArg (sink.text ++ ·) String.empty_append.symm
  · rw [wrote, Sink.colors_append]
  · rw [wrote, wrote']

end Printer

open Printer

theorem LaysOut.appends {odd : Char → Prop} {marks : String → Prop} {opening finish : Column}
    {print : Nat → Printer} (lays : LaysOut odd marks opening finish print) (indent : Nat) :
    Appends (print indent) :=
  appends_of_steady fun colors => lays.steady colors indent

namespace Arena

/-- In every arena, whatever it holds, the name, the full and the effective form of a type and its
dumps of either scope only append, from every column, whether they come to their end or not. -/
theorem forms_only_append (arena : Arena) (target : Handle) :
    Appends (arena.writeName target) ∧
    (∀ indent, Appends (arena.writeFull target indent)) ∧
    Appends (arena.writeEffective target) ∧
    ∀ indent scope, Appends (arena.writeDump target indent scope) := by
  have plain := arena.lacks_none
  refine ⟨?_, fun indent => ?_, ?_, fun indent scope => ?_⟩
  · exact (laysOut_writeName control_none plain target).appends 0
  · exact (laysOut_full control_none plain target).appends indent
  · exact (laysOut_writeEffective control_none plain target).appends 0
  · exact (laysOut_writeDump control_none plain target scope).appends indent

end Arena

end TypeGraph
