import TypeGraph.Proofs.Writing

/-!
Texts that are laid out in lines. What a printer writes is told by its pieces, whatever column it is
written from and whether colours are marked: only the margins and the marks differ. A margin opens a
line, and nothing but a newline ends one.
-/

set_option autoImplicit false

namespace TypeGraph

open PrinterOver Printer

inductive Piece where
  | margin (extra : Nat)
  | flat (part : String)
  | marked (color : Color) (word : String)
  | newline

namespace Piece

def text (colors : Bool) (indent : Nat) : Piece → String
  | .margin extra => "".pushn ' ' (indent + extra)
  | .flat part => part
  | .marked color word => if colors then color.ansi ++ word ++ Color.reset else word
  | .newline => "\n"

def deepen (step : Nat) : Piece → Piece
  | .margin extra => .margin (step + extra)
  | piece => piece

def render (colors : Bool) (indent : Nat) (pieces : List Piece) : String :=
  String.join (pieces.map (text colors indent))

variable {colors : Bool} {indent step : Nat} {piece : Piece} {pieces others : List Piece}

@[simp] theorem render_nil : render colors indent [] = "" := rfl

@[simp] theorem render_cons :
    render colors indent (piece :: pieces) = piece.text colors indent ++ render colors indent pieces := by
  rw [render, List.map_cons, String.join_cons, ← render]

theorem render_append :
    render colors indent (pieces ++ others) =
      render colors indent pieces ++ render colors indent others := by
  simp [render, String.join_append]

theorem render_deepen :
    render colors indent (pieces.map (deepen step)) = render colors (indent + step) pieces := by
  have same : text colors indent ∘ deepen step = text colors (indent + step) := by
    funext piece
    cases piece <;> simp [deepen, text, Nat.add_assoc]
  rw [render, List.map_map, same, render]

end Piece

inductive Column where
  | start
  | within

def Lacks (odd : Char → Prop) (part : String) : Prop := ∀ c ∈ part.toList, ¬ odd c

instance (odd : Char → Prop) [DecidablePred odd] (part : String) : Decidable (Lacks odd part) :=
  List.decidableBAll (¬ odd ·) part.toList

/-- Whether pieces lead from one column to another, while no text on a line has an odd character and
only words of a certain sort are marked. -/
inductive Aligned (odd : Char → Prop) (marks : String → Prop) :
    Column → List Piece → Column → Prop where
  | nil (column : Column) : Aligned odd marks column [] column
  | margin (extra : Nat) {pieces : List Piece} {finish : Column}
      (rest : Aligned odd marks .within pieces finish) :
      Aligned odd marks .start (.margin extra :: pieces) finish
  | flat {part : String} {pieces : List Piece} {finish : Column} (plain : Lacks odd part)
      (rest : Aligned odd marks .within pieces finish) :
      Aligned odd marks .within (.flat part :: pieces) finish
  | marked (color : Color) {word : String} {pieces : List Piece} {finish : Column}
      (allowed : marks word) (plain : Lacks odd word)
      (rest : Aligned odd marks .within pieces finish) :
      Aligned odd marks .within (.marked color word :: pieces) finish
  | newline {pieces : List Piece} {finish : Column}
      (rest : Aligned odd marks .start pieces finish) :
      Aligned odd marks .within (.newline :: pieces) finish

variable {odd : Char → Prop} {marks more : String → Prop} {opening middle finish : Column}
  {pieces others : List Piece}

theorem Aligned.append (first : Aligned odd marks opening pieces middle)
    (second : Aligned odd marks middle others finish) :
    Aligned odd marks opening (pieces ++ others) finish := by
  induction first with
  | nil => exact second
  | margin extra _ ih => exact .margin extra (ih second)
  | flat plain _ ih => exact .flat plain (ih second)
  | marked color allowed plain _ ih => exact .marked color allowed plain (ih second)
  | newline _ ih => exact .newline (ih second)

theorem Aligned.deepen (step : Nat) (aligned : Aligned odd marks opening pieces finish) :
    Aligned odd marks opening (pieces.map (Piece.deepen step)) finish := by
  induction aligned with
  | nil column => exact .nil column
  | margin extra _ ih => exact .margin _ ih
  | flat plain _ ih => exact .flat plain ih
  | marked color allowed plain _ ih => exact .marked color allowed plain ih
  | newline _ ih => exact .newline ih

theorem Aligned.mono (aligned : Aligned odd marks opening pieces finish)
    (within : ∀ word, marks word → more word) : Aligned odd more opening pieces finish := by
  induction aligned with
  | nil column => exact .nil column
  | margin extra _ ih => exact .margin extra ih
  | flat plain _ ih => exact .flat plain ih
  | marked color allowed plain _ ih => exact .marked color (within _ allowed) plain ih
  | newline _ ih => exact .newline ih

abbrev NoMarks (_ : String) : Prop := False

-- Where a text is left. A printer is refused within a line only.
def Column.landing (finish : Column) : Option Stop → Column
  | none => finish
  | some _ => .within

/-- Whether printers for all columns write the same pieces and stop for the same reason, whether or
not colours are marked. Where they come to no end, nothing is said of the columns. -/
def LaysOut (odd : Char → Prop) (marks : String → Prop) (opening finish : Column)
    (print : Nat → Printer) : Prop :=
  ∃ pieces ended,
    (∀ colors indent, Writes colors (print indent) (Piece.render colors indent pieces) ended) ∧
      (ended ≠ some .outOfFuel → Aligned odd marks opening pieces (finish.landing ended))

theorem LaysOut.steady {print : Nat → Printer} (lays : LaysOut odd marks opening finish print)
    (colors : Bool) (indent : Nat) : Steady colors (print indent) := by
  obtain ⟨pieces, ended, writes, -⟩ := lays
  exact ⟨_, ended, writes colors indent⟩

theorem LaysOut.mono {print : Nat → Printer} (lays : LaysOut odd marks opening finish print)
    (within : ∀ word, marks word → more word) : LaysOut odd more opening finish print := by
  obtain ⟨pieces, ended, writes, aligned⟩ := lays
  exact ⟨pieces, ended, writes, fun ends => (aligned ends).mono within⟩

variable {α : Type} {print first : Nat → Printer} {rest : Nat → List Printer} {part : String}

theorem laysOut_nil : LaysOut odd marks opening opening fun _ => seq [] :=
  ⟨[], none, fun _ _ => writes_nil, fun _ => .nil opening⟩

theorem laysOut_cons (head : LaysOut odd marks opening middle first)
    (tail : LaysOut odd marks middle finish fun indent => seq (rest indent)) :
    LaysOut odd marks opening finish fun indent => seq (first indent :: rest indent) := by
  obtain ⟨pieces, ended, writes, aligned⟩ := head
  cases ended with
  | some reason =>
    exact ⟨pieces, some reason, fun colors indent => writes_cons_stop (writes colors indent), aligned⟩
  | none =>
    obtain ⟨others, ended, writes', aligned'⟩ := tail
    refine ⟨pieces ++ others, ended, fun colors indent => ?_, fun ends => ?_⟩
    · rw [Piece.render_append]
      exact writes_cons (writes colors indent) (writes' colors indent)
    · exact (aligned nofun).append (aligned' ends)

theorem laysOut_pair (head : LaysOut odd marks opening middle first)
    (tail : LaysOut odd marks middle finish print) :
    LaysOut odd marks opening finish fun indent => seq [first indent, print indent] := by
  apply laysOut_cons head
  simpa only [seq_singleton] using tail

theorem LaysOut.deeper (step : Nat) (lays : LaysOut odd marks opening finish print) :
    LaysOut odd marks opening finish fun indent => print (indent + step) := by
  obtain ⟨pieces, ended, writes, aligned⟩ := lays
  refine ⟨pieces.map (Piece.deepen step), ended, fun colors indent => ?_, fun ends => ?_⟩
  · rw [Piece.render_deepen]
    exact writes colors (indent + step)
  · exact (aligned ends).deepen step

theorem laysOut_each {items : List α} {print : Nat → α → Printer}
    (item : ∀ item ∈ items, LaysOut odd marks opening opening fun indent => print indent item) :
    LaysOut odd marks opening opening fun indent => each items (print indent) := by
  induction items with
  | nil => exact laysOut_nil
  | cons one items ih =>
    obtain ⟨head, tail⟩ := List.forall_mem_cons.mp item
    exact laysOut_cons head (ih tail)

theorem laysOut_optional {value : Option α} {print : Nat → α → Printer}
    (item : ∀ item ∈ value, LaysOut odd marks opening opening fun indent => print indent item) :
    LaysOut odd marks opening opening fun indent => optional value (print indent) := by
  cases value with
  | none => exact laysOut_nil
  | some one => exact item one rfl

theorem laysOut_stop (error : Refusal) :
    LaysOut odd marks .within finish fun _ => stop (.refused error) :=
  ⟨[], _, fun _ _ => writes_stop _, fun _ => .nil .within⟩

theorem laysOut_endless : LaysOut odd marks opening finish fun _ => stop .outOfFuel :=
  ⟨[], _, fun _ _ => writes_stop _, fun ends => absurd rfl ends⟩

theorem laysOut_spaces : LaysOut odd marks .start .within spaces := by
  refine ⟨[.margin 0], none, fun colors indent => ?_, fun _ => .margin 0 (.nil _)⟩
  simpa [Piece.text] using writes_spaces indent

theorem laysOut_text (plain : Lacks odd part) :
    LaysOut odd marks .within .within fun _ => text part := by
  refine ⟨[.flat part], none, fun colors indent => ?_, fun _ => .flat plain (.nil _)⟩
  simpa [Piece.text] using writes_text part

theorem laysOut_line {whole : String} (plain : Lacks odd part) (same : part ++ "\n" = whole) :
    LaysOut odd marks .within .start fun _ => text whole := by
  refine ⟨[.flat part, .newline], none, fun colors indent => ?_,
    fun _ => .flat plain (.newline (.nil _))⟩
  simpa [Piece.text, same] using writes_text whole

theorem laysOut_newline : LaysOut odd marks .within .start fun _ => text "\n" :=
  ⟨[.newline], none, fun _ _ => writes_text "\n", fun _ => .newline (.nil _)⟩

theorem laysOut_colored (color : Color) (allowed : marks part) (plain : Lacks odd part) :
    LaysOut odd marks .within .within fun _ => colored color part := by
  refine ⟨[.marked color part], none, fun colors indent => ?_,
    fun _ => .marked color allowed plain (.nil _)⟩
  intro sink same
  simp [colored, edit, Sink.colored_eq_append, same, Piece.text]

end TypeGraph
