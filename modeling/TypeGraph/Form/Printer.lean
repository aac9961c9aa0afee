import TypeGraph.Arena
import TypeGraph.Text.Sink

set_option autoImplicit false

namespace TypeGraph

structure Written (σ : Type) where
  state : σ
  stop : Option Stop

abbrev PrinterOver (σ : Type) := σ → Written σ

namespace PrinterOver

variable {σ α : Type}

def edit (change : σ → σ) : PrinterOver σ := fun state => ⟨change state, none⟩

def stop (reason : Stop) : PrinterOver σ := fun state => ⟨state, some reason⟩

/-- One printer after the other, up to the first that stops. -/
def seq : List (PrinterOver σ) → PrinterOver σ
  | [], state => ⟨state, none⟩
  | first :: rest, state =>
    match first state with
    | ⟨state, none⟩ => seq rest state
    | ⟨state, some reason⟩ => ⟨state, some reason⟩

theorem seq_cons_of_done {first : PrinterOver σ} {rest : List (PrinterOver σ)} {before after : σ}
    (done : first before = ⟨after, none⟩) : seq (first :: rest) before = seq rest after := by
  simp only [seq, done]

theorem seq_cons_of_stop {first : PrinterOver σ} {rest : List (PrinterOver σ)} {before after : σ}
    {reason : Stop} (stopped : first before = ⟨after, some reason⟩) :
    seq (first :: rest) before = ⟨after, some reason⟩ := by
  simp only [seq, stopped]

def each (items : List α) (print : α → PrinterOver σ) : PrinterOver σ := seq (items.map print)

end PrinterOver

abbrev Printer := PrinterOver Sink

namespace Printer

open PrinterOver

def text (part : String) : Printer := edit fun sink => sink.append part
def spaces (width : Nat) : Printer := edit fun sink => sink.indent width
def colored (color : Color) (part : String) : Printer := edit fun sink => sink.colored color part
def expr (expr : Expr) : Printer := edit expr.writeInline
def exprTree (expr : Expr) (indent : Nat) : Printer := edit (expr.writeTree indent)

def optional {α : Type} (value : Option α) (print : α → Printer) : Printer :=
  match value with
  | some value => print value
  | none => seq []

def separated {α : Type} (items : List α) (print : α → Printer) : Printer :=
  match items with
  | [] => seq []
  | first :: rest => seq [print first, each rest fun item => seq [text ", ", print item]]

def keywords (quals : Qualifiers) : Printer :=
  each quals.keywords fun keyword => text (keyword ++ " ")

def handle (print : NodeId → Printer) (handle : Handle) : Printer :=
  if handle.isNull then text "NULL" else seq [keywords handle.quals, print handle.node]

def invalid (id : NodeId) : Printer := text ("<invalid " ++ id.name ++ ">")

def kind (kind : Kind) : Printer := text ("(" ++ kind.name ++ ")")

def brackets (size : Option ArrayBound) : Printer :=
  seq [text "[", optional size fun size => expr size.expr, text "]"]

def toText (printer : Printer) : Answer String :=
  match printer Sink.plain with
  | ⟨sink, none⟩ => .ok sink.text
  | ⟨_, some reason⟩ => .error reason

end Printer

end TypeGraph
