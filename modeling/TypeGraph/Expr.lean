import TypeGraph.Text.Inspect
import TypeGraph.Text.Sink

set_option autoImplicit false

namespace TypeGraph

inductive Expr where
  | integer (value : UInt64)
  | identifier (scope : Option String) (name : String)
  deriving DecidableEq

namespace Expr

def inline : Expr → String
  | .integer value => toString value.toNat
  | .identifier none name => name
  | .identifier (some scope) name => scope ++ "." ++ name

def writeInline (expr : Expr) (sink : Sink) : Sink := sink.append expr.inline

def writeTree (expr : Expr) (indent : Nat) (sink : Sink) : Sink :=
  match expr with
  | .integer value =>
    ((sink.indent indent).append "[integer] ").append (toString value.toNat ++ "\n")
  | .identifier scope _ =>
    let sink := ((sink.indent indent).append "[identifier] ").append (expr.inline ++ "\n")
    match scope with
    | none => sink
    | some scope => ((sink.indent (indent + indentStep)).append "module=").append (scope ++ "\n")

def inspect : Expr → String
  | .integer value => Inspect.record "IntegerLiteral" [("value", toString value.toNat)]
  | .identifier scope name =>
    Inspect.record "Identifier"
      [("module", Inspect.optional Quoted.quote scope), ("name", Quoted.quote name)]

end Expr

end TypeGraph
