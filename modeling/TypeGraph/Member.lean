import TypeGraph.Expr
import TypeGraph.Handle

set_option autoImplicit false

namespace TypeGraph

inductive Member where
  | field (name : String) (type : Handle) (value : Option Expr)
  | plain (name : String) (type : Handle)
  deriving DecidableEq

namespace Member

def name : Member → String
  | .field name _ _ => name
  | .plain name _ => name

def type : Member → Handle
  | .field _ type _ => type
  | .plain _ type => type

def value? : Member → Option Expr
  | .field _ _ value => value
  | .plain _ _ => none

def inspect : Member → String
  | .field name type value =>
    Inspect.record "FieldDecl"
      [("name", Quoted.quote name), ("ty", type.inspect),
        ("value", Inspect.optional Expr.inspect value)]
  | .plain name type => Inspect.tagged "Plain" [Quoted.quote name, type.inspect]

end Member

end TypeGraph
