import TypeGraph.Kind
import TypeGraph.NodeId
import TypeGraph.Text.Inspect
import TypeGraph.Text.Quoted

set_option autoImplicit false

namespace TypeGraph

inductive Refusal where
  | invalidConstruction (kind : Kind) (reason : String)
  | invalidOperation (operation : String) (kind : Kind) (reason : String)
  | unsupported (operation : String) (kind : Kind)
  | nullType
  | unknownType (id : NodeId)
  deriving DecidableEq

namespace Refusal

def message : Refusal → String
  | .invalidConstruction kind reason =>
    "invalid construction of " ++ kind.name ++ " type: " ++ reason
  | .invalidOperation operation kind reason =>
    "invalid operation `" ++ operation ++ "` on " ++ kind.name ++ " type: " ++ reason
  | .unsupported operation kind =>
    "`" ++ operation ++ "` is not supported for " ++ kind.name ++ " types yet"
  | .nullType => "cannot dereference a NULL type handle"
  | .unknownType id => "type " ++ id.name ++ " does not belong to this context"

def kind? : Refusal → Option Kind
  | .invalidConstruction kind _ => some kind
  | .invalidOperation _ kind _ => some kind
  | .unsupported _ kind => some kind
  | .nullType => none
  | .unknownType _ => none

def isUnsupported : Refusal → Bool
  | .unsupported _ _ => true
  | _ => false

def label : Refusal → String
  | .invalidConstruction _ _ => "InvalidConstruction"
  | .invalidOperation _ _ _ => "InvalidOperation"
  | .unsupported _ _ => "Unsupported"
  | .nullType => "NullType"
  | .unknownType _ => "UnknownType"

def inspect (error : Refusal) : String :=
  match error with
  | .invalidConstruction kind reason =>
    Inspect.record error.label [("kind", kind.label), ("reason", Quoted.quote reason)]
  | .invalidOperation operation kind reason =>
    Inspect.record error.label
      [("op", Quoted.quote operation), ("kind", kind.label), ("reason", Quoted.quote reason)]
  | .unsupported operation kind =>
    Inspect.record error.label [("op", Quoted.quote operation), ("kind", kind.label)]
  | .nullType => error.label
  | .unknownType id => Inspect.tagged error.label [id.inspect]

end Refusal

end TypeGraph
