import TypeGraph.Handle
import TypeGraph.Refusal

set_option autoImplicit false

namespace TypeGraph

inductive Level where
  | trace
  | debug
  deriving DecidableEq

def Level.name : Level → String
  | .trace => "TRACE"
  | .debug => "DEBUG"

inductive Part where
  | members
  | result
  | argument
  | target
  deriving DecidableEq

def Part.name : Part → String
  | .members => "member list"
  | .result => "return type"
  | .argument => "argument"
  | .target => "alias target"

inductive Event where
  | created (id : NodeId) (kind : Kind)
  | reusedPointer (id : NodeId)
  | rejected (part : Part) (id : NodeId) (error : Refusal)
  | rejectedCycle (id : NodeId) (target : Handle)
  | releasing (count : Nat)
  deriving DecidableEq

namespace Event

def level : Event → Level
  | .created _ _ => .trace
  | .reusedPointer _ => .trace
  | .rejected _ _ _ => .debug
  | .rejectedCycle _ _ => .debug
  | .releasing _ => .debug

def message : Event → String
  | .created _ _ => "created type"
  | .reusedPointer _ => "reused pointer type"
  | .rejected part _ _ => "rejected " ++ part.name
  | .rejectedCycle _ _ => "rejected alias cycle"
  | .releasing _ => "releasing type context"

def fields : Event → List (String × String)
  | .created id kind => [("id", id.inspect), ("kind", kind.name)]
  | .reusedPointer id => [("id", id.inspect)]
  | .rejected _ id error => [("id", id.inspect), ("err", error.message)]
  | .rejectedCycle id target => [("id", id.inspect), ("target", target.inspect)]
  | .releasing count => [("types", toString count)]

end Event

end TypeGraph
