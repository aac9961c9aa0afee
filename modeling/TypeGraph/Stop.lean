import TypeGraph.Handle
import TypeGraph.Refusal

set_option autoImplicit false

namespace TypeGraph

/-- A misuse that no result of the call can express. -/
inductive Fault where
  | nullHandle
  | lookup (error : Refusal)
  | exhaustedIds
  deriving DecidableEq

def Fault.message : Fault → String
  | .nullHandle => "cannot retrieve a NULL type"
  | .lookup error => error.message
  | .exhaustedIds => "type context exceeded 4294967295 nodes"

inductive Stop where
  | refused (error : Refusal)
  | fault (fault : Fault)
  | outOfFuel
  deriving DecidableEq

abbrev Answer (α : Type) := Except Stop α

def Answer.ofExcept {α : Type} : Except Refusal α → Answer α
  | .ok value => .ok value
  | .error error => .error (.refused error)

namespace Handle

def nodeId? (handle : Handle) : Except Refusal NodeId :=
  if handle.isNull then .error .nullType else .ok handle.node

def nodeId (handle : Handle) : Answer NodeId :=
  if handle.isNull then .error (.fault .nullHandle) else .ok handle.node

def andThen {α : Type} (handle : Handle) (next : NodeId → Answer α) : Answer α :=
  match handle.nodeId with
  | .ok id => next id
  | .error stop => .error stop

end Handle

end TypeGraph
