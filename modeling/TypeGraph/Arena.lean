import Std.Data.HashMap
import TypeGraph.Event
import TypeGraph.Node
import TypeGraph.Stop

set_option autoImplicit false

namespace TypeGraph

structure Arena where
  nodes : Array Node
  pointers : Std.HashMap Handle NodeId

namespace Arena

def empty : Arena := ⟨#[], ∅⟩

instance : EmptyCollection Arena where
  emptyCollection := empty

def size (arena : Arena) : Nat := arena.nodes.size

def isEmpty (arena : Arena) : Bool := arena.nodes.isEmpty

def lookup (arena : Arena) (id : NodeId) : Except Refusal Node :=
  match id.builtin? with
  | some builtin => .ok (Node.ofBuiltin builtin)
  | none =>
    if id.isNull then .error .nullType
    else
      match id.index?.bind fun index => arena.nodes[index]? with
      | some node => .ok node
      | none => .error (.unknownType id)

def get (arena : Arena) (id : NodeId) : Answer Node :=
  match arena.lookup id with
  | .ok node => .ok node
  | .error error => .error (.fault (.lookup error))

def owned (arena : Arena) (id : NodeId) : Except Refusal Node :=
  if id.isBuiltin then
    .error (.invalidOperation "get_mut" .builtin "builtin types are shared and immutable")
  else arena.lookup id

def contains (arena : Arena) (id : NodeId) : Bool :=
  match arena.lookup id with
  | .ok _ => true
  | .error _ => false

def store (arena : Arena) (id : NodeId) (node : Node) : Arena :=
  match id.index? with
  | some index => { arena with nodes := arena.nodes.setIfInBounds index node }
  | none => arena

def toList (arena : Arena) : List (NodeId × Node) :=
  arena.nodes.toList.zipIdx.filterMap fun entry =>
    (NodeId.ofIndex? entry.2).map fun id => (id, entry.1)

/-- Levels enough for a descent that meets no node twice: one for each node, one for the builtin,
null or unknown id below them, and one to see that there is nothing further. -/
def levels (arena : Arena) : Nat := arena.size + 2

def inspect (arena : Arena) : String :=
  Inspect.record "TypeContext"
    [("types", toString arena.size), ("pointers", toString arena.pointers.size)]

def release (arena : Arena) : List Event := [.releasing arena.size]

structure Reply (α : Type) where
  answer : Answer α
  arena : Arena
  events : List Event

end Arena

def Handle.lookup (handle : Handle) (arena : Arena) : Except Refusal Node :=
  match handle.nodeId? with
  | .ok id => arena.lookup id
  | .error error => .error error

def Handle.canonical (handle : Handle) (arena : Arena) : Except Refusal Handle :=
  match handle.lookup arena with
  | .ok node =>
    if node.canonical.isNull then .ok Handle.null
    else .ok ⟨node.canonical.node, handle.quals⟩
  | .error error => .error error

def Handle.test (handle : Handle) (test : KindTest) (arena : Arena) : Answer Bool :=
  handle.andThen fun id => (arena.get id).map fun node => node.test test

end TypeGraph
