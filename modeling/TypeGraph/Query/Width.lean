import TypeGraph.Arena

set_option autoImplicit false

namespace TypeGraph.Arena

def pointerWidth : Nat := 4

/-- The width of every enum, as long as enums have no storage of their own. -/
def enumWidth : Nat := 4

def widthWithin (arena : Arena) : Nat → NodeId → Answer Nat
  | 0, _ => .error .outOfFuel
  | fuel + 1, id =>
    match arena.lookup id with
    | .error error => .error (.refused error)
    | .ok node =>
      match node.payload with
      | .builtin builtin => .ok builtin.width
      | .user _ =>
        if node.target.isNull then
          .error (.refused
            (.invalidOperation "width" .user "the user type is not resolved yet"))
        else node.target.andThen (arena.widthWithin fuel)
      | .tagged .enum _ => .ok enumWidth
      | .tagged _ _ => .error (.refused (.unsupported "width" node.kind))
      | .func _ | .pointer => .ok pointerWidth
      | .array _ => node.target.andThen (arena.widthWithin fuel)

def width (arena : Arena) (id : NodeId) : Answer Nat := arena.widthWithin arena.levels id

end TypeGraph.Arena

namespace TypeGraph

def Handle.width (handle : Handle) (arena : Arena) : Answer Nat :=
  match handle.nodeId? with
  | .error error => .error (.refused error)
  | .ok id => arena.width id

end TypeGraph
