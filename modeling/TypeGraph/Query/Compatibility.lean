import TypeGraph.Arena

set_option autoImplicit false

namespace TypeGraph

namespace Arena

def incomparable (kind : Kind) : Refusal := .unsupported "is_compatible" kind

/-- Pointers and arrays are compared by their elements, builtins by their names. Other nodes are
compatible with themselves, and two of one kind have no rule yet, nor has any alias. -/
def compatibleWithin (arena : Arena) : Nat → NodeId → NodeId → Answer Bool
  | 0, _, _ => .error .outOfFuel
  | fuel + 1, a, b =>
    match arena.lookup a with
    | .error error => .error (.refused error)
    | .ok left =>
      match arena.lookup b with
      | .error error => .error (.refused error)
      | .ok right =>
        if left.kind = .user || right.kind = .user then
          .error (.refused (incomparable .user))
        else if left.kind ≠ right.kind then .ok false
        else
          match left.kind with
          | .builtin =>
            .ok (left.builtin?.map Builtin.name == right.builtin?.map Builtin.name)
          | .pointer | .array =>
            left.target.andThen fun a =>
              right.target.andThen fun b => arena.compatibleWithin fuel a b
          | kind => if a = b then .ok true else .error (.refused (incomparable kind))

/-- Two descents side by side meet no pair of nodes twice in as many steps as there are pairs. -/
def compatible (arena : Arena) (a b : NodeId) : Answer Bool :=
  arena.compatibleWithin (arena.levels * arena.levels) a b

end Arena

def Handle.compatible (a b : Handle) (arena : Arena) : Answer Bool :=
  match a.nodeId? with
  | .error error => .error (.refused error)
  | .ok left =>
    match b.nodeId? with
    | .error error => .error (.refused error)
    | .ok right => arena.compatible left right

end TypeGraph
