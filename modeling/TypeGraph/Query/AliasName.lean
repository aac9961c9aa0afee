import TypeGraph.Arena

set_option autoImplicit false

namespace TypeGraph.Arena

def aliasNameWithin (arena : Arena) : Nat → NodeId → Answer Expr
  | 0, _ => .error .outOfFuel
  | fuel + 1, id =>
    match arena.lookup id with
    | .error error => .error (.refused error)
    | .ok node =>
      match node.kind with
      | .user =>
        match node.expr? with
        | some expr => .ok expr
        | none =>
          .error (.refused
            (.invalidOperation "base_user_expr" .user "the user type has no name expression"))
      | .pointer | .array => node.target.andThen (arena.aliasNameWithin fuel)
      | kind =>
        .error (.refused
          (.invalidOperation "base_user_expr" kind
            "only user types and their pointers or arrays name an alias"))

def aliasName (arena : Arena) (id : NodeId) : Answer Expr :=
  arena.aliasNameWithin arena.levels id

end TypeGraph.Arena
