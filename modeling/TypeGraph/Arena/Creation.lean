import TypeGraph.Arena

set_option autoImplicit false

namespace TypeGraph.Arena

def create (arena : Arena) (node : Node) : Reply NodeId :=
  match NodeId.ofIndex? arena.size with
  | some id =>
    { answer := .ok id
      arena := { arena with nodes := arena.nodes.push (node.settled id) }
      events := [.created id node.kind] }
  | none => { answer := .error (.fault .exhaustedIds), arena := arena, events := [] }

def create? (arena : Arena) (node : Except Refusal Node) : Reply Handle :=
  match node with
  | .error error => { answer := .error (.refused error), arena := arena, events := [] }
  | .ok node =>
    let ⟨answer, arena, events⟩ := arena.create node
    { answer := answer.map Handle.ofNode, arena := arena, events := events }

def newUser (arena : Arena) (expr : Expr) : Reply NodeId := arena.create (Node.ofExpr expr)

def newTagged (arena : Arena) (sort : TagKind) (tag : String) : Reply NodeId :=
  arena.create (Node.ofTag sort tag)

def newFunction (arena : Arena) (result : Handle) : Reply NodeId :=
  arena.create (Node.ofReturn result)

def newArray (arena : Arena) (element : Handle) (size : Option ArrayBound) : Reply Handle :=
  arena.create? (Node.arrayOf element size)

def intern (arena : Arena) (element pointer : Handle) : Arena :=
  { arena with pointers := arena.pointers.insert element pointer.node }

def pointerTo (arena : Arena) (element : Handle) : Reply Handle :=
  match arena.pointers[element]? with
  | some id =>
    { answer := .ok (Handle.ofNode id), arena := arena, events := [.reusedPointer id] }
  | none =>
    let ⟨answer, arena, events⟩ := arena.create? (Node.bare .pointer element)
    match answer with
    | .ok pointer =>
      { answer := .ok pointer, arena := arena.intern element pointer, events := events }
    | .error stop => { answer := .error stop, arena := arena, events := events }

end TypeGraph.Arena
