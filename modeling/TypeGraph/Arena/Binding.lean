import TypeGraph.Arena

set_option autoImplicit false

namespace TypeGraph.Arena

def change (arena : Arena) (id : NodeId) (edit : Node → Except Refusal Node)
    (report : Refusal → List Event) : Reply Unit :=
  match arena.owned id with
  | .error error => { answer := .error (.refused error), arena := arena, events := [] }
  | .ok node =>
    match edit node with
    | .error error => { answer := .error (.refused error), arena := arena, events := report error }
    | .ok node => { answer := .ok (), arena := arena.store id node, events := [] }

def attachMembers (arena : Arena) (id : NodeId) (members : List Member) : Reply Unit :=
  arena.change id (fun node => node.attachMembers members)
    fun error => [.rejected .members id error]

def assignResult (arena : Arena) (id : NodeId) (result : Handle) : Reply Unit :=
  arena.change id (fun node => node.assignResult result) fun error => [.rejected .result id error]

def appendArgument (arena : Arena) (id : NodeId) (arg : Handle) : Reply Unit :=
  arena.change id (fun node => node.appendArgument arg) fun error => [.rejected .argument id error]

def assignCanonical (arena : Arena) (id : NodeId) (canonical : Handle) : Reply Unit :=
  arena.change id (fun node => node.assignCanonical canonical) fun _ => []

def reachesWithin (arena : Arena) (id : NodeId) : Nat → Handle → Answer Bool
  | 0, _ => .error .outOfFuel
  | fuel + 1, handle =>
    if handle.isNull then .ok false
    else if handle.node = id then .ok true
    else
      match arena.lookup handle.node with
      | .error error => .error (.refused error)
      | .ok node =>
        match node.kind with
        | .user | .pointer | .array => arena.reachesWithin id fuel node.target
        | _ => .ok false

def reaches (arena : Arena) (handle : Handle) (id : NodeId) : Answer Bool :=
  arena.reachesWithin id arena.levels handle

def cycleError : Refusal :=
  .invalidOperation "set_ref_type" .user "the alias target refers back to this user type"

def resolve (arena : Arena) (id : NodeId) (target : Handle) : Reply Unit :=
  match arena.reaches target id with
  | .error stop => { answer := .error stop, arena := arena, events := [] }
  | .ok true =>
    { answer := .error (.refused cycleError)
      arena := arena
      events := [.rejectedCycle id target] }
  | .ok false =>
    arena.change id (fun node => node.resolve target) fun error => [.rejected .target id error]

/-- Puts an empty node of a kind in the place of an owned one, which forgets all that the node
held and leaves the table of pointers alone. -/
def overwrite (arena : Arena) (id : NodeId) (kind : Kind) (target : Handle) : Reply Unit :=
  match Node.bare kind target with
  | .error error => { answer := .error (.refused error), arena := arena, events := [] }
  | .ok node => arena.change id (fun _ => .ok node) fun _ => []

end TypeGraph.Arena
