import TypeGraph.Arena.Binding
import TypeGraph.Arena.Creation

set_option autoImplicit false

namespace TypeGraph

def Arena.Reply.map {α β : Type} (read : α → β) (reply : Arena.Reply α) : Arena.Reply β :=
  { answer := reply.answer.map read, arena := reply.arena, events := reply.events }

inductive Call where
  | newUser (expr : Expr)
  | newTagged (sort : TagKind) (tag : String)
  | newFunction (result : Handle)
  | newArray (element : Handle) (size : Option ArrayBound)
  | pointerTo (element : Handle)
  | attachMembers (id : NodeId) (members : List Member)
  | assignResult (id : NodeId) (result : Handle)
  | appendArgument (id : NodeId) (arg : Handle)
  | resolve (id : NodeId) (target : Handle)
  | assignCanonical (id : NodeId) (canonical : Handle)
  | overwrite (id : NodeId) (kind : Kind) (target : Handle)
  deriving DecidableEq

namespace Call

def perform (call : Call) (arena : Arena) : Arena.Reply (Option Handle) :=
  match call with
  | .newUser expr => (arena.newUser expr).map fun id => some (Handle.ofNode id)
  | .newTagged sort tag => (arena.newTagged sort tag).map fun id => some (Handle.ofNode id)
  | .newFunction result => (arena.newFunction result).map fun id => some (Handle.ofNode id)
  | .newArray element size => (arena.newArray element size).map some
  | .pointerTo element => (arena.pointerTo element).map some
  | .attachMembers id members => (arena.attachMembers id members).map fun _ => none
  | .assignResult id result => (arena.assignResult id result).map fun _ => none
  | .appendArgument id arg => (arena.appendArgument id arg).map fun _ => none
  | .resolve id target => (arena.resolve id target).map fun _ => none
  | .assignCanonical id canonical => (arena.assignCanonical id canonical).map fun _ => none
  | .overwrite id kind target => (arena.overwrite id kind target).map fun _ => none

def isOverwrite : Call → Bool
  | .overwrite _ _ _ => true
  | _ => false

def handles : Call → List Handle
  | .newUser _ => []
  | .newTagged _ _ => []
  | .newFunction result => [result]
  | .newArray element _ => [element]
  | .pointerTo element => [element]
  | .attachMembers _ members => members.map Member.type
  | .assignResult _ result => [result]
  | .appendArgument _ arg => [arg]
  | .resolve _ target => [target]
  | .assignCanonical _ _ => []
  | .overwrite _ _ target => [target]

end Call

namespace Arena

def resolves (arena : Arena) (handle : Handle) : Bool :=
  handle.isNull || arena.contains handle.node

def run (arena : Arena) (calls : List Call) : Arena :=
  calls.foldl (fun arena call => (call.perform arena).arena) arena

@[simp] theorem run_nil (arena : Arena) : arena.run [] = arena := rfl

@[simp] theorem run_cons (arena : Arena) (call : Call) (calls : List Call) :
    arena.run (call :: calls) = (call.perform arena).arena.run calls := rfl

end Arena

def Call.isGrounded (call : Call) (arena : Arena) : Bool := call.handles.all arena.resolves

namespace Arena

/-- Whether the calls of a run make and complete nodes only, each being grounded when its turn
comes. -/
def grounds (arena : Arena) : List Call → Bool
  | [] => true
  | call :: calls =>
    !call.isOverwrite && call.isGrounded arena && (call.perform arena).arena.grounds calls

/-- The arenas that grounded calls bring about from the empty one. -/
inductive Built : Arena → Prop where
  | empty : Built Arena.empty
  | step {arena : Arena} (built : Built arena) (call : Call)
      (keeps : call.isOverwrite = false) (grounded : call.isGrounded arena = true) :
      Built (call.perform arena).arena

theorem Built.run {arena : Arena} (built : Built arena) (calls : List Call)
    (grounded : arena.grounds calls = true) : Built (arena.run calls) := by
  induction calls generalizing arena with
  | nil => exact built
  | cons call calls ih =>
    simp only [grounds, Bool.and_eq_true, Bool.not_eq_true'] at grounded
    exact ih (built.step call grounded.1.1 grounded.1.2) grounded.2

end Arena

end TypeGraph
