import TypeGraph.Builtin
import TypeGraph.Member
import TypeGraph.Refusal

set_option autoImplicit false

namespace TypeGraph

inductive ArrayBound where
  | owned (expr : Expr)
  | borrowed (expr : Expr)
  deriving DecidableEq

namespace ArrayBound

def expr : ArrayBound → Expr
  | .owned expr => expr
  | .borrowed expr => expr

def isOwned : ArrayBound → Bool
  | .owned _ => true
  | .borrowed _ => false

end ArrayBound

inductive TagKind where
  | struct
  | union
  | enum
  deriving DecidableEq

def TagKind.kind : TagKind → Kind
  | .struct => .struct
  | .union => .union
  | .enum => .enum

structure Body where
  tag : String := ""
  members : Option (List Member) := none
  deriving DecidableEq

inductive Payload where
  | builtin (builtin : Builtin)
  | user (expr : Option Expr)
  | tagged (sort : TagKind) (body : Body)
  | func (args : List Handle)
  | pointer
  | array (size : Option ArrayBound)
  deriving DecidableEq

def Payload.kind : Payload → Kind
  | .builtin _ => .builtin
  | .user _ => .user
  | .tagged sort _ => sort.kind
  | .func _ => .func
  | .pointer => .pointer
  | .array _ => .array

structure Node where
  /-- The element of a pointer or an array, the target of an alias, the result of a function. -/
  target : Handle
  canonical : Handle
  payload : Payload
  deriving DecidableEq

namespace Node

def kind (node : Node) : Kind := node.payload.kind

def bare (kind : Kind) (target : Handle) : Except Refusal Node :=
  if kind.needsElement && target.isNull then
    .error (.invalidConstruction kind "an element type is required")
  else if !kind.needsElement && target.isValid then
    .error (.invalidConstruction kind "no element type is allowed")
  else
    match kind with
    | .builtin =>
      .error (.invalidConstruction kind "builtin types come from the builtin registry")
    | .user => .ok ⟨target, Handle.null, .user none⟩
    | .struct => .ok ⟨target, Handle.null, .tagged .struct {}⟩
    | .union => .ok ⟨target, Handle.null, .tagged .union {}⟩
    | .enum => .ok ⟨target, Handle.null, .tagged .enum {}⟩
    | .func => .ok ⟨target, Handle.null, .func []⟩
    | .pointer => .ok ⟨target, Handle.null, .pointer⟩
    | .array => .ok ⟨target, Handle.null, .array none⟩

def ofBuiltin (builtin : Builtin) : Node :=
  ⟨Handle.null, Handle.ofNode (NodeId.ofBuiltin builtin), .builtin builtin⟩

def ofExpr (expr : Expr) : Node := ⟨Handle.null, Handle.null, .user (some expr)⟩

def ofTag (sort : TagKind) (tag : String) : Node :=
  ⟨Handle.null, Handle.null, .tagged sort { tag := tag }⟩

def ofReturn (result : Handle) : Node := ⟨result, Handle.null, .func []⟩

def arrayOf (element : Handle) (size : Option ArrayBound) : Except Refusal Node :=
  (bare .array element).map fun node => { node with payload := .array size }

def settled (node : Node) (id : NodeId) : Node :=
  if node.kind.isCanonical then { node with canonical := Handle.ofNode id } else node

def hasCanonical (node : Node) : Bool := node.canonical.isValid

def test (node : Node) (test : KindTest) : Bool := test.holds node.kind

def builtin? (node : Node) : Option Builtin :=
  match node.payload with
  | .builtin builtin => some builtin
  | _ => none

def body? (node : Node) : Option Body :=
  match node.payload with
  | .tagged _ body => some body
  | _ => none

def tag? (node : Node) : Option String := node.body?.map fun body => body.tag

def members? (node : Node) : Option (List Member) := node.body?.bind fun body => body.members

def members (node : Node) : List Member := node.members?.getD []

def member? (node : Node) (index : Nat) : Option Member := node.members[index]?

def args (node : Node) : List Handle :=
  match node.payload with
  | .func args => args
  | _ => []

def arg (node : Node) (index : Nat) : Handle := node.args[index]?.getD Handle.null

def result (node : Node) : Handle :=
  match node.payload with
  | .func _ => node.target
  | _ => Handle.null

def expr? (node : Node) : Option Expr :=
  match node.payload with
  | .user expr => expr
  | _ => none

def size? (node : Node) : Option ArrayBound :=
  match node.payload with
  | .array size => size
  | _ => none

def ownsSize (node : Node) : Bool := node.size?.any ArrayBound.isOwned

def attachMembers (node : Node) (members : List Member) : Except Refusal Node :=
  match node.payload with
  | .tagged sort body =>
    if body.members.isSome then
      .error (.invalidOperation "set_members" node.kind "members are already set")
    else .ok { node with payload := .tagged sort { body with members := some members } }
  | _ =>
    .error (.invalidOperation "set_members" node.kind
      "only struct, union and enum types have members")

def assignResult (node : Node) (result : Handle) : Except Refusal Node :=
  if node.kind = .func then .ok { node with target := result }
  else
    .error (.invalidOperation "set_return_type" node.kind
      "only function types have a return type")

def appendArgument (node : Node) (arg : Handle) : Except Refusal Node :=
  match node.payload with
  | .func args => .ok { node with payload := .func (args ++ [arg]) }
  | _ =>
    .error (.invalidOperation "add_argument" node.kind "only function types have arguments")

/-- Attaches the target of an alias. That no cycle arises is for the arena to see to. -/
def resolve (node : Node) (target : Handle) : Except Refusal Node :=
  if node.kind = .user then .ok { node with target := target }
  else
    .error (.invalidOperation "set_ref_type" node.kind
      "only user types are resolved after construction")

def assignCanonical (node : Node) (canonical : Handle) : Except Refusal Node :=
  if node.kind.isCanonical then
    .error (.invalidOperation "set_canonical_type" node.kind
      "the node is its own canonical type")
  else .ok { node with canonical := canonical }

end Node

end TypeGraph
