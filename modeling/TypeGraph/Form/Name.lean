import TypeGraph.Form.Printer

set_option autoImplicit false

namespace TypeGraph.Arena

open PrinterOver Printer

def unnamedFunction : Refusal :=
  .invalidOperation "print_name" .func "function types are named by their signature"

def nameWithin (arena : Arena) : Nat → NodeId → Printer
  | 0, _ => stop .outOfFuel
  | fuel + 1, id =>
    match arena.lookup id with
    | .error refusal => stop (.refused refusal)
    | .ok node =>
      match node.payload with
      | .builtin builtin => text builtin.name
      | .user name =>
        if node.target.isValid then handle (arena.nameWithin fuel) node.target
        else optional name expr
      | .tagged sort body => seq [kind sort.kind, text body.tag]
      | .func _ => stop (.refused unnamedFunction)
      | .pointer => seq [handle (arena.nameWithin fuel) node.target, text "*"]
      | .array size => seq [handle (arena.nameWithin fuel) node.target, brackets size]

def writeNodeName (arena : Arena) (id : NodeId) : Printer := arena.nameWithin arena.levels id

def writeName (arena : Arena) (target : Handle) : Printer := handle arena.writeNodeName target

def nameText (arena : Arena) (target : Handle) : Answer String := (arena.writeName target).toText

end TypeGraph.Arena
