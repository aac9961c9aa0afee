import TypeGraph.Form.Printer

set_option autoImplicit false

namespace TypeGraph.Arena

open PrinterOver Printer

def effectiveWithin (arena : Arena) : Nat → NodeId → Printer
  | 0, _ => stop .outOfFuel
  | fuel + 1, id =>
    match arena.lookup id with
    | .error _ => invalid id
    | .ok node =>
      match node.payload with
      | .builtin builtin => text builtin.name
      | .user name =>
        if node.target.isValid then handle (arena.effectiveWithin fuel) node.target
        else optional name expr
      | .tagged sort _ => kind sort.kind
      | .func args =>
        seq [text "func ", handle (arena.effectiveWithin fuel) node.target, text "(",
          separated args (handle (arena.effectiveWithin fuel)), text ")"]
      | .pointer => seq [handle (arena.effectiveWithin fuel) node.target, text "*"]
      | .array size => seq [handle (arena.effectiveWithin fuel) node.target, brackets size]

def writeNodeEffective (arena : Arena) (id : NodeId) : Printer :=
  arena.effectiveWithin arena.levels id

def writeEffective (arena : Arena) (target : Handle) : Printer :=
  handle arena.writeNodeEffective target

def effectiveText (arena : Arena) (target : Handle) : Answer String :=
  (arena.writeEffective target).toText

def diagnosticName (arena : Arena) (target : Handle) : Answer String :=
  (arena.effectiveText target).map fun text => "'" ++ text ++ "'"

end TypeGraph.Arena
