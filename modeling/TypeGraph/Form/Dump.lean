import TypeGraph.Form.Effective

set_option autoImplicit false

namespace TypeGraph

/-- How far a dump goes. A deep one shows the members of the tagged type and the target of the alias
that pointers and arrays lead to; everything below those is shallow. -/
inductive DumpScope where
  | deep
  | shallow
  deriving DecidableEq

namespace Arena

open PrinterOver Printer

def qualifierLine (quals : Qualifiers) (indent : Nat) : Printer :=
  if quals.isEmpty then seq []
  else seq [spaces indent, text "qualifiers=", colored .yellow quals.text, text "\n"]

def dumpHandle (print : NodeId → Printer) (indent : Nat) (target : Handle) : Printer :=
  if target.isNull then seq [spaces indent, text "NULL\n"]
  else seq [print target.node, qualifierLine target.quals indent]

def label (indent : Nat) (color : Color) (word : String) : Printer :=
  seq [spaces indent, colored color word]

def dumpWithin (arena : Arena) : Nat → DumpScope → Nat → NodeId → Printer
  | 0, _, _, _ => stop .outOfFuel
  | fuel + 1, scope, indent, id =>
    let child := indent + indentStep
    let below := child + indentStep
    seq [spaces indent, text "[type] ",
      match arena.lookup id with
      | .error _ => seq [invalid id, text "\n"]
      | .ok node =>
        match node.payload with
        | .builtin builtin => text ("(builtin) " ++ builtin.name ++ "\n")
        | .user name =>
          seq [text "(user)\n", optional name fun name => exprTree name child,
            if node.target.isValid ∧ scope = .deep then
              seq [label child .cyan "resolved to:", text " ", arena.writeEffective node.target,
                text "\n"]
            else seq []]
        | .tagged sort body =>
          seq [kind sort.kind, text (" " ++ body.tag ++ "\n"),
            if scope = .deep then
              each node.members fun member =>
                seq [label child .green "[member]", text (" " ++ member.name ++ "\n"),
                  dumpHandle (arena.dumpWithin fuel .shallow below) below member.type,
                  optional member.value? fun value => exprTree value below]
            else seq []]
        | .func args =>
          seq [text "(func)\n", label child .blue "returns:", text "\n",
            dumpHandle (arena.dumpWithin fuel .shallow below) below node.target,
            label child .blue "args:", text "\n",
            each args (dumpHandle (arena.dumpWithin fuel .shallow below) below)]
        | .pointer =>
          seq [text "(pointer)\n",
            dumpHandle (arena.dumpWithin fuel scope child) child node.target]
        | .array size =>
          seq [text "(array)\n",
            dumpHandle (arena.dumpWithin fuel scope child) child node.target,
            optional size fun size =>
              seq [label child .blue "size:", text "\n", exprTree size.expr below]]]

/-- A node may be met once on the deep part of the way and once more on the shallow part. -/
def writeNodeDump (arena : Arena) (id : NodeId) (indent : Nat) (scope : DumpScope) : Printer :=
  arena.dumpWithin (arena.levels * 2) scope indent id

def writeDump (arena : Arena) (target : Handle) (indent : Nat) (scope : DumpScope) : Printer :=
  dumpHandle (fun id => arena.writeNodeDump id indent scope) indent target

def dumpText (arena : Arena) (target : Handle) : Answer String :=
  (arena.writeDump target 0 .deep).toText

def nodeDumpText (arena : Arena) (id : NodeId) : Answer String :=
  (arena.writeNodeDump id 0 .deep).toText

def dumpLine (arena : Arena) (target : Handle) : Answer String :=
  (arena.dumpText target).map fun text => "[QUALTYPE] " ++ text

def nodeDumpLine (arena : Arena) (id : NodeId) : Answer String :=
  (arena.nodeDumpText id).map fun text => "[TYPE] " ++ text

def errorOutput (dump : Answer String) : Answer String := dump.map fun text => text ++ "\n"

end Arena

end TypeGraph
