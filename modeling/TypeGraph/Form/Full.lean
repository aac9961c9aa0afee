import TypeGraph.Form.Name

set_option autoImplicit false

namespace TypeGraph

-- A text with the structs and unions that are being written out in it, innermost first.
structure Expansion where
  sink : Sink
  active : List NodeId
  deriving DecidableEq

abbrev Expander := PrinterOver Expansion

namespace Expander

open PrinterOver

def plain (printer : Printer) : Expander := fun ⟨sink, active⟩ =>
  match printer sink with
  | ⟨sink, reason⟩ => ⟨⟨sink, active⟩, reason⟩

def text (part : String) : Expander := plain (Printer.text part)

def enter (id : NodeId) : Expander := edit fun ⟨sink, active⟩ => ⟨sink, id :: active⟩
def leave : Expander := edit fun ⟨sink, active⟩ => ⟨sink, active.tail⟩

def ifActive (id : NodeId) (yes no : Expander) : Expander := fun ⟨sink, active⟩ =>
  if id ∈ active then yes ⟨sink, active⟩ else no ⟨sink, active⟩

def toPrinter (expander : Expander) : Printer := fun sink =>
  match expander ⟨sink, []⟩ with
  | ⟨⟨sink, _⟩, reason⟩ => ⟨sink, reason⟩

end Expander

namespace Arena

open PrinterOver Expander

def headline (sort : TagKind) (tag : String) : String :=
  if tag.isEmpty then sort.kind.name else sort.kind.name ++ " " ++ tag

def fullWithin (arena : Arena) : Nat → Nat → Handle → Expander
  | 0, _, _ => stop .outOfFuel
  | fuel + 1, indent, target =>
    if target.isNull then text "NULL"
    else
      seq [plain (Printer.keywords target.quals),
        match arena.lookup target.node with
        | .error refusal => stop (.refused refusal)
        | .ok node =>
          match node.payload with
          | .builtin builtin => text builtin.name
          | .user name =>
            if node.target.isValid then arena.fullWithin fuel indent node.target
            else plain (Printer.optional name Printer.expr)
          | .tagged .enum body => text (headline .enum body.tag)
          | .tagged sort body =>
            ifActive target.node (plain (arena.writeNodeName target.node)) <|
              seq [text (headline sort body.tag ++ " \x7b\n"), enter target.node,
                each node.members fun member =>
                  seq [plain (Printer.spaces (indent + indentStep)),
                    arena.fullWithin fuel (indent + indentStep) member.type,
                    text (" " ++ member.name ++ ";\n")],
                leave, plain (Printer.spaces indent), text "\x7d"]
          | .func args =>
            seq [text "func ", plain (arena.writeName node.target), text "(",
              plain (Printer.separated args arena.writeName), text ")"]
          | .pointer => seq [arena.fullWithin fuel indent node.target, text "*"]
          | .array size =>
            seq [arena.fullWithin fuel indent node.target, plain (Printer.brackets size)]]

/-- No node is met twice between two structs that are entered, and none is entered twice. -/
def writeFull (arena : Arena) (target : Handle) (indent : Nat) : Printer :=
  seq [Printer.spaces indent,
    (arena.fullWithin (arena.levels * arena.levels) indent target).toPrinter]

def fullText (arena : Arena) (target : Handle) : Answer String :=
  (arena.writeFull target 0).toText

end Arena

end TypeGraph
