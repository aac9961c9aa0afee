import TypeGraph.Node

set_option autoImplicit false

namespace TypeGraph

def ArrayBound.inspect : ArrayBound → String
  | .owned expr => Inspect.tagged "Owned" [expr.inspect]
  | .borrowed expr => Inspect.tagged "Borrowed" [expr.inspect]

def Body.inspect (body : Body) : String :=
  let members := fun (members : List Member) => Inspect.listing (members.map Member.inspect)
  Inspect.record "Composite"
    [("name", Quoted.quote body.tag), ("members", Inspect.optional members body.members)]

def Payload.inspect (payload : Payload) : String :=
  match payload with
  | .builtin which => Inspect.tagged payload.kind.label [which.label]
  | .user expr =>
    Inspect.record payload.kind.label [("expr", Inspect.optional Expr.inspect expr)]
  | .tagged _ body => Inspect.tagged payload.kind.label [body.inspect]
  | .func args =>
    Inspect.record payload.kind.label [("args", Inspect.listing (args.map Handle.inspect))]
  | .pointer => payload.kind.label
  | .array size =>
    Inspect.record payload.kind.label [("size", Inspect.optional ArrayBound.inspect size)]

def Node.inspect (node : Node) : String :=
  Inspect.record "Type"
    [("ref_type", node.target.inspect), ("canonical", node.canonical.inspect),
      ("data", node.payload.inspect)]

end TypeGraph
