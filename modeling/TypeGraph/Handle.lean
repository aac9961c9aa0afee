import TypeGraph.NodeId
import TypeGraph.Qualifiers
import TypeGraph.Text.Inspect

set_option autoImplicit false

namespace TypeGraph

structure Handle where
  node : NodeId
  quals : Qualifiers
  deriving DecidableEq, Hashable

namespace Handle

/-- The handle to no type. Any handle with its id is null as well, whatever its qualifiers. -/
def null : Handle := ⟨NodeId.null, Qualifiers.none⟩

instance : Inhabited Handle where
  default := null

def ofNode (id : NodeId) : Handle := ⟨id, Qualifiers.none⟩

def isNull (handle : Handle) : Bool := handle.node.isNull
def isValid (handle : Handle) : Bool := !handle.isNull

def withConst (handle : Handle) : Handle :=
  { handle with quals := handle.quals.union Qualifiers.const }

def withVolatile (handle : Handle) : Handle :=
  { handle with quals := handle.quals.union Qualifiers.volatile }

def withQuals (handle : Handle) (quals : Qualifiers) : Handle := { handle with quals := quals }

def isConst (handle : Handle) : Bool := handle.quals.contains Qualifiers.const
def isVolatile (handle : Handle) : Bool := handle.quals.contains Qualifiers.volatile

def unqualified (handle : Handle) : Handle := ofNode handle.node

def inspect (handle : Handle) : String :=
  Inspect.record "QualType" [("ty", handle.node.inspect), ("quals", handle.quals.inspect)]

end Handle

end TypeGraph
