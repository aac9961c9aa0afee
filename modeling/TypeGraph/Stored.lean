import TypeGraph.Kind
import TypeGraph.NodeId

set_option autoImplicit false

namespace TypeGraph

inductive Stored where
  | integer (value : Int)
  | text (value : String)
  -- An object that has the name as its only key and holds nothing.
  | variant (name : String)
  | other
  deriving DecidableEq

def Stored.label? : Stored → Option String
  | .text value => some value
  | .variant name => some name
  | _ => none

def NodeId.toStored (id : NodeId) : Stored := .integer id.raw.toNat

def NodeId.ofStored? : Stored → Option NodeId
  | .integer value =>
    if 0 ≤ value ∧ value.toNat < UInt32.size then some ⟨UInt32.ofNat value.toNat⟩ else none
  | _ => none

theorem NodeId.ofStored?_toStored (id : NodeId) : NodeId.ofStored? id.toStored = some id := by
  have small := id.raw.toNat_lt_size
  simp [NodeId.toStored, NodeId.ofStored?, small]

def Kind.toStored (kind : Kind) : Stored := .text kind.label

def Kind.ofStored? (stored : Stored) : Option Kind := stored.label?.bind Kind.ofLabel?

theorem Kind.ofStored?_toStored (kind : Kind) : Kind.ofStored? kind.toStored = some kind :=
  Kind.ofLabel?_label kind

def Builtin.toStored (builtin : Builtin) : Stored := .text builtin.label

def Builtin.ofStored? (stored : Stored) : Option Builtin := stored.label?.bind Builtin.ofLabel?

theorem Builtin.ofStored?_toStored (builtin : Builtin) :
    Builtin.ofStored? builtin.toStored = some builtin :=
  Builtin.ofLabel?_label builtin

end TypeGraph
