import TypeGraph.Builtin

set_option autoImplicit false

namespace TypeGraph

-- The first ids name the builtins, those from `firstOwned` on the nodes of an arena in the order of
-- their creation, and the largest names no type. The ids between are reserved.
structure NodeId where
  raw : UInt32
  deriving DecidableEq, Hashable

namespace NodeId

def null : NodeId := ⟨4294967295⟩

def firstOwned : Nat := 64

def isNull (id : NodeId) : Bool := id.raw == null.raw

theorem eq_null_of_isNull {id : NodeId} (null : id.isNull = true) : id = NodeId.null := by
  cases id
  exact congrArg NodeId.mk (eq_of_beq null)

def ofBuiltin (builtin : Builtin) : NodeId := ⟨UInt32.ofNat builtin.index⟩

def builtin? (id : NodeId) : Option Builtin := Builtin.all[id.raw.toNat]?

theorem builtin?_ofBuiltin (builtin : Builtin) : (ofBuiltin builtin).builtin? = some builtin := by
  cases builtin <;> rfl

def isBuiltin (id : NodeId) : Bool := id.raw.toNat < Builtin.all.length

def index? (id : NodeId) : Option Nat :=
  if id.isNull || id.raw.toNat < firstOwned then none else some (id.raw.toNat - firstOwned)

def ofIndex? (index : Nat) : Option NodeId :=
  if firstOwned + index < null.raw.toNat then some ⟨UInt32.ofNat (firstOwned + index)⟩ else none

theorem index?_of_ofIndex? {id : NodeId} {index : Nat} (issued : ofIndex? index = some id) :
    id.index? = some index := by
  unfold ofIndex? at issued
  split at issued
  · rename_i below
    have fits : firstOwned + index < 4294967295 := below
    have number : (UInt32.ofNat (firstOwned + index)).toNat = firstOwned + index :=
      UInt32.toNat_ofNat_of_lt' (by show _ < 4294967296; omega)
    cases issued
    have owned : (⟨UInt32.ofNat (firstOwned + index)⟩ : NodeId).isNull = false := by
      simp only [isNull, beq_eq_false_iff_ne, ne_eq, ← UInt32.toNat_inj, number]
      exact Nat.ne_of_lt fits
    have lower : ¬ firstOwned + index < firstOwned := by omega
    simp only [index?, owned, number, Bool.false_or, decide_eq_true_eq, lower, if_false,
      Nat.add_sub_cancel_left]
  · cases issued

theorem ofIndex?_of_index? {id : NodeId} {index : Nat} (owned : id.index? = some index) :
    ofIndex? index = some id := by
  unfold index? at owned
  split at owned
  · cases owned
  · rename_i outside
    simp only [isNull, Bool.or_eq_true, beq_iff_eq, decide_eq_true_eq, not_or, Nat.not_lt] at outside
    have position : id.raw.toNat - firstOwned = index := Option.some.inj owned
    have below : id.raw.toNat < null.raw.toNat := by
      have bound : id.raw.toNat < 4294967296 := id.raw.toNat_lt
      have distinct : id.raw.toNat ≠ null.raw.toNat := fun same =>
        outside.1 (UInt32.toNat_inj.mp same)
      have last : null.raw.toNat = 4294967295 := rfl
      omega
    have number : firstOwned + index = id.raw.toNat := by omega
    simp [ofIndex?, number, below]

def name (id : NodeId) : String :=
  match id.builtin? with
  | some builtin => builtin.name
  | none => if id.isNull then "<none>" else "type#" ++ toString id.raw.toNat

def inspect (id : NodeId) : String :=
  match id.builtin? with
  | some builtin => "TypeId::" ++ builtin.name.toUpper
  | none =>
    if id.isNull then "TypeId::NONE" else "TypeId(" ++ toString id.raw.toNat ++ ")"

def order (a b : NodeId) : Ordering := compare a.raw b.raw

end NodeId

end TypeGraph
