set_option autoImplicit false

namespace TypeGraph

inductive Kind where
  | builtin
  | user
  | struct
  | union
  | enum
  | func
  | pointer
  | array
  deriving DecidableEq

namespace Kind

def all : List Kind := [.builtin, .user, .struct, .union, .enum, .func, .pointer, .array]

def name : Kind → String
  | .builtin => "builtin"
  | .user => "user"
  | .struct => "struct"
  | .union => "union"
  | .enum => "enum"
  | .func => "func"
  | .pointer => "pointer"
  | .array => "array"

def ofName? (name : String) : Option Kind := all.find? fun kind => kind.name == name

def label : Kind → String
  | .builtin => "Builtin"
  | .user => "User"
  | .struct => "Struct"
  | .union => "Union"
  | .enum => "Enum"
  | .func => "Func"
  | .pointer => "Pointer"
  | .array => "Array"

def ofLabel? (label : String) : Option Kind := all.find? fun kind => kind.label == label

theorem ofLabel?_label (kind : Kind) : ofLabel? kind.label = some kind := by
  cases kind <;> decide

def index (kind : Kind) : Nat := all.idxOf kind

def needsElement : Kind → Bool
  | .pointer | .array => true
  | _ => false

def isTagged : Kind → Bool
  | .struct | .union | .enum => true
  | _ => false

def isCanonical : Kind → Bool
  | .builtin | .struct | .union | .enum | .func => true
  | .user | .pointer | .array => false

end Kind

inductive KindTest where
  | builtin
  | user
  | structOrUnion
  | enum
  | func
  | pointer
  | array
  | subscriptable
  deriving DecidableEq

namespace KindTest

def all : List KindTest :=
  [.builtin, .user, .structOrUnion, .enum, .func, .pointer, .array, .subscriptable]

def holds : KindTest → Kind → Bool
  | .builtin, kind => kind == .builtin
  | .user, kind => kind == .user
  | .structOrUnion, kind => kind == .struct || kind == .union
  | .enum, kind => kind == .enum
  | .func, kind => kind == .func
  | .pointer, kind => kind == .pointer
  | .array, kind => kind == .array
  | .subscriptable, kind => kind == .pointer || kind == .array

end KindTest

end TypeGraph
