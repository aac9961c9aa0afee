set_option autoImplicit false

namespace TypeGraph

inductive Builtin where
  | u8
  | u16
  | u32
  | u64
  | i8
  | i16
  | i32
  | i64
  | int
  | string
  | f32
  | f64
  | bool
  | void
  deriving DecidableEq

namespace Builtin

def all : List Builtin :=
  [.u8, .u16, .u32, .u64, .i8, .i16, .i32, .i64, .int, .string, .f32, .f64, .bool, .void]

def index : Builtin → Nat
  | .u8 => 0
  | .u16 => 1
  | .u32 => 2
  | .u64 => 3
  | .i8 => 4
  | .i16 => 5
  | .i32 => 6
  | .i64 => 7
  | .int => 8
  | .string => 9
  | .f32 => 10
  | .f64 => 11
  | .bool => 12
  | .void => 13

theorem getElem?_all_index (builtin : Builtin) : all[builtin.index]? = some builtin := by
  cases builtin <;> rfl

def name : Builtin → String
  | .u8 => "u8"
  | .u16 => "u16"
  | .u32 => "u32"
  | .u64 => "u64"
  | .i8 => "i8"
  | .i16 => "i16"
  | .i32 => "i32"
  | .i64 => "i64"
  | .int => "int"
  | .string => "string"
  | .f32 => "f32"
  | .f64 => "f64"
  | .bool => "bool"
  | .void => "void"

def ofName? (name : String) : Option Builtin := all.find? fun builtin => builtin.name == name

theorem ofName?_name (builtin : Builtin) : ofName? builtin.name = some builtin := by
  cases builtin <;> decide

def cName : Builtin → String
  | .u8 => "unsigned char"
  | .u16 => "unsigned short"
  | .u32 => "unsigned"
  | .u64 => "unsigned long long"
  | .i8 => "char"
  | .i16 => "short"
  | .i32 | .int | .bool => "int"
  | .i64 => "long long"
  | .string => "const char*"
  | .f32 => "float"
  | .f64 => "double"
  | .void => "void"

/-- Bytes that a value takes; a string is a pointer on the 32-bit target. -/
def width : Builtin → Nat
  | .void => 0
  | .u8 | .i8 | .bool => 1
  | .u16 | .i16 => 2
  | .u32 | .i32 | .int | .string | .f32 => 4
  | .u64 | .i64 | .f64 => 8

def isInteger : Builtin → Bool
  | .u8 | .u16 | .u32 | .u64 | .i8 | .i16 | .i32 | .i64 | .int => true
  | _ => false

def isSigned : Builtin → Bool
  | .i8 | .i16 | .i32 | .i64 | .int | .f32 | .f64 => true
  | _ => false

def isFloat : Builtin → Bool
  | .f32 | .f64 => true
  | _ => false

def label : Builtin → String
  | .u8 => "U8"
  | .u16 => "U16"
  | .u32 => "U32"
  | .u64 => "U64"
  | .i8 => "I8"
  | .i16 => "I16"
  | .i32 => "I32"
  | .i64 => "I64"
  | .int => "Int"
  | .string => "String"
  | .f32 => "F32"
  | .f64 => "F64"
  | .bool => "Bool"
  | .void => "Void"

def ofLabel? (label : String) : Option Builtin := all.find? fun builtin => builtin.label == label

theorem ofLabel?_label (builtin : Builtin) : ofLabel? builtin.label = some builtin := by
  cases builtin <;> decide

end Builtin

end TypeGraph
