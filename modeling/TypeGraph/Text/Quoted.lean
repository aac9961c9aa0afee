set_option autoImplicit false

namespace TypeGraph.Quoted

def isControl (c : Char) : Bool :=
  c.toNat < 0x20 || (0x7f ≤ c.toNat && c.toNat ≤ 0x9f)

def hex (n : Nat) : String := String.ofList (Nat.toDigits 16 n)

def escape (c : Char) : String :=
  match c with
  | '"' => "\\\""
  | '\\' => "\\\\"
  | '\n' => "\\n"
  | '\r' => "\\r"
  | '\t' => "\\t"
  | '\x00' => "\\0"
  | c => if isControl c then "\\u\x7b" ++ hex c.toNat ++ "\x7d" else c.toString

def quote (text : String) : String :=
  text.foldl (fun written c => written ++ escape c) "\"" ++ "\""

end TypeGraph.Quoted
