set_option autoImplicit false

namespace TypeGraph.Inspect

def commas (parts : List String) : String := ", ".intercalate parts

def record (name : String) (fields : List (String × String)) : String :=
  name ++ " \x7b " ++ commas (fields.map fun field => field.1 ++ ": " ++ field.2) ++ " \x7d"

def tagged (name : String) (parts : List String) : String :=
  name ++ "(" ++ commas parts ++ ")"

def listing (parts : List String) : String := "[" ++ commas parts ++ "]"

def optional {α : Type} (inspect : α → String) : Option α → String
  | none => "None"
  | some value => tagged "Some" [inspect value]

end TypeGraph.Inspect
