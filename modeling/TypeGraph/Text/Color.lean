set_option autoImplicit false

namespace TypeGraph

inductive Color where
  | cyan
  | blue
  | green
  | yellow
  deriving DecidableEq

def Color.ansi : Color → String
  | .cyan => "\x1b[36m"
  | .blue => "\x1b[34m"
  | .green => "\x1b[32m"
  | .yellow => "\x1b[33m"

def Color.reset : String := "\x1b[0m"

def Color.inspect : Color → String
  | .cyan => "Cyan"
  | .blue => "Blue"
  | .green => "Green"
  | .yellow => "Yellow"

inductive ColorChoice where
  | auto
  | always
  | never
  deriving DecidableEq

instance : Inhabited ColorChoice where
  default := .auto

def ColorChoice.enables : ColorChoice → Bool → Bool
  | .auto, isTerminal => isTerminal
  | .always, _ => true
  | .never, _ => false

def ColorChoice.inspect : ColorChoice → String
  | .auto => "Auto"
  | .always => "Always"
  | .never => "Never"

end TypeGraph
