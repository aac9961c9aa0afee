import TypeGraph.Text.Color
import TypeGraph.Text.Quoted

set_option autoImplicit false

namespace TypeGraph

structure Sink where
  text : String := ""
  colors : Bool := false
  deriving DecidableEq

namespace Sink

def plain : Sink := {}

def ofMode (mode : ColorChoice) (isTerminal : Bool) : Sink :=
  { colors := mode.enables isTerminal }

def push (sink : Sink) (c : Char) : Sink := { sink with text := sink.text.push c }

def append (sink : Sink) (text : String) : Sink := { sink with text := sink.text ++ text }

@[simp] theorem text_append (sink : Sink) (text : String) :
    (sink.append text).text = sink.text ++ text := rfl

@[simp] theorem colors_append (sink : Sink) (text : String) :
    (sink.append text).colors = sink.colors := rfl

theorem append_append (sink : Sink) (first second : String) :
    (sink.append first).append second = sink.append (first ++ second) := by
  simp only [append, String.append_assoc]

def indent (sink : Sink) (width : Nat) : Sink := { sink with text := sink.text.pushn ' ' width }

def colored (sink : Sink) (color : Color) (text : String) : Sink :=
  if sink.colors then ((sink.append color.ansi).append text).append Color.reset
  else sink.append text

theorem colored_eq_append (sink : Sink) (color : Color) (text : String) :
    sink.colored color text =
      sink.append (if sink.colors then color.ansi ++ text ++ Color.reset else text) := by
  unfold colored
  split
  · simp only [append_append, String.append_assoc]
  · rfl

def clear (sink : Sink) : Sink := { sink with text := "" }

def size (sink : Sink) : Nat := sink.text.utf8ByteSize

def isEmpty (sink : Sink) : Bool := sink.text.isEmpty

def inspect (sink : Sink) : String := Quoted.quote sink.text

end Sink

def indentStep : Nat := 3

end TypeGraph
