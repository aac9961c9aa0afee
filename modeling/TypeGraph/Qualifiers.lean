import TypeGraph.Text.Quoted

set_option autoImplicit false

namespace TypeGraph

-- Bits without a keyword are kept and compared, but never spelled out.
structure Qualifiers where
  bits : UInt8
  deriving DecidableEq, Hashable

namespace Qualifiers

def none : Qualifiers := ⟨0⟩
def const : Qualifiers := ⟨2⟩
def volatile : Qualifiers := ⟨4⟩

def known : Qualifiers := ⟨6⟩

def union (a b : Qualifiers) : Qualifiers := ⟨a.bits ||| b.bits⟩
def inter (a b : Qualifiers) : Qualifiers := ⟨a.bits &&& b.bits⟩
def diff (a b : Qualifiers) : Qualifiers := ⟨a.bits &&& ~~~b.bits⟩
def symmDiff (a b : Qualifiers) : Qualifiers := ⟨a.bits ^^^ b.bits⟩

def compl (a : Qualifiers) : Qualifiers := known.diff a

def contains (a b : Qualifiers) : Bool := a.inter b == b
def intersects (a b : Qualifiers) : Bool := a.inter b != none
def isEmpty (a : Qualifiers) : Bool := a == none

def truncate (a : Qualifiers) : Qualifiers := a.inter known

def ofBits? (bits : UInt8) : Option Qualifiers :=
  if known.contains ⟨bits⟩ then some ⟨bits⟩ else Option.none

def named : List (Qualifiers × String × String) :=
  [(const, "const", "CONST"), (volatile, "volatile", "VOLATILE")]

def keywords (a : Qualifiers) : List String :=
  (named.filter fun entry => a.contains entry.1).map fun entry => entry.2.1

def text (a : Qualifiers) : String := " ".intercalate a.keywords

def inspect (a : Qualifiers) : String :=
  let labels := (named.filter fun entry => a.contains entry.1).map fun entry => entry.2.2
  let rest := a.diff known
  let parts :=
    if labels.isEmpty || !rest.isEmpty then labels ++ ["0x" ++ Quoted.hex rest.bits.toNat]
    else labels
  "Qualifiers(" ++ " | ".intercalate parts ++ ")"

end Qualifiers

end TypeGraph
