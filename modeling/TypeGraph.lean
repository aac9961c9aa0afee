import TypeGraph.Node.Inspect
import TypeGraph.Arena.Creation
import TypeGraph.Arena.Binding
import TypeGraph.Query.Width
import TypeGraph.Query.Compatibility
import TypeGraph.Query.AliasName
import TypeGraph.Form.Full
import TypeGraph.Form.Dump
import TypeGraph.Stored
import TypeGraph.Arena.Call
import TypeGraph.Proofs.Expansion
import TypeGraph.Proofs.Interning
import TypeGraph.Proofs.SelfReference
import TypeGraph.Proofs.Walk
import TypeGraph.Proofs.Admission
import TypeGraph.Proofs.Enclosing
import TypeGraph.Proofs.Writing
import TypeGraph.Proofs.SharedSpine
import TypeGraph.Proofs.Failure
import TypeGraph.Proofs.Replay
import TypeGraph.Proofs.Compatibility
import TypeGraph.Proofs.PointerName
import TypeGraph.Proofs.ShallowDump
import TypeGraph.Proofs.Locality
import TypeGraph.Proofs.Circularity
import TypeGraph.Proofs.Faultless
import TypeGraph.Proofs.Circling
import TypeGraph.Proofs.Rejection
import TypeGraph.Proofs.Substitution
import TypeGraph.Proofs.Layout
import TypeGraph.Proofs.FormLayout
import TypeGraph.Proofs.Indentation
import TypeGraph.Proofs.Unfolding
import TypeGraph.Proofs.CommonWidth
import TypeGraph.Proofs.Marking
import TypeGraph.Proofs.Log
import TypeGraph.Proofs.Reporting
import TypeGraph.Proofs.Appending
import TypeGraph.Proofs.Numbering
import TypeGraph.Proofs.Nesting
