import TypeGraph.Proofs.Effect
import TypeGraph.Proofs.Printing
import TypeGraph.Proofs.Spine

set_option autoImplicit false

namespace TypeGraph

open Relation Descent

namespace PrinterOver

variable {σ α : Type} {first second : PrinterOver σ} {parts others : List (PrinterOver σ)}

/-- Whether two printers do the same from every state, or both come to no end. -/
def Alike (first second : PrinterOver σ) : Prop :=
  ∀ state, first state = second state ∨
    (first state).stop = some .outOfFuel ∧ (second state).stop = some .outOfFuel

theorem Alike.refl (printer : PrinterOver σ) : Alike printer printer := fun _ => .inl rfl

theorem alike_of_endless (left : Endless first) (right : Endless second) : Alike first second :=
  fun state => .inr ⟨left state, right state⟩

theorem stop_seq_of_stop {state : σ} {reason : Stop} (stopped : (first state).stop = some reason) :
    (seq (first :: parts) state).stop = some reason := by
  cases wrote : first state with
  | mk after ended =>
    rw [wrote] at stopped
    subst stopped
    rw [seq_cons_of_stop wrote]

theorem alike_cons (head : Alike first second) (tail : Alike (seq parts) (seq others)) :
    Alike (seq (first :: parts)) (seq (second :: others)) := by
  intro state
  rcases head state with same | ⟨stopped, stopped'⟩
  · cases wrote : second state with
    | mk after reason =>
      cases reason with
      | none =>
        rw [seq_cons_of_done (same.trans wrote), seq_cons_of_done wrote]
        exact tail after
      | some reason =>
        rw [seq_cons_of_stop (same.trans wrote), seq_cons_of_stop wrote]
        exact .inl rfl
  · exact .inr ⟨stop_seq_of_stop stopped, stop_seq_of_stop stopped'⟩

theorem alike_each {items : List α} {print more : α → PrinterOver σ}
    (item : ∀ item ∈ items, Alike (print item) (more item)) :
    Alike (each items print) (each items more) := by
  induction items with
  | nil => exact .refl _
  | cons first rest ih =>
    obtain ⟨head, tail⟩ := List.forall_mem_cons.mp item
    exact alike_cons head (ih tail)

end PrinterOver

namespace Printer

open PrinterOver

variable {α : Type} {print more : NodeId → Printer} {target : Handle}

theorem alike_separated {items : List α} {write other : α → Printer}
    (item : ∀ item ∈ items, Alike (write item) (other item)) :
    Alike (separated items write) (separated items other) := by
  cases items with
  | nil => exact .refl _
  | cons first rest =>
    obtain ⟨head, tail⟩ := List.forall_mem_cons.mp item
    have later : Alike (each rest fun item => seq [text ", ", write item])
        (each rest fun item => seq [text ", ", other item]) :=
      alike_each fun one member => alike_cons (.refl _) (alike_cons (tail one member) (.refl _))
    exact alike_cons head (alike_cons later (.refl _))

theorem alike_handle (node : target.isNull = false → Alike (print target.node) (more target.node)) :
    Alike (handle print target) (handle more target) := by
  unfold handle
  cases null : target.isNull with
  | true => exact .refl _
  | false => exact alike_cons (.refl _) (alike_cons (node null) (.refl _))

end Printer

namespace Arena

open PrinterOver Printer

variable {inside : NodeId → Prop} {arena later : Arena} {next : Node → List Handle} {a b id : NodeId}

/-- Whether two arenas have the same nodes under certain ids, from which links lead to such ids only,
and the second has no fewer nodes than the first. -/
structure Agrees (inside : NodeId → Prop) (arena later : Arena) : Prop where
  same : ∀ id, inside id → later.lookup id = arena.lookup id
  closed : ∀ a b, inside a → arena.Leads Node.handles a b → inside b
  grows : arena.size ≤ later.size

theorem Leads.source_mem_ids (leads : arena.Leads Node.handles a b) : a ∈ arena.ids := by
  obtain ⟨node, found, handle, member, valid, -⟩ := leads
  rcases lookup_eq_ok_iff.mp found with ⟨builtin, -, rfl⟩ | owned
  · cases List.mem_singleton.mp member
    cases valid
  · exact Arena.mem_ids owned

theorem Leads.mono (leads : arena.Leads next a b)
    (within : ∀ node, ∀ handle ∈ next node, handle ∈ node.handles) : arena.Leads Node.handles a b := by
  obtain ⟨node, found, handle, member, link⟩ := leads
  exact ⟨node, found, handle, within node handle member, link⟩

theorem Agrees.leads (agrees : Agrees inside arena later) (start : inside a)
    (leads : arena.Leads next a b) : later.Leads next a b := by
  obtain ⟨node, found, link⟩ := leads
  exact ⟨node, (agrees.same a start).trans found, link⟩

section Recursion

variable {β : Type} (agrees : Agrees inside arena later)
  (within : ∀ node, ∀ handle ∈ next node, handle ∈ node.handles)
  (form : Arena → Nat → NodeId → β) (endless : β → Prop)
  (never : ∀ arena id, endless (form arena 0 id))
  (stuck : ∀ arena levels a b, arena.Leads next a b → endless (form arena levels b) →
    endless (form arena (levels + 1) a))
include agrees within never stuck

theorem Agrees.both_endless (start : inside a) (winds : Winds (arena.Leads next) a) (levels : Nat) :
    endless (form arena levels a) ∧ endless (form later levels a) := by
  refine holds_of_winds
    (fun levels a => inside a → endless (form arena levels a) ∧ endless (form later levels a))
    (fun a _ => ⟨never arena a, never later a⟩) ?_ levels winds start
  intro levels a b leads below start
  obtain ⟨here, there⟩ := below (agrees.closed a b start (leads.mono within))
  exact ⟨stuck arena levels a b leads here, stuck later levels a b (agrees.leads start leads) there⟩

theorem Agrees.alike (alike : β → β → Prop) (slack : Nat)
    (both : ∀ first second, endless first → endless second → alike first second)
    (step : ∀ id, inside id → ∀ levels levels', slack ≤ levels → slack ≤ levels' →
      (∀ b, arena.Leads next id b → alike (form arena levels b) (form later levels' b)) →
        alike (form arena (levels + 1) id) (form later (levels' + 1) id))
    (start : inside id) {levels levels' : Nat} (enough : arena.size + slack < levels)
    (enough' : arena.size + slack < levels') :
    alike (form arena levels id) (form later levels' id) := by
  have few := arena.card_ids_le
  apply alike_along (arena.Leads next) arena.ids (form arena) (form later) alike inside slack
    (fun _ _ leads => (leads.mono within).source_mem_ids)
    (fun a b start leads => agrees.closed a b start (leads.mono within)) ?_ step start
    (by omega) (by omega)
  intro a start winds levels levels'
  have endless' := agrees.both_endless within form endless never stuck start winds
  exact both _ _ (endless' levels).1 (endless' levels').2

end Recursion

end Arena

end TypeGraph
