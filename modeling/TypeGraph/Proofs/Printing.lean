import TypeGraph.Form.Full

set_option autoImplicit false

namespace TypeGraph

namespace PrinterOver

variable {σ α : Type} {allowed : Stop → Prop} {first printer : PrinterOver σ}
  {parts : List (PrinterOver σ)}

def StopsOnly (allowed : Stop → Prop) (printer : PrinterOver σ) : Prop :=
  ∀ state reason, (printer state).stop = some reason → allowed reason

abbrev Ends (printer : PrinterOver σ) : Prop := StopsOnly (· ≠ .outOfFuel) printer

def Endless (printer : PrinterOver σ) : Prop := ∀ state, (printer state).stop = some .outOfFuel

@[simp] theorem stopsOnly_edit (change : σ → σ) : StopsOnly allowed (edit change) := by
  rintro state reason ⟨⟩

theorem stopsOnly_stop {reason : Stop} (fits : allowed reason) :
    StopsOnly allowed (stop reason : PrinterOver σ) := by
  rintro state reason ⟨⟩
  exact fits

theorem ends_refused (error : Refusal) : Ends (stop (.refused error) : PrinterOver σ) :=
  stopsOnly_stop nofun

theorem endless_stop : Endless (stop .outOfFuel : PrinterOver σ) := fun _ => rfl

@[simp] theorem stopsOnly_nil : StopsOnly allowed (seq [] : PrinterOver σ) := by
  rintro state reason ⟨⟩

theorem stopsOnly_cons (head : StopsOnly allowed first) (tail : StopsOnly allowed (seq parts)) :
    StopsOnly allowed (seq (first :: parts)) := by
  intro state reason stopped
  simp only [seq] at stopped
  split at stopped
  · exact tail _ reason stopped
  · rename_i state' reason' met
    obtain rfl : reason' = reason := Option.some.inj stopped
    exact head state reason' (by rw [met])

theorem stopsOnly_seq (each : ∀ part ∈ parts, StopsOnly allowed part) :
    StopsOnly allowed (seq parts) := by
  induction parts with
  | nil => exact stopsOnly_nil
  | cons part rest ih =>
    obtain ⟨head, tail⟩ := List.forall_mem_cons.mp each
    exact stopsOnly_cons head (ih tail)

theorem stopsOnly_each {items : List α} {print : α → PrinterOver σ}
    (only : ∀ item ∈ items, StopsOnly allowed (print item)) :
    StopsOnly allowed (each items print) := by
  apply stopsOnly_seq
  intro part member
  obtain ⟨item, present, rfl⟩ := List.mem_map.mp member
  exact only item present

theorem endless_seq (only : ∀ part ∈ parts, StopsOnly (· = .outOfFuel) part)
    (endless : ∃ part ∈ parts, Endless part) : Endless (seq parts) := by
  induction parts with
  | nil => obtain ⟨part, ⟨⟩, -⟩ := endless
  | cons part rest ih =>
    intro state
    simp only [seq]
    split
    -- If the first part comes to its end, it is not the endless one.
    · rename_i state' done
      obtain ⟨late, member, never⟩ := endless
      rcases List.mem_cons.mp member with rfl | later
      · have stopped := never state
        rw [done] at stopped
        cases stopped
      · exact ih (fun part member => only part (List.mem_cons_of_mem _ member))
          ⟨late, later, never⟩ state'
    · rename_i state' reason met
      exact congrArg some (only part List.mem_cons_self state reason (by rw [met]))

theorem endless_each {items : List α} {print : α → PrinterOver σ}
    (only : ∀ item ∈ items, StopsOnly (· = .outOfFuel) (print item))
    (endless : ∃ item ∈ items, Endless (print item)) : Endless (each items print) := by
  apply endless_seq
  · intro part member
    obtain ⟨item, present, rfl⟩ := List.mem_map.mp member
    exact only item present
  · obtain ⟨item, present, never⟩ := endless
    exact ⟨_, List.mem_map_of_mem present, never⟩

theorem seq_singleton (printer : PrinterOver σ) : seq [printer] = printer := by
  funext state
  cases wrote : printer state with
  | mk after reason => cases reason <;> simp [seq, wrote]

theorem seq_append (parts others : List (PrinterOver σ)) :
    seq (parts ++ others) = seq [seq parts, seq others] := by
  induction parts with
  | nil =>
    funext state
    exact (congrFun (seq_singleton (seq others)) state).symm
  | cons part parts ih =>
    funext state
    cases wrote : part state with
    | mk after reason =>
      cases reason with
      | none =>
        rw [List.cons_append, seq_cons_of_done wrote, ih, seq, seq, seq_cons_of_done wrote]
      | some reason =>
        have stopped : seq (part :: parts) state = ⟨after, some reason⟩ := seq_cons_of_stop wrote
        rw [List.cons_append, seq_cons_of_stop wrote, seq_cons_of_stop stopped]

theorem seq_nil_last (printer : PrinterOver σ) : seq [printer, seq []] = printer := by
  have same := seq_append [printer] []
  rw [seq_singleton, List.append_nil, seq_singleton] at same
  exact same.symm

theorem seq_last_out (outer inner : List (PrinterOver σ)) (last : PrinterOver σ) :
    seq (outer ++ [seq (inner ++ [last])]) = seq [seq (outer ++ [seq (inner ++ [seq []])]), last] := by
  have both := seq_append [seq outer, seq inner] [last]
  have split := seq_append [seq outer] [seq inner, last]
  simp only [seq_singleton, List.cons_append, List.nil_append] at both split
  rw [seq_append inner, seq_append inner, seq_append outer, seq_append outer]
  simp only [seq_singleton, seq_nil_last]
  rw [← split, both]

theorem each_congr {items : List α} {print more : α → PrinterOver σ}
    (same : ∀ item ∈ items, print item = more item) : each items print = each items more :=
  congrArg seq (List.map_congr_left same)

section Reached

variable {second : PrinterOver σ} {others : List (PrinterOver σ)} {state after : σ}

theorem seq_eq_done (ran : seq (first :: parts) state = ⟨after, none⟩) :
    ∃ middle, first state = ⟨middle, none⟩ ∧ seq parts middle = ⟨after, none⟩ := by
  cases wrote : first state with
  | mk middle reason =>
    cases reason with
    | none => exact ⟨middle, rfl, (seq_cons_of_done wrote).symm.trans ran⟩
    | some reason =>
      rw [seq_cons_of_stop wrote] at ran
      cases ran

theorem seq_cons_congr (head : first state = second state)
    (tail : ∀ middle, second state = ⟨middle, none⟩ → seq parts middle = seq others middle) :
    seq (first :: parts) state = seq (second :: others) state := by
  cases wrote : second state with
  | mk middle reason =>
    rw [wrote] at head
    cases reason with
    | none => rw [seq_cons_of_done head, seq_cons_of_done wrote, tail middle wrote]
    | some reason => rw [seq_cons_of_stop head, seq_cons_of_stop wrote]

-- The printers of the items need to agree only where those of the items before have come to an end.
theorem each_congr_at {items : List α} {print more : α → PrinterOver σ}
    (same : ∀ earlier item later, items = earlier ++ item :: later → ∀ middle,
      each earlier more state = ⟨middle, none⟩ → print item middle = more item middle) :
    each items print state = each items more state := by
  induction items generalizing state with
  | nil => rfl
  | cons item rest ih =>
    apply seq_cons_congr (same [] item rest rfl state rfl)
    intro middle wrote
    apply ih
    intro earlier other later split before ran
    exact same (item :: earlier) other later (congrArg (item :: ·) split) before
      ((seq_cons_of_done wrote).trans ran)

end Reached

end PrinterOver

namespace Printer

open PrinterOver

variable {α : Type} {allowed : Stop → Prop} {print more : NodeId → Printer} {target : Handle}

@[simp] theorem stopsOnly_text (part : String) : StopsOnly allowed (text part) :=
  stopsOnly_edit _

@[simp] theorem stopsOnly_spaces (width : Nat) : StopsOnly allowed (spaces width) :=
  stopsOnly_edit _

@[simp] theorem stopsOnly_colored (color : Color) (part : String) :
    StopsOnly allowed (colored color part) :=
  stopsOnly_edit _

@[simp] theorem stopsOnly_expr (value : Expr) : StopsOnly allowed (expr value) :=
  stopsOnly_edit _

@[simp] theorem stopsOnly_exprTree (value : Expr) (indent : Nat) :
    StopsOnly allowed (exprTree value indent) :=
  stopsOnly_edit _

@[simp] theorem stopsOnly_kind (sort : Kind) : StopsOnly allowed (kind sort) :=
  stopsOnly_edit _

@[simp] theorem stopsOnly_invalid (id : NodeId) : StopsOnly allowed (invalid id) :=
  stopsOnly_edit _

theorem stopsOnly_optional {value : Option α} {write : α → Printer}
    (only : ∀ item, StopsOnly allowed (write item)) : StopsOnly allowed (optional value write) := by
  cases value with
  | none => exact stopsOnly_seq (by simp)
  | some item => exact only item

@[simp] theorem stopsOnly_optionalTree (value : Option Expr) (indent : Nat) :
    StopsOnly allowed (optional value fun expr => exprTree expr indent) :=
  stopsOnly_optional (by simp)

theorem stopsOnly_separated {items : List α} {write : α → Printer}
    (only : ∀ item ∈ items, StopsOnly allowed (write item)) :
    StopsOnly allowed (separated items write) := by
  cases items with
  | nil => exact stopsOnly_seq (by simp)
  | cons first rest =>
    have later : StopsOnly allowed (each rest fun item => seq [text ", ", write item]) := by
      apply stopsOnly_each
      intro item member
      apply stopsOnly_seq
      simp [only item (List.mem_cons_of_mem _ member)]
    apply stopsOnly_seq
    simp [only first List.mem_cons_self, later]

theorem separated_congr {items : List α} {write other : α → Printer}
    (same : ∀ item ∈ items, write item = other item) :
    separated items write = separated items other := by
  cases items with
  | nil => rfl
  | cons first rest =>
    have later : (each rest fun item => seq [text ", ", write item]) =
        each rest fun item => seq [text ", ", other item] := by
      apply each_congr
      intro item member
      rw [same item (List.mem_cons_of_mem _ member)]
    simp only [separated, same first List.mem_cons_self, later]

@[simp] theorem stopsOnly_keywords (quals : Qualifiers) : StopsOnly allowed (keywords quals) :=
  stopsOnly_each (by simp)

@[simp] theorem stopsOnly_brackets (size : Option ArrayBound) :
    StopsOnly allowed (brackets size) := by
  have inner : StopsOnly allowed (optional size fun size => expr size.expr) :=
    stopsOnly_optional (by simp)
  apply stopsOnly_seq
  simp [inner]

theorem stopsOnly_handle (only : target.isNull = false → StopsOnly allowed (print target.node)) :
    StopsOnly allowed (handle print target) := by
  unfold handle
  cases null : target.isNull with
  | true => simp
  | false =>
    apply stopsOnly_seq
    simp [only null]

theorem handle_congr (same : target.isNull = false → print target.node = more target.node) :
    handle print target = handle more target := by
  unfold handle
  cases null : target.isNull with
  | true => rfl
  | false => simp [same null]

theorem endless_handle (valid : target.isNull = false)
    (only : StopsOnly (· = .outOfFuel) (print target.node)) (endless : Endless (print target.node)) :
    Endless (handle print target) := by
  simp only [handle, valid, Bool.false_eq_true, if_false]
  apply endless_seq
  · simp [only]
  · exact ⟨_, by simp, endless⟩

theorem endless_separated {items : List α} {write : α → Printer}
    (only : ∀ item ∈ items, StopsOnly (· = .outOfFuel) (write item))
    (endless : ∃ item ∈ items, Endless (write item)) : Endless (separated items write) := by
  obtain ⟨late, member, never⟩ := endless
  cases items with
  | nil => cases member
  | cons first rest =>
    have parts : ∀ item ∈ rest, StopsOnly (· = .outOfFuel) (seq [text ", ", write item]) := by
      intro item present
      apply stopsOnly_seq
      simp [only item (List.mem_cons_of_mem _ present)]
    apply endless_seq
    · simp only [List.forall_mem_cons, List.not_mem_nil, false_implies, implies_true, and_true]
      exact ⟨only first List.mem_cons_self, stopsOnly_each parts⟩
    · rcases List.mem_cons.mp member with rfl | later
      · exact ⟨_, List.mem_cons_self, never⟩
      · refine ⟨_, List.mem_cons_of_mem _ List.mem_cons_self, endless_each parts ⟨late, later, ?_⟩⟩
        apply endless_seq
        · simp [only late member]
        · exact ⟨_, by simp, never⟩

end Printer

end TypeGraph
