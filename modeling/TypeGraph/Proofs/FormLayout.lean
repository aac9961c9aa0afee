import TypeGraph.Proofs.Layout
import TypeGraph.Proofs.Spelling

set_option autoImplicit false

namespace TypeGraph

open PrinterOver Printer

theorem lacks_append {odd : Char → Prop} {first second : String} :
    Lacks odd (first ++ second) ↔ Lacks odd first ∧ Lacks odd second := by
  simp only [Lacks, String.toList_append, List.forall_mem_append]

theorem Kind.visible_name (kind : Kind) : Visible kind.name := by
  cases kind <;> decide

theorem Kind.visible_parens (kind : Kind) : Visible ("(" ++ kind.name ++ ")") := by
  cases kind <;> decide

def Member.texts (member : Member) : List String :=
  member.name :: (member.value?.map Expr.inline).toList

def Node.texts (node : Node) : List String :=
  match node.payload with
  | .user name => (name.map Expr.inline).toList
  | .tagged _ body => body.tag :: (body.members.getD []).flatMap Member.texts
  | .array size => (size.map fun size => size.expr.inline).toList
  | _ => []

/-- Whether no tag, no member and no expression of an arena has a character of a certain sort. -/
def Arena.Lacks (arena : Arena) (odd : Char → Prop) : Prop :=
  ∀ node ∈ arena.nodes.toList, ∀ part ∈ node.texts, TypeGraph.Lacks odd part

variable {odd : Char → Prop} {marks : String → Prop} {part whole : String}

def Control (odd : Char → Prop) : Prop := ∀ c, odd c → c < ' '

theorem Control.lacks (control : Control odd) (visible : Visible part) : Lacks odd part :=
  fun c member strange => absurd (visible c member) (Char.not_le.mpr (control c strange))

-- With no odd characters at all, the layout of a form holds of every arena.
theorem control_none : Control fun _ => False := fun _ => False.elim

theorem Arena.lacks_none (arena : Arena) : arena.Lacks fun _ => False := fun _ _ _ _ _ _ => id

section Leaves

variable (control : Control odd)
include control

theorem Control.text (part : String) (visible : Visible part) :
    LaysOut odd marks .within .within fun _ => text part :=
  laysOut_text (control.lacks visible)

theorem Control.line (part : String) (visible : Visible part) (same : part ++ "\n" = whole) :
    LaysOut odd marks .within .start fun _ => Printer.text whole :=
  laysOut_line (control.lacks visible) same

theorem Control.label (color : Color) (word : String) (visible : Visible word) :
    LaysOut odd Visible .start .within fun indent => Arena.label indent color word :=
  laysOut_pair laysOut_spaces (laysOut_colored color visible (control.lacks visible))

theorem Control.qualifierLine (quals : Qualifiers) :
    LaysOut odd Visible .start .start fun indent => Arena.qualifierLine quals indent := by
  unfold Arena.qualifierLine
  split
  · exact laysOut_nil
  · have visible := quals.visible_text
    have value := laysOut_colored .yellow visible (control.lacks visible)
    exact laysOut_cons laysOut_spaces (laysOut_cons (control.text "qualifiers=" (by decide))
      (laysOut_pair value laysOut_newline))

theorem Control.brackets {size : Option ArrayBound}
    (plain : ∀ bound ∈ size, Lacks odd bound.expr.inline) :
    LaysOut odd marks .within .within fun _ => Printer.brackets size := by
  have inner : LaysOut odd marks .within .within fun _ =>
      Printer.optional size fun size => expr size.expr :=
    laysOut_optional fun bound member => laysOut_text (plain bound member)
  exact laysOut_cons (control.text "[" (by decide))
    (laysOut_pair inner (control.text "]" (by decide)))

theorem Control.handle {print : Nat → NodeId → Printer} {target : Handle}
    (node : target.isNull = false →
      LaysOut odd marks .within .within fun indent => print indent target.node) :
    LaysOut odd marks .within .within fun indent => Printer.handle (print indent) target := by
  unfold Printer.handle
  cases null : target.isNull with
  | true => exact control.text "NULL" (by decide)
  | false =>
    have keywords : LaysOut odd marks .within .within fun _ => Printer.keywords target.quals := by
      apply laysOut_each
      intro keyword member
      have visible := Qualifiers.visible_of_mem_keywords member
      exact control.text (keyword ++ " ") (visible_append.mpr ⟨visible, by decide⟩)
    exact laysOut_pair keywords (node null)

theorem Control.separated {α : Type} {items : List α} {print : α → Printer}
    (item : ∀ item ∈ items, LaysOut odd marks .within .within fun _ => print item) :
    LaysOut odd marks .within .within fun _ => Printer.separated items print := by
  cases items with
  | nil => exact laysOut_nil
  | cons first rest =>
    obtain ⟨head, tail⟩ := List.forall_mem_cons.mp item
    have others : LaysOut odd marks .within .within fun _ =>
        each rest fun item => seq [Printer.text ", ", print item] :=
      laysOut_each fun one member =>
        laysOut_pair (control.text ", " (by decide)) (tail one member)
    exact laysOut_pair head others

theorem Control.exprTree {value : Expr} (plain : Lacks odd value.inline) :
    LaysOut odd marks .start .start (Printer.exprTree value) := by
  have line : LaysOut odd marks .within .start fun _ => Printer.text (value.inline ++ "\n") :=
    laysOut_line plain rfl
  cases value with
  | integer number =>
    exact laysOut_cons laysOut_spaces (laysOut_pair (control.text "[integer] " (by decide)) line)
  | identifier scope name =>
    cases scope with
    | none =>
      exact laysOut_cons laysOut_spaces
        (laysOut_pair (control.text "[identifier] " (by decide)) line)
    | some scope =>
      have plain' : Lacks odd scope := (lacks_append.mp (lacks_append.mp plain).1).1
      exact laysOut_cons laysOut_spaces (laysOut_cons (control.text "[identifier] " (by decide))
        (laysOut_cons line (laysOut_cons (laysOut_spaces.deeper indentStep)
          (laysOut_pair (control.text "module=" (by decide)) (laysOut_line plain' rfl)))))

theorem Control.sizeTree {size : Option ArrayBound}
    (plain : ∀ bound ∈ size, Lacks odd bound.expr.inline) :
    LaysOut odd Visible .start .start fun indent => Printer.optional size fun size =>
      seq [Arena.label indent .blue "size:", Printer.text "\n",
        Printer.exprTree size.expr (indent + indentStep)] := by
  apply laysOut_optional
  intro size member
  exact laysOut_cons (control.label .blue "size:" (by decide))
    (laysOut_pair laysOut_newline ((control.exprTree (plain size member)).deeper indentStep))

end Leaves

namespace Arena

variable {arena : Arena} {id : NodeId} {node : Node} {target : Handle}

theorem Lacks.of_lookup (plain : arena.Lacks odd) (found : arena.lookup id = .ok node) :
    ∀ part ∈ node.texts, TypeGraph.Lacks odd part := by
  rcases lookup_eq_ok_iff.mp found with ⟨builtin, -, rfl⟩ | owned
  · nofun
  · obtain ⟨index, -, present⟩ := owned_eq_ok_iff.mp owned
    exact plain node (Array.mem_toList_iff.mpr (Array.mem_of_getElem? present))

section Names

variable {spelling : Option Expr} {size : Option ArrayBound} {sort : TagKind} {body : Body}
  {element canonical : Handle} (plain : arena.Lacks odd)
include plain

theorem Lacks.of_user (found : arena.lookup id = .ok ⟨element, canonical, .user spelling⟩) :
    ∀ expr ∈ spelling, TypeGraph.Lacks odd expr.inline := by
  intro expr member
  exact plain.of_lookup found _ (by simp_all [Node.texts])

theorem Lacks.of_array (found : arena.lookup id = .ok ⟨element, canonical, .array size⟩) :
    ∀ bound ∈ size, TypeGraph.Lacks odd bound.expr.inline := by
  intro bound member
  exact plain.of_lookup found _ (by simp_all [Node.texts])

theorem Lacks.of_tag (found : arena.lookup id = .ok ⟨element, canonical, .tagged sort body⟩) :
    TypeGraph.Lacks odd body.tag :=
  plain.of_lookup found _ List.mem_cons_self

theorem Lacks.of_member (found : arena.lookup id = .ok ⟨element, canonical, .tagged sort body⟩)
    {member : Member} (present : member ∈ body.members.getD []) :
    TypeGraph.Lacks odd member.name ∧ ∀ value ∈ member.value?, TypeGraph.Lacks odd value.inline := by
  have texts (part : String) (own : part ∈ member.texts) : TypeGraph.Lacks odd part :=
    plain.of_lookup found _ (List.mem_cons_of_mem _ (List.mem_flatMap_of_mem present own))
  refine ⟨texts _ List.mem_cons_self, fun value some => ?_⟩
  exact texts _ (by simp_all [Member.texts])

end Names

def resolvedLine (arena : Arena) (target : Handle) (indent : Nat) : Printer :=
  seq [label indent .cyan "resolved to:", text " ", arena.writeEffective target, text "\n"]

def memberTree (print : Nat → Handle → Printer) (member : Member) (indent : Nat) : Printer :=
  let below := indent + indentStep
  seq [label indent .green "[member]", text (" " ++ member.name ++ "\n"), print below member.type,
    optional member.value? fun value => exprTree value below]

variable (control : Control odd) (plain : arena.Lacks odd)
include control plain

theorem laysOut_name (levels : Nat) (id : NodeId) :
    LaysOut odd NoMarks .within .within fun _ => arena.nameWithin levels id := by
  induction levels generalizing id with
  | zero => exact laysOut_endless
  | succ levels ih =>
    have below (target : Handle) := control.handle fun (_ : target.isNull = false) => ih target.node
    simp only [nameWithin]
    cases found : arena.lookup id with
    | error refusal => exact laysOut_stop _
    | ok node =>
      obtain ⟨target, canonical, payload⟩ := node
      cases payload with
      | builtin which => exact control.text _ which.visible_name
      | user name =>
        simp only
        split
        · exact below target
        · exact laysOut_optional fun expr member => laysOut_text (plain.of_user found expr member)
      | tagged sort body =>
        exact laysOut_pair (control.text _ sort.kind.visible_parens) (laysOut_text (plain.of_tag found))
      | func args => exact laysOut_stop _
      | pointer => exact laysOut_pair (below target) (control.text "*" (by decide))
      | array size => exact laysOut_pair (below target) (control.brackets (plain.of_array found))

theorem laysOut_writeName (target : Handle) :
    LaysOut odd NoMarks .within .within fun _ => arena.writeName target :=
  control.handle fun _ => laysOut_name control plain arena.levels target.node

theorem laysOut_effective (levels : Nat) (id : NodeId) :
    LaysOut odd NoMarks .within .within fun _ => arena.effectiveWithin levels id := by
  induction levels generalizing id with
  | zero => exact laysOut_endless
  | succ levels ih =>
    have below (target : Handle) := control.handle fun (_ : target.isNull = false) => ih target.node
    simp only [effectiveWithin]
    cases found : arena.lookup id with
    | error refusal => exact control.text _ id.visible_invalid
    | ok node =>
      obtain ⟨target, canonical, payload⟩ := node
      cases payload with
      | builtin which => exact control.text _ which.visible_name
      | user name =>
        simp only
        split
        · exact below target
        · exact laysOut_optional fun expr member => laysOut_text (plain.of_user found expr member)
      | tagged sort body => exact control.text _ sort.kind.visible_parens
      | func args =>
        have list := control.separated fun arg (_ : arg ∈ args) => below arg
        exact laysOut_cons (control.text "func " (by decide)) (laysOut_cons (below target)
          (laysOut_cons (control.text "(" (by decide))
            (laysOut_pair list (control.text ")" (by decide)))))
      | pointer => exact laysOut_pair (below target) (control.text "*" (by decide))
      | array size => exact laysOut_pair (below target) (control.brackets (plain.of_array found))

theorem laysOut_writeEffective (target : Handle) :
    LaysOut odd NoMarks .within .within fun _ => arena.writeEffective target :=
  control.handle fun _ => laysOut_effective control plain arena.levels target.node

theorem lacks_headline {element canonical : Handle} {sort : TagKind} {body : Body}
    (found : arena.lookup id = .ok ⟨element, canonical, .tagged sort body⟩) :
    TypeGraph.Lacks odd (headline sort body.tag) := by
  unfold headline
  split
  · exact control.lacks sort.kind.visible_name
  · have word := visible_append.mpr ⟨sort.kind.visible_name, (by decide : Visible " ")⟩
    exact lacks_append.mpr ⟨control.lacks word, plain.of_tag found⟩

section Body

variable {print : Nat → Handle → Printer} {element canonical : Handle} {sort : TagKind} {body : Body}
  (found : arena.lookup id = .ok ⟨element, canonical, .tagged sort body⟩)
  (below : ∀ target, LaysOut odd NoMarks .within .within fun indent => print indent target)
include found below

theorem laysOut_memberLines :
    LaysOut odd NoMarks .start .within fun indent =>
      seq [each (body.members.getD []) fun member => seq [spaces (indent + indentStep),
          print (indent + indentStep) member.type, text (" " ++ member.name ++ ";\n")],
        spaces indent, text "\x7d"] := by
  have members : LaysOut odd NoMarks .start .start fun indent =>
      each (body.members.getD []) fun member => seq [spaces indent, print indent member.type,
        text (" " ++ member.name ++ ";\n")] := by
    apply laysOut_each
    intro member present
    have named : TypeGraph.Lacks odd (" " ++ member.name ++ ";") :=
      lacks_append.mpr ⟨lacks_append.mpr ⟨control.lacks (by decide),
        (plain.of_member found present).1⟩, control.lacks (by decide)⟩
    exact laysOut_cons laysOut_spaces (laysOut_pair (below member.type)
      (laysOut_line named String.append_assoc))
  exact laysOut_cons (members.deeper indentStep)
    (laysOut_pair laysOut_spaces (control.text "\x7d" (by decide)))

theorem laysOut_expandBody :
    LaysOut odd NoMarks .within .within fun indent =>
      expandBody (print (indent + indentStep)) indent sort body := by
  have opening : TypeGraph.Lacks odd (headline sort body.tag ++ " \x7b") :=
    lacks_append.mpr ⟨lacks_headline control plain found, control.lacks (by decide)⟩
  exact laysOut_cons (laysOut_line opening String.append_assoc)
    (laysOut_memberLines control plain found below)

end Body

theorem laysOut_expand (levels : Nat) (active : List NodeId) (target : Handle) :
    LaysOut odd NoMarks .within .within fun indent =>
      arena.expandWithin levels active indent target := by
  induction levels generalizing active target with
  | zero => exact laysOut_endless
  | succ levels ih =>
    apply control.handle
    intro valid
    simp only [expandNode]
    cases found : arena.lookup target.node with
    | error refusal => exact laysOut_stop _
    | ok node =>
      obtain ⟨element, canonical, payload⟩ := node
      cases payload with
      | builtin which => exact control.text _ which.visible_name
      | user name =>
        simp only
        split
        · exact ih active element
        · exact laysOut_optional fun expr member => laysOut_text (plain.of_user found expr member)
      | tagged sort body =>
        have expanded := laysOut_expandBody control plain found (ih (target.node :: active))
        cases sort with
        | enum => exact laysOut_text (lacks_headline control plain found)
        | _ =>
          simp only
          split
          · exact laysOut_name control plain _ _
          · exact expanded
      | func args =>
        have named (target : Handle) := laysOut_writeName control plain target
        have list := control.separated fun arg (_ : arg ∈ args) => named arg
        exact laysOut_cons (control.text "func " (by decide)) (laysOut_cons (named element)
          (laysOut_cons (control.text "(" (by decide))
            (laysOut_pair list (control.text ")" (by decide)))))
      | pointer => exact laysOut_pair (ih active element) (control.text "*" (by decide))
      | array size => exact laysOut_pair (ih active element) (control.brackets (plain.of_array found))

theorem laysOut_full (target : Handle) :
    LaysOut odd NoMarks .start .within (arena.writeFull target) := by
  have written := laysOut_pair laysOut_spaces
    (laysOut_expand control plain (arena.levels * arena.levels) [] target)
  simpa only [← writeFull_eq] using written

omit plain in
theorem laysOut_dumpHandle {print : Nat → NodeId → Printer}
    (node : target.isNull = false →
      LaysOut odd Visible .start .start fun indent => print indent target.node) :
    LaysOut odd Visible .start .start fun indent => dumpHandle (print indent) indent target := by
  unfold dumpHandle
  cases null : target.isNull with
  | true => exact laysOut_pair laysOut_spaces (control.line "NULL" (by decide) rfl)
  | false => exact laysOut_pair (node null) (control.qualifierLine target.quals)

theorem laysOut_resolvedLine (target : Handle) :
    LaysOut odd Visible .start .start (arena.resolvedLine target) :=
  laysOut_cons (control.label .cyan "resolved to:" (by decide))
    (laysOut_cons (control.text " " (by decide))
      (laysOut_pair ((laysOut_writeEffective control plain target).mono fun _ => False.elim)
        laysOut_newline))

section Dump

variable {print : Nat → Handle → Printer}
  (below : ∀ target, LaysOut odd Visible .start .start fun indent => print indent target)
include below

theorem laysOut_memberTree {element canonical : Handle} {sort : TagKind} {body : Body}
    (found : arena.lookup id = .ok ⟨element, canonical, .tagged sort body⟩)
    {member : Member} (present : member ∈ body.members.getD []) :
    LaysOut odd Visible .start .start (memberTree print member) := by
  unfold memberTree
  obtain ⟨named, valued⟩ := plain.of_member found present
  have line := lacks_append.mpr ⟨control.lacks (by decide : Visible " "), named⟩
  have value : LaysOut odd Visible .start .start fun indent =>
      Printer.optional member.value? fun value => exprTree value (indent + indentStep) :=
    laysOut_optional fun value some => (control.exprTree (valued value some)).deeper indentStep
  exact laysOut_cons (control.label .green "[member]" (by decide))
    (laysOut_cons (laysOut_line line rfl)
      (laysOut_pair ((below member.type).deeper indentStep) value))

omit plain in
theorem laysOut_signature (result : Handle) (args : List Handle) :
    LaysOut odd Visible .start .start fun indent =>
      seq [label indent .blue "returns:", text "\n", print (indent + indentStep) result,
        label indent .blue "args:", text "\n", each args (print (indent + indentStep))] := by
  have list := laysOut_each fun arg (_ : arg ∈ args) => below arg
  exact laysOut_cons (control.label .blue "returns:" (by decide)) (laysOut_cons laysOut_newline
    (laysOut_cons ((below result).deeper indentStep)
      (laysOut_cons (control.label .blue "args:" (by decide))
        (laysOut_pair laysOut_newline (list.deeper indentStep)))))

end Dump

theorem laysOut_dump (levels : Nat) (scope : DumpScope) (id : NodeId) :
    LaysOut odd Visible .start .start fun indent => arena.dumpWithin levels scope indent id := by
  induction levels generalizing scope id with
  | zero => exact laysOut_endless
  | succ levels ih =>
    have below (scope : DumpScope) (target : Handle) := laysOut_dumpHandle control
      fun (_ : target.isNull = false) => ih scope target.node
    apply laysOut_cons laysOut_spaces
    apply laysOut_pair (control.text "[type] " (by decide))
    cases found : arena.lookup id with
    | error refusal => exact laysOut_pair (control.text _ id.visible_invalid) laysOut_newline
    | ok node =>
      obtain ⟨target, canonical, payload⟩ := node
      cases payload with
      | builtin which =>
        have visible := visible_append.mpr ⟨(by decide : Visible "(builtin) "), which.visible_name⟩
        exact control.line _ visible rfl
      | user name =>
        have spelled : LaysOut odd Visible .start .start fun indent =>
            Printer.optional name fun name => exprTree name (indent + indentStep) :=
          laysOut_optional fun value member =>
            (control.exprTree (plain.of_user found value member)).deeper indentStep
        refine laysOut_cons (control.line "(user)" (by decide) rfl) (laysOut_pair spelled ?_)
        split
        · exact (laysOut_resolvedLine control plain target).deeper indentStep
        · exact laysOut_nil
      | tagged sort body =>
        have tag := lacks_append.mpr ⟨control.lacks (by decide : Visible " "), plain.of_tag found⟩
        refine laysOut_cons (control.text _ sort.kind.visible_parens)
          (laysOut_pair (laysOut_line tag rfl) ?_)
        split
        · exact laysOut_each fun member present =>
            (laysOut_memberTree control plain (below .shallow) found present).deeper indentStep
        · exact laysOut_nil
      | func args =>
        exact laysOut_cons (control.line "(func)" (by decide) rfl)
          ((laysOut_signature control (below .shallow) target args).deeper indentStep)
      | pointer =>
        exact laysOut_pair (control.line "(pointer)" (by decide) rfl)
          ((below scope target).deeper indentStep)
      | array size =>
        exact laysOut_cons (control.line "(array)" (by decide) rfl)
          (laysOut_pair ((below scope target).deeper indentStep)
            ((control.sizeTree (plain.of_array found)).deeper indentStep))

theorem laysOut_writeDump (target : Handle) (scope : DumpScope) :
    LaysOut odd Visible .start .start fun indent => arena.writeDump target indent scope :=
  laysOut_dumpHandle control fun _ => laysOut_dump control plain (arena.levels * 2) scope target.node

end Arena

end TypeGraph
