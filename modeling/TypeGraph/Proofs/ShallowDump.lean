import TypeGraph.Proofs.SelfReference
import TypeGraph.Proofs.Shape
import TypeGraph.Proofs.Writing

set_option autoImplicit false

namespace TypeGraph

open PrinterOver Printer

namespace Arena

variable {arena : Arena} {id : NodeId} {node : Node} {target : Handle} {indent levels : Nat}
  {part content : String} {body : Printer}

def shapeOf (outline : NodeId → Option Outline) (target : Handle) : Option Shape :=
  if target.isNull then some .null else (outline target.node).map (Shape.use target.quals)

def outlineOf (shape : Handle → Option Shape) (node : Node) : Option Outline :=
  match node.payload with
  | .builtin builtin => some (.builtin builtin)
  | .user name => some (.user name)
  | .tagged sort body => some (.tagged sort body.tag)
  | .func args => (shape node.target).bind fun result => (args.mapM shape).map (Outline.func result)
  | .pointer => (shape node.target).map Outline.pointer
  | .array size => (shape node.target).map fun element => .array element (size.map ArrayBound.expr)

def outlineWithin (arena : Arena) : Nat → NodeId → Option Outline
  | 0, _ => none
  | levels + 1, id =>
    match arena.lookup id with
    | .error _ => some (.invalid id)
    | .ok node => outlineOf (shapeOf (arena.outlineWithin levels)) node

/-- The shape of a type, unless the type is nested in itself. -/
def shape (arena : Arena) (target : Handle) : Option Shape :=
  shapeOf (arena.outlineWithin (arena.levels * 2)) target

theorem writes_of_toList {other : String} {printer : Printer}
    (writes : Writes false printer part none) (same : part.toList = other.toList) :
    Writes false printer other none :=
  String.toList_inj.mp same ▸ writes

theorem writes_typed {heading : Heading} {more : List Line} (writes : Writes false body part none)
    (same : "[type] ".toList ++ part.toList =
      heading.letters ++ (content.toList ++ '\n' :: (Line.render more).toList)) :
    Writes false (seq [spaces indent, text "[type] ", body])
      (Line.render (⟨indent, heading, content⟩ :: more)) none := by
  apply writes_of_toList
    (writes_cons (writes_spaces indent) (writes_pair (writes_text "[type] ") writes))
  simp only [String.toList_append, same]
  simp [Line.text, Heading.letters]

theorem writes_colored (color : Color) (part : String) :
    Writes false (colored color part) part none := by
  intro sink bare
  simp [colored, edit, Sink.colored, bare]

theorem writes_label (indent : Nat) (color : Color) (word : String) :
    Writes false (label indent color word) ("".pushn ' ' indent ++ word) none :=
  writes_pair (writes_spaces indent) (writes_colored color word)

theorem writes_exprTree (expr : Expr) (indent : Nat) :
    Writes false (exprTree expr indent) (Line.render (expr.lines indent)) none := by
  intro sink bare
  cases expr with
  | integer value =>
    simp [exprTree, edit, Expr.writeTree, Sink.indent_eq_append, Sink.append_append, Expr.lines,
      Line.text, Heading.word, String.append_assoc]
  | identifier scope name =>
    cases scope <;>
      simp [exprTree, edit, Expr.writeTree, Sink.indent_eq_append, Sink.append_append, Expr.lines,
        Expr.scopeLines, optionalLines, Line.text, Heading.word, String.append_assoc]

theorem writes_qualifierLine (quals : Qualifiers) (indent : Nat) :
    Writes false (qualifierLine quals indent) (Line.render (quals.lines indent)) none := by
  unfold qualifierLine Qualifiers.lines
  split
  · exact writes_nil
  · have written := writes_cons (writes_spaces indent) (writes_cons (writes_text "qualifiers=")
      (writes_pair (writes_colored .yellow quals.text) (writes_text "\n")))
    simpa [Line.text, Heading.word, String.append_assoc] using written

theorem writes_optional {α : Type} {value : Option α} {print : α → Printer}
    {lines : α → List Line} (writes : ∀ one, Writes false (print one) (Line.render (lines one)) none) :
    Writes false (Printer.optional value print) (Line.render (optionalLines lines value)) none := by
  cases value with
  | none => exact writes_nil
  | some one => exact writes one

theorem writes_sizeTree (size : Option ArrayBound) (indent : Nat) :
    Writes false (Printer.optional size fun size => seq [label indent .blue "size:", text "\n",
        exprTree size.expr (indent + indentStep)])
      (Line.render (optionalLines (fun size => Expr.sizeLines size indent)
        (size.map ArrayBound.expr))) none := by
  cases size with
  | none => exact writes_nil
  | some size =>
    have written := writes_cons (writes_label indent .blue "size:")
      (writes_pair (writes_text "\n") (writes_exprTree size.expr (indent + indentStep)))
    exact writes_of_toList written (by simp [optionalLines, Expr.sizeLines, Line.text, Heading.word])

section Nested

variable {outline : NodeId → Option Outline} {print : Nat → NodeId → Printer}
  (writes : ∀ id shown, outline id = some shown → ∀ indent,
    Writes false (print indent id) (Line.render (shown.lines indent)) none)
include writes

theorem writes_dumpHandle {shown : Shape} (shaped : shapeOf outline target = some shown)
    (indent : Nat) :
    Writes false (dumpHandle (print indent) indent target) (Line.render (shown.lines indent)) none := by
  unfold shapeOf at shaped
  unfold dumpHandle
  split at shaped
  · cases shaped
    rename_i null
    rw [if_pos null]
    apply writes_of_toList (writes_pair (writes_spaces indent) (writes_text "NULL\n"))
    simp [Shape.lines, Line.text, Heading.word]
  · obtain ⟨node, found, rfl⟩ := Option.map_eq_some_iff.mp shaped
    rename_i valid
    have written := writes_pair (writes _ node found indent) (writes_qualifierLine target.quals indent)
    simpa [valid, Shape.lines] using written

theorem writes_dumpHandles {targets : List Handle} {shown : List Shape}
    (shaped : targets.mapM (shapeOf outline) = some shown) (indent : Nat) :
    Writes false (each targets (dumpHandle (print indent) indent))
      (Line.render (Shape.listLines shown indent)) none := by
  induction targets generalizing shown with
  | nil =>
    cases shaped
    exact writes_nil
  | cons target targets ih =>
    rw [List.mapM_cons] at shaped
    obtain ⟨first, head, shaped⟩ := Option.bind_eq_some_iff.mp shaped
    obtain ⟨rest, tail, shaped⟩ := Option.bind_eq_some_iff.mp shaped
    cases shaped
    have written := writes_cons (writes_dumpHandle writes head indent) (ih tail)
    simpa [Shape.listLines, each] using written

theorem writes_shallowBody {shown : Outline}
    (shaped : outlineOf (shapeOf outline) node = some shown) (indent : Nat) :
    Writes false (seq [spaces indent, text "[type] ",
        shallowBody (fun indent => dumpHandle (print indent) indent) indent node])
      (Line.render (shown.lines indent)) none := by
  obtain ⟨target, canonical, payload⟩ := node
  have head (heading : Heading) : Line.text ⟨indent + indentStep, heading, ""⟩ =
      "".pushn ' ' (indent + indentStep) ++ (heading.word ++ "\n") := by
    simp [Line.text, String.append_assoc]
  cases payload with
  | builtin which =>
    cases shaped
    exact writes_typed (writes_text _) (by simp [Heading.letters, Heading.word])
  | user name =>
    cases shaped
    have tree : Writes false (Printer.optional name fun name => exprTree name (indent + indentStep))
        _ none := writes_optional fun expr => writes_exprTree expr (indent + indentStep)
    have written := writes_cons (writes_text "(user)\n") (writes_pair tree writes_nil)
    exact writes_typed written (by simp [Heading.letters, Heading.word])
  | tagged sort body =>
    cases shaped
    have tag : Writes false (text (" " ++ body.tag ++ "\n")) _ none := writes_text _
    have written := writes_cons (writes_text ("(" ++ sort.kind.name ++ ")")) (writes_pair tag writes_nil)
    refine writes_typed written ?_
    cases sort <;> simp [Heading.letters, Heading.word, TagKind.kind, Kind.name]
  | func args =>
    obtain ⟨result, first, shaped⟩ := Option.bind_eq_some_iff.mp shaped
    obtain ⟨shapes, rest, rfl⟩ := Option.map_eq_some_iff.mp shaped
    have written := writes_cons (writes_text "(func)\n")
      (writes_cons (writes_label (indent + indentStep) .blue "returns:")
        (writes_cons (writes_text "\n")
          (writes_cons (writes_dumpHandle writes first (indent + indentStep + indentStep))
            (writes_cons (writes_label (indent + indentStep) .blue "args:")
              (writes_pair (writes_text "\n")
                (writes_dumpHandles writes rest (indent + indentStep + indentStep)))))))
    exact writes_typed written (by simp [Heading.letters, Heading.word, head])
  | pointer =>
    obtain ⟨element, below, rfl⟩ := Option.map_eq_some_iff.mp shaped
    exact writes_typed
      (writes_pair (writes_text "(pointer)\n") (writes_dumpHandle writes below (indent + indentStep)))
      (by simp [Heading.letters, Heading.word])
  | array size =>
    obtain ⟨element, below, rfl⟩ := Option.map_eq_some_iff.mp shaped
    have written := writes_cons (writes_text "(array)\n")
      (writes_pair (writes_dumpHandle writes below (indent + indentStep))
        (writes_sizeTree size (indent + indentStep)))
    exact writes_typed written (by simp [Heading.letters, Heading.word])

end Nested

theorem writes_outline (levels : Nat) (id : NodeId) (shown : Outline)
    (shaped : arena.outlineWithin levels id = some shown) (indent : Nat) :
    Writes false (arena.dumpWithin levels .shallow indent id) (Line.render (shown.lines indent))
      none := by
  induction levels generalizing id shown indent with
  | zero => cases shaped
  | succ levels ih =>
    simp only [outlineWithin] at shaped
    cases found : arena.lookup id with
    | error refusal =>
      simp only [found, Option.some.injEq] at shaped
      subst shaped
      rw [shallow_of_refusal found]
      have line : Writes false (seq [invalid id, text "\n"]) ("<invalid " ++ id.name ++ ">" ++ "\n")
        none := writes_pair (writes_text _) (writes_text "\n")
      exact writes_typed line (by simp [Heading.letters, Heading.word])
    | ok node =>
      simp only [found] at shaped
      rw [shallow_of_lookup found]
      exact writes_shallowBody (fun id shown shaped indent => ih id shown shaped indent) shaped indent

theorem isNull_of_shapeOf_none {outline : NodeId → Option Outline}
    (shapeless : shapeOf outline target = none) :
    target.isNull = false ∧ outline target.node = none := by
  unfold shapeOf at shapeless
  split at shapeless
  · cases shapeless
  · exact ⟨Bool.eq_false_iff.mpr ‹_›, by simpa using shapeless⟩

theorem exists_of_mapM_none {α β : Type} {items : List α} {read : α → Option β}
    (unread : items.mapM read = none) : ∃ item ∈ items, read item = none := by
  induction items with
  | nil => cases unread
  | cons item items ih =>
    rw [List.mapM_cons] at unread
    cases first : read item with
    | none => exact ⟨item, List.mem_cons_self, first⟩
    | some one =>
      have rest : items.mapM read = none := by
        cases rest : items.mapM read with
        | none => rfl
        | some _ => simp [first, rest] at unread
      obtain ⟨late, member, missing⟩ := ih rest
      exact ⟨late, List.mem_cons_of_mem _ member, missing⟩

theorem exists_nested_of_outlineOf_none {shape : Handle → Option Shape}
    (missing : outlineOf shape node = none) : ∃ handle ∈ node.nested, shape handle = none := by
  obtain ⟨target, canonical, payload⟩ := node
  cases payload with
  | builtin which => cases missing
  | user name => cases missing
  | tagged sort body => cases missing
  | func args =>
    cases first : shape target with
    | none => exact ⟨target, List.mem_cons_self, first⟩
    | some result =>
      have rest : args.mapM shape = none := by simpa [outlineOf, first] using missing
      obtain ⟨late, member, missing⟩ := exists_of_mapM_none rest
      exact ⟨late, List.mem_cons_of_mem _ member, missing⟩
  | pointer => exact ⟨target, List.mem_cons_self, by simpa [outlineOf] using missing⟩
  | array size => exact ⟨target, List.mem_cons_self, by simpa [outlineOf] using missing⟩

theorem endless_of_outline_none (levels : Nat) (id : NodeId)
    (missing : arena.outlineWithin levels id = none) (indent : Nat) :
    Endless (arena.dumpWithin levels .shallow indent id) := by
  induction levels generalizing id indent with
  | zero => exact endless_stop
  | succ levels ih =>
    simp only [outlineWithin] at missing
    cases found : arena.lookup id with
    | error refusal => simp [found] at missing
    | ok node =>
      simp only [found] at missing
      obtain ⟨handle, member, shapeless⟩ := exists_nested_of_outlineOf_none missing
      obtain ⟨valid, missing⟩ := isNull_of_shapeOf_none shapeless
      exact shallow_stuck levels id handle.node (leads_of_mem found member valid)
        (ih handle.node missing) indent

theorem dump_eq_ok_iff (arena : Arena) (target : Handle) (indent : Nat) (text : String) :
    (arena.writeDump target indent .shallow).toText = .ok text ↔
      ∃ shape, arena.shape target = some shape ∧ text = Line.render (shape.lines indent) := by
  cases shaped : arena.shape target with
  | some shown =>
    have written : Writes false (arena.writeDump target indent .shallow)
        (Line.render (shown.lines indent)) none :=
      writes_dumpHandle (writes_outline (arena.levels * 2)) shaped indent
    rw [written.toText_eq]
    simp [eq_comm]
  | none =>
    obtain ⟨valid, missing⟩ := isNull_of_shapeOf_none shaped
    have never : Endless (arena.writeDump target indent .shallow) :=
      endless_dumpHandle indent valid (stopsOnly_shallow _ indent _)
        (endless_of_outline_none _ _ missing indent)
    rw [toText_of_endless never]
    simp

/-- The shallow dump tells the shape of a type: if two types, be they of one arena or of two, are
dumped alike from the same column, then both have a shape and it is the same, as long as all
qualifiers have a keyword and no tag and no name holds the end of a line. -/
theorem shallow_dump_tells_shape (first second : Arena) (a b : Handle) (indent : Nat) (text : String)
    (plain : ∀ shape, first.shape a = some shape → shape.Plain)
    (plain' : ∀ shape, second.shape b = some shape → shape.Plain)
    (written : (first.writeDump a indent .shallow).toText = .ok text)
    (written' : (second.writeDump b indent .shallow).toText = .ok text) :
    ∃ shape, first.shape a = some shape ∧ second.shape b = some shape := by
  obtain ⟨shape, shaped, rfl⟩ := (first.dump_eq_ok_iff a indent text).mp written
  obtain ⟨shape', shaped', same⟩ := (second.dump_eq_ok_iff b indent _).mp written'
  obtain rfl := Shape.render_lines_injective (plain _ shaped) (plain' _ shaped') same
  exact ⟨shape, shaped, shaped'⟩

-- One signature made in two orders: it takes an alias and an array of a struct.
def signature : List Call :=
  [.newTagged .struct "S", .newArray (Handle.ofNode ⟨64⟩) (some (.owned (.integer 4))),
    .newUser (.identifier (some "m") "T"),
    .newFunction (Handle.ofNode (NodeId.ofBuiltin .bool)).withConst,
    .appendArgument ⟨67⟩ (Handle.ofNode ⟨66⟩).withVolatile, .appendArgument ⟨67⟩ (Handle.ofNode ⟨65⟩)]

def reorderedSignature : List Call :=
  [.newFunction (Handle.ofNode (NodeId.ofBuiltin .bool)).withConst,
    .newUser (.identifier (some "m") "T"), .appendArgument ⟨64⟩ (Handle.ofNode ⟨65⟩).withVolatile,
    .newTagged .struct "S", .newArray (Handle.ofNode ⟨66⟩) (some (.borrowed (.integer 4))),
    .appendArgument ⟨64⟩ (Handle.ofNode ⟨67⟩)]

def signatureShape : Shape :=
  .use .none (.func (.use .const (.builtin .bool))
    [.use .volatile (.user (some (.identifier (some "m") "T"))),
      .use .none (.array (.use .none (.tagged .struct "S")) (some (.integer 4)))])

theorem shallow_dump_tells_shape_signature :
    let first := Arena.empty.run signature
    let second := Arena.empty.run reorderedSignature
    ∃ text, (first.writeDump (Handle.ofNode ⟨67⟩) 2 .shallow).toText = .ok text ∧
      (second.writeDump (Handle.ofNode ⟨64⟩) 2 .shallow).toText = .ok text ∧
      signatureShape.Plain ∧
      ∃ shape, first.shape (Handle.ofNode ⟨67⟩) = some shape ∧
        second.shape (Handle.ofNode ⟨64⟩) = some shape := by
  have shaped : (Arena.empty.run signature).shape (Handle.ofNode ⟨67⟩) = some signatureShape := by
    cbv
  have shaped' : (Arena.empty.run reorderedSignature).shape (Handle.ofNode ⟨64⟩) =
      some signatureShape := by cbv
  have plain : signatureShape.Plain := by
    simp only [signatureShape, Shape.Plain, Outline.Plain, Shape.ListPlain, Option.mem_def,
      Option.some.injEq, forall_eq', Expr.Plain]
    decide
  have written := (dump_eq_ok_iff _ _ 2 _).mpr ⟨_, shaped, rfl⟩
  have written' := (dump_eq_ok_iff _ _ 2 _).mpr ⟨_, shaped', rfl⟩
  have plainly {arena : Arena} {target : Handle} (shaped : arena.shape target = some signatureShape)
      (shape : Shape) (found : arena.shape target = some shape) : shape.Plain :=
    Option.some.inj (shaped.symm.trans found) ▸ plain
  exact ⟨_, written, written', plain,
    shallow_dump_tells_shape _ _ _ _ _ _ (plainly shaped) (plainly shaped') written written'⟩

end Arena

end TypeGraph
