import TypeGraph.Proofs.Lines
import TypeGraph.Proofs.SelfReference
import TypeGraph.Proofs.Writing

set_option autoImplicit false

namespace TypeGraph

mutual

inductive Shape where
  | null
  | use (quals : Qualifiers) (outline : Outline)

inductive Outline where
  | invalid (id : NodeId)
  | builtin (builtin : Builtin)
  | user (name : Option Expr)
  | tagged (sort : TagKind) (tag : String)
  | func (result : Shape) (args : List Shape)
  | pointer (element : Shape)
  | array (element : Shape) (size : Option Expr)

end

def optionalLines {α : Type} (lines : α → List Line) : Option α → List Line
  | none => []
  | some value => lines value

def Expr.scopeLines (depth : Nat) (scope : String) : List Line :=
  [⟨depth + indentStep, .scope, scope⟩]

def Expr.lines (expr : Expr) (depth : Nat) : List Line :=
  match expr with
  | .integer value => [⟨depth, .integer, toString value.toNat⟩]
  | .identifier scope name =>
    ⟨depth, .identifier, (Expr.identifier scope name).inline⟩ ::
      optionalLines (Expr.scopeLines depth) scope

def Expr.sizeLines (size : Expr) (depth : Nat) : List Line :=
  ⟨depth, .size, ""⟩ :: size.lines (depth + indentStep)

def Qualifiers.lines (quals : Qualifiers) (depth : Nat) : List Line :=
  if quals.isEmpty then [] else [⟨depth, .qualifiers, quals.text⟩]

mutual

def Shape.lines (shape : Shape) (depth : Nat) : List Line :=
  match shape with
  | .null => [⟨depth, .null, ""⟩]
  | .use quals outline => outline.lines depth ++ quals.lines depth

def Outline.lines (outline : Outline) (depth : Nat) : List Line :=
  let child := depth + indentStep
  let below := child + indentStep
  match outline with
  | .invalid id => [⟨depth, .invalid, id.name ++ ">"⟩]
  | .builtin builtin => [⟨depth, .builtin, builtin.name⟩]
  | .user name =>
    ⟨depth, .user, ""⟩ :: optionalLines (fun name => name.lines child) name
  | .tagged sort tag => [⟨depth, .tagged sort, tag⟩]
  | .func result args =>
    ⟨depth, .func, ""⟩ :: ⟨child, .returns, ""⟩ :: (result.lines below ++
      ⟨child, .args, ""⟩ :: Shape.listLines args below)
  | .pointer element => ⟨depth, .pointer, ""⟩ :: element.lines child
  | .array element size =>
    ⟨depth, .array, ""⟩ :: (element.lines child ++
      optionalLines (fun size => size.sizeLines child) size)

def Shape.listLines (shapes : List Shape) (depth : Nat) : List Line :=
  match shapes with
  | [] => []
  | shape :: shapes => shape.lines depth ++ Shape.listLines shapes depth

end

def Expr.Plain : Expr → Prop
  | .integer _ => True
  | .identifier scope name => (∀ text ∈ scope, '\n' ∉ text.toList) ∧ '\n' ∉ name.toList

mutual

/-- Whether all qualifiers have a keyword and no text goes on in another line. -/
def Shape.Plain : Shape → Prop
  | .null => True
  | .use quals outline => Qualifiers.known.contains quals = true ∧ outline.Plain

def Outline.Plain : Outline → Prop
  | .invalid _ | .builtin _ => True
  | .user name => ∀ expr ∈ name, expr.Plain
  | .tagged _ tag => '\n' ∉ tag.toList
  | .func result args => result.Plain ∧ Shape.ListPlain args
  | .pointer element => element.Plain
  | .array element size => element.Plain ∧ ∀ expr ∈ size, expr.Plain

def Shape.ListPlain : List Shape → Prop
  | [] => True
  | shape :: shapes => shape.Plain ∧ Shape.ListPlain shapes

end

-- What may follow lines of a depth: nothing as deep, so that none of it is taken for one of them.
def Before (depth : Nat) (rest : List Line) : Prop := ∀ line ∈ rest.head?, line.depth < depth

/-- What may follow the lines of a shape: nothing that belongs to it, below it or of its own depth. -/
def Closed (depth : Nat) (rest : List Line) : Prop :=
  ∀ line ∈ rest.head?,
    line.depth < depth + indentStep ∧ ¬ (line.depth = depth ∧ line.heading = .qualifiers)

section Followed

variable {depth deeper : Nat} {line : Line} {rest rest' : List Line} {expr other : Expr}
  {quals quals' : Qualifiers}

theorem before_cons : Before depth (line :: rest) ↔ line.depth < depth := by
  simp [Before]

theorem closed_cons : Closed depth (line :: rest) ↔
    line.depth < depth + indentStep ∧ ¬ (line.depth = depth ∧ line.heading = .qualifiers) := by
  simp [Closed]

theorem Before.closed (before : Before depth rest) : Closed depth rest := by
  intro line head
  have lower := before line head
  exact ⟨by omega, fun same => by omega⟩

theorem Before.mono (before : Before depth rest) (more : depth ≤ deeper) : Before deeper rest :=
  fun line head => (before line head).trans_le more

theorem optionalLines_injective {α : Type} (lines : α → List Line) {value value' : Option α}
    (opens : ∀ value, ∃ line more, lines value = line :: more ∧ line.depth = depth)
    (injective : ∀ value value', lines value ++ rest = lines value' ++ rest' →
      value = value' ∧ rest = rest')
    (before : Before depth rest) (before' : Before depth rest')
    (same : optionalLines lines value ++ rest = optionalLines lines value' ++ rest') :
    value = value' ∧ rest = rest' := by
  cases value with
  | none =>
    cases value' with
    | none => exact ⟨rfl, same⟩
    | some value' =>
      obtain ⟨line, more, spelled, deep⟩ := opens value'
      simp only [optionalLines, spelled, List.nil_append, List.cons_append] at same
      subst same
      have := before_cons.mp before
      omega
  | some value =>
    cases value' with
    | none =>
      obtain ⟨line, more, spelled, deep⟩ := opens value
      simp only [optionalLines, spelled, List.nil_append, List.cons_append] at same
      subst same
      have := before_cons.mp before'
      omega
    | some value' =>
      obtain ⟨rfl, tails⟩ := injective value value' same
      exact ⟨rfl, tails⟩

theorem Expr.inline_injective {scope : Option String} {name name' : String}
    (same : (Expr.identifier scope name).inline = (Expr.identifier scope name').inline) :
    name = name' := by
  cases scope with
  | none => exact same
  | some scope =>
    have letters : name.toList = name'.toList := by
      simpa [Expr.inline] using congrArg String.toList same
    exact String.toList_inj.mp letters

theorem Expr.lines_injective (before : Before depth rest) (before' : Before depth rest')
    (same : expr.lines depth ++ rest = other.lines depth ++ rest') : expr = other ∧ rest = rest' := by
  cases expr with
  | integer value =>
    cases other with
    | integer value' =>
      obtain ⟨head, rest⟩ := List.cons.inj same
      have digits : toString value.toNat = toString value'.toNat := congrArg Line.content head
      rw [UInt64.toNat_inj.mp (Nat.repr_inj.mp digits)]
      exact ⟨rfl, rest⟩
    | identifier scope' name' => cases (List.cons.inj same).1
  | identifier scope name =>
    cases other with
    | integer value' => cases (List.cons.inj same).1
    | identifier scope' name' =>
      obtain ⟨head, later⟩ := List.cons.inj same
      have further : depth ≤ depth + indentStep := Nat.le_add_right _ _
      have scopes (text text' : String) (same : Expr.scopeLines depth text ++ rest =
          Expr.scopeLines depth text' ++ rest') : text = text' ∧ rest = rest' := by
        simpa [Expr.scopeLines] using same
      obtain ⟨rfl, rest⟩ := optionalLines_injective (Expr.scopeLines depth)
        (fun _ => ⟨_, _, rfl, rfl⟩) scopes (before.mono further) (before'.mono further) later
      rw [Expr.inline_injective (congrArg Line.content head)]
      exact ⟨rfl, rest⟩

theorem Qualifiers.lines_injective (known : Qualifiers.known.contains quals = true)
    (known' : Qualifiers.known.contains quals' = true) (closed : Closed depth rest)
    (closed' : Closed depth rest')
    (same : quals.lines depth ++ rest = quals'.lines depth ++ rest') :
    quals = quals' ∧ rest = rest' := by
  have apart {quals : Qualifiers} {rest : List Line} :
      ¬ Closed depth (⟨depth, .qualifiers, quals.text⟩ :: rest) := by
    simp [closed_cons]
  unfold Qualifiers.lines at same
  split at same <;> split at same
  · rename_i empty empty'
    exact ⟨(eq_of_beq empty).trans (eq_of_beq empty').symm, same⟩
  · cases same
    exact absurd closed apart
  · cases same
    exact absurd closed' apart
  · obtain ⟨head, rest⟩ := List.cons.inj same
    exact ⟨Qualifiers.text_injective known known' (congrArg Line.content head), rest⟩

theorem Qualifiers.before_lines (closed : Closed depth rest) :
    Before (depth + indentStep) (quals.lines depth ++ rest) := by
  unfold Qualifiers.lines
  split
  · exact fun line head => (closed line head).1
  · exact before_cons.mpr (by simp [indentStep])

theorem nameLines_injective {name name' : Option Expr} (before : Before depth rest)
    (before' : Before depth rest')
    (same : optionalLines (fun name => Expr.lines name depth) name ++ rest =
      optionalLines (fun name => Expr.lines name depth) name' ++ rest') :
    name = name' ∧ rest = rest' :=
  optionalLines_injective _ (fun name => by cases name <;> exact ⟨_, _, rfl, rfl⟩)
    (fun _ _ => Expr.lines_injective before before') before before' same

theorem sizeLines_injective {size size' : Option Expr} (before : Before depth rest)
    (before' : Before depth rest')
    (same : optionalLines (fun size => Expr.sizeLines size depth) size ++ rest =
      optionalLines (fun size => Expr.sizeLines size depth) size' ++ rest') :
    size = size' ∧ rest = rest' := by
  apply optionalLines_injective _ (fun size => ⟨_, _, rfl, rfl⟩) ?_ before before' same
  intro value value' same
  exact Expr.lines_injective (before.mono (Nat.le_add_right _ _))
    (before'.mono (Nat.le_add_right _ _)) (List.cons.inj same).2

theorem closed_sizeLines (size : Option Expr) (before : Before depth rest) :
    Closed depth (optionalLines (fun size => Expr.sizeLines size depth) size ++ rest) := by
  cases size with
  | none => exact before.closed
  | some size => exact closed_cons.mpr ⟨by simp [indentStep], fun both => nomatch both.2⟩

end Followed

theorem Outline.lines_cons (outline : Outline) (depth : Nat) :
    ∃ line more, outline.lines depth = line :: more ∧ line.depth = depth ∧
      line.heading ≠ .qualifiers := by
  cases outline <;> exact ⟨_, _, rfl, rfl, nofun⟩

theorem Shape.lines_cons (shape : Shape) (depth : Nat) :
    ∃ line more, shape.lines depth = line :: more ∧ line.depth = depth ∧
      line.heading ≠ .qualifiers := by
  cases shape with
  | null => exact ⟨_, _, rfl, rfl, nofun⟩
  | use quals outline =>
    obtain ⟨line, more, spelled, here, plain⟩ := outline.lines_cons depth
    exact ⟨line, more ++ quals.lines depth, by simp [Shape.lines, spelled], here, plain⟩

theorem Shape.closed_listLines (shapes : List Shape) {depth : Nat} {rest : List Line}
    (before : Before depth rest) : Closed depth (Shape.listLines shapes depth ++ rest) := by
  cases shapes with
  | nil => exact before.closed
  | cons shape shapes =>
    obtain ⟨line, more, spelled, here, plain⟩ := shape.lines_cons depth
    rw [Shape.listLines, spelled]
    exact closed_cons.mpr ⟨by simp [here, indentStep], fun both => plain both.2⟩

mutual

theorem Shape.lines_injective (shape other : Shape) (plain : shape.Plain) (plain' : other.Plain)
    {depth : Nat} {rest rest' : List Line} (closed : Closed depth rest)
    (closed' : Closed depth rest')
    (same : shape.lines depth ++ rest = other.lines depth ++ rest') :
    shape = other ∧ rest = rest' := by
  cases shape with
  | null =>
    cases other with
    | null => exact ⟨rfl, (List.cons.inj same).2⟩
    | use quals' outline' => cases outline' <;> cases (List.cons.inj same).1
  | use quals outline =>
    cases other with
    | null => cases outline <;> cases (List.cons.inj same).1
    | use quals' outline' =>
      simp only [Shape.lines, List.append_assoc] at same
      obtain ⟨rfl, later⟩ := outline.lines_injective outline' plain.2 plain'.2
        (Qualifiers.before_lines closed) (Qualifiers.before_lines closed') same
      obtain ⟨rfl, rest⟩ := Qualifiers.lines_injective plain.1 plain'.1 closed closed' later
      exact ⟨rfl, rest⟩
termination_by structural shape

theorem Outline.lines_injective (outline other : Outline) (plain : outline.Plain)
    (plain' : other.Plain) {depth : Nat} {rest rest' : List Line}
    (before : Before (depth + indentStep) rest) (before' : Before (depth + indentStep) rest')
    (same : outline.lines depth ++ rest = other.lines depth ++ rest') :
    outline = other ∧ rest = rest' := by
  have further : depth + indentStep ≤ depth + indentStep + indentStep := Nat.le_add_right _ _
  cases outline with
  | invalid id =>
    cases other with
    | invalid id' =>
      obtain ⟨head, rest⟩ := List.cons.inj same
      have names : id.name ++ ">" = id'.name ++ ">" := congrArg Line.content head
      have letters : id.name.toList = id'.name.toList := by
        simpa using congrArg String.toList names
      rw [NodeId.name_injective (String.toList_inj.mp letters)]
      exact ⟨rfl, rest⟩
    | _ => cases (List.cons.inj same).1
  | builtin which =>
    cases other with
    | builtin which' =>
      obtain ⟨head, rest⟩ := List.cons.inj same
      rw [Builtin.name_injective (congrArg Line.content head)]
      exact ⟨rfl, rest⟩
    | _ => cases (List.cons.inj same).1
  | user name =>
    cases other with
    | user name' =>
      obtain ⟨rfl, rest⟩ := nameLines_injective before before' (List.cons.inj same).2
      exact ⟨rfl, rest⟩
    | _ => cases (List.cons.inj same).1
  | tagged sort tag =>
    cases other with
    | tagged sort' tag' =>
      obtain ⟨head, rest⟩ := List.cons.inj same
      cases head
      exact ⟨rfl, rest⟩
    | _ => cases (List.cons.inj same).1
  | func result args =>
    cases other with
    | func result' args' =>
      simp only [Outline.lines, List.cons_append, List.append_assoc, List.cons.injEq, true_and] at same
      have apart (later : List Line) :
          Closed (depth + indentStep + indentStep) (⟨depth + indentStep, .args, ""⟩ :: later) :=
        (before_cons.mpr (by simp [indentStep])).closed
      obtain ⟨rfl, later⟩ := result.lines_injective result' plain.1 plain'.1 (apart _) (apart _) same
      obtain ⟨rfl, rest⟩ := Shape.listLines_injective args args' plain.2 plain'.2
        (before.mono further) (before'.mono further) (List.cons.inj later).2
      exact ⟨rfl, rest⟩
    | _ => cases (List.cons.inj same).1
  | pointer element =>
    cases other with
    | pointer element' =>
      obtain ⟨rfl, rest⟩ := element.lines_injective element' plain plain' before.closed before'.closed
        (List.cons.inj same).2
      exact ⟨rfl, rest⟩
    | _ => cases (List.cons.inj same).1
  | array element size =>
    cases other with
    | array element' size' =>
      simp only [Outline.lines, List.cons_append, List.append_assoc, List.cons.injEq, true_and] at same
      obtain ⟨rfl, later⟩ := element.lines_injective element' plain.1 plain'.1
        (closed_sizeLines size before) (closed_sizeLines size' before') same
      obtain ⟨rfl, rest⟩ := sizeLines_injective before before' later
      exact ⟨rfl, rest⟩
    | _ => cases (List.cons.inj same).1
termination_by structural outline

theorem Shape.listLines_injective (shapes others : List Shape) (plain : Shape.ListPlain shapes)
    (plain' : Shape.ListPlain others) {depth : Nat} {rest rest' : List Line}
    (before : Before depth rest) (before' : Before depth rest')
    (same : Shape.listLines shapes depth ++ rest = Shape.listLines others depth ++ rest') :
    shapes = others ∧ rest = rest' := by
  cases shapes with
  | nil =>
    cases others with
    | nil => exact ⟨rfl, same⟩
    | cons other others =>
      obtain ⟨line, more, spelled, here, -⟩ := other.lines_cons depth
      simp only [Shape.listLines, spelled, List.nil_append, List.cons_append] at same
      subst same
      have lower := before_cons.mp before
      omega
  | cons shape shapes =>
    cases others with
    | nil =>
      obtain ⟨line, more, spelled, here, -⟩ := shape.lines_cons depth
      simp only [Shape.listLines, spelled, List.nil_append, List.cons_append] at same
      subst same
      have lower := before_cons.mp before'
      omega
    | cons other others =>
      simp only [Shape.listLines, List.append_assoc] at same
      obtain ⟨rfl, later⟩ := shape.lines_injective other plain.1 plain'.1
        (Shape.closed_listLines shapes before) (Shape.closed_listLines others before') same
      obtain ⟨rfl, rest⟩ :=
        Shape.listLines_injective shapes others plain.2 plain'.2 before before' later
      exact ⟨rfl, rest⟩
termination_by structural shapes

end

theorem Expr.plain_lines {expr : Expr} (plain : expr.Plain) (depth : Nat) :
    ∀ line ∈ expr.lines depth, line.Plain := by
  cases expr with
  | integer value => exact List.forall_mem_singleton.mpr (visible_toString _).newline_not_mem
  | identifier scope name =>
    cases scope with
    | none => exact List.forall_mem_singleton.mpr plain.2
    | some scope =>
      have inline : '\n' ∉ (scope ++ "." ++ name).toList := by
        simpa using And.intro (plain.1 scope rfl) plain.2
      exact List.forall_mem_cons.mpr ⟨inline, List.forall_mem_singleton.mpr (plain.1 scope rfl)⟩

theorem plain_optionalLines {α : Type} {lines : α → List Line} {value : Option α}
    (plain : ∀ one ∈ value, ∀ line ∈ lines one, line.Plain) :
    ∀ line ∈ optionalLines lines value, line.Plain := by
  cases value with
  | none => nofun
  | some value => exact plain value rfl

theorem Qualifiers.plain_lines (quals : Qualifiers) (depth : Nat) :
    ∀ line ∈ quals.lines depth, line.Plain := by
  unfold Qualifiers.lines
  split
  · nofun
  · exact List.forall_mem_singleton.mpr quals.visible_text.newline_not_mem

mutual

theorem Shape.plain_lines (shape : Shape) (plain : shape.Plain) (depth : Nat) :
    ∀ line ∈ shape.lines depth, line.Plain := by
  cases shape with
  | null => exact List.forall_mem_singleton.mpr nofun
  | use quals outline =>
    exact List.forall_mem_append.mpr
      ⟨outline.plain_lines plain.2 depth, quals.plain_lines depth⟩
termination_by structural shape

theorem Outline.plain_lines (outline : Outline) (plain : outline.Plain) (depth : Nat) :
    ∀ line ∈ outline.lines depth, line.Plain := by
  have bare (heading : Heading) (depth : Nat) : (Line.mk depth heading "").Plain := nofun
  cases outline with
  | invalid id =>
    have content : '\n' ∉ (id.name ++ ">").toList := by
      simpa using id.visible_name.newline_not_mem
    exact List.forall_mem_singleton.mpr content
  | builtin which => exact List.forall_mem_singleton.mpr (which.not_mem_name rfl)
  | user name =>
    exact List.forall_mem_cons.mpr ⟨bare _ _, plain_optionalLines fun expr member =>
      Expr.plain_lines (plain expr member) _⟩
  | tagged sort tag => exact List.forall_mem_singleton.mpr plain
  | func result args =>
    have outer := result.plain_lines plain.1 (depth + indentStep + indentStep)
    have inner := Shape.plain_listLines args plain.2 (depth + indentStep + indentStep)
    exact List.forall_mem_cons.mpr ⟨bare _ _, List.forall_mem_cons.mpr ⟨bare _ _,
      List.forall_mem_append.mpr ⟨outer, List.forall_mem_cons.mpr ⟨bare _ _, inner⟩⟩⟩⟩
  | pointer element =>
    exact List.forall_mem_cons.mpr ⟨bare _ _, element.plain_lines plain _⟩
  | array element size =>
    have bound : ∀ line ∈ optionalLines (fun size => Expr.sizeLines size (depth + indentStep)) size,
        line.Plain := plain_optionalLines fun expr member =>
      List.forall_mem_cons.mpr ⟨bare _ _, Expr.plain_lines (plain.2 expr member) _⟩
    exact List.forall_mem_cons.mpr ⟨bare _ _,
      List.forall_mem_append.mpr ⟨element.plain_lines plain.1 _, bound⟩⟩
termination_by structural outline

theorem Shape.plain_listLines (shapes : List Shape) (plain : Shape.ListPlain shapes) (depth : Nat) :
    ∀ line ∈ Shape.listLines shapes depth, line.Plain := by
  cases shapes with
  | nil => nofun
  | cons shape shapes =>
    exact List.forall_mem_append.mpr
      ⟨shape.plain_lines plain.1 depth, Shape.plain_listLines shapes plain.2 depth⟩
termination_by structural shapes

end

theorem Shape.render_lines_injective {shape other : Shape} (plain : shape.Plain)
    (plain' : other.Plain) {depth : Nat}
    (same : Line.render (shape.lines depth) = Line.render (other.lines depth)) : shape = other := by
  have lines := Line.render_injective (shape.plain_lines plain depth)
    (other.plain_lines plain' depth) same
  have nothing : Closed depth [] := nofun
  exact (shape.lines_injective other plain plain' nothing nothing (by rw [lines])).1

end TypeGraph
