import TypeGraph.Proofs.FormLayout

set_option autoImplicit false

namespace TypeGraph

open Relation Descent PrinterOver Printer

namespace Node

def closing (node : Node) : String :=
  match node.payload with
  | .pointer => "*"
  | .array size => "[" ++ (size.map fun size => size.expr.inline).getD "" ++ "]"
  | _ => ""

end Node

namespace Arena

variable {arena : Arena} {id : NodeId} {node : Node} {target base : Handle} {above : List Handle}
  {colors : Bool} {part : String} {ended : Option Stop}

def closing (arena : Arena) (handle : Handle) : String :=
  match arena.lookup handle.node with
  | .ok node => node.closing
  | .error _ => ""

def wayDown (above : List Handle) (base : Handle) : String :=
  String.join ((above ++ [base]).map Handle.opening)

def wayUp (arena : Arena) (above : List Handle) : String :=
  String.join (above.reverse.map arena.closing)

/-- Whether nothing lies below an id: it names no node, or one that is no pointer, no array and no
alias with a target. -/
def Bottom (arena : Arena) (id : NodeId) : Prop :=
  ∀ node, arena.lookup id = .ok node →
    node.kind ≠ .pointer ∧ node.kind ≠ .array ∧ (node.kind = .user → node.target.isNull = true)

/-- The handles that are met from one down to the last, which has nothing below it. -/
inductive Stands (arena : Arena) : Handle → List Handle → Handle → Prop where
  | bottom {target : Handle} (valid : target.isNull = false) (bottom : arena.Bottom target.node) :
      Stands arena target [] target
  | deeper {target base : Handle} {node : Node} {above : List Handle}
      (valid : target.isNull = false) (found : arena.lookup target.node = .ok node)
      (stands : node.target ∈ node.spine) (rest : Stands arena node.target above base) :
      Stands arena target (target :: above) base

theorem Stands.valid (stands : arena.Stands target above base) : target.isNull = false := by
  cases stands <;> assumption

theorem Stands.bottom_base (stands : arena.Stands target above base) :
    base.isNull = false ∧ arena.Bottom base.node := by
  induction stands with
  | bottom valid bottom => exact ⟨valid, bottom⟩
  | deeper valid found stands rest ih => exact ih

theorem Straight.exists_stands (straight : arena.Straight) (founded : arena.Founded)
    (target : Handle) (valid : target.isNull = false) :
    ∃ above base, arena.Stands target above base := by
  -- Induction on how far it is to the bottom.
  induction depth : arena.depth target.node using Nat.strong_induction_on generalizing target with
  | _ levels ih =>
    by_cases bottom : arena.Bottom target.node
    · exact ⟨[], target, .bottom valid bottom⟩
    · simp only [Bottom, not_forall] at bottom
      obtain ⟨node, found, further⟩ := bottom
      have stands : node.target ∈ node.spine ∧ node.target.isNull = false := by
        have element := founded target.node node found
        rw [Node.spine_eq_ite]
        cases kind : node.kind <;> simp_all [Kind.needsElement]
      have leads := leads_of_mem found stands.1 stands.2
      obtain ⟨above, base, rest⟩ := ih _ (depth ▸ straight.depth_lt leads) node.target stands.2 rfl
      exact ⟨target :: above, base, .deeper valid found stands.1 rest⟩

def standing (inner : Printer) (node : Node) : Printer :=
  match node.payload with
  | .pointer => seq [inner, text "*"]
  | .array size => seq [inner, brackets size]
  | _ => inner

/-- Whether a form prints a handle by its keywords and its node, and goes on with what a node stands
on if there is something. -/
structure Form (arena : Arena) (print : Nat → Handle → Printer) (body : Nat → NodeId → Printer) :
    Prop where
  opens : ∀ levels, print (levels + 1) = Printer.handle (body levels)
  stands : ∀ levels id node, arena.lookup id = .ok node → node.target ∈ node.spine →
    node.target.isNull = false → body levels id = standing (print levels node.target) node

theorem writes_brackets (size : Option ArrayBound) :
    Writes colors (brackets size)
      ("[" ++ (size.map fun size => size.expr.inline).getD "" ++ "]") none := by
  have inner : Writes colors (optional size fun size => expr size.expr)
      ((size.map fun size => size.expr.inline).getD "") none := by
    cases size with
    | none => exact writes_nil
    | some size => exact writes_expr _
  have written := writes_cons (writes_text "[")
    (writes_cons inner (writes_cons (writes_text "]") writes_nil))
  simpa [brackets, String.append_assoc] using written

theorem writes_standing {inner : Printer} (writes : Writes colors inner part ended) :
    Writes colors (standing inner node)
      (part ++ if ended = none then node.closing else "") ended := by
  obtain ⟨target, canonical, payload⟩ := node
  cases ended with
  | some reason =>
    simp only [reduceCtorEq, if_false, String.append_empty]
    cases payload with
    | pointer => exact writes_cons_stop writes
    | array size => exact writes_cons_stop writes
    | _ => exact writes
  | none =>
    simp only [if_true]
    cases payload with
    | pointer => exact writes_pair writes (writes_text "*")
    | array size => exact writes_pair writes (writes_brackets size)
    | _ => simpa [standing, Node.closing] using writes

theorem Form.writes {print : Nat → Handle → Printer} {body : Nat → NodeId → Printer}
    (form : arena.Form print body) (stands : arena.Stands target above base) {levels : Nat}
    (alone : Writes colors (body levels base.node) part ended) :
    Writes colors (print (levels + 1 + above.length) target)
      (wayDown above base ++ part ++ if ended = none then arena.wayUp above else "") ended := by
  induction stands with
  | @bottom target valid bottom =>
    have written := writes_handle valid alone
    rw [← form.opens] at written
    simpa [wayDown, wayUp, String.join_cons, String.join_nil] using written
  | @deeper target base node above valid found stands rest ih =>
    have below : Writes colors (standing (print (levels + 1 + above.length) node.target) node) _
        ended := writes_standing (ih alone)
    rw [← form.stands _ _ node found stands rest.valid] at below
    have written := writes_handle valid below
    rw [← form.opens] at written
    have closing : arena.closing target = node.closing := by simp [Arena.closing, found]
    cases ended <;>
      simpa [wayDown, wayUp, String.join_cons, String.join_append, String.join_nil,
        String.append_assoc, closing, Nat.add_assoc] using written

theorem handle_ofNode (print : NodeId → Printer) (valid : id.isNull = false) :
    Printer.handle print (Handle.ofNode id) = print id := by
  have bare : Qualifiers.none.keywords = [] := by decide
  have silent : keywords Qualifiers.none = seq [] := by simp [keywords, each, bare]
  funext sink
  have opened : keywords Qualifiers.none sink = ⟨sink, none⟩ := by rw [silent, seq]
  have valid' : (Handle.ofNode id).isNull = false := valid
  simp only [Printer.handle, valid', Bool.false_eq_true, if_false]
  exact (seq_cons_of_done opened).trans (by rw [seq_singleton]; rfl)

theorem form_name (arena : Arena) :
    arena.Form (fun levels => Printer.handle (arena.nameWithin levels))
      (fun levels => arena.nameWithin (levels + 1)) where
  opens levels := rfl
  stands levels id node found stands valid := by
    simp only [nameWithin, found]
    obtain ⟨target, canonical, payload⟩ := node
    cases payload with
    | user name => simp [standing, Handle.isValid, valid]
    | pointer => rfl
    | array size => rfl
    | _ => cases stands

theorem form_effective (arena : Arena) :
    arena.Form (fun levels => Printer.handle (arena.effectiveWithin levels))
      (fun levels => arena.effectiveWithin (levels + 1)) where
  opens levels := rfl
  stands levels id node found stands valid := by
    simp only [effectiveWithin, found]
    obtain ⟨target, canonical, payload⟩ := node
    cases payload with
    | user name => simp [standing, Handle.isValid, valid]
    | pointer => rfl
    | array size => rfl
    | _ => cases stands

theorem form_full (arena : Arena) (active : List NodeId) (indent : Nat) :
    arena.Form (fun levels => arena.expandWithin levels active indent)
      (fun levels => arena.expandNode (arena.expandWithin levels) active indent) where
  opens levels := rfl
  stands levels id node found stands valid := by
    simp only [expandNode, found]
    obtain ⟨target, canonical, payload⟩ := node
    cases payload with
    | user name => simp [standing, Handle.isValid, valid]
    | pointer => rfl
    | array size => rfl
    | _ => cases stands

def Named (arena : Arena) (id : NodeId) : Prop :=
  ∃ node, arena.lookup id = .ok node ∧ node.kind ≠ .func

theorem Bottom.writes_name (bottom : arena.Bottom id) (named : arena.Named id) (levels : Nat) :
    ∃ part, Writes colors (arena.nameWithin (levels + 1) id) part none := by
  obtain ⟨node, found, plain⟩ := named
  obtain ⟨apart, apart', free⟩ := bottom node found
  simp only [nameWithin, found]
  obtain ⟨target, canonical, payload⟩ := node
  cases payload with
  | builtin which => exact ⟨_, writes_text _⟩
  | user name =>
    have null : target.isNull = true := free rfl
    simp only [Handle.isValid, null, Bool.not_true, Bool.false_eq_true, if_false]
    cases name with
    | none => exact ⟨_, writes_nil⟩
    | some name => exact ⟨_, writes_expr name⟩
  | tagged sort body => exact ⟨_, writes_pair (writes_text _) (writes_text _)⟩
  | func args => exact absurd rfl plain
  | pointer => exact absurd rfl apart
  | array size => exact absurd rfl apart'

theorem writes_name_of_not_named (unnamed : ¬ arena.Named id) (levels : Nat) :
    ∃ error, Writes colors (arena.nameWithin (levels + 1) id) "" (some (.refused error)) := by
  simp only [nameWithin]
  cases found : arena.lookup id with
  | error error => exact ⟨error, writes_stop _⟩
  | ok node =>
    have func : node.kind = .func := by
      by_contra plain
      exact unnamed ⟨node, found, plain⟩
    obtain ⟨args, payload⟩ := Node.kind_eq_func func
    simp only [payload]
    exact ⟨_, writes_stop _⟩

theorem Stands.not_winds (stands : arena.Stands target above base)
    (free : ¬ Winds (arena.Leads Node.inlined) base.node) :
    ¬ Winds (arena.Leads Node.inlined) target.node := by
  induction stands with
  | bottom valid bottom => exact free
  | @deeper target base node above valid found stands rest ih =>
    intro winds
    obtain ⟨next, ⟨node', found', handle, member, -, rfl⟩, winds'⟩ := winds.next
    obtain rfl : node' = node := Except.ok.inj (found'.symm.trans found)
    -- A node that stands on another is no function, so that there is one way down.
    have same : handle = node'.target := by
      rcases Node.mem_spine_of_inlined member with below | func
      · exact Node.eq_target_of_mem_spine below
      · simp [Node.spine_eq_ite, func] at stands
    exact ih free (same ▸ winds')

theorem Stands.writes_effective (stands : arena.Stands target above base) (colors : Bool) :
    (∃ shown, Writes colors (arena.writeEffective (Handle.ofNode base.node)) shown none ∧
      Writes colors (arena.writeEffective target)
        (wayDown above base ++ shown ++ arena.wayUp above) none) ∨
    ∀ levels, ∃ shown,
      Writes colors (Printer.handle (arena.effectiveWithin (levels + 1)) (Handle.ofNode base.node))
        shown (some .outOfFuel) ∧
      Writes colors (Printer.handle (arena.effectiveWithin (levels + 1 + above.length)) target)
        (wayDown above base ++ shown) (some .outOfFuel) := by
  have valid := stands.bottom_base.1
  have steady (levels : Nat) : Steady colors (arena.effectiveWithin levels base.node) :=
    (laysOut_effective control_none arena.lacks_none levels base.node).steady colors 0
  by_cases winds : Winds (arena.Leads Node.inlined) base.node
  · refine .inr fun levels => ?_
    obtain ⟨shown, ended, writes⟩ := steady (levels + 1)
    obtain rfl : ended = some .outOfFuel :=
      (writes.stop_eq (rfl : ({ colors := colors } : Sink).colors = colors)).symm.trans
        (effective_endless_of_winds winds (levels + 1) _)
    refine ⟨shown, by rwa [handle_ofNode _ valid], ?_⟩
    simpa using (form_effective arena).writes stands writes
  · have alone := effective_settles_of_free
      fun (_ : (Handle.ofNode base.node).isNull = false) => winds
    have whole := effective_settles_of_free
      fun (_ : target.isNull = false) => stands.not_winds winds
    obtain ⟨shown, ended, writes⟩ := steady (arena.size + 1 + 1)
    have shortened : arena.writeEffective (Handle.ofNode base.node) =
        arena.effectiveWithin (arena.size + 1 + 1) base.node := handle_ofNode _ valid
    have done : ended = none := by
      cases ended with
      | none => rfl
      | some reason =>
        have never := writes.allowed (shortened ▸ alone.1)
        exact absurd (writes.allowed (stopsOnly_effective _ _)) never
    subst done
    refine .inl ⟨shown, shortened ▸ writes, ?_⟩
    have settled :
        Printer.handle (arena.effectiveWithin (arena.size + 1 + 1 + above.length)) target =
          arena.writeEffective target := whole.2 _ (by omega)
    simpa [settled] using (form_effective arena).writes stands writes

theorem Straight.writes_name (straight : arena.Straight) (stands : arena.Stands target above base)
    (colors : Bool) :
    (arena.Named base.node → ∃ named,
      Writes colors (arena.writeName (Handle.ofNode base.node)) named none ∧
      Writes colors (arena.writeName target)
        (wayDown above base ++ named ++ arena.wayUp above) none) ∧
    (¬ arena.Named base.node → ∃ error,
      Writes colors (arena.writeName target) (wayDown above base) (some (.refused error))) := by
  obtain ⟨valid, bottom⟩ := stands.bottom_base
  have settled : Printer.handle (arena.nameWithin (arena.size + 1 + 1 + above.length)) target =
      arena.writeName target := (straight.name_settles target).2 _ (by omega)
  constructor
  · intro named
    obtain ⟨part, writes⟩ : ∃ part,
        Writes colors (arena.nameWithin (arena.size + 1 + 1) base.node) part none :=
      bottom.writes_name named (arena.size + 1)
    have shortened : arena.writeName (Handle.ofNode base.node) =
        arena.nameWithin (arena.size + 1 + 1) base.node := handle_ofNode _ valid
    refine ⟨part, shortened ▸ writes, ?_⟩
    simpa [settled] using (form_name arena).writes stands writes
  · intro unnamed
    obtain ⟨error, writes⟩ := writes_name_of_not_named unnamed (arena.size + 1)
    exact ⟨error, by simpa [settled] using (form_name arena).writes stands writes⟩

theorem Straight.writes_full_of_expand (straight : arena.Straight) (indent : Nat) {levels : Nat}
    (enough : (arena.size + 1) * (arena.size + 1) ≤ levels)
    (writes : Writes colors (arena.expandWithin levels [] indent target) part ended) :
    Writes colors (arena.writeFull target indent) ("".pushn ' ' indent ++ part) ended := by
  rw [writeFull_eq, ← straight.expand_levels indent target enough]
  exact writes_pair (writes_spaces indent) writes

theorem Straight.writes_full (straight : arena.Straight) (stands : arena.Stands target above base)
    (indent : Nat) (sink : Sink) (succeeds : (arena.writeFull target indent sink).stop = none) :
    ∃ full,
      Writes sink.colors (arena.writeFull (Handle.ofNode base.node) indent)
        ("".pushn ' ' indent ++ full) none ∧
      Writes sink.colors (arena.writeFull target indent)
        ("".pushn ' ' indent ++ (wayDown above base ++ full ++ arena.wayUp above)) none := by
  let levels := (arena.size + 1) * (arena.size + 1)
  obtain ⟨full, ended, writes⟩ :=
    (laysOut_expand control_none arena.lacks_none (levels + 1) [] (Handle.ofNode base.node)).steady
      sink.colors indent
  have alone : arena.expandWithin (levels + 1) [] indent (Handle.ofNode base.node) =
      arena.expandNode (arena.expandWithin levels) [] indent base.node :=
    handle_ofNode _ stands.bottom_base.1
  have whole := straight.writes_full_of_expand indent (by omega)
    ((form_full arena [] indent).writes stands (alone ▸ writes))
  obtain rfl : ended = none := (whole.stop_eq rfl).symm.trans succeeds
  refine ⟨full, ?_, by simpa using whole⟩
  exact straight.writes_full_of_expand indent (by omega) writes

/-- In every arena that calls bring about, overwriting ones among them, in which no alias, pointer
or array leads back to itself: the forms of a type are made of the same way down, which ends, and the
same way up, around what each of them writes for the base alone. The effective form comes to an end
on the type exactly if it does on the base, the name form fails where the base has no name, and the
full form is the one that is indented. -/
theorem forms_share_spine (calls : List Call)
    (acyclic : Acyclic ((Arena.empty.run calls).Leads Node.spine)) (target : Handle)
    (valid : target.isNull = false) (colors : Bool) :
    let arena := Arena.empty.run calls
    (∃ above base, arena.Stands target above base) ∧
    ∀ above base, arena.Stands target above base →
      ((∃ shown, Writes colors (arena.writeEffective (Handle.ofNode base.node)) shown none ∧
          Writes colors (arena.writeEffective target)
            (wayDown above base ++ shown ++ arena.wayUp above) none) ∨
        ∀ levels, ∃ shown,
          Writes colors
            (Printer.handle (arena.effectiveWithin (levels + 1)) (Handle.ofNode base.node))
            shown (some .outOfFuel) ∧
          Writes colors (Printer.handle (arena.effectiveWithin (levels + 1 + above.length)) target)
            (wayDown above base ++ shown) (some .outOfFuel)) ∧
      (arena.Named base.node → ∃ named,
        Writes colors (arena.writeName (Handle.ofNode base.node)) named none ∧
        Writes colors (arena.writeName target)
          (wayDown above base ++ named ++ arena.wayUp above) none) ∧
      (¬ arena.Named base.node → ∃ error,
        Writes colors (arena.writeName target) (wayDown above base) (some (.refused error))) ∧
      ∀ indent (sink : Sink), sink.colors = colors →
        (arena.writeFull target indent sink).stop = none → ∃ full,
          Writes colors (arena.writeFull (Handle.ofNode base.node) indent)
            ("".pushn ' ' indent ++ full) none ∧
          Writes colors (arena.writeFull target indent)
            ("".pushn ' ' indent ++ (wayDown above base ++ full ++ arena.wayUp above)) none := by
  intro arena
  have straight : arena.Straight := ⟨acyclic⟩
  refine ⟨straight.exists_stands (Founded.empty.run calls) target valid, ?_⟩
  intro above base stands
  obtain ⟨named, unnamed⟩ := straight.writes_name stands colors
  refine ⟨stands.writes_effective colors, named, unnamed, ?_⟩
  rintro indent sink rfl succeeds
  exact straight.writes_full stands indent sink succeeds

-- A constant alias of an array of volatile pointers to an alias without a target.
def qualifiedPointers : List Call :=
  [.newUser (.identifier none "T"), .pointerTo ⟨⟨64⟩, .volatile⟩,
    .newArray ⟨⟨65⟩, .const⟩ (some (.owned (.identifier none "N"))),
    .newUser (.identifier none "U"), .resolve ⟨67⟩ (Handle.ofNode ⟨66⟩)]

theorem forms_share_spine_qualifiedPointers :
    let arena := Arena.empty.run qualifiedPointers
    let above : List Handle := [⟨⟨67⟩, .volatile⟩, Handle.ofNode ⟨66⟩, ⟨⟨65⟩, .const⟩]
    Acyclic (arena.Leads Node.spine) ∧
      wayDown above ⟨⟨64⟩, .volatile⟩ = "volatile const volatile " ∧ arena.wayUp above = "*[N]" ∧
      ∃ named, Writes false (arena.writeName (Handle.ofNode ⟨64⟩)) named none ∧
        Writes false (arena.writeName ⟨⟨67⟩, .volatile⟩)
          (wayDown above ⟨⟨64⟩, .volatile⟩ ++ named ++ arena.wayUp above) none := by
  have acyclic := (Built.empty.run qualifiedPointers (by cbv)).sound.acyclic
  have outer : (Arena.empty.run qualifiedPointers).lookup ⟨67⟩ =
      .ok ⟨Handle.ofNode ⟨66⟩, Handle.null, .user (some (.identifier none "U"))⟩ := by cbv
  have array : (Arena.empty.run qualifiedPointers).lookup ⟨66⟩ =
      .ok ⟨⟨⟨65⟩, .const⟩, Handle.null, .array (some (.owned (.identifier none "N")))⟩ := by cbv
  have pointer : (Arena.empty.run qualifiedPointers).lookup ⟨65⟩ =
      .ok ⟨⟨⟨64⟩, .volatile⟩, Handle.null, .pointer⟩ := by cbv
  have inner : (Arena.empty.run qualifiedPointers).lookup ⟨64⟩ =
      .ok ⟨Handle.null, Handle.null, .user (some (.identifier none "T"))⟩ := by cbv
  have bottom : (Arena.empty.run qualifiedPointers).Bottom ⟨64⟩ := by
    intro node found
    obtain rfl := Except.ok.inj (inner.symm.trans found)
    exact ⟨by decide, by decide, fun _ => rfl⟩
  have stands : (Arena.empty.run qualifiedPointers).Stands ⟨⟨67⟩, .volatile⟩
      [⟨⟨67⟩, .volatile⟩, Handle.ofNode ⟨66⟩, ⟨⟨65⟩, .const⟩] ⟨⟨64⟩, .volatile⟩ :=
    .deeper rfl outer List.mem_cons_self (.deeper rfl array List.mem_cons_self
      (.deeper rfl pointer List.mem_cons_self (.bottom rfl bottom)))
  have shared :=
    (forms_share_spine qualifiedPointers acyclic ⟨⟨67⟩, .volatile⟩ rfl false).2 _ _ stands
  have up : (Arena.empty.run qualifiedPointers).wayUp
      [⟨⟨67⟩, .volatile⟩, Handle.ofNode ⟨66⟩, ⟨⟨65⟩, .const⟩] = "*[N]" := by
    simp [wayUp, closing, outer, array, pointer, Node.closing, ArrayBound.expr, Expr.inline,
      Handle.ofNode, String.join_cons, String.join_nil]
  exact ⟨acyclic, by decide, up, shared.2.1 ⟨_, inner, by decide⟩⟩

end Arena

end TypeGraph
