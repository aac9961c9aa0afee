import TypeGraph.Proofs.Walk

set_option autoImplicit false

namespace TypeGraph

open Relation Descent PrinterOver

namespace Expander

variable {active : List NodeId} {id : NodeId} {first second : Expander}
  {parts others : List Expander}

-- An expansion that is refused may leave nodes active; nothing is written after it.
def Ended (active : List NodeId) (written : Written Expansion) : Prop :=
  written.stop ≠ some .outOfFuel ∧ (written.stop = none → written.state.active = active)

def Agree (active : List NodeId) (first second : Expander) : Prop :=
  ∀ sink, first ⟨sink, active⟩ = second ⟨sink, active⟩ ∧ Ended active (first ⟨sink, active⟩)

theorem agree_stop (error : Refusal) :
    Agree active (stop (.refused error)) (stop (.refused error)) :=
  fun _ => ⟨rfl, nofun, nofun⟩

theorem agree_plain {printer : Printer} (ends : Ends printer) :
    Agree active (plain printer) (plain printer) := by
  intro sink
  refine ⟨rfl, fun stopped => ?_, fun _ => rfl⟩
  exact ends sink .outOfFuel stopped rfl

theorem agree_text (part : String) : Agree active (text part) (text part) :=
  agree_plain (Printer.stopsOnly_text part)

theorem agree_nil : Agree active (seq []) (seq []) := fun _ => ⟨rfl, nofun, fun _ => rfl⟩

theorem agree_cons (same : Agree active first second) (later : Agree active (seq parts) (seq others)) :
    Agree active (seq (first :: parts)) (seq (second :: others)) := by
  intro sink
  obtain ⟨equal, ended, back⟩ := same sink
  cases ran : first ⟨sink, active⟩ with
  | mk state reason =>
    rw [ran] at equal ended back
    cases reason with
    | none =>
      obtain ⟨sink', active'⟩ := state
      obtain rfl : active' = active := back rfl
      rw [seq_cons_of_done ran, seq_cons_of_done equal.symm]
      exact later sink'
    | some reason =>
      rw [seq_cons_of_stop ran, seq_cons_of_stop equal.symm]
      exact ⟨rfl, ended, nofun⟩

theorem agree_each {α : Type} {items : List α} {print more : α → Expander}
    (same : ∀ item ∈ items, Agree active (print item) (more item)) :
    Agree active (each items print) (each items more) := by
  induction items with
  | nil => exact agree_nil
  | cons item rest ih =>
    obtain ⟨head, tail⟩ := List.forall_mem_cons.mp same
    exact agree_cons head (ih tail)

theorem agree_scope (inner : Agree (id :: active) first second)
    (later : Agree active (seq parts) (seq others)) :
    Agree active (seq (enter id :: first :: leave :: parts))
      (seq (enter id :: second :: leave :: others)) := by
  intro sink
  have entered : enter id ⟨sink, active⟩ = ⟨⟨sink, id :: active⟩, none⟩ := rfl
  rw [seq_cons_of_done entered, seq_cons_of_done entered]
  obtain ⟨equal, ended, back⟩ := inner sink
  cases ran : first ⟨sink, id :: active⟩ with
  | mk state reason =>
    rw [ran] at equal ended back
    cases reason with
    | none =>
      -- Leaving takes the entered node off again, since what was entered in between was left.
      obtain ⟨sink', active'⟩ := state
      obtain rfl : active' = id :: active := back rfl
      have left : leave ⟨sink', id :: active⟩ = ⟨⟨sink', active⟩, none⟩ := rfl
      rw [seq_cons_of_done ran, seq_cons_of_done equal.symm, seq_cons_of_done left,
        seq_cons_of_done left]
      exact later sink'
    | some reason =>
      rw [seq_cons_of_stop ran, seq_cons_of_stop equal.symm]
      exact ⟨rfl, ended, nofun⟩

theorem agree_ifActive {yes no yes' no' : Expander} (inside : Agree active yes yes')
    (outside : id ∉ active → Agree active no no') :
    Agree active (ifActive id yes no) (ifActive id yes' no') := by
  intro sink
  by_cases present : id ∈ active
  · simpa [ifActive, present] using inside sink
  · simpa [ifActive, present] using outside present sink

end Expander

namespace Arena

open Expander

variable {arena : Arena} {id : NodeId} {node : Node} {handle target : Handle}
  {active : List NodeId}

/-- Whether the full form of a type goes on with another while some nodes are being written out:
down an alias, a pointer or an array, or into a struct or union that it enters. -/
inductive Goes (arena : Arena) : List NodeId × Handle → List NodeId × Handle → Prop where
  | down {active : List NodeId} {target handle : Handle} {node : Node}
      (valid : target.isNull = false) (found : arena.lookup target.node = .ok node)
      (stands : handle ∈ node.spine) : Goes arena (active, target) (active, handle)
  | into {active : List NodeId} {target : Handle} {node : Node} {sort : TagKind} {body : Body}
      {member : Member} (found : arena.lookup target.node = .ok node)
      (tagged : node.payload = .tagged sort body) (fresh : target.node ∉ active)
      (present : member ∈ node.members) :
      Goes arena (active, target) (target.node :: active, member.type)

structure Open (arena : Arena) (active : List NodeId) : Prop where
  nodup : active.Nodup
  known : ∀ id ∈ active, id ∈ arena.ids

theorem Open.length_le (opened : arena.Open active) : active.length ≤ arena.ids.card := by
  rw [← List.toFinset_card_of_nodup opened.nodup]
  exact Finset.card_le_card fun id member => opened.known id (List.mem_toFinset.mp member)

theorem Open.cons (opened : arena.Open active) (present : id ∈ arena.ids) (fresh : id ∉ active) :
    arena.Open (id :: active) where
  nodup := List.nodup_cons.mpr ⟨fresh, opened.nodup⟩
  known other member := by
    rcases List.mem_cons.mp member with rfl | before
    · exact present
    · exact opened.known other before

-- Each node that can still be entered counts for a whole descent from one of its members, and the
-- type itself for the descent from it.
noncomputable def room (arena : Arena) (state : List NodeId × Handle) : Nat :=
  (arena.ids.card - state.1.length) * (arena.ids.card + 1) + arena.handleDepth state.2

theorem room_nil_lt (arena : Arena) (target : Handle) :
    arena.room ([], target) < (arena.size + 1) * (arena.size + 1) := by
  have few := arena.card_ids_le
  calc arena.room ([], target)
      ≤ arena.ids.card * (arena.ids.card + 1) + arena.ids.card :=
        Nat.add_le_add_left (arena.handleDepth_le target) _
    _ < (arena.ids.card + 1) * (arena.ids.card + 1) := by
        rw [Nat.succ_mul]
        exact Nat.add_lt_add_left (Nat.lt_succ_self _) _
    _ ≤ (arena.size + 1) * (arena.size + 1) :=
        Nat.mul_le_mul (Nat.succ_le_succ few) (Nat.succ_le_succ few)

theorem room_lt {state next : List NodeId × Handle}
    (free : state.2.isNull = false →
      ¬ TransGen (arena.Leads Node.spine) state.2.node state.2.node)
    (opened : arena.Open state.1) (goes : arena.Goes state next) :
    arena.Open next.1 ∧ arena.room next < arena.room state := by
  cases goes with
  | down valid found stands =>
    exact ⟨opened, Nat.add_lt_add_left (handleDepth_lt (free valid) valid found stands) _⟩
  | @into active target node sort body member found tagged fresh present =>
    have owned : target.node ∈ arena.ids := by
      rcases lookup_eq_ok_iff.mp found with ⟨builtin, -, rfl⟩ | owned
      · cases tagged
      · exact mem_ids owned
    have opened' := opened.cons owned fresh
    refine ⟨opened', ?_⟩
    have left : arena.ids.card - active.length = arena.ids.card - (active.length + 1) + 1 := by
      have bound := opened'.length_le
      simp only [List.length_cons] at bound
      omega
    calc arena.room (target.node :: active, member.type)
        ≤ (arena.ids.card - (active.length + 1)) * (arena.ids.card + 1) + arena.ids.card :=
          Nat.add_le_add_left (arena.handleDepth_le _) _
      _ < (arena.ids.card - active.length) * (arena.ids.card + 1) := by
          rw [left, Nat.succ_mul]
          exact Nat.add_lt_add_left (Nat.lt_succ_self _) _
      _ ≤ arena.room (active, target) := Nat.le_add_right _ _

theorem Straight.room_lt (straight : arena.Straight) {state next : List NodeId × Handle}
    (opened : arena.Open state.1) (goes : arena.Goes state next) :
    arena.Open next.1 ∧ arena.room next < arena.room state :=
  Arena.room_lt (fun _ => straight.acyclic _) opened goes

def writtenOut (arena : Arena) (print : Nat → Handle → Expander) (indent : Nat) (id : NodeId)
    (sort : TagKind) (body : Body) : Expander :=
  ifActive id (plain (arena.writeNodeName id)) <|
    seq [text (headline sort body.tag ++ " \x7b\n"), enter id,
      each (body.members.getD []) fun member =>
        seq [plain (Printer.spaces (indent + indentStep)),
          print (indent + indentStep) member.type, text (" " ++ member.name ++ ";\n")],
      leave, plain (Printer.spaces indent), text "\x7d"]

theorem agree_writtenOut {print more : Nat → Handle → Expander} (indent : Nat) (sort : TagKind)
    {body : Body} (named : Ends (arena.writeNodeName id))
    (outside : id ∉ active → ∀ member ∈ body.members.getD [], ∀ indent,
      Agree (id :: active) (print indent member.type) (more indent member.type)) :
    Agree active (arena.writtenOut print indent id sort body)
      (arena.writtenOut more indent id sort body) := by
  apply agree_ifActive (agree_plain named)
  intro fresh
  apply agree_cons (agree_text _)
  apply agree_scope
  · apply agree_each
    intro member present
    apply agree_cons (agree_plain (Printer.stopsOnly_spaces _))
    exact agree_cons (outside fresh member present _) (agree_cons (agree_text _) agree_nil)
  · apply agree_cons (agree_plain (Printer.stopsOnly_spaces _))
    exact agree_cons (agree_text _) agree_nil

theorem Straight.full_step (straight : arena.Straight)
    (state : List NodeId × Handle) (levels more : Nat)
    (below : ∀ next, arena.Goes state next → ∀ indent,
      Agree next.1 (arena.fullWithin levels indent next.2) (arena.fullWithin more indent next.2))
    (indent : Nat) :
    Agree state.1 (arena.fullWithin (levels + 1) indent state.2)
      (arena.fullWithin (more + 1) indent state.2) := by
  obtain ⟨active, target⟩ := state
  have named (target : Handle) : Ends (arena.writeName target) := (straight.name_settles target).1
  cases null : target.isNull with
  | true =>
    simp only [fullWithin, null, if_true]
    exact agree_text _
  | false =>
    simp only [fullWithin, null, Bool.false_eq_true, if_false]
    apply agree_cons (agree_plain (Printer.stopsOnly_keywords _))
    apply agree_cons ?_ agree_nil
    cases found : arena.lookup target.node with
    | error refusal => exact agree_stop refusal
    | ok node =>
      have onward (stands : node.target ∈ node.spine) :=
        below (active, node.target) (.down null found stands) indent
      obtain ⟨element, canonical, payload⟩ := node
      cases payload with
      | builtin which => exact agree_text _
      | user expr =>
        simp only
        split
        · exact onward List.mem_cons_self
        · exact agree_plain (Printer.stopsOnly_optional (by simp))
      | tagged sort body =>
        have outside (fresh : target.node ∉ active) (member : Member)
            (present : member ∈ body.members.getD []) :=
          below (target.node :: active, member.type) (.into found rfl fresh present)
        have expanded :=
          agree_writtenOut indent sort (straight.nodeName_settles target.node).1 outside
        cases sort with
        | struct => exact expanded
        | union => exact expanded
        | enum => exact agree_text _
      | func args =>
        have list : Ends (Printer.separated args arena.writeName) :=
          Printer.stopsOnly_separated fun arg _ => named arg
        apply agree_cons (agree_text _)
        apply agree_cons (agree_plain (named element))
        apply agree_cons (agree_text _)
        exact agree_cons (agree_plain list) (agree_cons (agree_text _) agree_nil)
      | pointer =>
        apply agree_cons (onward List.mem_cons_self)
        exact agree_cons (agree_text _) agree_nil
      | array size =>
        apply agree_cons (onward List.mem_cons_self)
        exact agree_cons (agree_plain (Printer.stopsOnly_brackets _)) agree_nil

theorem Straight.expansion_settles (straight : arena.Straight) (target : Handle) :
    Settles (fun run => ∀ indent sink, Ended [] (run indent sink))
      (fun levels indent sink => arena.fullWithin levels indent target ⟨sink, []⟩)
      ((arena.size + 1) * (arena.size + 1))
      (fun indent sink => arena.fullWithin (arena.levels * arena.levels) indent target ⟨sink, []⟩) := by
  -- The active nodes belong to the argument of the recursion, the text and where it stands do not.
  have step (state : List NodeId × Handle) (levels more : Nat)
      (below : ∀ next, arena.Goes state next →
        (fun indent sink => arena.fullWithin levels indent next.2 ⟨sink, next.1⟩) =
            (fun indent sink => arena.fullWithin more indent next.2 ⟨sink, next.1⟩) ∧
          ∀ indent sink, Ended next.1 (arena.fullWithin levels indent next.2 ⟨sink, next.1⟩)) :
      (fun indent sink => arena.fullWithin (levels + 1) indent state.2 ⟨sink, state.1⟩) =
          (fun indent sink => arena.fullWithin (more + 1) indent state.2 ⟨sink, state.1⟩) ∧
        ∀ indent sink, Ended state.1 (arena.fullWithin (levels + 1) indent state.2 ⟨sink, state.1⟩) := by
    have all := straight.full_step state levels more fun next goes indent sink =>
      ⟨congrFun (congrFun (below next goes).1 indent) sink, (below next goes).2 indent sink⟩
    exact ⟨funext fun indent => funext fun sink => (all indent sink).1,
      fun indent sink => (all indent sink).2⟩
  have above : (arena.size + 1) * (arena.size + 1) ≤ arena.levels * arena.levels :=
    Nat.mul_le_mul arena.size_lt_levels arena.size_lt_levels
  exact settles_of_step
    (fun levels state indent sink => arena.fullWithin levels indent state.2 ⟨sink, state.1⟩)
    arena.Goes (fun state => arena.Open state.1) arena.room
    (fun state run => ∀ indent sink, Ended state.1 (run indent sink))
    (fun _ _ opened goes => straight.room_lt opened goes)
    (fun state _ => step state) ([], target)
    ⟨List.nodup_nil, nofun⟩ (arena.room_nil_lt target) above

/-- In every arena that is built the full form of every type comes to its end, on as many levels as
the square of one more than the nodes of the arena, and is the same on any number above. -/
theorem full_settles (built : Built arena) (target : Handle) (indent : Nat) :
    Settles Ends
      (fun levels => seq [Printer.spaces indent, (arena.fullWithin levels indent target).toPrinter])
      ((arena.size + 1) * (arena.size + 1)) (arena.writeFull target indent) := by
  obtain ⟨ended, same⟩ := built.sound.expansion_settles target
  constructor
  · have ends : Ends (arena.fullWithin (arena.levels * arena.levels) indent target).toPrinter := by
      rintro sink reason stopped rfl
      exact (ended indent sink).1 stopped
    exact stopsOnly_seq (by simp [ends])
  · intro levels enough
    have equal : (arena.fullWithin levels indent target).toPrinter =
        (arena.fullWithin (arena.levels * arena.levels) indent target).toPrinter := by
      funext sink
      have run := congrFun (congrFun (same levels enough) indent) sink
      simp only [toPrinter, run]
    simp only [writeFull, equal]

-- A struct and a union that refer to each other by a pointer, an array and an alias.
def mutualTypes : List Call :=
  [.newTagged .struct "A", .newTagged .union "B", .pointerTo (Handle.ofNode ⟨65⟩),
    .newUser (.identifier none "T"), .newArray (Handle.ofNode ⟨67⟩) none,
    .attachMembers ⟨64⟩ [.plain "b" (Handle.ofNode ⟨66⟩), .plain "u" (Handle.ofNode ⟨65⟩)],
    .attachMembers ⟨65⟩ [.plain "a" (Handle.ofNode ⟨68⟩)], .resolve ⟨67⟩ (Handle.ofNode ⟨64⟩)]

theorem full_settles_mutualTypes :
    Built (Arena.empty.run mutualTypes) ∧
      Settles Ends
        (fun levels => seq [Printer.spaces 4,
          ((Arena.empty.run mutualTypes).fullWithin levels 4 (Handle.ofNode ⟨64⟩)).toPrinter])
        (((Arena.empty.run mutualTypes).size + 1) * ((Arena.empty.run mutualTypes).size + 1))
        ((Arena.empty.run mutualTypes).writeFull (Handle.ofNode ⟨64⟩) 4) := by
  have built := Built.empty.run mutualTypes (by cbv)
  exact ⟨built, full_settles built (Handle.ofNode ⟨64⟩) 4⟩

end Arena

end TypeGraph
