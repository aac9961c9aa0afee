import TypeGraph.Proofs.AgreedForms
import TypeGraph.Proofs.Marking

set_option autoImplicit false

namespace TypeGraph

open Relation Descent PrinterOver Expander

structure Visit where
  levels : Nat
  indent : Nat
  target : Handle
  start : Expansion

namespace Arena

variable {arena : Arena} {id : NodeId} {node : Node} {visit next other : Visit}
  {chain entered : List NodeId}

def written (arena : Arena) (visit : Visit) : Written Expansion :=
  arena.fullWithin visit.levels visit.indent visit.target visit.start

def entry (levels : Nat) (target : Handle) (indent : Nat) (sink : Sink) : Visit :=
  ⟨levels, indent, target, ⟨sink.indent indent, []⟩⟩

theorem writeFull_eq_written (arena : Arena) (target : Handle) (indent : Nat) (sink : Sink) :
    let opening := entry (arena.levels * arena.levels) target indent sink
    arena.writeFull target indent sink =
      ⟨(arena.written opening).state.sink, (arena.written opening).stop⟩ := by
  have margin : Printer.spaces indent sink = ⟨sink.indent indent, none⟩ := rfl
  rw [writeFull, seq_cons_of_done margin, seq_singleton]
  rfl

def lead (below : Nat → Handle → Expander) (indent : Nat) (target : Handle) (sort : TagKind)
    (body : Body) (earlier : List Member) : Expander :=
  seq [plain (Printer.keywords target.quals), text (headline sort body.tag ++ " \x7b\n"),
    enter target.node, each earlier (memberLine below (indent + indentStep)),
    plain (Printer.spaces (indent + indentStep))]

/-- Whether a call makes another, and which node it enters for it. It goes on with the element of a
pointer or an array, with the target that an alias has been given, and with the type of each member
of a struct or union that is not active, as soon as all before the member is written. -/
inductive Calls (arena : Arena) : Visit → List NodeId → Visit → Prop where
  | down {levels indent : Nat} {target : Handle} {start : Expansion} {node : Node}
      (valid : target.isNull = false) (found : arena.lookup target.node = .ok node)
      (stands : node.target ∈ node.spine) (given : node.kind = .user → node.target.isValid = true) :
      Calls arena ⟨levels + 1, indent, target, start⟩ []
        ⟨levels, indent, node.target, (plain (Printer.keywords target.quals) start).state⟩
  | into {levels indent : Nat} {target element canonical : Handle} {start before : Expansion}
      {sort : TagKind} {body : Body} {earlier later : List Member} {member : Member}
      (valid : target.isNull = false)
      (found : arena.lookup target.node = .ok ⟨element, canonical, .tagged sort body⟩)
      (expands : sort ≠ .enum) (fresh : target.node ∉ start.active)
      (members : body.members.getD [] = earlier ++ member :: later)
      (wrote : lead (arena.fullWithin levels) indent target sort body earlier start =
        ⟨before, none⟩) :
      Calls arena ⟨levels + 1, indent, target, start⟩ [target.node]
        ⟨levels, indent + indentStep, member.type, before⟩

/-- Whether a call is made on the way of a full form, and which structs and unions it stands in,
innermost first. A full form that comes to no end makes calls at every level, so that it may be
given more of them than those that are enough for the others. -/
inductive Reached (arena : Arena) : List NodeId → Visit → Prop where
  | entry {levels : Nat} {target : Handle} {indent : Nat} {sink : Sink}
      (enough : arena.levels * arena.levels ≤ levels) :
      Reached arena [] (entry levels target indent sink)
  | next {chain entered : List NodeId} {visit next : Visit} (before : Reached arena chain visit)
      (calls : arena.Calls visit entered next) : Reached arena (entered ++ chain) next

def fullStep (arena : Arena) (below : Nat → Handle → Expander) (indent : Nat) (target : Handle) :
    Expander :=
  if target.isNull then text "NULL"
  else
    seq [plain (Printer.keywords target.quals),
      match arena.lookup target.node with
      | .error refusal => stop (.refused refusal)
      | .ok node =>
        match node.payload with
        | .builtin builtin => text builtin.name
        | .user name =>
          if node.target.isValid then below indent node.target
          else plain (Printer.optional name Printer.expr)
        | .tagged .enum body => text (headline .enum body.tag)
        | .tagged sort body => arena.writtenOut below indent target.node sort body
        | .func args =>
          seq [text "func ", plain (arena.writeName node.target), text "(",
            plain (Printer.separated args arena.writeName), text ")"]
        | .pointer => seq [below indent node.target, text "*"]
        | .array size => seq [below indent node.target, plain (Printer.brackets size)]]

theorem fullWithin_succ (arena : Arena) (levels : Nat) :
    arena.fullWithin (levels + 1) = arena.fullStep (arena.fullWithin levels) := by
  funext indent target
  simp only [fullWithin, fullStep]
  cases arena.lookup target.node with
  | error refusal => rfl
  | ok node =>
    obtain ⟨element, canonical, payload⟩ := node
    cases payload with
    | tagged sort body => cases sort <;> rfl
    | _ => rfl

theorem writtenOut_eq (below : Nat → Handle → Expander) (indent : Nat) (id : NodeId)
    (sort : TagKind) (body : Body) :
    arena.writtenOut below indent id sort body =
      ifActive id (plain (arena.writeNodeName id)) (seq [text (headline sort body.tag ++ " \x7b\n"),
        enter id, each (body.members.getD []) (memberLine below (indent + indentStep)),
        leave, plain (Printer.spaces indent), text "\x7d"]) := rfl

theorem writtenOut_congr_at {below more : Nat → Handle → Expander} {indent : Nat} {sort : TagKind}
    {body : Body} {state : Expansion}
    (same : id ∉ state.active → ∀ earlier member later,
      body.members.getD [] = earlier ++ member :: later → ∀ before,
      seq [text (headline sort body.tag ++ " \x7b\n"), enter id,
        each earlier (memberLine more (indent + indentStep)),
        plain (Printer.spaces (indent + indentStep))] state = ⟨before, none⟩ →
      below (indent + indentStep) member.type before =
        more (indent + indentStep) member.type before) :
    arena.writtenOut below indent id sort body state =
      arena.writtenOut more indent id sort body state := by
  obtain ⟨sink, active⟩ := state
  rw [writtenOut_eq, writtenOut_eq]
  by_cases present : id ∈ active
  · simp only [ifActive, present, if_true]
  · simp only [ifActive, present, if_false]
    apply seq_cons_congr rfl
    intro opened ran
    apply seq_cons_congr rfl
    intro inside ran'
    apply seq_cons_congr ?_ fun _ _ => rfl
    apply each_congr_at
    intro earlier member later split middle wrote
    apply seq_cons_congr rfl
    intro before ran''
    apply seq_cons_congr ?_ fun _ _ => rfl
    apply same present earlier member later split before
    rw [seq_cons_of_done ran, seq_cons_of_done ran', seq_cons_of_done wrote, seq_cons_of_done ran'']
    rfl

theorem fullStep_eq_written {levels indent : Nat} {target : Handle} {start : Expansion}
    {below : Nat → Handle → Expander}
    (same : ∀ entered next, arena.Calls ⟨levels + 1, indent, target, start⟩ entered next →
      below next.indent next.target next.start = arena.written next) :
    arena.fullStep below indent target start =
      arena.written ⟨levels + 1, indent, target, start⟩ := by
  rw [written, fullWithin_succ]
  unfold fullStep
  cases null : target.isNull with
  | true => rfl
  | false =>
    simp only [Bool.false_eq_true, if_false]
    apply seq_cons_congr rfl
    intro middle named
    apply seq_cons_congr ?_ fun _ _ => rfl
    obtain rfl : middle = (plain (Printer.keywords target.quals) start).state := by rw [named]
    cases found : arena.lookup target.node with
    | error refusal => rfl
    | ok node =>
      have down (stands : node.target ∈ node.spine)
          (given : node.kind = .user → node.target.isValid = true) :=
        same _ _ (.down null found stands given)
      obtain ⟨element, canonical, payload⟩ := node
      cases payload with
      | builtin which => rfl
      | user name =>
        simp only
        split
        · exact down List.mem_cons_self fun _ => ‹_›
        · rfl
      | tagged sort body =>
        have expanded (expands : sort ≠ .enum) :
            arena.writtenOut below indent target.node sort body
                (plain (Printer.keywords target.quals) start).state =
              arena.writtenOut (arena.fullWithin levels) indent target.node sort body
                (plain (Printer.keywords target.quals) start).state := by
          apply writtenOut_congr_at
          intro fresh earlier member later split before ran
          exact same _ _ (.into null found expands fresh split ((seq_cons_of_done named).trans ran))
        cases sort with
        | enum => rfl
        | _ => exact expanded nofun
      | func args => rfl
      | pointer => exact seq_cons_congr (down List.mem_cons_self nofun) fun _ _ => rfl
      | array size => exact seq_cons_congr (down List.mem_cons_self nofun) fun _ _ => rfl

theorem active_of_lead {levels indent : Nat} {target : Handle} {sort : TagKind} {body : Body}
    {earlier : List Member} {start before : Expansion}
    (wrote : lead (arena.fullWithin levels) indent target sort body earlier start =
      ⟨before, none⟩) :
    before.active = target.node :: start.active := by
  have line (member : Member) : Follows (target.node :: start.active)
      (memberLine (arena.fullWithin levels) (indent + indentStep) member) _ :=
    follows_memberLine (follows_full _ _ _ _)
  have list := follows_each fun member (_ : member ∈ earlier) => line member
  obtain ⟨named, ran, rest⟩ := seq_eq_done wrote
  obtain ⟨opened, ran', rest⟩ := seq_eq_done rest
  obtain ⟨inside, entered, rest⟩ := seq_eq_done rest
  obtain ⟨listed, ran'', rest⟩ := seq_eq_done rest
  obtain ⟨margin, spaced, ended⟩ := seq_eq_done rest
  have kept : named.active = start.active := active_of_plain ran
  have kept' : opened.active = named.active := active_of_plain ran'
  have put : inside.active = target.node :: opened.active := by
    cases entered
    rfl
  rw [kept', kept] at put
  have back := list.active_eq put ran''
  cases ended
  exact (active_of_plain spaced).trans back

def HasBody (arena : Arena) (id : NodeId) : Prop :=
  ∃ node, arena.owned id = .ok node ∧ node.test .structOrUnion = true

def bodyCount (arena : Arena) : Nat :=
  arena.toList.countP fun entry => entry.2.test .structOrUnion

-- What a call that is reached finds. The levels are enough unless there is no end to the way down.
structure Nested (arena : Arena) (chain : List NodeId) (visit : Visit) : Prop where
  active_eq : visit.start.active = chain
  nodup : chain.Nodup
  bodies : ∀ id ∈ chain, arena.HasBody id
  affords : (visit.target.isNull = false ∧ Winds (arena.Leads Node.spine) visit.target.node) ∨
    arena.room (chain, visit.target) < visit.levels

theorem Nested.opened (nested : arena.Nested chain visit) : arena.Open chain where
  nodup := nested.nodup
  known id member :=
    let ⟨_, owned, _⟩ := nested.bodies id member
    mem_ids owned

theorem hasBody_of_tagged {element canonical : Handle} {sort : TagKind} {body : Body}
    (found : arena.lookup id = .ok ⟨element, canonical, .tagged sort body⟩)
    (expands : sort ≠ .enum) : arena.HasBody id := by
  rcases lookup_eq_ok_iff.mp found with ⟨builtin, -, same⟩ | owned
  · cases same
  · refine ⟨_, owned, ?_⟩
    cases sort with
    | enum => exact absurd rfl expands
    | _ => rfl

theorem not_winds_of_tagged {element canonical : Handle} {sort : TagKind} {body : Body}
    (found : arena.lookup id = .ok ⟨element, canonical, .tagged sort body⟩) :
    ¬ Winds (arena.Leads Node.spine) id := by
  intro winds
  obtain ⟨next, leads, -⟩ := winds.next
  cases (leads.eq_target found).1

theorem Nested.enough (nested : arena.Nested chain visit)
    (free : ¬ Winds (arena.Leads Node.spine) visit.target.node) :
    arena.room (chain, visit.target) < visit.levels :=
  nested.affords.resolve_left fun endless => free endless.2

theorem Nested.enters (nested : arena.Nested chain visit) {element canonical : Handle}
    {sort : TagKind} {body : Body}
    (found : arena.lookup visit.target.node = .ok ⟨element, canonical, .tagged sort body⟩)
    (expands : sort ≠ .enum) (fresh : visit.target.node ∉ chain) :
    (visit.target.node :: chain).Nodup ∧ ∀ id ∈ visit.target.node :: chain, arena.HasBody id :=
  ⟨List.nodup_cons.mpr ⟨fresh, nested.nodup⟩,
    List.forall_mem_cons.mpr ⟨hasBody_of_tagged found expands, nested.bodies⟩⟩

theorem Nested.calls (nested : arena.Nested chain visit) (calls : arena.Calls visit entered next) :
    arena.Nested (entered ++ chain) next := by
  cases calls with
  | @down levels indent target start node valid found stands given =>
    refine ⟨nested.active_eq, nested.nodup, nested.bodies, ?_⟩
    by_cases winds : Winds (arena.Leads Node.spine) target.node
    · obtain ⟨next, leads, winds⟩ := winds.next
      obtain ⟨-, valid', rfl⟩ := leads.eq_target found
      exact .inl ⟨valid', winds⟩
    · obtain ⟨-, lower⟩ := room_lt (fun _ cycle => winds ⟨_, .refl, cycle⟩) nested.opened
        (.down valid found stands)
      exact .inr (Nat.lt_of_lt_of_le lower (Nat.le_of_lt_succ (nested.enough winds)))
  | @into levels indent target element canonical start before sort body earlier later member valid
      found expands fresh members wrote =>
    have fresh' : target.node ∉ chain := nested.active_eq ▸ fresh
    have free := not_winds_of_tagged found
    have present : member ∈ body.members.getD [] := by simp [members]
    obtain ⟨-, lower⟩ := room_lt (fun _ cycle => free ⟨_, .refl, cycle⟩) nested.opened
      (.into found rfl fresh' present)
    obtain ⟨nodup, bodies⟩ := nested.enters found expands fresh'
    refine ⟨(active_of_lead wrote).trans (congrArg _ nested.active_eq), nodup, bodies, ?_⟩
    exact .inr (Nat.lt_of_lt_of_le lower (Nat.le_of_lt_succ (nested.enough free)))

theorem nested_entry {levels : Nat} (enough : arena.levels * arena.levels ≤ levels)
    (target : Handle) (indent : Nat) (sink : Sink) :
    arena.Nested [] (entry levels target indent sink) where
  active_eq := rfl
  nodup := List.nodup_nil
  bodies := nofun
  affords :=
    have room := (arena.room_nil_lt target).trans_le
      (Nat.mul_le_mul arena.size_lt_levels arena.size_lt_levels)
    .inr (room.trans_le enough)

theorem Reached.nested (reached : arena.Reached chain visit) : arena.Nested chain visit := by
  induction reached with
  | entry enough => exact nested_entry enough _ _ _
  | next _ calls ih => exact ih.calls calls

theorem mem_toList (found : arena.owned id = .ok node) : (id, node) ∈ arena.toList := by
  obtain ⟨index, position, present⟩ := owned_eq_ok_iff.mp found
  refine List.mem_filterMap.mpr ⟨(node, index), ?_, ?_⟩
  · simpa [List.mk_mem_zipIdx_iff_getElem?] using present
  · simp [NodeId.ofIndex?_of_index? position]

theorem length_le_of_bodies (nodup : chain.Nodup) (bodies : ∀ id ∈ chain, arena.HasBody id) :
    chain.length ≤ arena.bodyCount := by
  have within : chain ⊆
      (arena.toList.filter fun entry => entry.2.test .structOrUnion).map Prod.fst := by
    intro id member
    obtain ⟨node, owned, body⟩ := bodies id member
    exact List.mem_map.mpr ⟨(id, node), List.mem_filter.mpr ⟨mem_toList owned, body⟩, rfl⟩
  calc chain.length
      ≤ ((arena.toList.filter fun entry => entry.2.test .structOrUnion).map Prod.fst).length :=
        (List.subperm_of_subset nodup within).length_le
    _ = arena.bodyCount := by rw [List.length_map, bodyCount, List.countP_eq_length_filter]

theorem Nested.opens (nested : arena.Nested chain visit) {element canonical : Handle}
    {sort : TagKind} {body : Body}
    (found : arena.lookup visit.target.node = .ok ⟨element, canonical, .tagged sort body⟩)
    (expands : sort ≠ .enum) (fresh : visit.target.node ∉ chain) :
    chain.length < arena.bodyCount := by
  obtain ⟨nodup, bodies⟩ := nested.enters found expands fresh
  exact length_le_of_bodies nodup bodies

def Adds (arena : Arena) (visit : Visit) (part : String) (ended : Option Stop) : Prop :=
  (arena.written visit).state.sink = visit.start.sink.append part ∧
    (arena.written visit).stop = ended

/-- Whether two calls add the same text and end alike, or neither of them comes to an end. -/
def SameText (arena : Arena) (first second : Visit) : Prop :=
  (arena.written first).stop = some .outOfFuel ∧ (arena.written second).stop = some .outOfFuel ∨
    ∃ part ended, arena.Adds first part ended ∧ arena.Adds second part ended

theorem active_of_written (done : (arena.written visit).stop = none) :
    (arena.written visit).state.active = visit.start.active := by
  apply (follows_full visit.levels visit.start.active visit.indent visit.target).active_eq rfl
  rw [← done]
  rfl

variable {part : String} {ended : Option Stop}

theorem Nested.written_eq (nested : arena.Nested chain visit) :
    let ran := arena.expandWithin visit.levels chain visit.indent visit.target visit.start.sink
    ∃ after, arena.written visit = ⟨⟨ran.state, after⟩, ran.stop⟩ := by
  obtain rfl := nested.active_eq
  obtain ⟨after, same, -⟩ :=
    follows_full visit.levels visit.start.active visit.indent visit.target visit.start.sink
  exact ⟨after, same⟩

theorem Nested.adds (nested : arena.Nested chain visit)
    (writes : Printer.Writes visit.start.sink.colors
      (arena.expandWithin visit.levels chain visit.indent visit.target) part ended) :
    arena.Adds visit part ended := by
  obtain ⟨after, same⟩ := nested.written_eq
  rw [Adds, same, writes _ rfl]
  exact ⟨rfl, rfl⟩

theorem agrees_self (arena : Arena) : Agrees (fun _ => True) arena arena where
  same _ _ := rfl
  closed _ _ _ _ := trivial
  grows := Nat.le_refl _

theorem Nested.endless (nested : arena.Nested chain visit)
    (endless : Endless (arena.expandWithin visit.levels chain visit.indent visit.target)) :
    (arena.written visit).stop = some .outOfFuel := by
  obtain ⟨after, same⟩ := nested.written_eq
  rw [same]
  exact endless _

theorem expand_alike {levels levels' indent : Nat} {target : Handle} {start start' : Expansion}
    (nested : arena.Nested chain ⟨levels, indent, target, start⟩)
    (nested' : arena.Nested chain ⟨levels', indent, target, start'⟩) :
    Alike (arena.expandWithin levels chain indent target)
      (arena.expandWithin levels' chain indent target) := by
  have agrees := arena.agrees_self
  by_cases endless : target.isNull = false ∧ Winds (arena.Leads Node.spine) target.node
  · exact agrees.alike_of_winding (fun _ => trivial) endless.1 endless.2 chain _ _ indent
  · exact agrees.expand_alike (fun _ => trivial) nested.opened (nested.affords.resolve_left endless)
      (nested'.affords.resolve_left endless) indent

theorem Nested.sameText (nested : arena.Nested chain visit) (nested' : arena.Nested chain other)
    (same : other.target = visit.target) (column : other.indent = visit.indent) :
    arena.SameText visit other := by
  obtain ⟨levels, indent, target, start⟩ := visit
  obtain ⟨levels', indent', target', start'⟩ := other
  obtain rfl : target' = target := same
  obtain rfl : indent' = indent := column
  have alike := expand_alike nested nested'
  rcases (laysOut_expand control_none arena.lacks_none levels chain target').uncolored indent' with
    endless | ⟨part, ended, ends, writes⟩
  · refine .inl ⟨nested.endless endless, nested'.endless fun sink => ?_⟩
    rcases alike sink with equal | ⟨-, stopped⟩
    · rw [← equal]
      exact endless sink
    · exact stopped
  · refine .inr ⟨part, ended, nested.adds (writes _), nested'.adds fun sink colored => ?_⟩
    rcases alike sink with equal | ⟨stopped, -⟩
    · rw [← equal]
      exact writes _ sink colored
    · rw [writes _ sink rfl] at stopped
      exact absurd stopped ends

section Tagged

variable {element canonical : Handle} {sort : TagKind} {body : Body}
  (found : arena.lookup id = .ok ⟨element, canonical, .tagged sort body⟩)
include found

theorem writes_nodeName_of_tagged (colors : Bool) :
    Printer.Writes colors (arena.writeNodeName id) ("(" ++ sort.kind.name ++ ")" ++ body.tag)
      none := by
  simp only [writeNodeName, Arena.levels, nameWithin, found]
  exact Printer.writes_pair (Printer.writes_text _) (Printer.writes_text _)

theorem expandNode_of_tagged (expands : sort ≠ .enum)
    (print : List NodeId → Nat → Handle → Printer) (active : List NodeId) (indent : Nat) :
    arena.expandNode print active indent id =
      if id ∈ active then arena.writeNodeName id
      else expandBody (print (id :: active) (indent + indentStep)) indent sort body := by
  simp only [expandNode, found]

theorem exists_writes_expandBody (levels : Nat) (active : List NodeId) (indent : Nat)
    (colors : Bool) :
    ∃ rest ended, Printer.Writes colors
      (expandBody (arena.expandWithin levels active (indent + indentStep)) indent sort body)
      (headline sort body.tag ++ " \x7b\n" ++ rest) ended := by
  have lines := laysOut_memberLines control_none arena.lacks_none found
    (laysOut_expand control_none arena.lacks_none levels active)
  obtain ⟨rest, ended, writes⟩ := lines.steady colors indent
  exact ⟨rest, ended, Printer.writes_cons (Printer.writes_text _) writes⟩

end Tagged

theorem Nested.adds_of_tagged (nested : arena.Nested chain visit)
    (valid : visit.target.isNull = false)
    {element canonical : Handle} {sort : TagKind} {body : Body}
    (found : arena.lookup visit.target.node = .ok ⟨element, canonical, .tagged sort body⟩)
    (expands : sort ≠ .enum) :
    (visit.target.node ∈ chain → arena.Adds visit
      (visit.target.opening ++ ("(" ++ sort.kind.name ++ ")" ++ body.tag)) none) ∧
    (visit.target.node ∉ chain → ∃ rest ended, arena.Adds visit
      (visit.target.opening ++ (headline sort body.tag ++ " \x7b\n" ++ rest)) ended) := by
  have enough := nested.enough (not_winds_of_tagged found)
  obtain ⟨levels, indent, target, start⟩ := visit
  obtain _ | levels := levels
  · cases enough
  · have node := expandNode_of_tagged found expands (arena.expandWithin levels) chain indent
    refine ⟨fun present => nested.adds ?_, fun fresh => ?_⟩
    · apply Printer.writes_handle valid
      rw [node, if_pos present]
      exact writes_nodeName_of_tagged found _
    · rw [if_neg fresh] at node
      obtain ⟨rest, ended, writes⟩ :=
        exists_writes_expandBody found levels (target.node :: chain) indent start.sink.colors
      refine ⟨rest, ended, nested.adds (Printer.writes_handle valid ?_)⟩
      rw [node]
      exact writes

/-- In every arena and in every call that a full form is made of, those nodes are active in whose
bodies the call stands, innermost first: structs and unions of the arena, none of them twice, so
that they are no more than the arena has; and a call that comes to its end leaves active what it
found so. What it adds to the text is told by them, by the type and by the column, whatever was
written before and whichever type the full form is of; a struct or union is named in it if it is
active, and written out if it is not, one body deeper. The full form is what the first of these
calls writes, and no others are made. -/
theorem active_nodes_enclose (arena : Arena) :
    (∀ target indent sink,
      let opening := entry (arena.levels * arena.levels) target indent sink
      arena.writeFull target indent sink =
        ⟨(arena.written opening).state.sink, (arena.written opening).stop⟩) ∧
    ∀ chain visit, arena.Reached chain visit →
      visit.start.active = chain ∧ chain.Nodup ∧ (∀ id ∈ chain, arena.HasBody id) ∧
      chain.length ≤ arena.bodyCount ∧
      ((arena.written visit).stop = none →
        (arena.written visit).state.active = visit.start.active) ∧
      (∀ other, arena.Reached chain other → other.target = visit.target →
        other.indent = visit.indent → arena.SameText visit other) ∧
      (∀ element canonical sort body, visit.target.isNull = false → sort ≠ .enum →
        arena.lookup visit.target.node = .ok ⟨element, canonical, .tagged sort body⟩ →
        (visit.target.node ∈ chain → arena.Adds visit
          (visit.target.opening ++ ("(" ++ sort.kind.name ++ ")" ++ body.tag)) none) ∧
        (visit.target.node ∉ chain → chain.length < arena.bodyCount ∧ ∃ rest ended,
          arena.Adds visit
            (visit.target.opening ++ (headline sort body.tag ++ " \x7b\n" ++ rest)) ended)) ∧
      ∀ levels below, visit.levels = levels + 1 →
        (∀ entered next, arena.Calls visit entered next →
          below next.indent next.target next.start = arena.written next) →
        arena.fullStep below visit.indent visit.target visit.start = arena.written visit := by
  refine ⟨arena.writeFull_eq_written, fun chain visit reached => ?_⟩
  have nested := reached.nested
  refine ⟨nested.active_eq, nested.nodup, nested.bodies,
    length_le_of_bodies nested.nodup nested.bodies, active_of_written, ?_, ?_, ?_⟩
  · intro other reached' same column
    exact nested.sameText reached'.nested same column
  · intro element canonical sort body valid expands found
    obtain ⟨named, expanded⟩ := nested.adds_of_tagged valid found expands
    exact ⟨named, fun fresh => ⟨nested.opens found expands fresh, expanded fresh⟩⟩
  · intro levels below left same
    obtain ⟨_, indent, target, start⟩ := visit
    obtain rfl := left
    exact fullStep_eq_written same

def siblingsBody : Body :=
  ⟨"Line", some [.plain "from" (Handle.ofNode ⟨64⟩), .plain "to" (Handle.ofNode ⟨64⟩)]⟩

def siblings : List Call :=
  [.newTagged .struct "Point", .attachMembers ⟨64⟩ [.plain "x" (Handle.ofNode ⟨8⟩)],
    .newTagged .struct "Line", .attachMembers ⟨65⟩ (siblingsBody.members.getD [])]

def siblingVisit (arena : Arena) (earlier : List Member) : Written Visit :=
  let before := lead (arena.fullWithin 15) 0 (Handle.ofNode ⟨65⟩) .struct siblingsBody earlier
    ⟨Sink.plain.indent 0, []⟩
  ⟨⟨15, 0 + indentStep, Handle.ofNode ⟨64⟩, before.state⟩, before.stop⟩

theorem active_nodes_enclose_siblings :
    let arena := Arena.empty.run siblings
    ∃ first second : Visit, arena.Reached [⟨65⟩] first ∧ arena.Reached [⟨65⟩] second ∧
      first.target = Handle.ofNode ⟨64⟩ ∧ second.target = Handle.ofNode ⟨64⟩ ∧
      first.start.sink.text ≠ second.start.sink.text ∧ arena.SameText first second ∧
      ∃ rest ended, arena.Adds second ("struct Point \x7b\n" ++ rest) ended := by
  have levels : (Arena.empty.run siblings).levels * (Arena.empty.run siblings).levels = 15 + 1 := by
    decide +kernel
  have outer : (Arena.empty.run siblings).lookup ⟨65⟩ =
      .ok ⟨Handle.null, Handle.ofNode ⟨65⟩, .tagged .struct siblingsBody⟩ := by decide +kernel
  have inner : (Arena.empty.run siblings).lookup ⟨64⟩ = .ok ⟨Handle.null, Handle.ofNode ⟨64⟩,
      .tagged .struct ⟨"Point", some [.plain "x" (Handle.ofNode ⟨8⟩)]⟩⟩ := by decide +kernel
  have done : (siblingVisit (Arena.empty.run siblings) []).stop = none ∧
      (siblingVisit (Arena.empty.run siblings)
        [.plain "from" (Handle.ofNode ⟨64⟩)]).stop = none := by decide +kernel
  have apart : (siblingVisit (Arena.empty.run siblings) []).state.start.sink.text ≠
      (siblingVisit (Arena.empty.run siblings)
        [.plain "from" (Handle.ofNode ⟨64⟩)]).state.start.sink.text := by decide +kernel
  generalize Arena.empty.run siblings = arena at *
  have reached (earlier later : List Member) (member : Member)
      (members : siblingsBody.members.getD [] = earlier ++ member :: later)
      (point : member.type = Handle.ofNode ⟨64⟩) (done : (siblingVisit arena earlier).stop = none) :
      arena.Reached [⟨65⟩] (siblingVisit arena earlier).state := by
    have wrote : lead (arena.fullWithin 15) 0 (Handle.ofNode ⟨65⟩) .struct siblingsBody earlier
        ⟨Sink.plain.indent 0, []⟩ = ⟨(siblingVisit arena earlier).state.start, none⟩ := by
      rw [← done]
      rfl
    have calls : arena.Calls ⟨15 + 1, 0, Handle.ofNode ⟨65⟩, ⟨Sink.plain.indent 0, []⟩⟩ [⟨65⟩]
        ⟨15, 0 + indentStep, member.type, (siblingVisit arena earlier).state.start⟩ :=
      .into rfl outer (by decide) List.not_mem_nil members wrote
    rw [point] at calls
    exact .next (.entry levels.le) calls
  have start := reached [] _ _ rfl rfl done.1
  have later := reached [.plain "from" (Handle.ofNode ⟨64⟩)] [] _ rfl rfl done.2
  obtain ⟨-, calls⟩ := arena.active_nodes_enclose
  obtain ⟨-, -, -, -, -, alike, -⟩ := calls _ _ start
  obtain ⟨-, -, -, -, -, -, expanded, -⟩ := calls _ _ later
  have fresh : (⟨64⟩ : NodeId) ∉ [⟨65⟩] := by decide
  obtain ⟨-, rest, ended, adds⟩ := (expanded _ _ .struct _ rfl (by decide) inner).2 fresh
  have same : (Handle.ofNode ⟨64⟩).opening ++ (headline .struct "Point" ++ " \x7b\n" ++ rest) =
      "struct Point \x7b\n" ++ rest := String.empty_append
  refine ⟨_, _, start, later, rfl, rfl, apart, alike _ later rfl rfl, rest, ended, ?_⟩
  rw [← same]
  exact adds

end Arena

end TypeGraph
