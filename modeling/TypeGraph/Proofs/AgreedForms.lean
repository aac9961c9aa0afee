import TypeGraph.Proofs.Agreement
import TypeGraph.Proofs.SharedSpine

set_option autoImplicit false

namespace TypeGraph

open Relation Descent PrinterOver Printer

namespace Node

theorem mem_handles_of_mem_inlined {node : Node} {handle : Handle}
    (member : handle ∈ node.inlined) : handle ∈ node.handles := by
  obtain ⟨target, canonical, payload⟩ := node
  cases payload with
  | func args => simpa [handles, Node.args, inlined, members, members?, body?] using member
  | _ => exact mem_handles_of_mem_spine member

theorem mem_handles_of_mem_members {node : Node} {member : Member}
    (present : member ∈ node.members) : member.type ∈ node.handles :=
  List.mem_cons_of_mem _ (List.mem_append_right _ (List.mem_map_of_mem present))

theorem mem_handles_of_mem_nested {node : Node} {handle : Handle} (member : handle ∈ node.nested) :
    handle ∈ node.handles := by
  obtain ⟨target, canonical, payload⟩ := node
  cases payload with
  | func args => exact mem_handles_of_mem_inlined member
  | pointer => exact mem_handles_of_mem_spine member
  | array size => exact mem_handles_of_mem_spine member
  | _ => cases member

def elements (node : Node) : List Handle :=
  match node.payload with
  | .pointer | .array _ => [node.target]
  | _ => []

theorem mem_elements_iff {node : Node} {handle : Handle} :
    handle ∈ node.elements ↔ node.kind.needsElement = true ∧ handle = node.target := by
  obtain ⟨target, canonical, payload⟩ := node
  cases payload with
  | tagged sort body =>
    cases sort <;> simp [elements, kind, Payload.kind, TagKind.kind, Kind.needsElement]
  | _ => simp [elements, kind, Payload.kind, Kind.needsElement]

theorem mem_handles_of_mem_elements {node : Node} {handle : Handle}
    (member : handle ∈ node.elements) : handle ∈ node.handles := by
  rw [(mem_elements_iff.mp member).2]
  exact List.mem_cons_self

theorem nested_of_mem_elements {node : Node} {handle : Handle} (member : handle ∈ node.elements) :
    node.nested = [handle] := by
  rw [(mem_elements_iff.mp member).2]
  obtain ⟨target, canonical, payload⟩ := node
  cases payload with
  | pointer => rfl
  | array size => rfl
  | _ => cases member

end Node

namespace Arena

variable {inside : NodeId → Prop} {arena later : Arena} {next : Node → List Handle} {id : NodeId}
  {node : Node} {handle target : Handle}

theorem alike_onward {form : Arena → Nat → NodeId → Printer} {levels levels' : Nat}
    (below : ∀ b, arena.Leads next id b → Alike (form arena levels b) (form later levels' b))
    (found : arena.lookup id = .ok node) (member : handle ∈ next node) :
    Alike (Printer.handle (form arena levels) handle) (Printer.handle (form later levels') handle) :=
  alike_handle fun valid => below _ (leads_of_mem found member valid)

theorem stopsOnly_of_endless {printer : Printer} (endless : Endless printer) :
    StopsOnly (· = .outOfFuel) printer :=
  fun state _ stopped => Option.some.inj (stopped.symm.trans (endless state))

theorem endless_standing {inner : Printer} (endless : Endless inner) :
    Endless (standing inner node) := by
  have only := stopsOnly_of_endless endless
  obtain ⟨target, canonical, payload⟩ := node
  cases payload with
  | pointer => exact endless_seq (by simp [only]) ⟨_, List.mem_cons_self, endless⟩
  | array size => exact endless_seq (by simp [only]) ⟨_, List.mem_cons_self, endless⟩
  | _ => exact endless

theorem name_stuck (arena : Arena) (levels : Nat) (a b : NodeId) (leads : arena.Leads Node.spine a b)
    (endless : Endless (arena.nameWithin levels b)) : Endless (arena.nameWithin (levels + 1) a) := by
  obtain ⟨node, found, handle, member, valid, rfl⟩ := leads
  obtain rfl := Node.eq_target_of_mem_spine member
  have below := endless_handle valid (stopsOnly_of_endless endless) endless
  exact (form_name arena).stands levels a node found member valid ▸ endless_standing below

theorem Agrees.nodeName_alike (agrees : Agrees inside arena later) (start : inside id) :
    Alike (arena.writeNodeName id) (later.writeNodeName id) := by
  apply agrees.alike (fun _ _ => Node.mem_handles_of_mem_spine) nameWithin Endless
    (fun _ _ => endless_stop) name_stuck Alike 0 (fun _ _ => alike_of_endless) ?_ start
    arena.size_lt_levels (agrees.grows.trans_lt later.size_lt_levels)
  intro id start levels levels' _ _ below
  have found' := agrees.same id start
  cases found : arena.lookup id with
  | error refusal =>
    simp only [nameWithin, found, found']
    exact .refl _
  | ok node =>
    have onward (member : node.target ∈ node.spine) := alike_onward below found member
    simp only [nameWithin, found, found']
    obtain ⟨target, canonical, payload⟩ := node
    cases payload with
    | user name =>
      simp only
      split
      · exact onward List.mem_cons_self
      · exact .refl _
    | pointer => exact alike_cons (onward List.mem_cons_self) (.refl _)
    | array size => exact alike_cons (onward List.mem_cons_self) (.refl _)
    | _ => exact .refl _

theorem Agrees.name_alike (agrees : Agrees inside arena later)
    (start : target.isNull = false → inside target.node) :
    Alike (arena.writeName target) (later.writeName target) :=
  alike_handle fun valid => agrees.nodeName_alike (start valid)

theorem alike_effectiveBody {print more : Handle → Printer}
    (part : ∀ handle ∈ node.inlined, Alike (print handle) (more handle)) :
    Alike (effectiveBody print node) (effectiveBody more node) := by
  obtain ⟨target, canonical, payload⟩ := node
  cases payload with
  | user name =>
    simp only [effectiveBody]
    split
    · exact part target List.mem_cons_self
    · exact .refl _
  | func args =>
    have list := alike_separated fun arg member => part arg (List.mem_cons_of_mem _ member)
    simp only [effectiveBody]
    apply alike_cons (.refl _)
    apply alike_cons (part target List.mem_cons_self)
    apply alike_cons (.refl _)
    exact alike_cons list (.refl _)
  | pointer => exact alike_cons (part target List.mem_cons_self) (.refl _)
  | array size => exact alike_cons (part target List.mem_cons_self) (.refl _)
  | _ => exact .refl _

theorem Agrees.effective_alike (agrees : Agrees inside arena later)
    (start : target.isNull = false → inside target.node) :
    Alike (arena.writeEffective target) (later.writeEffective target) := by
  apply alike_handle
  intro valid
  apply agrees.alike (fun _ _ => Node.mem_handles_of_mem_inlined) effectiveWithin Endless
    (fun _ _ => endless_stop) (fun _ => effective_stuck) Alike 0 (fun _ _ => alike_of_endless) ?_
    (start valid) arena.size_lt_levels (agrees.grows.trans_lt later.size_lt_levels)
  intro id start levels levels' _ _ below
  cases found : arena.lookup id with
  | error refusal =>
    rw [effective_of_refusal found, effective_of_refusal ((agrees.same id start).trans found)]
    exact .refl _
  | ok node =>
    rw [effective_of_lookup found, effective_of_lookup ((agrees.same id start).trans found)]
    exact alike_effectiveBody fun handle member => alike_onward below found member

theorem alike_dumpHandle {print more : NodeId → Printer} {target : Handle} (indent : Nat)
    (node : target.isNull = false → Alike (print target.node) (more target.node)) :
    Alike (dumpHandle print indent target) (dumpHandle more indent target) := by
  unfold dumpHandle
  cases null : target.isNull with
  | true => exact .refl _
  | false => exact alike_cons (node null) (.refl _)

theorem alike_shallowBody {print more : Nat → Handle → Printer} (indent : Nat)
    (part : ∀ handle ∈ node.nested, ∀ indent, Alike (print indent handle) (more indent handle)) :
    Alike (shallowBody print indent node) (shallowBody more indent node) := by
  obtain ⟨target, canonical, payload⟩ := node
  cases payload with
  | func args =>
    have list (indent : Nat) : Alike (each args (print indent)) (each args (more indent)) :=
      alike_each fun arg member => part arg (List.mem_cons_of_mem _ member) indent
    simp only [shallowBody]
    apply alike_cons (.refl _)
    apply alike_cons (.refl _)
    apply alike_cons (.refl _)
    apply alike_cons (part target List.mem_cons_self _)
    apply alike_cons (.refl _)
    apply alike_cons (.refl _)
    exact alike_cons (list _) (.refl _)
  | pointer =>
    simp only [shallowBody]
    apply alike_cons (.refl _)
    exact alike_cons (part target List.mem_cons_self _) (.refl _)
  | array size =>
    simp only [shallowBody]
    apply alike_cons (.refl _)
    exact alike_cons (part target List.mem_cons_self _) (.refl _)
  | _ => exact .refl _

theorem Agrees.shallow_alike (agrees : Agrees inside arena later) (start : inside id)
    {levels levels' : Nat} (enough : arena.size < levels) (enough' : arena.size < levels')
    (indent : Nat) :
    Alike (arena.dumpWithin levels .shallow indent id)
      (later.dumpWithin levels' .shallow indent id) := by
  -- The indentation grows on the way down, so that the recursion is over dumps at any of it.
  refine agrees.alike (fun _ _ => Node.mem_handles_of_mem_nested)
    (fun arena levels id indent => arena.dumpWithin levels .shallow indent id)
    (fun dump => ∀ indent, Endless (dump indent)) (fun _ _ _ => endless_stop)
    (fun _ => shallow_stuck) (fun first second => ∀ indent, Alike (first indent) (second indent)) 0
    (fun _ _ left right indent => alike_of_endless (left indent) (right indent)) ?_ start enough
    enough' indent
  intro id start levels levels' _ _ below indent
  beta_reduce at below ⊢
  cases found : arena.lookup id with
  | error refusal =>
    rw [shallow_of_refusal found, shallow_of_refusal ((agrees.same id start).trans found)]
    exact .refl _
  | ok node =>
    rw [shallow_of_lookup found, shallow_of_lookup ((agrees.same id start).trans found)]
    apply alike_cons (.refl _)
    apply alike_cons (.refl _)
    apply alike_cons ?_ (.refl _)
    exact alike_shallowBody indent fun handle member indent => alike_dumpHandle indent fun valid =>
      below _ (leads_of_mem found member valid) indent

def deepHandle (arena : Arena) (levels indent : Nat) (target : Handle) : Printer :=
  dumpHandle (arena.dumpWithin levels .deep indent) indent target

theorem deep_of_lookup (found : arena.lookup id = .ok node) (element : handle ∈ node.elements)
    (levels indent : Nat) :
    arena.dumpWithin (levels + 1) .deep indent id =
      seq [spaces indent, text "[type] ", shallowBody (arena.deepHandle levels) indent node] := by
  simp only [dumpWithin, found]
  obtain ⟨target, canonical, payload⟩ := node
  cases payload with
  | pointer => rfl
  | array size => rfl
  | _ => cases element

theorem deep_stuck (arena : Arena) (levels : Nat) (a b : NodeId)
    (leads : arena.Leads Node.elements a b)
    (endless : ∀ indent, Endless (arena.dumpWithin levels .deep indent b)) (indent : Nat) :
    Endless (arena.dumpWithin (levels + 1) .deep indent a) := by
  obtain ⟨node, found, handle, element, valid, rfl⟩ := leads
  have nested := Node.nested_of_mem_elements element
  have below (indent : Nat) : Endless (arena.deepHandle levels indent handle) :=
    endless_dumpHandle indent valid (stopsOnly_of_endless (endless indent)) (endless indent)
  have only (other : Handle) (member : other ∈ node.nested) (indent : Nat) :
      StopsOnly (· = .outOfFuel) (arena.deepHandle levels indent other) := by
    rw [nested] at member
    rw [List.mem_singleton.mp member]
    exact stopsOnly_of_endless (below indent)
  have body := endless_shallowBody indent (nested ▸ List.mem_cons_self) only below
  rw [deep_of_lookup found element]
  exact endless_seq (by simp [stopsOnly_of_endless body]) ⟨_, by simp, body⟩

theorem Agrees.deep_alike_of_bare (agrees : Agrees inside arena later) (start : inside id)
    (found : arena.lookup id = .ok node) (bare : node.elements = []) {levels levels' : Nat}
    (enough : arena.size < levels) (enough' : arena.size < levels') (indent : Nat) :
    Alike (arena.dumpWithin (levels + 1) .deep indent id)
      (later.dumpWithin (levels' + 1) .deep indent id) := by
  have found' := (agrees.same id start).trans found
  have onward {handle : Handle} (member : handle ∈ node.handles) (valid : handle.isNull = false) :
      inside handle.node :=
    agrees.closed id _ start (leads_of_mem found member valid)
  have shallow {handle : Handle} (member : handle ∈ node.handles) (indent : Nat) :
      Alike (arena.shallowHandle levels indent handle)
        (later.shallowHandle levels' indent handle) :=
    alike_dumpHandle indent fun valid =>
      agrees.shallow_alike (onward member valid) enough enough' indent
  simp only [dumpWithin, found, found']
  apply alike_cons (.refl _)
  apply alike_cons (.refl _)
  apply alike_cons ?_ (.refl _)
  obtain ⟨target, canonical, payload⟩ := node
  cases payload with
  | builtin which => exact .refl _
  | user name =>
    simp only
    apply alike_cons (.refl _)
    apply alike_cons (.refl _)
    apply alike_cons ?_ (.refl _)
    split
    · apply alike_cons (.refl _)
      apply alike_cons (.refl _)
      exact alike_cons (agrees.effective_alike (onward List.mem_cons_self)) (.refl _)
    · exact .refl _
  | tagged sort body =>
    simp only [if_true]
    apply alike_cons (.refl _)
    apply alike_cons (.refl _)
    apply alike_cons ?_ (.refl _)
    apply alike_each
    intro item member
    apply alike_cons (.refl _)
    apply alike_cons (.refl _)
    exact alike_cons (shallow (Node.mem_handles_of_mem_members member) _) (.refl _)
  | func args =>
    have list (indent : Nat) : Alike (each args (arena.shallowHandle levels indent))
        (each args (later.shallowHandle levels' indent)) :=
      alike_each fun arg member =>
        shallow (Node.mem_handles_of_mem_inlined (List.mem_cons_of_mem _ member)) indent
    simp only
    apply alike_cons (.refl _)
    apply alike_cons (.refl _)
    apply alike_cons (.refl _)
    apply alike_cons (shallow List.mem_cons_self _)
    apply alike_cons (.refl _)
    apply alike_cons (.refl _)
    exact alike_cons (list _) (.refl _)
  | pointer => cases bare
  | array size => cases bare

theorem Agrees.deep_alike (agrees : Agrees inside arena later) (start : inside id)
    {levels levels' : Nat} (enough : arena.size + (arena.size + 1) < levels)
    (enough' : arena.size + (arena.size + 1) < levels') (indent : Nat) :
    Alike (arena.dumpWithin levels .deep indent id) (later.dumpWithin levels' .deep indent id) := by
  refine agrees.alike (fun _ _ => Node.mem_handles_of_mem_elements)
    (fun arena levels id indent => arena.dumpWithin levels .deep indent id)
    (fun dump => ∀ indent, Endless (dump indent)) (fun _ _ _ => endless_stop) deep_stuck
    (fun first second => ∀ indent, Alike (first indent) (second indent)) (arena.size + 1)
    (fun _ _ left right indent => alike_of_endless (left indent) (right indent)) ?_ start enough
    enough' indent
  -- However deep the elements are nested, enough levels are left for the shallow part.
  intro id start levels levels' left left' below indent
  beta_reduce at below ⊢
  have found' := agrees.same id start
  cases found : arena.lookup id with
  | error refusal =>
    simp only [dumpWithin, found, found']
    exact .refl _
  | ok node =>
    rw [found] at found'
    by_cases bare : node.elements = []
    · exact agrees.deep_alike_of_bare start found bare left left' indent
    · obtain ⟨element, member⟩ := List.exists_mem_of_ne_nil _ bare
      rw [deep_of_lookup found member, deep_of_lookup found' member]
      apply alike_cons (.refl _)
      apply alike_cons (.refl _)
      apply alike_cons ?_ (.refl _)
      apply alike_shallowBody
      intro handle nested indent
      rw [Node.nested_of_mem_elements member] at nested
      obtain rfl := List.mem_singleton.mp nested
      exact alike_dumpHandle indent fun valid => below _ (leads_of_mem found member valid) indent

theorem Agrees.dump_alike (agrees : Agrees inside arena later)
    (start : target.isNull = false → inside target.node) (indent : Nat) (scope : DumpScope) :
    Alike (arena.writeDump target indent scope) (later.writeDump target indent scope) := by
  have grows := agrees.grows
  apply alike_dumpHandle
  intro valid
  cases scope with
  | deep =>
    apply agrees.deep_alike (start valid)
    · unfold levels
      omega
    · unfold levels
      omega
  | shallow =>
    apply agrees.shallow_alike (start valid)
    · unfold levels
      omega
    · unfold levels
      omega

theorem full_stuck (arena : Arena) (levels : Nat) (a b : NodeId) (leads : arena.Leads Node.spine a b)
    (endless : ∀ active indent quals, Endless (arena.expandWithin levels active indent ⟨b, quals⟩))
    (active : List NodeId) (indent : Nat) (quals : Qualifiers) :
    Endless (arena.expandWithin (levels + 1) active indent ⟨a, quals⟩) := by
  obtain ⟨node, found, handle, member, valid, rfl⟩ := leads
  obtain rfl := Node.eq_target_of_mem_spine member
  have body : Endless (standing (arena.expandWithin levels active indent node.target) node) :=
    endless_standing (endless active indent node.target.quals)
  rw [← (form_full arena active indent).stands levels a node found member valid] at body
  exact endless_handle (isNull_of_lookup found) (stopsOnly_of_endless body) body

theorem Agrees.alike_expandNode (agrees : Agrees inside arena later) (start : inside id)
    {print more : List NodeId → Nat → Handle → Printer} {active : List NodeId} (indent : Nat)
    (down : ∀ node, arena.lookup id = .ok node → ∀ handle ∈ node.spine,
      Alike (print active indent handle) (more active indent handle))
    (into : ∀ node, arena.lookup id = .ok node → id ∉ active → ∀ sort body,
      node.payload = .tagged sort body → ∀ member ∈ node.members, ∀ indent,
      Alike (print (id :: active) indent member.type) (more (id :: active) indent member.type)) :
    Alike (arena.expandNode print active indent id) (later.expandNode more active indent id) := by
  have found' := agrees.same id start
  cases found : arena.lookup id with
  | error refusal =>
    simp only [expandNode, found, found']
    exact .refl _
  | ok node =>
    have stands := down node found
    have entered := into node found
    have named (handle : Handle) (member : handle ∈ node.handles) :
        Alike (arena.writeName handle) (later.writeName handle) :=
      agrees.name_alike fun valid => agrees.closed id _ start (leads_of_mem found member valid)
    simp only [expandNode, found, found']
    obtain ⟨target, canonical, payload⟩ := node
    cases payload with
    | builtin which => exact .refl _
    | user name =>
      simp only
      split
      · exact stands target List.mem_cons_self
      · exact .refl _
    | tagged sort body =>
      have expanded : Alike
          (if id ∈ active then arena.writeNodeName id
            else expandBody (print (id :: active) (indent + indentStep)) indent sort body)
          (if id ∈ active then later.writeNodeName id
            else expandBody (more (id :: active) (indent + indentStep)) indent sort body) := by
        split
        · exact agrees.nodeName_alike start
        · rename_i fresh
          apply alike_cons (.refl _)
          apply alike_cons ?_ (.refl _)
          apply alike_each
          intro member present
          apply alike_cons (.refl _)
          exact alike_cons (entered fresh sort body rfl member present _) (.refl _)
      cases sort with
      | enum => exact .refl _
      | _ => exact expanded
    | func args =>
      have list : Alike (separated args arena.writeName) (separated args later.writeName) :=
        alike_separated fun arg member =>
          named arg (Node.mem_handles_of_mem_inlined (List.mem_cons_of_mem _ member))
      simp only
      apply alike_cons (.refl _)
      apply alike_cons (named target List.mem_cons_self)
      apply alike_cons (.refl _)
      exact alike_cons list (.refl _)
    | pointer => exact alike_cons (stands target List.mem_cons_self) (.refl _)
    | array size => exact alike_cons (stands target List.mem_cons_self) (.refl _)

theorem Agrees.alike_of_winding (agrees : Agrees inside arena later)
    (start : target.isNull = false → inside target.node) (valid : target.isNull = false)
    (winds : Winds (arena.Leads Node.spine) target.node) (active : List NodeId)
    (levels levels' indent : Nat) :
    Alike (arena.expandWithin levels active indent target)
      (later.expandWithin levels' active indent target) := by
  have endless := agrees.both_endless (fun _ _ => Node.mem_handles_of_mem_spine)
    (fun arena levels id active indent quals => arena.expandWithin levels active indent ⟨id, quals⟩)
    (fun print => ∀ active indent quals, Endless (print active indent quals))
    (fun _ _ _ _ _ => endless_stop) full_stuck (start valid) winds
  exact alike_of_endless ((endless levels).1 _ _ _) ((endless levels').2 _ _ _)

theorem Agrees.inside_of_goes (agrees : Agrees inside arena later)
    {state next : List NodeId × Handle} (start : state.2.isNull = false → inside state.2.node)
    (goes : arena.Goes state next) (valid : next.2.isNull = false) : inside next.2.node := by
  cases goes with
  | down valid' found stands =>
    exact agrees.closed _ _ (start valid')
      (leads_of_mem found (Node.mem_handles_of_mem_spine stands) valid)
  | into found tagged fresh present =>
    exact agrees.closed _ _ (start (isNull_of_lookup found))
      (leads_of_mem found (Node.mem_handles_of_mem_members present) valid)

theorem Agrees.expand_step (agrees : Agrees inside arena later)
    (start : target.isNull = false → inside target.node) {active : List NodeId}
    (levels levels' : Nat)
    (below : ∀ next : List NodeId × Handle, arena.Goes (active, target) next → ∀ indent,
      Alike (arena.expandWithin levels next.1 indent next.2)
        (later.expandWithin levels' next.1 indent next.2)) (indent : Nat) :
    Alike (arena.expandWithin (levels + 1) active indent target)
      (later.expandWithin (levels' + 1) active indent target) := by
  apply alike_handle
  intro valid
  apply agrees.alike_expandNode (start valid)
  · intro node found handle member
    exact below (active, handle) (.down valid found member) indent
  · intro node found fresh sort body tagged member present indent
    exact below (target.node :: active, member.type) (.into found tagged fresh present) indent

/-- There is room for every state from which the way down comes to an end, so that no more than that
many levels are ever needed. -/
theorem Agrees.expand_alike (agrees : Agrees inside arena later)
    (start : target.isNull = false → inside target.node) {active : List NodeId}
    (opened : arena.Open active) {levels levels' : Nat}
    (enough : arena.room (active, target) < levels)
    (enough' : arena.room (active, target) < levels') (indent : Nat) :
    Alike (arena.expandWithin levels active indent target)
      (later.expandWithin levels' active indent target) := by
  refine alike_of_step (fun levels state indent => arena.expandWithin levels state.1 indent state.2)
    (fun levels state indent => later.expandWithin levels state.1 indent state.2) arena.Goes
    (fun state => arena.Open state.1 ∧ (state.2.isNull = false → inside state.2.node))
    (fun state => state.2.isNull = false ∧ Winds (arena.Leads Node.spine) state.2.node) arena.room
    (fun _ first second => ∀ indent, Alike (first indent) (second indent)) ?_ ?_ ?_ (active, target)
    ⟨opened, start⟩ enough enough' indent
  · intro state start stuck levels levels' indent
    exact agrees.alike_of_winding start.2 stuck.1 stuck.2 state.1 levels levels' indent
  · intro state next start free goes
    obtain ⟨opened, lower⟩ := room_lt
      (fun valid cycle => free ⟨valid, _, .refl, cycle⟩) start.1 goes
    exact ⟨⟨opened, agrees.inside_of_goes start.2 goes⟩, lower⟩
  · intro state start levels levels' _ _ below
    exact agrees.expand_step start.2 levels levels' below

theorem Agrees.full_alike (agrees : Agrees inside arena later)
    (start : target.isNull = false → inside target.node) (indent : Nat) :
    Alike (arena.writeFull target indent) (later.writeFull target indent) := by
  have grows : arena.size + 1 ≤ later.levels := agrees.grows.trans_lt later.size_lt_levels
  have enough : (arena.size + 1) * (arena.size + 1) ≤ arena.levels * arena.levels :=
    Nat.mul_le_mul arena.size_lt_levels arena.size_lt_levels
  have enough' : (arena.size + 1) * (arena.size + 1) ≤ later.levels * later.levels :=
    Nat.mul_le_mul grows grows
  have expanded := agrees.expand_alike start ⟨List.nodup_nil, nofun⟩
    ((arena.room_nil_lt target).trans_le enough) ((arena.room_nil_lt target).trans_le enough') indent
  rw [writeFull_eq, writeFull_eq]
  exact alike_cons (.refl _) (alike_cons expanded (.refl _))

end Arena

end TypeGraph
