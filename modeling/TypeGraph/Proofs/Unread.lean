import TypeGraph.Proofs.SelfReference

set_option autoImplicit false

namespace TypeGraph

open PrinterOver Printer

namespace Node

def bodiless (node : Node) : Node :=
  match node.payload with
  | .tagged sort _ => ⟨node.target, Handle.null, .tagged sort {}⟩
  | payload => ⟨node.target, Handle.null, payload⟩

def unresolved (node : Node) : Node :=
  match node.payload with
  | .user name => ⟨Handle.null, Handle.null, .user name⟩
  | .tagged sort body => ⟨node.target, Handle.null, .tagged sort { tag := body.tag }⟩
  | payload => ⟨node.target, Handle.null, payload⟩

theorem inlined_bodiless (node : Node) : node.bodiless.inlined = node.inlined := by
  obtain ⟨target, canonical, payload⟩ := node
  cases payload <;> rfl

theorem nested_unresolved (node : Node) : node.unresolved.nested = node.nested := by
  obtain ⟨target, canonical, payload⟩ := node
  cases payload <;> rfl

end Node

namespace Call

variable {call : Call} {arena : Arena} {id : NodeId} {node old new : Node}

def attaches : Call → Bool
  | .attachMembers _ _ => true
  | .assignCanonical _ _ => true
  | _ => false

def completes : Call → Bool
  | .resolve _ _ => true
  | call => call.attaches

theorem Edits.bodiless_eq (edit : call.Edits arena id old new) (attaches : call.attaches = true) :
    new.bodiless = old.bodiless := by
  cases call with
  | attachMembers place members =>
    obtain ⟨sort, body, tagged, -, rfl⟩ := Node.attachMembers_eq_ok edit.2
    simp [Node.bodiless, tagged]
  | assignCanonical place canonical =>
    obtain ⟨-, rfl⟩ := Node.assignCanonical_eq_ok edit.2
    rfl
  | _ => cases attaches

theorem Edits.unresolved_eq (edit : call.Edits arena id old new)
    (completes : call.completes = true) : new.unresolved = old.unresolved := by
  cases call with
  | attachMembers place members =>
    obtain ⟨sort, body, tagged, -, rfl⟩ := Node.attachMembers_eq_ok edit.2
    simp [Node.unresolved, tagged]
  | assignCanonical place canonical =>
    obtain ⟨-, rfl⟩ := Node.assignCanonical_eq_ok edit.2
    rfl
  | resolve place target =>
    obtain ⟨⟨name, user⟩, rfl⟩ := Node.resolve_eq_ok edit.2.2
    simp [Node.unresolved, user]
  | _ => cases completes

theorem Makes.completes_eq (wanted : call.Makes node) : call.completes = false := by
  cases call with
  | newUser expr => rfl
  | newTagged sort tag => rfl
  | newFunction result => rfl
  | newArray element size => rfl
  | _ => cases wanted

theorem completes_of_attaches (attaches : call.attaches = true) : call.completes = true := by
  cases call with
  | resolve place target => rfl
  | _ => exact attaches

end Call

namespace Arena

variable {part : Node → Node} {arena other after : Arena} {call : Call}

/-- Whether two arenas have as many nodes, and the same ones as far as `part` tells. -/
def Matches (part : Node → Node) (arena other : Arena) : Prop :=
  arena.nodes.toList.map part = other.nodes.toList.map part

theorem Matches.size_eq (matched : Matches part arena other) : arena.size = other.size := by
  simpa [size] using congrArg List.length matched

theorem Matches.lookup_map (matched : Matches part arena other) (id : NodeId) :
    (arena.lookup id).map part = (other.lookup id).map part := by
  have present (index : Nat) : (arena.nodes[index]?).map part = (other.nodes[index]?).map part := by
    simpa using congrArg (fun parts => parts[index]?) matched
  unfold lookup
  cases id.builtin? with
  | some builtin => rfl
  | none =>
    cases id.isNull with
    | true => rfl
    | false =>
      cases position : id.index? with
      | none => rfl
      | some index =>
        have same := present index
        cases here : arena.nodes[index]? <;> cases there : other.nodes[index]? <;>
          simp_all [Except.map]

theorem Matches.lookup_cases (matched : Matches part arena other) (id : NodeId) :
    (∃ refusal, arena.lookup id = .error refusal ∧ other.lookup id = .error refusal) ∨
      ∃ node node', arena.lookup id = .ok node ∧ other.lookup id = .ok node' ∧
        part node = part node' := by
  have same := matched.lookup_map id
  cases here : arena.lookup id <;> cases there : other.lookup id <;>
    simp_all [Except.map]

theorem matches_of_effect (effect : call.Effect arena after) (completes : call.completes = true)
    (kept : ∀ id old new, call.Edits arena id old new → part new = part old) :
    Matches part after arena := by
  cases effect with
  | nothing => rfl
  | made wanted issued => exact absurd completes (by simp [wanted.completes_eq])
  | shared wanted valid missing issued =>
    subst wanted
    cases completes
  | edited found edit => exact map_nodes_store part found (kept _ _ _ edit)

theorem matches_run {among : Call → Bool}
    (completes : ∀ call, among call = true → call.completes = true)
    (kept : ∀ call arena id old new, among call = true → Call.Edits call arena id old new →
      part new = part old)
    (arena : Arena) (calls : List Call) (all : calls.all among = true) :
    Matches part (arena.run calls) arena := by
  apply @run_holds arena (fun call => among call = true) (fun after => Matches part after arena)
    ?_ rfl calls (List.all_eq_true.mp all)
  intro before after call member effect matched
  have one : Matches part after before :=
    matches_of_effect effect (completes call member) fun id old new =>
      kept call before id old new member
  exact one.trans matched

theorem bodiless_run (arena : Arena) (calls : List Call) (all : calls.all Call.attaches = true) :
    Matches Node.bodiless (arena.run calls) arena :=
  matches_run (fun _ => Call.completes_of_attaches)
    (fun _ _ _ _ _ attaches edit => edit.bodiless_eq attaches) arena calls all

theorem unresolved_run (arena : Arena) (calls : List Call) (all : calls.all Call.completes = true) :
    Matches Node.unresolved (arena.run calls) arena :=
  matches_run (fun _ => id) (fun _ _ _ _ _ completes edit => edit.unresolved_eq completes) arena
    calls all

theorem effectiveBody_bodiless (print : Handle → Printer) (node : Node) :
    effectiveBody print node.bodiless = effectiveBody print node := by
  obtain ⟨target, canonical, payload⟩ := node
  cases payload <;> rfl

theorem shallowBody_unresolved (print : Nat → Handle → Printer) (indent : Nat) (node : Node) :
    shallowBody print indent node.unresolved = shallowBody print indent node := by
  obtain ⟨target, canonical, payload⟩ := node
  cases payload <;> rfl

theorem Matches.effective_eq (matched : Matches Node.bodiless arena other) (levels : Nat) :
    arena.effectiveWithin levels = other.effectiveWithin levels := by
  induction levels with
  | zero => rfl
  | succ levels ih =>
    funext id
    rcases matched.lookup_cases id with ⟨refusal, here, there⟩ | ⟨node, node', here, there, same⟩
    · rw [effective_of_refusal here, effective_of_refusal there]
    · rw [effective_of_lookup here, effective_of_lookup there, ← effectiveBody_bodiless, same,
        effectiveBody_bodiless, ih]

theorem Matches.shallow_eq (matched : Matches Node.unresolved arena other) (levels : Nat) :
    arena.dumpWithin levels .shallow = other.dumpWithin levels .shallow := by
  induction levels with
  | zero => rfl
  | succ levels ih =>
    have print : arena.shallowHandle levels = other.shallowHandle levels := by
      funext indent target
      simp only [shallowHandle, ih]
    funext indent id
    rcases matched.lookup_cases id with ⟨refusal, here, there⟩ | ⟨node, node', here, there, same⟩
    · rw [shallow_of_refusal here, shallow_of_refusal there]
    · rw [shallow_of_lookup here, shallow_of_lookup there, ← shallowBody_unresolved, same,
        shallowBody_unresolved, print]

theorem Matches.writeEffective_eq (matched : Matches Node.bodiless arena other) (target : Handle) :
    arena.writeEffective target = other.writeEffective target := by
  have print : arena.writeNodeEffective = other.writeNodeEffective := by
    funext id
    simp only [writeNodeEffective, levels, matched.size_eq, matched.effective_eq]
  simp only [writeEffective, print]

theorem Matches.writeDump_eq (matched : Matches Node.unresolved arena other) (target : Handle)
    (indent : Nat) : arena.writeDump target indent .shallow = other.writeDump target indent .shallow := by
  have print (id : NodeId) :
      arena.writeNodeDump id indent .shallow = other.writeNodeDump id indent .shallow := by
    simp only [writeNodeDump, levels, matched.size_eq, matched.shallow_eq]
  simp only [writeDump, print]

/-- In two arenas whose nodes differ in tags, members and canonical types only, a type has one
effective form; if they differ in members, canonical types and the targets of aliases only, it has one
shallow dump. So it is on any number of levels, so that a form has an end in both arenas or in none.
Attaching members or resolving an alias therefore leaves these forms as they were. -/
theorem collapsed_forms_pass_over (arena other : Arena) (target : Handle) :
    (Matches Node.bodiless arena other →
      arena.writeEffective target = other.writeEffective target ∧
        ∀ levels, Printer.handle (arena.effectiveWithin levels) target =
          Printer.handle (other.effectiveWithin levels) target) ∧
    (Matches Node.unresolved arena other → ∀ indent,
      arena.writeDump target indent .shallow = other.writeDump target indent .shallow ∧
        ∀ levels, dumpHandle (arena.dumpWithin levels .shallow indent) indent target =
          dumpHandle (other.dumpWithin levels .shallow indent) indent target) ∧
    (∀ calls, calls.all Call.attaches = true →
      (arena.run calls).writeEffective target = arena.writeEffective target) ∧
    ∀ calls, calls.all Call.completes = true → ∀ indent,
      (arena.run calls).writeDump target indent .shallow =
        arena.writeDump target indent .shallow := by
  refine ⟨fun matched => ⟨matched.writeEffective_eq target, fun levels => ?_⟩,
    fun matched indent => ⟨matched.writeDump_eq target indent, fun levels => ?_⟩,
    fun calls attach => (bodiless_run arena calls attach).writeEffective_eq target,
    fun calls complete indent => (unresolved_run arena calls complete).writeDump_eq target indent⟩
  · rw [matched.effective_eq]
  · rw [matched.shallow_eq]

-- A struct that is named and filled in, and the same without a name or members; each with a
-- pointer to it and an alias of the pointer.
def filledStruct : List Call :=
  [.newTagged .struct "Node", .pointerTo (Handle.ofNode ⟨64⟩), .newUser (.identifier none "Link"),
    .attachMembers ⟨64⟩ [.plain "next" (Handle.ofNode ⟨66⟩)], .resolve ⟨66⟩ (Handle.ofNode ⟨65⟩)]

def bareStruct : List Call :=
  [.newTagged .struct "", .pointerTo (Handle.ofNode ⟨64⟩), .newUser (.identifier none "Link"),
    .resolve ⟨66⟩ (Handle.ofNode ⟨65⟩), .assignCanonical ⟨66⟩ (Handle.ofNode ⟨65⟩)]

def unresolvedLink : List Call :=
  [.newTagged .struct "Node", .pointerTo (Handle.ofNode ⟨64⟩), .newUser (.identifier none "Link")]

theorem collapsed_forms_pass_over_filledStruct :
    let filled := Arena.empty.run filledStruct
    let bare := Arena.empty.run bareStruct
    let undone := Arena.empty.run unresolvedLink
    Matches Node.bodiless filled bare ∧ Matches Node.unresolved filled undone ∧
      filled.writeEffective (Handle.ofNode ⟨66⟩) = bare.writeEffective (Handle.ofNode ⟨66⟩) ∧
      filled.effectiveText (Handle.ofNode ⟨66⟩) = .ok "(struct)*" ∧
      filled.writeDump (Handle.ofNode ⟨65⟩) 0 .shallow =
        undone.writeDump (Handle.ofNode ⟨65⟩) 0 .shallow := by
  have bodies : Matches Node.bodiless (Arena.empty.run filledStruct) (Arena.empty.run bareStruct) := by
    cbv
  have links : Matches Node.unresolved (Arena.empty.run filledStruct)
      (Arena.empty.run unresolvedLink) := by
    cbv
  exact ⟨bodies, links, ((collapsed_forms_pass_over _ _ _).1 bodies).1, by cbv,
    ((collapsed_forms_pass_over _ _ _).2.1 links 0).1⟩

end Arena

end TypeGraph
