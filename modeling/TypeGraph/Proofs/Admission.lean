import TypeGraph.Proofs.Interning
import TypeGraph.Proofs.Walk

set_option autoImplicit false

namespace TypeGraph

open Relation Descent

namespace Node

theorem attachMembers_ok_iff (node : Node) (members : List Member) :
    (∃ new, node.attachMembers members = .ok new) ↔
      node.kind.isTagged = true ∧ node.members? = none := by
  rcases node with ⟨target, canonical, payload⟩
  cases payload with
  | tagged sort body =>
    have tagged : sort.kind.isTagged = true := by cases sort <;> rfl
    cases set : body.members <;>
      simp [attachMembers, kind, Payload.kind, members?, body?, tagged, set]
  | _ => simp [attachMembers, kind, Payload.kind, Kind.isTagged]

theorem assignResult_ok_iff (node : Node) (result : Handle) :
    (∃ new, node.assignResult result = .ok new) ↔ node.kind = .func := by
  by_cases func : node.kind = .func <;> simp [assignResult, func]

theorem appendArgument_ok_iff (node : Node) (arg : Handle) :
    (∃ new, node.appendArgument arg = .ok new) ↔ node.kind = .func := by
  rcases node with ⟨target, canonical, payload⟩
  cases payload with
  | tagged sort body => cases sort <;> simp [appendArgument, kind, Payload.kind, TagKind.kind]
  | _ => simp [appendArgument, kind, Payload.kind]

theorem resolve_ok_iff (node : Node) (target : Handle) :
    (∃ new, node.resolve target = .ok new) ↔ node.kind = .user := by
  by_cases user : node.kind = .user <;> simp [resolve, user]

theorem assignCanonical_ok_iff (node : Node) (canonical : Handle) :
    (∃ new, node.assignCanonical canonical = .ok new) ↔
      node.kind = .user ∨ node.kind = .pointer ∨ node.kind = .array := by
  cases kind : node.kind <;> simp [assignCanonical, kind, Kind.isCanonical]

theorem bare_ok_iff (kind : Kind) (target : Handle) :
    (∃ node, bare kind target = .ok node) ↔
      kind ≠ .builtin ∧ (kind.needsElement = true ↔ target.isNull = false) := by
  cases null : target.isNull <;> cases kind <;>
    simp [bare, Kind.needsElement, Handle.isValid, null]

end Node

namespace Arena

variable {α β : Type} {arena : Arena} {id : NodeId} {node : Node} {handle target : Handle}

theorem reachesWithin_of_clear (levels : Nat) (handle : Handle) (clear : arena.Clear handle id)
    (ended : (arena.reachesWithin id levels handle).Ends) :
    arena.reachesWithin id levels handle = .ok false := by
  induction levels generalizing handle with
  | zero => exact absurd rfl ended
  | succ levels ih =>
    cases null : handle.isNull with
    | true => simp [reachesWithin, null]
    | false =>
      obtain ⟨different, known⟩ := clear null _ .refl
      obtain ⟨node, found⟩ := contains_iff.mp known
      rw [reachesWithin_of_lookup levels null different found] at ended ⊢
      by_cases stands : node.spine = []
      · rw [if_pos stands]
      · rw [if_neg stands] at ended ⊢
        apply ih node.target _ ended
        intro valid met path
        exact clear null met (.head (leads_of_mem found (Node.target_mem_spine stands) valid) path)

theorem reachesWithin_stop (levels : Nat) (handle : Handle) (stop : Stop)
    (stopped : arena.reachesWithin id levels handle = .error stop) :
    stop = .outOfFuel ∨ ∃ error, stop = .refused error := by
  induction levels generalizing handle with
  | zero =>
    cases stopped
    exact .inl rfl
  | succ levels ih =>
    simp only [reachesWithin] at stopped
    split at stopped
    · cases stopped
    · split at stopped
      · cases stopped
      · split at stopped
        · cases stopped
          exact .inr ⟨_, rfl⟩
        · split at stopped
          · exact ih _ stopped
          · exact ih _ stopped
          · exact ih _ stopped
          · cases stopped

theorem Straight.reaches_cases (straight : arena.Straight) (target : Handle) (id : NodeId) :
    (arena.Clear target id ∧ arena.reaches target id = .ok false) ∨
      (¬ arena.Clear target id ∧ (arena.reaches target id = .ok true ∨
        ∃ error, arena.reaches target id = .error (.refused error))) := by
  have ended := (straight.reaches_settles target id).1
  by_cases clear : arena.Clear target id
  · exact .inl ⟨clear, reachesWithin_of_clear _ target clear ended⟩
  · refine .inr ⟨clear, ?_⟩
    cases walk : arena.reaches target id with
    | ok met =>
      cases met with
      | true => exact .inl rfl
      | false => exact absurd (clear_of_reachesWithin _ target walk) clear
    | error stop =>
      rcases reachesWithin_stop _ target stop walk with rfl | ⟨error, rfl⟩
      · exact absurd walk ended
      · exact .inr ⟨error, rfl⟩

theorem change_answer (arena : Arena) (id : NodeId) (edit : Node → Except Refusal Node)
    (report : Refusal → List Event) :
    (arena.change id edit report).answer = .ok () ∨
      ∃ error, (arena.change id edit report).answer = .error (.refused error) := by
  rcases arena.change_cases id edit report with
    ⟨error, -, reply⟩ | ⟨_, error, -, -, reply⟩ | ⟨_, _, -, -, reply⟩ <;> rw [reply]
  · exact .inr ⟨error, rfl⟩
  · exact .inr ⟨error, rfl⟩
  · exact .inl rfl

structure Decides (arena : Arena) (admitted : Prop) (reply : Reply α) : Prop where
  answered : admitted → ∃ value, reply.answer = .ok value
  refused : ¬ admitted →
    ∃ error, reply.answer = .error (.refused error) ∧ reply.arena = arena

theorem Decides.map {admitted : Prop} {reply : Reply α} (decides : arena.Decides admitted reply)
    (read : α → β) : arena.Decides admitted (reply.map read) where
  answered holds := by
    obtain ⟨value, answer⟩ := decides.answered holds
    exact ⟨read value, Reply.map_eq_ok.mpr ⟨value, answer, rfl⟩⟩
  refused fails := by
    obtain ⟨error, answer, same⟩ := decides.refused fails
    exact ⟨error, Reply.map_eq_error.mpr answer, same⟩

theorem decides_answer {value : α} (after : Arena) (events : List Event) :
    arena.Decides True ⟨.ok value, after, events⟩ where
  answered _ := ⟨value, rfl⟩
  refused fails := absurd trivial fails

theorem decides_change {edit : Node → Except Refusal Node} {admits : Node → Prop}
    (report : Refusal → List Event) (exact : ∀ node, (∃ new, edit node = .ok new) ↔ admits node) :
    arena.Decides (∃ node, arena.owned id = .ok node ∧ admits node)
      (arena.change id edit report) := by
  rcases arena.change_cases id edit report with
    ⟨error, missing, reply⟩ | ⟨old, error, found, refused, reply⟩ | ⟨old, new, found, edited, reply⟩
  · rw [reply]
    refine ⟨?_, fun _ => ⟨error, rfl, rfl⟩⟩
    rintro ⟨node, found, -⟩
    rw [missing] at found
    cases found
  · rw [reply]
    refine ⟨?_, fun _ => ⟨error, rfl, rfl⟩⟩
    rintro ⟨node, found', admitted⟩
    obtain rfl := Except.ok.inj (found.symm.trans found')
    obtain ⟨new, edited⟩ := (exact old).mpr admitted
    rw [refused] at edited
    cases edited
  · rw [reply]
    have admitted := (exact old).mp ⟨new, edited⟩
    exact ⟨fun _ => ⟨(), rfl⟩, fun fails => absurd ⟨old, found, admitted⟩ fails⟩

theorem decides_newArray (room : NodeId.ofIndex? arena.size = some id) (element : Handle)
    (size : Option ArrayBound) :
    arena.Decides (element.isNull = false) (arena.newArray element size) := by
  cases null : element.isNull with
  | true =>
    simp only [newArray, create?, Node.arrayOf, Node.bare, Kind.needsElement, null, Except.map]
    exact ⟨fun valid => absurd valid (by decide), fun _ => ⟨_, rfl, rfl⟩⟩
  | false =>
    simp only [newArray, create?, Node.arrayOf, Node.bare, Kind.needsElement, null, Except.map,
      Handle.isValid, create, room]
    exact ⟨fun _ => ⟨_, rfl⟩, fun fails => absurd trivial fails⟩

theorem decides_pointerTo (room : NodeId.ofIndex? arena.size = some id)
    (interned : arena.Interned) (element : Handle) :
    arena.Decides (element.isNull = false) (arena.pointerTo element) := by
  cases known : arena.pointers[element]? with
  | some pointer =>
    -- No pointer was made for a null handle.
    rw [pointerTo_known known]
    exact ⟨fun _ => ⟨_, rfl⟩, fun fails => absurd (interned.valid element pointer known) fails⟩
  | none =>
    cases null : element.isNull with
    | true =>
      rw [pointerTo_null known null]
      exact ⟨nofun, fun _ => ⟨_, rfl, rfl⟩⟩
    | false =>
      rw [pointerTo_fresh known null room]
      exact ⟨fun _ => ⟨_, rfl⟩, fun fails => absurd rfl fails⟩

theorem Straight.decides_resolve (straight : arena.Straight) (id : NodeId) (target : Handle) :
    arena.Decides
      ((∃ node, arena.owned id = .ok node ∧ node.kind = .user) ∧ arena.Clear target id)
      (arena.resolve id target) := by
  rcases straight.reaches_cases target id with ⟨clear, apart⟩ | ⟨blocked, met | ⟨error, met⟩⟩
  · have changed : arena.Decides (∃ node, arena.owned id = .ok node ∧ node.kind = .user)
        (arena.change id (fun node => node.resolve target)
          fun error => [.rejected .target id error]) :=
      decides_change _ fun node => node.resolve_ok_iff target
    simp only [resolve, apart]
    exact ⟨fun admitted => changed.answered admitted.1,
      fun fails => changed.refused fun user => fails ⟨user, clear⟩⟩
  · simp only [resolve, met]
    exact ⟨fun admitted => absurd admitted.2 blocked, fun _ => ⟨_, rfl, rfl⟩⟩
  · simp only [resolve, met]
    exact ⟨fun admitted => absurd admitted.2 blocked, fun _ => ⟨error, rfl, rfl⟩⟩

theorem decides_overwrite (id : NodeId) (kind : Kind) (target : Handle) :
    arena.Decides
      ((kind ≠ .builtin ∧ (kind.needsElement = true ↔ target.isNull = false)) ∧
        ∃ node, arena.owned id = .ok node)
      (arena.overwrite id kind target) := by
  have built := Node.bare_ok_iff kind target
  unfold overwrite
  cases made : Node.bare kind target with
  | error error =>
    refine ⟨fun admitted => ?_, fun _ => ⟨error, rfl, rfl⟩⟩
    obtain ⟨node, made'⟩ := built.mpr admitted.1
    rw [made] at made'
    cases made'
  | ok node =>
    have changed : arena.Decides (∃ node, arena.owned id = .ok node ∧ True)
        (arena.change id (fun _ => .ok node) fun _ => []) :=
      decides_change _ fun _ => iff_of_true ⟨node, rfl⟩ trivial
    simp only [and_true] at changed
    exact ⟨fun admitted => changed.answered admitted.2,
      fun fails => changed.refused fun owned => fails ⟨built.mp ⟨node, made⟩, owned⟩⟩

end Arena

def Call.Admitted (arena : Arena) : Call → Prop
  | .newUser _ => True
  | .newTagged _ _ => True
  | .newFunction _ => True
  | .newArray element _ => element.isNull = false
  | .pointerTo element => element.isNull = false
  | .attachMembers id _ =>
    ∃ node, arena.owned id = .ok node ∧ node.kind.isTagged = true ∧ node.members? = none
  | .assignResult id _ => ∃ node, arena.owned id = .ok node ∧ node.kind = .func
  | .appendArgument id _ => ∃ node, arena.owned id = .ok node ∧ node.kind = .func
  | .resolve id target =>
    (∃ node, arena.owned id = .ok node ∧ node.kind = .user) ∧ arena.Clear target id
  | .assignCanonical id _ =>
    ∃ node, arena.owned id = .ok node ∧
      (node.kind = .user ∨ node.kind = .pointer ∨ node.kind = .array)
  | .overwrite id kind target =>
    (kind ≠ .builtin ∧ (kind.needsElement = true ↔ target.isNull = false)) ∧
      ∃ node, arena.owned id = .ok node

namespace Arena

variable {arena : Arena} {id : NodeId}

theorem Straight.decides_perform (straight : arena.Straight) (interned : arena.Interned)
    (room : NodeId.ofIndex? arena.size = some id) (call : Call) :
    arena.Decides (call.Admitted arena) (call.perform arena) := by
  have created (node : Node) : arena.Decides True (arena.create node) := by
    simp only [create, room]
    exact decides_answer _ _
  cases call with
  | newUser expr => exact (created _).map _
  | newTagged sort tag => exact (created _).map _
  | newFunction result => exact (created _).map _
  | newArray element size => exact (decides_newArray room element size).map _
  | pointerTo element => exact (decides_pointerTo room interned element).map _
  | attachMembers id members =>
    exact (decides_change _ fun node => node.attachMembers_ok_iff members).map _
  | assignResult id result =>
    exact (decides_change _ fun node => node.assignResult_ok_iff result).map _
  | appendArgument id arg =>
    exact (decides_change _ fun node => node.appendArgument_ok_iff arg).map _
  | resolve id target => exact (straight.decides_resolve id target).map _
  | assignCanonical id canonical =>
    exact (decides_change _ fun node => node.assignCanonical_ok_iff canonical).map _
  | overwrite id kind target => exact (decides_overwrite id kind target).map _

/-- In every arena that calls bring about, overwriting ones among them, as long as it has an id left
and no alias, pointer or array leads back to itself: a call is answered exactly when it is admitted,
and otherwise it is refused and leaves the nodes and the table of pointers as they were. -/
theorem answered_iff_admitted (calls : List Call)
    (room : (NodeId.ofIndex? (Arena.empty.run calls).size).isSome = true)
    (acyclic : Acyclic ((Arena.empty.run calls).Leads Node.spine)) (call : Call) :
    ((∃ answer, (call.perform (Arena.empty.run calls)).answer = .ok answer) ↔
      call.Admitted (Arena.empty.run calls)) ∧
    (¬ call.Admitted (Arena.empty.run calls) →
      ∃ error, (call.perform (Arena.empty.run calls)).answer = .error (.refused error) ∧
        (call.perform (Arena.empty.run calls)).arena = Arena.empty.run calls) := by
  obtain ⟨id, issued⟩ := Option.isSome_iff_exists.mp room
  have straight : (Arena.empty.run calls).Straight := ⟨acyclic⟩
  have decides := straight.decides_perform (Interned.empty.run calls) issued call
  refine ⟨⟨fun ⟨answer, answered⟩ => ?_, decides.answered⟩, decides.refused⟩
  by_contra fails
  obtain ⟨error, refused, -⟩ := decides.refused fails
  rw [refused] at answered
  cases answered

theorem answered_iff_admitted_turnedAliases :
    let arena := Arena.empty.run turnedAliases
    let back := Call.resolve ⟨64⟩ (Handle.ofNode ⟨67⟩)
    (NodeId.ofIndex? arena.size).isSome = true ∧ Acyclic (arena.Leads Node.spine) ∧
      ¬ back.Admitted arena ∧
      ∃ error, (back.perform arena).answer = .error (.refused error) ∧
        (back.perform arena).arena = arena := by
  have room : (NodeId.ofIndex? (Arena.empty.run turnedAliases).size).isSome = true := by cbv
  have acyclic := (Built.empty.run turnedAliases (by cbv)).sound.acyclic
  -- The array, the pointer in it and the alias that this points to lead back to the first alias.
  have array : (Arena.empty.run turnedAliases).lookup ⟨67⟩ =
      .ok ⟨Handle.ofNode ⟨66⟩, Handle.null, .array none⟩ := by cbv
  have pointer : (Arena.empty.run turnedAliases).lookup ⟨66⟩ =
      .ok ⟨Handle.ofNode ⟨65⟩, Handle.null, .pointer⟩ := by cbv
  have user : (Arena.empty.run turnedAliases).lookup ⟨65⟩ =
      .ok ⟨Handle.ofNode ⟨64⟩, Handle.null, .user (some (.identifier none "B"))⟩ := by cbv
  have first : (Arena.empty.run turnedAliases).Leads Node.spine ⟨67⟩ ⟨66⟩ :=
    ⟨_, array, _, List.mem_cons_self, rfl, rfl⟩
  have second : (Arena.empty.run turnedAliases).Leads Node.spine ⟨66⟩ ⟨65⟩ :=
    ⟨_, pointer, _, List.mem_cons_self, rfl, rfl⟩
  have third : (Arena.empty.run turnedAliases).Leads Node.spine ⟨65⟩ ⟨64⟩ :=
    ⟨_, user, _, List.mem_cons_self, rfl, rfl⟩
  have path : ReflTransGen ((Arena.empty.run turnedAliases).Leads Node.spine) ⟨67⟩ ⟨64⟩ :=
    .head first (.head second (.single third))
  have blocked :
      ¬ (Call.resolve ⟨64⟩ (Handle.ofNode ⟨67⟩)).Admitted (Arena.empty.run turnedAliases) :=
    fun admitted => (admitted.2 rfl _ path).1 rfl
  exact ⟨room, acyclic, blocked, (answered_iff_admitted turnedAliases room acyclic _).2 blocked⟩

end Arena

end TypeGraph
