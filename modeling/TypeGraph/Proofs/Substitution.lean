import TypeGraph.Proofs.Locality

set_option autoImplicit false

namespace TypeGraph

open Relation Descent

namespace Node

def ownWidth (node : Node) : Answer Nat :=
  match node.payload with
  | .builtin builtin => .ok builtin.width
  | .user _ =>
    .error (.refused (.invalidOperation "width" .user "the user type is not resolved yet"))
  | .tagged .enum _ => .ok Arena.enumWidth
  | .tagged sort _ => .error (.refused (.unsupported "width" sort.kind))
  | .func _ | .pointer => .ok Arena.pointerWidth
  | .array _ => .error (.fault .nullHandle)

theorem eq_target_of_mem_measured {node : Node} {handle : Handle}
    (member : handle ∈ node.measured) : handle = node.target := by
  obtain ⟨target, canonical, payload⟩ := node
  cases payload with
  | user name => exact List.mem_singleton.mp member
  | array size => exact List.mem_singleton.mp member
  | _ => cases member

theorem mem_spine_of_mem_measured {node : Node} {handle : Handle}
    (member : handle ∈ node.measured) : handle ∈ node.spine := by
  obtain ⟨target, canonical, payload⟩ := node
  cases payload with
  | user name => exact member
  | array size => exact member
  | _ => cases member

end Node

namespace Arena

variable {arena : Arena} {id a b last other : NodeId} {node old : Node} {target : Handle}

def Rests (arena : Arena) (id : NodeId) (node : Node) : Prop :=
  arena.lookup id = .ok node ∧ ∀ handle ∈ node.measured, handle.isNull = true

/-- Whether the chain from a type, through the targets of resolved aliases and the elements of arrays,
ends at a node. -/
def EndsAt (arena : Arena) (id last : NodeId) (node : Node) : Prop :=
  ReflTransGen (arena.Leads Node.measured) id last ∧ arena.Rests last node

theorem Leads.spine_of_measured (leads : arena.Leads Node.measured a b) :
    arena.Leads Node.spine a b := by
  obtain ⟨node, found, handle, member, link⟩ := leads
  exact ⟨node, found, handle, Node.mem_spine_of_mem_measured member, link⟩

theorem Leads.measured_unique (leads : arena.Leads Node.measured a b)
    (leads' : arena.Leads Node.measured a other) : other = b := by
  obtain ⟨node, found, handle, member, -, rfl⟩ := leads
  obtain ⟨node', found', handle', member', -, rfl⟩ := leads'
  rw [found] at found'
  cases found'
  rw [Node.eq_target_of_mem_measured member, Node.eq_target_of_mem_measured member']

theorem Rests.not_leads (rests : arena.Rests a node) : ¬ arena.Leads Node.measured a b := by
  rintro ⟨node', found, handle, member, valid, -⟩
  cases rests.1.symm.trans found
  rw [rests.2 handle member] at valid
  cases valid

theorem EndsAt.unique {node' : Node} (ends : arena.EndsAt id last node)
    (ends' : arena.EndsAt id other node') : other = last := by
  obtain ⟨path, rests⟩ := ends
  induction path using ReflTransGen.head_induction_on with
  | refl =>
    rcases ReflTransGen.cases_head ends'.1 with same | ⟨next, first, -⟩
    · exact same.symm
    · exact absurd first rests.not_leads
  | head first _ ih =>
    rcases ReflTransGen.cases_head ends'.1 with rfl | ⟨next, first', rest⟩
    · exact absurd first ends'.2.not_leads
    · cases first.measured_unique first'
      exact ih ⟨rest, ends'.2⟩

theorem Sound.exists_endsAt (sound : arena.Sound) (present : arena.contains id = true) :
    ∃ last node, arena.EndsAt id last node := by
  induction depth : arena.depth id using Nat.strong_induction_on generalizing id with
  | _ depth ih =>
    obtain ⟨node, found⟩ := contains_iff.mp present
    by_cases rests : ∀ handle ∈ node.measured, handle.isNull = true
    · exact ⟨id, node, .refl, found, rests⟩
    · push Not at rests
      obtain ⟨handle, member, valid⟩ := rests
      have leads := leads_of_mem found member (Bool.eq_false_iff.mpr valid)
      have lower := sound.depth_lt leads.spine_of_measured
      obtain ⟨last, node', path, ended⟩ :=
        ih _ (by omega) (sound.contains_of_leads leads.spine_of_measured) rfl
      exact ⟨last, node', .head leads path, ended⟩

theorem Straight.width_of_leads (straight : arena.Straight)
    (leads : arena.Leads Node.measured a b) : arena.width a = arena.width b :=
  (widthWithin_of_leads _ leads).trans ((straight.width_settles b).2 _ (Nat.le_refl _))

theorem Straight.width_of_path (straight : arena.Straight)
    (path : ReflTransGen (arena.Leads Node.measured) a b) : arena.width a = arena.width b := by
  induction path with
  | refl => rfl
  | tail _ leads ih => exact ih.trans (straight.width_of_leads leads)

theorem Rests.width (rests : arena.Rests last node) : arena.width last = node.ownWidth := by
  obtain ⟨found, none⟩ := rests
  obtain ⟨target, canonical, payload⟩ := node
  unfold width Arena.levels
  cases payload with
  | user name => simp [widthWithin, found, none target List.mem_cons_self, Node.ownWidth]
  | array size =>
    simp [widthWithin, found, Handle.andThen_of_null (none target List.mem_cons_self),
      Node.ownWidth]
  | tagged sort body => cases sort <;> simp [widthWithin, found, Node.ownWidth] <;> rfl
  | _ => simp [widthWithin, found, Node.ownWidth]

theorem Straight.width_of_endsAt (straight : arena.Straight) (ends : arena.EndsAt id last node) :
    arena.width id = node.ownWidth :=
  (straight.width_of_path ends.1).trans ends.2.width

theorem Founded.kind_of_rests (founded : arena.Founded) (rests : arena.Rests last node) :
    node.kind ≠ .array := by
  intro array
  have valid := founded last node rests.1 (by rw [array]; rfl)
  obtain ⟨target, canonical, payload⟩ := node
  cases payload with
  | array size =>
    rw [rests.2 target List.mem_cons_self] at valid
    cases valid
  | tagged sort body => cases sort <;> cases array
  | _ => cases array

theorem width_of_unknown {after : Arena} (missing : arena.contains id = false)
    (same : after.lookup id = arena.lookup id) : after.width id = arena.width id := by
  cases found : arena.lookup id with
  | ok node =>
    rw [contains_iff.mpr ⟨node, found⟩] at missing
    cases missing
  | error refusal => simp [width, Arena.levels, widthWithin, found, same]

theorem resolve_eq_ok (answered : (arena.resolve id target).answer = .ok ()) :
    ∃ old, arena.owned id = .ok old ∧ old.kind = .user ∧ arena.reaches target id = .ok false ∧
      (arena.resolve id target).arena = arena.store id { old with target := target } := by
  cases walk : arena.reaches target id with
  | error stop => simp [resolve, walk] at answered
  | ok reached =>
    cases reached with
    | true => simp [resolve, walk] at answered
    | false =>
      simp only [resolve, walk, change] at answered ⊢
      cases found : arena.owned id with
      | error error => simp [found] at answered
      | ok old =>
        by_cases user : old.kind = .user
        · exact ⟨old, rfl, user, trivial, by simp [Node.resolve, user]⟩
        · simp [found, Node.resolve, user] at answered

structure GivesTarget (arena after : Arena) (a : NodeId) (old : Node) (target : Handle) : Prop where
  found : arena.lookup a = .ok old
  user : old.kind = .user
  unresolved : old.target.isNull = true
  valid : target.isNull = false
  placed : after.lookup a = .ok { old with target := target }
  elsewhere : ∀ other, other ≠ a → after.lookup other = arena.lookup other

section Resolving

variable {after : Arena} (gives : arena.GivesTarget after a old target)
include gives

theorem GivesTarget.rests : arena.Rests a old :=
  ⟨gives.found, fun _ member => Node.eq_target_of_mem_measured member ▸ gives.unresolved⟩

theorem GivesTarget.leads {x y : NodeId} (leads : arena.Leads Node.measured x y) :
    after.Leads Node.measured x y := by
  have apart : x ≠ a := by
    rintro rfl
    exact gives.rests.not_leads leads
  obtain ⟨node, found, link⟩ := leads
  exact ⟨node, (gives.elsewhere x apart).trans found, link⟩

theorem GivesTarget.path {x y : NodeId} (path : ReflTransGen (arena.Leads Node.measured) x y) :
    ReflTransGen (after.Leads Node.measured) x y :=
  ReflTransGen.mono (fun _ _ leads => gives.leads leads) _ _ path

theorem GivesTarget.leads_target : after.Leads Node.measured a target.node := by
  obtain ⟨expr, user⟩ := Node.kind_eq_user gives.user
  exact ⟨_, gives.placed, target, by simp [Node.measured, user], gives.valid, rfl⟩

theorem GivesTarget.endsAt (ends : arena.EndsAt id last node) (apart : last ≠ a) :
    after.EndsAt id last node :=
  ⟨gives.path ends.1, (gives.elsewhere last apart).trans ends.2.1, ends.2.2⟩

theorem GivesTarget.width_kept (sound : arena.Sound) (straight : after.Straight)
    (apart : ¬ arena.EndsAt id a old) : after.width id = arena.width id := by
  by_cases present : arena.contains id = true
  · obtain ⟨last, node, ends⟩ := sound.exists_endsAt present
    have elsewhere : last ≠ a := by
      rintro rfl
      cases gives.found.symm.trans ends.2.1
      exact apart ends
    rw [straight.width_of_endsAt (gives.endsAt ends elsewhere), sound.width_of_endsAt ends]
  · have different : id ≠ a := by
      rintro rfl
      exact present (contains_iff.mpr ⟨old, gives.found⟩)
    rw [width_of_unknown (Bool.eq_false_iff.mpr present) (gives.elsewhere id different)]

theorem GivesTarget.width_given (sound : arena.Sound) (straight : after.Straight)
    (clear : arena.Clear target a) (ends : arena.EndsAt id a old) :
    after.width id = arena.width target.node := by
  have path : ReflTransGen (after.Leads Node.measured) id target.node :=
    (gives.path ends.1).tail gives.leads_target
  have apart : ¬ arena.EndsAt target.node a old := by
    intro ends
    have back : ReflTransGen (arena.Leads Node.spine) target.node a :=
      ReflTransGen.mono (fun _ _ leads => leads.spine_of_measured) _ _ ends.1
    exact (clear gives.valid a back).1 rfl
  rw [straight.width_of_path path, gives.width_kept sound straight apart]

end Resolving

theorem givesTarget_of_resolve (answered : (arena.resolve a target).answer = .ok ())
    (found : arena.lookup a = .ok old) (unresolved : old.target.isNull = true)
    (valid : target.isNull = false) :
    arena.GivesTarget (arena.resolve a target).arena a old target := by
  obtain ⟨same, owned, user, -, stored⟩ := resolve_eq_ok answered
  cases (lookup_of_owned owned).symm.trans found
  rw [stored]
  exact { found := found
          user := user
          unresolved := unresolved
          valid := valid
          placed := by rw [lookup_store owned, if_pos rfl]
          elsewhere := fun other apart => by rw [lookup_store owned, if_neg apart] }

theorem Sound.straight_of_resolve (sound : arena.Sound) (a : NodeId) (target : Handle) :
    (arena.resolve a target).arena.Straight := by
  have effect := effect_perform (.resolve a target) arena
  -- No pointer and no array is made.
  have elements : ∀ handle ∈ (Call.resolve a target).elements, arena.resolves handle = true := nofun
  exact (sound.upright.effect rfl elements effect).toStraight

/-- In every arena that is built, the width of a type is that of the one node at which its chain through
the targets of resolved aliases and the elements of arrays ends. A target that is given to an
unresolved alias takes the place of the alias: all types whose chain ended there get the width that the
node of the target had before and has still, and no other width changes. -/
theorem width_follows_chain (built : Built arena) :
    (∀ id, arena.contains id = true →
      ∃! last : NodeId × Node, arena.EndsAt id last.1 last.2) ∧
    (∀ id last node, arena.EndsAt id last node →
      node.kind ≠ .array ∧ arena.width id = node.ownWidth) ∧
    ∀ a old target, arena.lookup a = .ok old → old.kind = .user → old.target.isNull = true →
      target.isNull = false → (arena.resolve a target).answer = .ok () →
        let after := (arena.resolve a target).arena
        after.width target.node = arena.width target.node ∧
          ∀ id, (arena.EndsAt id a old → after.width id = arena.width target.node) ∧
            (¬ arena.EndsAt id a old → after.width id = arena.width id) := by
  have sound := built.sound
  refine ⟨fun id present => ?_, fun id last node ends => ?_, ?_⟩
  · obtain ⟨last, node, ends⟩ := sound.exists_endsAt present
    refine ⟨(last, node), ends, fun other ends' => ?_⟩
    have same : other.1 = last := ends.unique ends'
    have found := ends'.2.1
    rw [same, ends.2.1] at found
    exact Prod.ext same (Except.ok.inj found).symm
  · exact ⟨built.founded.kind_of_rests ends.2, sound.width_of_endsAt ends⟩
  · intro a old target found _ unresolved valid answered
    obtain ⟨-, -, -, apart, -⟩ := resolve_eq_ok answered
    have clear := clear_of_reachesWithin _ target apart
    have straight := sound.straight_of_resolve a target
    have gives := givesTarget_of_resolve answered found unresolved valid
    refine ⟨?_, fun id => ⟨gives.width_given sound straight clear, gives.width_kept sound straight⟩⟩
    by_cases ends : arena.EndsAt target.node a old
    · exact gives.width_given sound straight clear ends
    · exact gives.width_kept sound straight ends

-- An alias with arrays over it, made before the alias is resolved to a second alias of an array.
def lateAlias : List Call :=
  [.newUser (.identifier none "A"), .newArray (Handle.ofNode ⟨64⟩) none,
    .newUser (.identifier none "B"), .newArray (Handle.ofNode (NodeId.ofBuiltin .i64)) none,
    .resolve ⟨66⟩ (Handle.ofNode ⟨67⟩)]

theorem width_follows_chain_lateAlias :
    let arena := Arena.empty.run lateAlias
    let after := (arena.resolve ⟨64⟩ (Handle.ofNode ⟨66⟩)).arena
    Built arena ∧ (arena.resolve ⟨64⟩ (Handle.ofNode ⟨66⟩)).answer = .ok () ∧
      arena.width ⟨65⟩ =
        .error (.refused
          (.invalidOperation "width" .user "the user type is not resolved yet")) ∧
      after.width ⟨65⟩ = .ok 8 := by
  have built := Built.empty.run lateAlias (by cbv)
  have array : (Arena.empty.run lateAlias).lookup ⟨65⟩ =
      .ok ⟨Handle.ofNode ⟨64⟩, Handle.null, .array none⟩ := by cbv
  have user : (Arena.empty.run lateAlias).lookup ⟨64⟩ =
      .ok ⟨Handle.null, Handle.null, .user (some (.identifier none "A"))⟩ := by cbv
  have answered : ((Arena.empty.run lateAlias).resolve ⟨64⟩ (Handle.ofNode ⟨66⟩)).answer =
      .ok () := by cbv
  have ends : (Arena.empty.run lateAlias).EndsAt ⟨65⟩ ⟨64⟩
      ⟨Handle.null, Handle.null, .user (some (.identifier none "A"))⟩ :=
    ⟨.single ⟨_, array, _, List.mem_cons_self, rfl, rfl⟩, user, by simp [Node.measured]; rfl⟩
  obtain ⟨-, widths, resolving⟩ := width_follows_chain built
  have given := (resolving _ _ _ user rfl rfl rfl answered).2 ⟨65⟩
  exact ⟨built, answered, (widths _ _ _ ends).2, (given.1 ends).trans (by cbv)⟩

end Arena

end TypeGraph
