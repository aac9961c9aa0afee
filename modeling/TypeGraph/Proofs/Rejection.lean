import TypeGraph.Proofs.Circling
import TypeGraph.Proofs.Replay

set_option autoImplicit false

namespace TypeGraph

open Relation Descent

namespace Node

variable {edit : Node → Except Refusal Node}

def TellsKind (edit : Node → Except Refusal Node) : Prop :=
  ∀ node error, edit node = .error error → error.kind? = some node.kind

theorem tellsKind_attachMembers (members : List Member) :
    TellsKind fun node => node.attachMembers members := by
  intro node error refused
  simp only [attachMembers] at refused
  split at refused
  · split at refused <;> cases refused
    rfl
  · cases refused
    rfl

theorem tellsKind_assignResult (result : Handle) :
    TellsKind fun node => node.assignResult result := by
  intro node error refused
  simp only [assignResult] at refused
  split at refused <;> cases refused
  rfl

theorem tellsKind_appendArgument (arg : Handle) :
    TellsKind fun node => node.appendArgument arg := by
  intro node error refused
  simp only [appendArgument] at refused
  split at refused <;> cases refused
  rfl

theorem tellsKind_resolve (target : Handle) : TellsKind fun node => node.resolve target := by
  intro node error refused
  simp only [resolve] at refused
  split at refused <;> cases refused
  rfl

theorem tellsKind_assignCanonical (canonical : Handle) :
    TellsKind fun node => node.assignCanonical canonical := by
  intro node error refused
  simp only [assignCanonical] at refused
  split at refused <;> cases refused
  rfl

end Node

namespace Arena

variable {arena : Arena} {id : NodeId} {target : Handle} {error : Refusal} {call : Call}
  {edit : Node → Except Refusal Node} {report : Refusal → List Event}

def HasKind (arena : Arena) (id : NodeId) (kind : Kind) : Prop :=
  ∃ node, arena.lookup id = .ok node ∧ node.kind = kind

/-- Whether the way from a type along aliases, pointers and arrays comes to `id`, which need not name
a node. -/
def LeadsTo (arena : Arena) (target : Handle) (id : NodeId) : Prop :=
  target.isNull = false ∧ ReflTransGen (arena.Leads Node.spine) target.node id

def Fits (arena : Arena) (id : NodeId) (error : Refusal) : Prop :=
  (∃ kind, error.kind? = some kind ∧ arena.HasKind id kind) ∨ arena.lookup id = .error error

theorem fits_of_owned (refused : arena.owned id = .error error) : arena.Fits id error := by
  unfold owned at refused
  by_cases shared : id.isBuiltin = true
  · rw [if_pos shared] at refused
    cases refused
    rw [NodeId.isBuiltin_eq_isSome] at shared
    obtain ⟨builtin, named⟩ := Option.isSome_iff_exists.mp shared
    exact .inl ⟨.builtin, rfl, Node.ofBuiltin builtin, by simp [lookup, named], rfl⟩
  · rw [if_neg shared] at refused
    exact .inr refused

theorem fits_of_change (tells : Node.TellsKind edit)
    (refused : (arena.change id edit report).answer = .error (.refused error)) :
    arena.Fits id error := by
  rcases arena.change_cases id edit report with
    ⟨_, missing, reply⟩ | ⟨old, _, found, edited, reply⟩ | ⟨_, _, -, -, reply⟩
  · rw [reply] at refused
    cases refused
    exact fits_of_owned missing
  · rw [reply] at refused
    cases refused
    exact .inl ⟨old.kind, tells old _ edited, old, lookup_of_owned found, rfl⟩
  · rw [reply] at refused
    cases refused

theorem leadsTo_of_reachesWithin (levels : Nat) (handle : Handle)
    (reached : arena.reachesWithin id levels handle = .ok true) : arena.LeadsTo handle id := by
  induction levels generalizing handle with
  | zero => cases reached
  | succ levels ih =>
    cases null : handle.isNull with
    | true => simp [reachesWithin, null] at reached
    | false =>
      by_cases same : handle.node = id
      · exact ⟨null, same ▸ .refl⟩
      · cases found : arena.lookup handle.node with
        | error refusal => simp [reachesWithin, null, same, found] at reached
        | ok node =>
          rw [reachesWithin_of_lookup levels null same found] at reached
          by_cases stands : node.spine = []
          · rw [if_pos stands] at reached
            cases reached
          · rw [if_neg stands] at reached
            obtain ⟨valid, path⟩ := ih node.target reached
            exact ⟨null, .head (leads_of_mem found (Node.target_mem_spine stands) valid) path⟩

theorem avoids_of_path {a : NodeId} (path : ReflTransGen (arena.Leads Node.spine) a id) :
    ReflTransGen (arena.Avoids id) a id := by
  induction path using ReflTransGen.head_induction_on with
  | refl => exact .refl
  | @head a b first _ ih =>
    by_cases same : a = id
    · exact same ▸ .refl
    · exact .head ⟨same, first⟩ ih

theorem not_winds_of_avoids {a : NodeId} (path : ReflTransGen (arena.Avoids id) a id) :
    ¬ Winds (arena.Avoids id) a := by
  induction path using ReflTransGen.head_induction_on with
  | refl =>
    intro winds
    obtain ⟨b, step, -⟩ := winds.next
    exact step.1 rfl
  | head first _ ih =>
    intro winds
    obtain ⟨b, step, winds⟩ := winds.next
    -- There is one way down only.
    obtain ⟨-, node, found, link⟩ := first
    obtain ⟨-, -, rfl⟩ := Leads.eq_target ⟨node, found, link⟩ found
    obtain ⟨-, -, rfl⟩ := step.2.eq_target found
    exact ih winds

theorem reachesWithin_of_leadsTo (levels : Nat) (handle : Handle) (leads : arena.LeadsTo handle id)
    (ends : (arena.reachesWithin id levels handle).Ends) :
    arena.reachesWithin id levels handle = .ok true := by
  induction levels generalizing handle with
  | zero => exact absurd rfl ends
  | succ levels ih =>
    obtain ⟨valid, path⟩ := leads
    by_cases same : handle.node = id
    · simp [reachesWithin, valid, same]
    · rcases ReflTransGen.cases_head path with met | ⟨next, ⟨node, found, link⟩, rest⟩
      · exact absurd met same
      · obtain ⟨stands, valid', rfl⟩ := Leads.eq_target ⟨node, found, link⟩ found
        rw [reachesWithin_of_lookup levels valid same found, if_neg (by simp [stands])] at ends ⊢
        exact ih node.target ⟨valid', rest⟩ ends

theorem reaches_eq_true_iff : arena.reaches target id = .ok true ↔ arena.LeadsTo target id := by
  constructor
  · exact leadsTo_of_reachesWithin _ target
  · intro leads
    have free : ¬ arena.Circles id target :=
      fun circles => not_winds_of_avoids (avoids_of_path leads.2) circles.2
    exact reachesWithin_of_leadsTo _ target leads (reaches_settles_of_not_circles free).1

theorem kind?_of_reachesWithin (levels : Nat) (handle : Handle)
    (refused : arena.reachesWithin id levels handle = .error (.refused error)) :
    error.kind? = none := by
  induction levels generalizing handle with
  | zero => cases refused
  | succ levels ih =>
    cases null : handle.isNull with
    | true => simp [reachesWithin, null] at refused
    | false =>
      by_cases same : handle.node = id
      · simp [reachesWithin, null, same] at refused
      · cases found : arena.lookup handle.node with
        | error refusal =>
          simp only [reachesWithin, null, same, found] at refused
          cases refused
          rcases lookup_error_cases found with ⟨-, rfl⟩ | ⟨-, rfl⟩ <;> rfl
        | ok node =>
          rw [reachesWithin_of_lookup levels null same found] at refused
          split at refused
          · cases refused
          · exact ih node.target refused

theorem resolve_refused_cases
    (refused : (arena.resolve id target).answer = .error (.refused error)) :
    (arena.LeadsTo target id ∧ error = cycleError) ∨
      (¬ arena.LeadsTo target id ∧ (error.kind? = none ∨ arena.Fits id error)) := by
  cases walk : arena.reaches target id with
  | error stop =>
    rw [resolve_of_error walk] at refused
    cases refused
    have apart : ¬ arena.LeadsTo target id := by
      simp [← reaches_eq_true_iff, walk]
    exact .inr ⟨apart, .inl (kind?_of_reachesWithin _ target walk)⟩
  | ok reached =>
    cases reached with
    | true =>
      simp only [resolve, walk] at refused
      cases refused
      exact .inl ⟨reaches_eq_true_iff.mp walk, rfl⟩
    | false =>
      have apart : ¬ arena.LeadsTo target id := by
        simp [← reaches_eq_true_iff, walk]
      simp only [resolve, walk] at refused
      exact .inr ⟨apart, .inr (fits_of_change (Node.tellsKind_resolve target) refused)⟩

theorem refused_cases (placed : call.place? = some id) (binds : call.isOverwrite = false)
    (refused : (call.perform arena).answer = .error (.refused error)) :
    (∃ target, call = .resolve id target ∧ arena.LeadsTo target id ∧ error = cycleError) ∨
      (∀ target, call = .resolve id target → ¬ arena.LeadsTo target id) ∧
        (error.kind? = none ∨ arena.Fits id error) := by
  -- Each call that completes a node is a change of it, the resolution of an alias after a search.
  cases call with
  | attachMembers place members =>
    cases placed
    exact .inr ⟨nofun,
      .inr (fits_of_change (Node.tellsKind_attachMembers members) (Reply.map_eq_error.mp refused))⟩
  | assignResult place result =>
    cases placed
    exact .inr ⟨nofun,
      .inr (fits_of_change (Node.tellsKind_assignResult result) (Reply.map_eq_error.mp refused))⟩
  | appendArgument place arg =>
    cases placed
    exact .inr ⟨nofun,
      .inr (fits_of_change (Node.tellsKind_appendArgument arg) (Reply.map_eq_error.mp refused))⟩
  | resolve place target =>
    cases placed
    rcases resolve_refused_cases (Reply.map_eq_error.mp refused) with ⟨leads, same⟩ | ⟨apart, rest⟩
    · exact .inl ⟨target, rfl, leads, same⟩
    · refine .inr ⟨?_, rest⟩
      rintro _ ⟨⟩
      exact apart
  | assignCanonical place canonical =>
    cases placed
    exact .inr ⟨nofun,
      .inr (fits_of_change (Node.tellsKind_assignCanonical canonical) (Reply.map_eq_error.mp refused))⟩
  | overwrite place kind target => cases binds
  | _ => cases placed

theorem LeadsTo.isNull (leads : arena.LeadsTo target id) : id.isNull = false := by
  rcases ReflTransGen.cases_tail leads.2 with same | ⟨met, -, node, found, handle, -, valid, same⟩
  · exact same ▸ leads.1
  · exact same ▸ valid

theorem HasKind.unique {kind other : Kind} (has : arena.HasKind id kind)
    (has' : arena.HasKind id other) : kind = other := by
  obtain ⟨node, found, rfl⟩ := has
  obtain ⟨node', found', rfl⟩ := has'
  rw [found] at found'
  cases found'
  rfl

/-- In every arena, a call that completes a node and is refused as an invalid operation is so on an id
that is not null. The error tells the kind of the node there, except that a cycle is told of an alias
on whatever id the target of the call leads to. -/
theorem rejection_names_node_iff (arena : Arena) {operation reason : String} {kind : Kind}
    (placed : call.place? = some id) (binds : call.isOverwrite = false)
    (rejected : (call.perform arena).answer =
      .error (.refused (.invalidOperation operation kind reason))) :
    id.isNull = false ∧
    (arena.HasKind id kind ↔
      ∀ target, call = .resolve id target → arena.LeadsTo target id → arena.HasKind id .user) ∧
    ∀ target, call = .resolve id target → arena.LeadsTo target id →
      Refusal.invalidOperation operation kind reason = cycleError := by
  rcases refused_cases placed binds rejected with ⟨target, rfl, leads, same⟩ | ⟨apart, fits⟩
  · have user : kind = .user := by
      cases same
      rfl
    refine ⟨leads.isNull, ⟨fun has _ _ _ => user ▸ has, fun has => user ▸ has target rfl leads⟩, ?_⟩
    intro _ _ _
    exact same
  · have has : arena.HasKind id kind := by
      rcases fits with none | ⟨_, ⟨⟩, has⟩ | missing
      · cases none
      · exact has
      · rcases lookup_error_cases missing with ⟨-, ⟨⟩⟩ | ⟨-, ⟨⟩⟩
    have present : id.isNull = false := by
      obtain ⟨node, found, -⟩ := has
      exact isNull_of_lookup found
    exact ⟨present, iff_of_true has fun target call leads => absurd leads (apart target call),
      fun target call leads => absurd leads (apart target call)⟩

-- A struct with a pointer to it.
def pointedStruct : List Call :=
  [.newTagged .struct "S", .pointerTo (Handle.ofNode ⟨64⟩)]

theorem rejection_names_node_iff_pointedStruct :
    let arena := Arena.empty.run pointedStruct
    let call := Call.assignResult ⟨65⟩ Handle.null
    (call.perform arena).answer =
        .error (.refused (.invalidOperation "set_return_type" .pointer
          "only function types have a return type")) ∧
      arena.HasKind ⟨65⟩ .pointer := by
  have refused : ((Call.assignResult ⟨65⟩ Handle.null).perform
      (Arena.empty.run pointedStruct)).answer =
        .error (.refused (.invalidOperation "set_return_type" .pointer
          "only function types have a return type")) := by cbv
  refine ⟨refused,
    (rejection_names_node_iff (Arena.empty.run pointedStruct) rfl rfl refused).2.1.mpr ?_⟩
  intro target resolves
  cases resolves

theorem pointedStruct_misnamed :
    (¬ ∀ (calls : List Call) (call : Call) (id : NodeId) (operation reason : String) (kind : Kind),
      call.place? = some id → call.isOverwrite = false →
        (call.perform (Arena.empty.run calls)).answer =
            .error (.refused (.invalidOperation operation kind reason)) →
          (Arena.empty.run calls).HasKind id kind) ∧
      (Arena.empty.run pointedStruct).HasKind ⟨64⟩ .struct ∧
      ((Arena.empty.run pointedStruct).resolve ⟨64⟩ (Handle.ofNode ⟨65⟩)).answer =
        .error (.refused cycleError) ∧
      (Arena.empty.run pointedStruct).contains ⟨99⟩ = false ∧
      ((Arena.empty.run pointedStruct).resolve ⟨99⟩ (Handle.ofNode ⟨99⟩)).answer =
        .error (.refused cycleError) := by
  have struct : (Arena.empty.run pointedStruct).HasKind ⟨64⟩ .struct :=
    ⟨⟨Handle.null, Handle.ofNode ⟨64⟩, .tagged .struct { tag := "S" }⟩, by cbv, rfl⟩
  have back : ((Call.resolve ⟨64⟩ (Handle.ofNode ⟨65⟩)).perform
      (Arena.empty.run pointedStruct)).answer = .error (.refused cycleError) := by cbv
  refine ⟨fun claim => ?_, struct, by cbv, by cbv, by cbv⟩
  have user := claim pointedStruct _ ⟨64⟩ _ _ _ rfl rfl back
  cases struct.unique user

end Arena

end TypeGraph
