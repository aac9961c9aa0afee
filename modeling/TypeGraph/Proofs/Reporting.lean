import TypeGraph.Proofs.Rejection

set_option autoImplicit false

namespace TypeGraph

def Event.Notes (event : Event) (id : NodeId) : Prop :=
  event.level = .debug ∧ ("id", id.inspect) ∈ event.fields

/-- Whether a rejection of the call is reported. Builtins are refused by the look-up, before which
only the search for a cycle is made. -/
def Call.Noted (call : Call) (arena : Arena) : Prop :=
  match call with
  | .attachMembers id _ | .assignResult id _ | .appendArgument id _ => id.isBuiltin = false
  | .resolve id target => id.isBuiltin = false ∨ arena.LeadsTo target id
  | _ => False

namespace Arena

variable {arena : Arena} {call : Call} {id : NodeId} {target : Handle} {node : Node} {error : Refusal}
  {edit : Node → Except Refusal Node} {report : Refusal → List Event} {noted noted' : Prop}

/-- What a call on `id` reports: nothing when it is answered or misses a node, and one event when it
is rejected, provided that this is noted. -/
structure Reply.Reports {α : Type} (reply : Reply α) (id : NodeId) (noted : Prop) : Prop where
  answered : ∀ value, reply.answer = .ok value → reply.events = []
  missed : ∀ error, reply.answer = .error (.refused error) → error.kind? = none → reply.events = []
  rejected : ∀ error, reply.answer = .error (.refused error) → error.kind?.isSome = true →
    (noted → ∃ event, reply.events = [event] ∧ event.Notes id) ∧ (¬ noted → reply.events = [])

namespace Reply

variable {α β : Type} {reply : Reply α}

theorem Reports.map (reports : reply.Reports id noted) (read : α → β) :
    (reply.map read).Reports id noted where
  answered value answered := by
    obtain ⟨whole, answered, -⟩ := map_eq_ok.mp answered
    exact reports.answered whole answered
  missed error stopped := reports.missed error (map_eq_error.mp stopped)
  rejected error stopped := reports.rejected error (map_eq_error.mp stopped)

theorem Reports.congr (reports : reply.Reports id noted) (same : noted ↔ noted') :
    reply.Reports id noted' := propext same ▸ reports

theorem Reports.of_silent (silent : reply.events = [])
    (unnoted : ∀ error, reply.answer = .error (.refused error) →
      error.kind?.isSome = true → ¬ noted) : reply.Reports id noted where
  answered _ _ := silent
  missed _ _ _ := silent
  rejected error stopped tells :=
    ⟨fun noted => absurd noted (unnoted error stopped tells), fun _ => silent⟩

theorem Reports.of_noted (stopped : reply.answer = .error (.refused error))
    (tells : error.kind?.isSome = true) (holds : noted)
    (told : ∃ event, reply.events = [event] ∧ event.Notes id) : reply.Reports id noted where
  answered value answered := by
    rw [stopped] at answered
    cases answered
  missed other missed none := by
    rw [stopped] at missed
    cases missed
    rw [none] at tells
    cases tells
  rejected _ _ _ := ⟨fun _ => told, fun unnoted => absurd holds unnoted⟩

end Reply

theorem isBuiltin_of_owned (found : arena.owned id = .ok node) : id.isBuiltin = false := by
  rw [NodeId.isBuiltin_eq_isSome, builtin?_of_owned found]
  rfl

theorem isBuiltin_of_refused (refused : arena.owned id = .error error)
    (tells : error.kind?.isSome = true) : id.isBuiltin = true := by
  unfold owned at refused
  split at refused
  · assumption
  · rcases lookup_error_cases refused with ⟨-, rfl⟩ | ⟨-, rfl⟩ <;> cases tells

theorem reports_of_change (tells : Node.TellsKind edit)
    (notes : ∀ error, ∃ event, report error = [event] ∧ event.Notes id) :
    (arena.change id edit report).Reports id (id.isBuiltin = false) := by
  rcases arena.change_cases id edit report with
    ⟨error, refused, reply⟩ | ⟨old, error, found, refused, reply⟩ | ⟨old, new, -, -, reply⟩
  · rw [reply]
    refine .of_silent rfl ?_
    rintro _ ⟨⟩ tells
    rw [isBuiltin_of_refused refused tells]
    nofun
  · rw [reply]
    have told : error.kind?.isSome = true := by
      rw [tells old error refused]
      rfl
    exact .of_noted rfl told (isBuiltin_of_owned found) (notes error)
  · rw [reply]
    exact .of_silent rfl nofun

theorem reports_of_assignCanonical (canonical : Handle) :
    (arena.assignCanonical id canonical).Reports id False := by
  refine .of_silent ?_ fun _ _ _ => not_false
  rcases arena.change_cases id (fun node => node.assignCanonical canonical) fun _ => [] with
    ⟨_, -, reply⟩ | ⟨_, _, -, -, reply⟩ | ⟨_, _, -, -, reply⟩ <;> rw [assignCanonical, reply]

theorem reports_of_resolve :
    (arena.resolve id target).Reports id (id.isBuiltin = false ∨ arena.LeadsTo target id) := by
  cases walk : arena.reaches target id with
  | error stop =>
    simp only [resolve, walk]
    refine .of_silent rfl ?_
    rintro error ⟨⟩ tells
    rw [kind?_of_reachesWithin _ target walk] at tells
    cases tells
  | ok reached =>
    cases reached with
    | true =>
      have leads : arena.LeadsTo target id := reaches_eq_true_iff.mp walk
      simp only [resolve, walk]
      exact .of_noted rfl rfl (.inr leads) ⟨_, rfl, rfl, List.mem_cons_self⟩
    | false =>
      have apart : ¬ arena.LeadsTo target id := by
        simp [← reaches_eq_true_iff, walk]
      simp only [resolve, walk]
      refine (reports_of_change (Node.tellsKind_resolve target) ?_).congr (by simp [apart])
      exact fun error => ⟨_, rfl, rfl, List.mem_cons_self⟩

theorem reports_perform (arena : Arena) (placed : call.place? = some id)
    (binds : call.isOverwrite = false) : (call.perform arena).Reports id (call.Noted arena) := by
  cases call with
  | attachMembers place members =>
    cases placed
    exact (reports_of_change (Node.tellsKind_attachMembers members)
      fun error => ⟨_, rfl, rfl, List.mem_cons_self⟩).map _
  | assignResult place result =>
    cases placed
    exact (reports_of_change (Node.tellsKind_assignResult result)
      fun error => ⟨_, rfl, rfl, List.mem_cons_self⟩).map _
  | appendArgument place arg =>
    cases placed
    exact (reports_of_change (Node.tellsKind_appendArgument arg)
      fun error => ⟨_, rfl, rfl, List.mem_cons_self⟩).map _
  | resolve place target =>
    cases placed
    exact reports_of_resolve.map _
  | assignCanonical place canonical =>
    cases placed
    exact (reports_of_assignCanonical canonical).map _
  | overwrite place kind target => cases binds
  | _ => cases placed

/-- In every arena, a call that completes a node and is rejected reports one event that tells its id
if it is noted, and nothing if it is not. It reports nothing either when it is answered or finds no
node. -/
theorem rejection_reported_iff (arena : Arena) (placed : call.place? = some id)
    (binds : call.isOverwrite = false) :
    let reply := call.perform arena
    (∀ operation kind reason,
      reply.answer = .error (.refused (.invalidOperation operation kind reason)) →
        ((∃ event, reply.events = [event] ∧ event.Notes id) ↔ call.Noted arena) ∧
        (reply.events = [] ↔ ¬ call.Noted arena)) ∧
    ((∃ answer, reply.answer = .ok answer) ∨ reply.answer = .error (.refused .nullType) ∨
      (∃ other, reply.answer = .error (.refused (.unknownType other))) → reply.events = []) := by
  intro reply
  have reports : reply.Reports id (call.Noted arena) := reports_perform arena placed binds
  constructor
  · intro operation kind reason rejected
    obtain ⟨told, untold⟩ := reports.rejected _ rejected rfl
    by_cases noted : call.Noted arena
    · obtain ⟨event, only, notes⟩ := told noted
      simp [noted, only, notes]
    · simp [noted, untold noted]
  · rintro (⟨answer, answered⟩ | missed | ⟨other, missed⟩)
    · exact reports.answered answer answered
    · exact reports.missed _ missed rfl
    · exact reports.missed _ missed rfl

-- A struct that has its members.
def completeStruct : List Call := [.newTagged .struct "S", .attachMembers ⟨64⟩ []]

theorem rejection_reported_iff_completeStruct :
    let arena := Arena.empty.run completeStruct
    let again := (Call.attachMembers ⟨64⟩ []).perform arena
    again.answer = .error (.refused
        (.invalidOperation "set_members" .struct "members are already set")) ∧
      (∃ event, again.events = [event] ∧ event.Notes ⟨64⟩) ∧
      ((Call.appendArgument ⟨99⟩ Handle.null).perform arena).events = [] := by
  intro arena again
  have rejected : again.answer = .error (.refused
      (.invalidOperation "set_members" .struct "members are already set")) := by cbv
  have missed : ((Call.appendArgument ⟨99⟩ Handle.null).perform arena).answer =
      .error (.refused (.unknownType ⟨99⟩)) := by cbv
  refine ⟨rejected, ?_, ?_⟩
  · have noted : (Call.attachMembers ⟨64⟩ []).Noted arena := by
      show NodeId.isBuiltin ⟨64⟩ = false
      decide
    exact ((rejection_reported_iff arena rfl rfl).1 _ _ _ rejected).1.mpr noted
  · exact (rejection_reported_iff arena rfl rfl).2 (.inr (.inr ⟨_, missed⟩))

theorem completeStruct_unreported :
    (¬ ∀ (calls : List Call) (call : Call) (id : NodeId) (operation reason : String) (kind : Kind),
      call.place? = some id → call.isOverwrite = false →
        (call.perform (Arena.empty.run calls)).answer =
            .error (.refused (.invalidOperation operation kind reason)) →
          ∃ event, (call.perform (Arena.empty.run calls)).events = [event] ∧ event.Notes id) ∧
      let settle := (Arena.empty.run completeStruct).assignCanonical ⟨64⟩ (Handle.ofNode ⟨8⟩)
      let attach := (Arena.empty.run completeStruct).attachMembers ⟨8⟩ []
      settle.answer = .error (.refused
        (.invalidOperation "set_canonical_type" .struct "the node is its own canonical type")) ∧
      settle.events = [] ∧
      attach.answer = .error (.refused
        (.invalidOperation "get_mut" .builtin "builtin types are shared and immutable")) ∧
      attach.events = [] := by
  have settled : ((Call.assignCanonical ⟨64⟩ (Handle.ofNode ⟨8⟩)).perform
      (Arena.empty.run completeStruct)).answer = .error (.refused
        (.invalidOperation "set_canonical_type" .struct "the node is its own canonical type")) := by
    cbv
  have silent : ((Call.assignCanonical ⟨64⟩ (Handle.ofNode ⟨8⟩)).perform
      (Arena.empty.run completeStruct)).events = [] := by cbv
  refine ⟨fun always => ?_, by cbv, by cbv, by cbv, by cbv⟩
  obtain ⟨event, only, -⟩ := always completeStruct _ ⟨64⟩ _ _ _ rfl rfl settled
  rw [silent] at only
  cases only

end Arena

end TypeGraph
