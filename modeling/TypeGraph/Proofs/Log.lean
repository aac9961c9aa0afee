import TypeGraph.Proofs.Interning
import TypeGraph.Proofs.Links
import TypeGraph.Proofs.Replay

set_option autoImplicit false

namespace TypeGraph

namespace Event

def creation? : Event → Option (NodeId × Kind)
  | .created id kind => some (id, kind)
  | _ => none

theorem creation?_of_debug {event : Event} (debug : event.level = .debug) :
    event.creation? = none := by
  cases event with
  | created id kind => cases debug
  | _ => rfl

def creations (events : List Event) : List (NodeId × Kind) := events.filterMap creation?

theorem creations_of_debug {events : List Event} (debug : ∀ event ∈ events, event.level = .debug) :
    creations events = [] :=
  List.filterMap_eq_nil_iff.mpr fun event member => creation?_of_debug (debug event member)

end Event

namespace Entry

variable {element : Handle}

def Asked (history : List Entry) (call : Call) : Prop :=
  ∃ entry ∈ history, entry.call = call ∧ entry.answered = true

theorem answered_of_bears {earlier : List Entry} {entry : Entry}
    (bears : entry.bears earlier = true) : entry.answered = true := by
  simp only [Entry.bears, Bool.and_eq_true] at bears
  exact bears.1.1

theorem exists_birth_iff (history : List Entry) :
    (∃ birth ∈ births history, birth.call = .pointerTo element) ↔
      Asked history (.pointerTo element) := by
  induction history using List.reverseRecOn with
  | nil => simp [births, Asked]
  | append_singleton history entry ih =>
    rw [births_snoc]
    by_cases bears : entry.bears (births history) = true
    · simp [bears, Asked, or_and_right, exists_or, ih, answered_of_bears bears]
    · rw [if_neg bears, ih]
      constructor
      · rintro ⟨earlier, member, asked⟩
        exact ⟨earlier, List.mem_append_left _ member, asked⟩
      · rintro ⟨asking, member, asked, answered⟩
        rcases List.mem_append.mp member with earlier | last
        · exact ⟨asking, earlier, asked, answered⟩
        -- A pointer that is answered and not made was made before.
        · obtain rfl := List.mem_singleton.mp last
          rw [← ih]
          by_contra missing
          obtain ⟨call, answer⟩ := asking
          subst asked
          cases answer with
          | error stop => cases answered
          | ok pointer => exact bears (bears_pointerTo.mpr missing)

end Entry

namespace Arena

open Call Event Entry

variable {arena : Arena} {call : Call} {calls : List Call} {past : List Entry}
  {element pointer : Handle} {reply : Reply (Option Handle)}

def log (arena : Arena) : List Call → List Event
  | [] => []
  | call :: calls => (call.perform arena).events ++ (call.perform arena).arena.log calls

theorem kinds_of_outcome (keeps : call.isOverwrite = false) (outcome : call.Outcome arena reply) :
    reply.arena.parts Node.kind = arena.parts Node.kind ++ creations reply.events := by
  cases outcome with
  | refused stop events told => rw [creations_of_debug told, List.append_nil]
  | known wanted present => exact (List.append_nil _).symm
  | made wanted issued =>
    rw [parts_push Node.kind issued, Node.settled_kind]
    rfl
  | shared wanted valid missing issued => exact parts_push Node.kind issued
  | edited found edit =>
    rw [parts_store Node.kind found (edit.kind_eq keeps)]
    exact (List.append_nil _).symm

theorem kinds_run (arena : Arena) (calls : List Call)
    (keep : ∀ call ∈ calls, call.isOverwrite = false) :
    (arena.run calls).parts Node.kind = arena.parts Node.kind ++ creations (arena.log calls) := by
  induction calls generalizing arena with
  | nil => exact (List.append_nil _).symm
  | cons call calls ih =>
    obtain ⟨keeps, keep⟩ := List.forall_mem_cons.mp keep
    have step := kinds_of_outcome keeps (outcome_perform call arena)
    rw [run_cons, ih _ keep, step, log, creations, creations, creations, List.filterMap_append,
      List.append_assoc]

theorem pointers_of_history
    (member : ⟨.pointerTo element, .ok (some pointer)⟩ ∈ arena.history calls) :
    (arena.run calls).pointers[element]? = some pointer.node ∧
      pointer = Handle.ofNode pointer.node := by
  induction calls generalizing arena with
  | nil => cases member
  | cons call calls ih =>
    rcases List.mem_cons.mp member with now | later
    · obtain ⟨rfl, answer⟩ := Entry.mk.inj now
      obtain ⟨_, answered, ⟨⟩⟩ := Reply.map_eq_ok.mp answer.symm
      obtain ⟨known, same⟩ := pointers_of_pointerTo answered
      exact ⟨pointers_of_run calls known, same⟩
    · exact ih later

theorem Replays.events_of_pointerTo (replays : arena.Replays past)
    (answered : (arena.pointerTo element).answer = .ok pointer) :
    (Asked past (.pointerTo element) →
      (arena.pointerTo element).events = [.reusedPointer pointer.node]) ∧
    (¬ Asked past (.pointerTo element) →
      (arena.pointerTo element).events = [.created pointer.node .pointer]) := by
  have known := replays.shared element
  rw [exists_birth_iff] at known
  rw [known]
  rcases arena.pointerTo_cases element with
    ⟨id, present, reply⟩ | ⟨stop, reply⟩ | ⟨id, -, missing, -, reply⟩
  · rw [reply] at answered ⊢
    cases answered
    refine ⟨fun _ => rfl, fun absent => ?_⟩
    rw [present] at absent
    exact absurd rfl absent
  · rw [reply] at answered
    cases answered
  · rw [reply] at answered ⊢
    cases answered
    refine ⟨fun present => ?_, fun _ => rfl⟩
    rw [missing] at present
    cases present

theorem level_of_outcome (outcome : call.Outcome arena reply)
    (untraced : call.place?.isSome = true ∨ reply.answer.isOk = false) :
    ∀ event ∈ reply.events, event.level = .debug := by
  cases outcome with
  | refused stop events told => exact told
  | known wanted present =>
    subst wanted
    rcases untraced with changes | refused
    · cases changes
    · cases refused
  | made wanted issued =>
    rcases untraced with changes | refused
    · rw [place?_eq_none wanted.born?_eq.1] at changes
      cases changes
    · cases refused
  | shared wanted valid missing issued =>
    subst wanted
    rcases untraced with changes | refused
    · cases changes
    · cases refused
  | edited found edit => nofun

/-- The reports of a run without overwriting tell what the arena holds: the nodes that were reported
to be new are its nodes, in their order and with their kinds. A request for a pointer that is answered
reports just that, and the first one for its element that the pointer is new, all others that the
pointer of the first was found. What changes a node, and what fails, traces nothing, and the last
report counts the nodes. -/
theorem log_replays_arena (calls : List Call)
    (keep : ∀ call ∈ calls, call.isOverwrite = false) :
    let arena := Arena.empty.run calls
    let past := Arena.empty.history calls
    arena.toList.map (fun entry => (entry.1, entry.2.kind)) = creations (Arena.empty.log calls) ∧
    (∀ element pointer, (arena.pointerTo element).answer = .ok pointer →
      (Asked past (.pointerTo element) →
        (arena.pointerTo element).events = [.reusedPointer pointer.node]) ∧
      (¬ Asked past (.pointerTo element) →
        (arena.pointerTo element).events = [.created pointer.node .pointer]) ∧
      ∀ first, ⟨.pointerTo element, .ok (some first)⟩ ∈ past → first = pointer) ∧
    (∀ call : Call, call.place?.isSome = true ∨ (call.perform arena).answer.isOk = false →
      ∀ event ∈ (call.perform arena).events, event.level = .debug) ∧
    arena.release = [.releasing (creations (Arena.empty.log calls)).length] := by
  intro arena past
  have replays : arena.Replays past := Replays.empty.run calls keep
  have listed : arena.toList.map (fun entry => (entry.1, entry.2.kind)) =
      creations (Arena.empty.log calls) := kinds_run Arena.empty calls keep
  refine ⟨listed, ?_, ?_, ?_⟩
  · intro element pointer answered
    obtain ⟨found, made⟩ := replays.events_of_pointerTo answered
    refine ⟨found, made, fun first earlier => ?_⟩
    obtain ⟨known, same⟩ := pointers_of_history earlier
    rw [pointerTo_known known] at answered
    exact same.trans (Except.ok.inj answered)
  · exact fun call untraced => level_of_outcome (outcome_perform call arena) untraced
  · rw [← listed, List.length_map, replays.length_toList, ← replays.size]
    rfl

-- An alias to which a pointer is asked for twice, with calls in between that are refused.
def askedTwice : List Call :=
  [.newUser (.identifier none "T"), .pointerTo (Handle.ofNode ⟨64⟩), .newArray Handle.null none,
    .pointerTo (Handle.ofNode ⟨64⟩), .appendArgument ⟨64⟩ (Handle.ofNode ⟨65⟩),
    .newFunction (Handle.ofNode ⟨65⟩)]

theorem log_replays_arena_askedTwice :
    (∀ call ∈ askedTwice, call.isOverwrite = false) ∧
      (Arena.empty.run askedTwice).toList.map (fun entry => (entry.1, entry.2.kind)) =
        [(⟨64⟩, .user), (⟨65⟩, .pointer), (⟨66⟩, .func)] ∧
      (((Arena.empty.run askedTwice).pointerTo (Handle.ofNode ⟨64⟩)).events =
        [.reusedPointer ⟨65⟩]) ∧
      (((Arena.empty.run askedTwice).pointerTo (Handle.ofNode ⟨66⟩)).events =
        [.created ⟨67⟩ .pointer]) ∧
      (Arena.empty.run askedTwice).release = [.releasing 3] := by
  have keep : ∀ call ∈ askedTwice, call.isOverwrite = false := by decide
  have reported : creations (Arena.empty.log askedTwice) =
      [(⟨64⟩, .user), (⟨65⟩, .pointer), (⟨66⟩, .func)] := by cbv
  have asked : ((Arena.empty.history askedTwice).any fun entry =>
      entry.call = .pointerTo (Handle.ofNode ⟨64⟩) && entry.answered) = true := by cbv
  have unasked : ((Arena.empty.history askedTwice).any fun entry =>
      entry.call = .pointerTo (Handle.ofNode ⟨66⟩) && entry.answered) = false := by cbv
  obtain ⟨listed, pointers, -, released⟩ := log_replays_arena askedTwice keep
  refine ⟨keep, listed.trans reported, ?_, ?_, ?_⟩
  · exact (pointers (Handle.ofNode ⟨64⟩) (Handle.ofNode ⟨65⟩) (by cbv)).1
      (by simpa [Asked] using asked)
  · exact (pointers (Handle.ofNode ⟨66⟩) (Handle.ofNode ⟨67⟩) (by cbv)).2.1
      (by simpa [Asked] using unasked)
  · rw [released, reported]
    rfl

end Arena

end TypeGraph
