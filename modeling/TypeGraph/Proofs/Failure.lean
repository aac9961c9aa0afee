import TypeGraph.Proofs.Enclosing

set_option autoImplicit false

namespace TypeGraph

open Relation Descent

namespace PrinterOver

variable {σ α : Type} {reason : Stop} {fails later : Prop} {first printer : PrinterOver σ}
  {parts : List (PrinterOver σ)}

def StopsWhen (reason : Stop) (fails : Prop) (printer : PrinterOver σ) : Prop :=
  ∀ state, (fails ∧ (printer state).stop = some reason) ∨ (¬ fails ∧ (printer state).stop = none)

abbrev Safe (printer : PrinterOver σ) : Prop := StopsOnly (fun _ => False) printer

theorem stopsWhen_of_safe (safe : Safe printer) : StopsWhen reason False printer := by
  intro state
  cases ended : (printer state).stop with
  | none => exact .inr ⟨id, rfl⟩
  | some met => exact absurd (safe state met ended) id

theorem StopsWhen.of_iff (stops : StopsWhen reason fails printer) (same : later ↔ fails) :
    StopsWhen reason later printer := by
  rwa [propext same]

theorem stopsWhen_stop (reason : Stop) : StopsWhen reason True (stop reason : PrinterOver σ) :=
  fun _ => .inl ⟨trivial, rfl⟩

theorem stopsWhen_nil : StopsWhen reason False (seq [] : PrinterOver σ) := fun _ => .inr ⟨id, rfl⟩

theorem stopsWhen_cons (head : StopsWhen reason fails first)
    (tail : StopsWhen reason later (seq parts)) :
    StopsWhen reason (fails ∨ later) (seq (first :: parts)) := by
  intro state
  cases ran : first state with
  | mk after ended =>
    rcases head state with ⟨failed, stopped⟩ | ⟨passed, done⟩
    · rw [ran] at stopped
      subst stopped
      exact .inl ⟨.inl failed, by rw [seq_cons_of_stop ran]⟩
    · rw [ran] at done
      subst done
      rw [seq_cons_of_done ran]
      rcases tail after with ⟨failed, stopped⟩ | ⟨passed', done⟩
      · exact .inl ⟨.inr failed, stopped⟩
      · exact .inr ⟨not_or.mpr ⟨passed, passed'⟩, done⟩

theorem stopsWhen_after (safe : Safe first) (tail : StopsWhen reason fails (seq parts)) :
    StopsWhen reason fails (seq (first :: parts)) :=
  (stopsWhen_cons (stopsWhen_of_safe safe) tail).of_iff (by simp)

theorem stopsWhen_before (head : StopsWhen reason fails first) (safe : Safe (seq parts)) :
    StopsWhen reason fails (seq (first :: parts)) :=
  (stopsWhen_cons head (stopsWhen_of_safe safe)).of_iff (by simp)

theorem stopsWhen_each {items : List α} {print : α → PrinterOver σ} {fails : α → Prop}
    (item : ∀ item ∈ items, StopsWhen reason (fails item) (print item)) :
    StopsWhen reason (∃ item ∈ items, fails item) (each items print) := by
  induction items with
  | nil => exact stopsWhen_nil.of_iff (by simp)
  | cons one rest ih =>
    obtain ⟨head, tail⟩ := List.forall_mem_cons.mp item
    exact (stopsWhen_cons head (ih tail)).of_iff (by simp)

end PrinterOver

namespace Printer

open PrinterOver

variable {α : Type} {reason : Stop} {fails : Prop} {print : NodeId → Printer} {target : Handle}

theorem stopsWhen_handle
    (node : target.isNull = false → StopsWhen reason fails (print target.node)) :
    StopsWhen reason (target.isNull = false ∧ fails) (handle print target) := by
  unfold handle
  cases null : target.isNull with
  | true => exact (stopsWhen_of_safe (stopsOnly_text "NULL")).of_iff (by simp)
  | false =>
    have printed := stopsWhen_after (stopsOnly_keywords target.quals)
      (stopsWhen_before (node null) stopsOnly_nil)
    exact printed.of_iff (by simp)

theorem stopsWhen_separated {items : List α} {write : α → Printer} {fails : α → Prop}
    (item : ∀ item ∈ items, StopsWhen reason (fails item) (write item)) :
    StopsWhen reason (∃ item ∈ items, fails item) (separated items write) := by
  cases items with
  | nil => exact stopsWhen_nil.of_iff (by simp)
  | cons first rest =>
    obtain ⟨head, tail⟩ := List.forall_mem_cons.mp item
    have others : StopsWhen reason (∃ item ∈ rest, fails item)
        (each rest fun item => seq [text ", ", write item]) := by
      apply stopsWhen_each
      intro one member
      exact stopsWhen_after (stopsOnly_text ", ") (stopsWhen_before (tail one member) stopsOnly_nil)
    exact (stopsWhen_cons head (stopsWhen_before others stopsOnly_nil)).of_iff (by simp)

end Printer

namespace Node

def fields (node : Node) : List Handle :=
  if node.kind = .struct ∨ node.kind = .union then node.members.map Member.type else []

def contents (node : Node) : List Handle := node.spine ++ node.fields

end Node

namespace Arena

open PrinterOver Printer

variable {arena : Arena} {id a b : NodeId} {node : Node} {target handle : Handle}
  {active : List NodeId} {next : Node → List Handle} {indent levels : Nat}

def IsFunction (arena : Arena) (id : NodeId) : Prop :=
  ∃ node, arena.lookup id = .ok node ∧ node.kind = .func

/-- Whether a type stands on a function, so that it has no name. -/
def Nameless (arena : Arena) (target : Handle) : Prop :=
  target.isNull = false ∧ Reaches (arena.Leads Node.spine) arena.IsFunction target.node

/-- Whether a node is a function that returns or takes a type that has no name. -/
def Unprintable (arena : Arena) (id : NodeId) : Prop :=
  ∃ node, arena.lookup id = .ok node ∧ node.kind = .func ∧
    ∃ handle ∈ node.result :: node.args, arena.Nameless handle

theorem exists_leads_iff (found : arena.lookup id = .ok node) (goal : NodeId → Prop) :
    (∃ b, arena.Leads next id b ∧ goal b) ↔
      ∃ handle ∈ next node, handle.isNull = false ∧ goal handle.node := by
  constructor
  · rintro ⟨b, ⟨node', found', handle, member, valid, rfl⟩, reached⟩
    obtain rfl : node' = node := Except.ok.inj (found'.symm.trans found)
    exact ⟨handle, member, valid, reached⟩
  · rintro ⟨handle, member, valid, reached⟩
    exact ⟨_, leads_of_mem found member valid, reached⟩

theorem isFunction_iff (found : arena.lookup id = .ok node) :
    arena.IsFunction id ↔ node.kind = .func := by
  simp [IsFunction, found]

theorem Sound.name_stops (sound : arena.Sound) (levels : Nat) (id : NodeId)
    (known : arena.contains id = true) (enough : arena.depth id < levels) :
    StopsWhen (.refused unnamedFunction) (Reaches (arena.Leads Node.spine) arena.IsFunction id)
      (arena.nameWithin levels id) := by
  induction levels generalizing id with
  | zero => omega
  | succ levels ih =>
    obtain ⟨node, found⟩ := contains_iff.mp known
    -- In a sound arena what a node stands on is null or names a node, which lies less deep.
    have below (stands : node.target ∈ node.spine) :
        StopsWhen (.refused unnamedFunction) (arena.Nameless node.target)
          (Printer.handle (arena.nameWithin levels) node.target) := by
      apply stopsWhen_handle
      intro valid
      have leads := leads_of_mem found stands valid
      have shallower := sound.depth_lt leads
      exact ih _ (sound.contains_of_leads leads) (by omega)
    have split : Reaches (arena.Leads Node.spine) arena.IsFunction id ↔
        node.kind = .func ∨ ∃ handle ∈ node.spine, arena.Nameless handle := by
      rw [reaches_iff, isFunction_iff found, exists_leads_iff found]
      rfl
    refine StopsWhen.of_iff ?_ split
    simp only [nameWithin, found]
    obtain ⟨target, canonical, payload⟩ := node
    cases payload with
    | builtin which =>
      exact (stopsWhen_of_safe (stopsOnly_text _)).of_iff (by
        simp [Node.kind, Payload.kind, Node.spine])
    | user name =>
      simp only
      split
      · exact (below List.mem_cons_self).of_iff (by simp [Node.kind, Payload.kind, Node.spine])
      · rename_i null
        simp only [Handle.isValid, Bool.not_eq_true, Bool.not_eq_false'] at null
        exact (stopsWhen_of_safe (stopsOnly_optional stopsOnly_expr)).of_iff (by
          simp [Node.kind, Payload.kind, Node.spine, Nameless, null])
    | tagged sort body =>
      have safe : Safe (seq [kind sort.kind, text body.tag]) := stopsOnly_seq (by simp)
      exact (stopsWhen_of_safe safe).of_iff (by
        cases sort <;> simp [Node.kind, Payload.kind, TagKind.kind, Node.spine])
    | func args => exact (stopsWhen_stop _).of_iff (by simp [Node.kind, Payload.kind])
    | pointer =>
      have printed := stopsWhen_before (below List.mem_cons_self)
        (stopsOnly_cons (stopsOnly_text "*") stopsOnly_nil)
      exact printed.of_iff (by simp [Node.kind, Payload.kind, Node.spine])
    | array size =>
      have printed := stopsWhen_before (below List.mem_cons_self)
        (stopsOnly_cons (stopsOnly_brackets size) stopsOnly_nil)
      exact printed.of_iff (by simp [Node.kind, Payload.kind, Node.spine])

theorem Sound.writeName_stops (sound : arena.Sound) (resolved : arena.resolves target = true) :
    StopsWhen (.refused unnamedFunction) (arena.Nameless target) (arena.writeName target) := by
  apply stopsWhen_handle
  intro valid
  have known : arena.contains target.node = true := by simpa [resolves, valid] using resolved
  have shallow := arena.depth_le_size target.node
  have deep := arena.size_lt_levels
  exact sound.name_stops arena.levels target.node known (by omega)

def Within (arena : Arena) (active : List NodeId) (a b : NodeId) : Prop :=
  arena.Leads Node.spine a b ∨ a ∉ active ∧ arena.Leads Node.fields a b

theorem unprintable_iff (found : arena.lookup id = .ok node) :
    arena.Unprintable id ↔
      node.kind = .func ∧ ∃ handle ∈ node.result :: node.args, arena.Nameless handle := by
  simp [Unprintable, found]

theorem reaches_within_iff (found : arena.lookup id = .ok node) :
    Reaches (arena.Within active) arena.Unprintable id ↔
      arena.Unprintable id ∨
        (∃ handle ∈ node.spine, handle.isNull = false ∧
          Reaches (arena.Within active) arena.Unprintable handle.node) ∨
        id ∉ active ∧ ∃ handle ∈ node.fields, handle.isNull = false ∧
          Reaches (arena.Within active) arena.Unprintable handle.node := by
  rw [reaches_iff, ← exists_leads_iff found, ← exists_leads_iff found]
  simp only [Within, or_and_right, exists_or, and_assoc, exists_and_left]

-- A way through a struct that comes back to it can be cut short: what counts is the part behind the
-- last visit, and that part is open while the struct is being written out.
theorem reaches_within_tagged (found : arena.lookup id = .ok node)
    (entered : node.kind = .struct ∨ node.kind = .union) :
    Reaches (arena.Within active) arena.Unprintable id ↔
      id ∉ active ∧ ∃ handle ∈ node.fields, handle.isNull = false ∧
        Reaches (arena.Within (id :: active)) arena.Unprintable handle.node := by
  have apart : ¬ arena.Unprintable id := by
    rw [unprintable_iff found]
    rcases entered with kind | kind <;> simp [kind]
  have standing : node.spine = [] := by
    rw [Node.spine_eq_ite]
    rcases entered with kind | kind <;> simp [kind]
  constructor
  · rintro ⟨bad, path, fails⟩
    have other : bad ≠ id := by
      rintro rfl
      exact apart fails
    obtain ⟨c, first, rest⟩ := last_visit path other
    rcases first with down | ⟨fresh, into⟩
    · simpa [standing] using down.eq_target found
    · have inside (x y : NodeId) (step : x ≠ id ∧ arena.Within active x y) :
          arena.Within (id :: active) x y := by
        obtain ⟨left, down | ⟨fresh, into⟩⟩ := step
        · exact .inl down
        · exact .inr ⟨by simp [left, fresh], into⟩
      exact ⟨fresh, (exists_leads_iff found _).mp
        ⟨c, into, bad, ReflTransGen.mono inside _ _ rest, fails⟩⟩
  · rintro ⟨fresh, handle, member, valid, bad, path, fails⟩
    have outside (x y : NodeId) (step : arena.Within (id :: active) x y) :
        arena.Within active x y := by
      refine step.imp_right fun ⟨fresh, into⟩ => ⟨fun present => ?_, into⟩
      exact fresh (List.mem_cons_of_mem _ present)
    exact ⟨bad, .head (.inr ⟨fresh, leads_of_mem found member valid⟩)
      (ReflTransGen.mono outside _ _ path), fails⟩

theorem safe_writeNodeName {element canonical : Handle} {sort : TagKind} {body : Body}
    (found : arena.lookup id = .ok ⟨element, canonical, .tagged sort body⟩) :
    Safe (arena.writeNodeName id) := by
  simp only [writeNodeName, Arena.levels, nameWithin, found]
  exact stopsOnly_seq (by simp)

theorem stopsWhen_expandBody {print : Handle → Printer} {fails : Member → Prop} (indent : Nat)
    (sort : TagKind) (body : Body) {reason : Stop}
    (members : ∀ member ∈ body.members.getD [],
      StopsWhen reason (fails member) (print member.type)) :
    StopsWhen reason (∃ member ∈ body.members.getD [], fails member)
      (expandBody print indent sort body) := by
  have lines : StopsWhen reason (∃ member ∈ body.members.getD [], fails member)
      (each (body.members.getD []) fun member =>
        seq [spaces (indent + indentStep), print member.type,
          text (" " ++ member.name ++ ";\n")]) := by
    apply stopsWhen_each
    intro member present
    exact stopsWhen_after (stopsOnly_spaces _)
      (stopsWhen_before (members member present) (stopsOnly_cons (stopsOnly_text _) stopsOnly_nil))
  exact stopsWhen_after (stopsOnly_text _) (stopsWhen_before lines
    (stopsOnly_cons (stopsOnly_spaces _) (stopsOnly_cons (stopsOnly_text _) stopsOnly_nil)))

theorem stopsWhen_tagged {element canonical : Handle} {sort : TagKind} {body : Body} {reason : Stop}
    {print : Handle → Printer} (indent : Nat)
    (found : arena.lookup id = .ok ⟨element, canonical, .tagged sort body⟩)
    (kind : sort.kind = .struct ∨ sort.kind = .union)
    (members : id ∉ active → ∀ member ∈ body.members.getD [],
      StopsWhen reason (member.type.isNull = false ∧
        Reaches (arena.Within (id :: active)) arena.Unprintable member.type.node)
        (print member.type)) :
    StopsWhen reason (Reaches (arena.Within active) arena.Unprintable id)
      (if id ∈ active then arena.writeNodeName id else expandBody print indent sort body) := by
  have split : Reaches (arena.Within active) arena.Unprintable id ↔ _ :=
    reaches_within_tagged found kind
  by_cases present : id ∈ active
  · rw [if_pos present]
    exact (stopsWhen_of_safe (safe_writeNodeName found)).of_iff (by simp [split, present])
  · rw [if_neg present]
    have fields : Node.fields ⟨element, canonical, .tagged sort body⟩ =
        (body.members.getD []).map Member.type := if_pos kind
    exact (stopsWhen_expandBody indent sort body (members present)).of_iff (by
      simpa [present, fields] using split)

theorem Sound.expand_stops (sound : arena.Sound) (levels : Nat) (active : List NodeId)
    (target : Handle) (opened : arena.Open active) (resolved : arena.resolves target = true)
    (enough : arena.room (active, target) < levels) (indent : Nat) :
    StopsWhen (.refused unnamedFunction)
      (target.isNull = false ∧ Reaches (arena.Within active) arena.Unprintable target.node)
      (arena.expandWithin levels active indent target) := by
  -- Each level is paid for by the room that the state above has left.
  induction levels generalizing active target indent with
  | zero => omega
  | succ levels ih =>
    apply stopsWhen_handle
    intro valid
    obtain ⟨node, found⟩ := contains_iff.mp
      (by simpa [resolves, valid] using resolved : arena.contains target.node = true)
    have below (active' : List NodeId) (handle : Handle) (member : handle ∈ node.handles)
        (goes : arena.Goes (active, target) (active', handle)) (indent : Nat) :
        StopsWhen (.refused unnamedFunction)
          (handle.isNull = false ∧ Reaches (arena.Within active') arena.Unprintable handle.node)
          (arena.expandWithin levels active' indent handle) := by
      obtain ⟨opened', lower⟩ := sound.room_lt opened goes
      exact ih active' handle opened' (sound.closed _ _ found handle member) (by omega) indent
    have split : Reaches (arena.Within active) arena.Unprintable target.node ↔ _ :=
      (reaches_within_iff found).trans (or_congr_left (unprintable_iff found))
    have down (stands : node.target ∈ node.spine) :=
      below active node.target List.mem_cons_self (.down valid found stands) indent
    have named (handle : Handle) (member : handle ∈ node.handles) :=
      sound.writeName_stops (sound.closed _ _ found handle member)
    simp only [expandNode, found]
    obtain ⟨element, canonical, payload⟩ := node
    cases payload with
    | builtin which =>
      exact (stopsWhen_of_safe (stopsOnly_text _)).of_iff (by
        simpa [Node.kind, Payload.kind, Node.spine, Node.fields] using split)
    | user name =>
      simp only
      split
      · exact (down List.mem_cons_self).of_iff (by
          simpa [Node.kind, Payload.kind, Node.spine, Node.fields] using split)
      · rename_i null
        simp only [Handle.isValid, Bool.not_eq_true, Bool.not_eq_false'] at null
        exact (stopsWhen_of_safe (stopsOnly_optional stopsOnly_expr)).of_iff (by
          simpa [Node.kind, Payload.kind, Node.spine, Node.fields, null] using split)
    | tagged sort body =>
      have members (fresh : target.node ∉ active) (member : Member)
          (present : member ∈ body.members.getD []) :=
        below (target.node :: active) member.type
          (List.mem_cons_of_mem _ (List.mem_append_right _ (List.mem_map_of_mem present)))
          (.into found rfl fresh present) (indent + indentStep)
      cases sort with
      | struct => exact stopsWhen_tagged indent found (.inl rfl) members
      | union => exact stopsWhen_tagged indent found (.inr rfl) members
      | enum =>
        exact (stopsWhen_of_safe (stopsOnly_text _)).of_iff (by
          simpa [Node.kind, Payload.kind, TagKind.kind, Node.spine, Node.fields] using split)
    | func args =>
      have list := stopsWhen_separated fun arg (member : arg ∈ args) =>
        named arg (List.mem_cons_of_mem _ (List.mem_append_left _ member))
      have signature := stopsWhen_cons (named element List.mem_cons_self)
        (stopsWhen_after (stopsOnly_text "(")
          (stopsWhen_before list (stopsOnly_cons (stopsOnly_text ")") stopsOnly_nil)))
      exact (stopsWhen_after (stopsOnly_text "func ") signature).of_iff (by
        simpa [Node.kind, Payload.kind, Node.spine, Node.fields, Node.result, Node.args]
          using split)
    | pointer =>
      have printed := stopsWhen_before (down List.mem_cons_self)
        (stopsOnly_cons (stopsOnly_text "*") stopsOnly_nil)
      exact printed.of_iff (by
        simpa [Node.kind, Payload.kind, Node.spine, Node.fields] using split)
    | array size =>
      have printed := stopsWhen_before (down List.mem_cons_self)
        (stopsOnly_cons (stopsOnly_brackets size) stopsOnly_nil)
      exact printed.of_iff (by
        simpa [Node.kind, Payload.kind, Node.spine, Node.fields] using split)

theorem within_nil : arena.Within [] = arena.Leads Node.contents := by
  funext a b
  apply propext
  constructor
  · rintro (⟨node, found, handle, member, link⟩ | ⟨-, node, found, handle, member, link⟩)
    · exact ⟨node, found, handle, List.mem_append_left _ member, link⟩
    · exact ⟨node, found, handle, List.mem_append_right _ member, link⟩
  · rintro ⟨node, found, handle, member, link⟩
    rcases List.mem_append.mp member with down | into
    · exact .inl ⟨node, found, handle, down, link⟩
    · exact .inr ⟨List.not_mem_nil, node, found, handle, into, link⟩

/-- In every arena that is built the full form of a type that is null or names a node fails exactly
if the type leads, along aliases, pointers, arrays and the members of structs and unions, to a
function that returns or takes a type without a name. It fails because this type is to be named. -/
theorem full_fails_iff (built : Built arena) (target : Handle)
    (resolved : arena.resolves target = true) (indent : Nat) (sink : Sink) :
    ((arena.writeFull target indent sink).stop ≠ none ↔
      target.isNull = false ∧
        ∃ bad, ReflTransGen (arena.Leads Node.contents) target.node bad ∧ arena.Unprintable bad) ∧
    ∀ stop, (arena.writeFull target indent sink).stop = some stop →
      stop = .refused unnamedFunction := by
  have sound := built.sound
  have enough : arena.room ([], target) < arena.levels * arena.levels :=
    Nat.lt_of_lt_of_le (arena.room_nil_lt target)
      (Nat.mul_le_mul arena.size_lt_levels arena.size_lt_levels)
  have expanded := sound.expand_stops _ [] target ⟨List.nodup_nil, nofun⟩ resolved enough indent
  rw [within_nil] at expanded
  have written := stopsWhen_after (stopsOnly_spaces indent)
    (stopsWhen_before expanded stopsOnly_nil)
  rw [← writeFull_eq] at written
  rcases written sink with ⟨fails, stopped⟩ | ⟨passes, done⟩
  · rw [stopped]
    exact ⟨iff_of_true nofun fails, fun stop same => (Option.some.inj same).symm⟩
  · rw [done]
    exact ⟨iff_of_false (fun stopped => stopped rfl) passes, nofun⟩

-- A struct that holds a pointer to itself before a pointer to a function that returns a function.
def hiddenFunction : List Call :=
  [.newTagged .struct "S", .pointerTo (Handle.ofNode ⟨64⟩), .newFunction Handle.null,
    .newFunction (Handle.ofNode ⟨66⟩), .pointerTo (Handle.ofNode ⟨67⟩),
    .attachMembers ⟨64⟩ [.plain "next" (Handle.ofNode ⟨65⟩), .plain "make" (Handle.ofNode ⟨68⟩)]]

theorem full_fails_iff_hiddenFunction :
    Built (Arena.empty.run hiddenFunction) ∧
      (Arena.empty.run hiddenFunction).resolves (Handle.ofNode ⟨65⟩) = true ∧
      ((Arena.empty.run hiddenFunction).writeFull (Handle.ofNode ⟨65⟩) 0 Sink.plain).stop ≠
        none := by
  have built := Built.empty.run hiddenFunction (by cbv)
  have resolved : (Arena.empty.run hiddenFunction).resolves (Handle.ofNode ⟨65⟩) = true := by cbv
  have list : (Arena.empty.run hiddenFunction).lookup ⟨65⟩ =
      .ok ⟨Handle.ofNode ⟨64⟩, Handle.null, .pointer⟩ := by cbv
  have struct : (Arena.empty.run hiddenFunction).lookup ⟨64⟩ =
      .ok ⟨Handle.null, Handle.ofNode ⟨64⟩, .tagged .struct ⟨"S", some
        [.plain "next" (Handle.ofNode ⟨65⟩), .plain "make" (Handle.ofNode ⟨68⟩)]⟩⟩ := by cbv
  have callback : (Arena.empty.run hiddenFunction).lookup ⟨68⟩ =
      .ok ⟨Handle.ofNode ⟨67⟩, Handle.null, .pointer⟩ := by cbv
  have outer : (Arena.empty.run hiddenFunction).lookup ⟨67⟩ =
      .ok ⟨Handle.ofNode ⟨66⟩, Handle.ofNode ⟨67⟩, .func []⟩ := by cbv
  have inner : (Arena.empty.run hiddenFunction).lookup ⟨66⟩ =
      .ok ⟨Handle.null, Handle.ofNode ⟨66⟩, .func []⟩ := by cbv
  have path : ReflTransGen ((Arena.empty.run hiddenFunction).Leads Node.contents) ⟨65⟩ ⟨67⟩ :=
    .head ⟨_, list, Handle.ofNode ⟨64⟩, by decide, rfl, rfl⟩
      (.head ⟨_, struct, Handle.ofNode ⟨68⟩, by decide, rfl, rfl⟩
        (.single ⟨_, callback, Handle.ofNode ⟨67⟩, by decide, rfl, rfl⟩))
  have nameless : (Arena.empty.run hiddenFunction).Nameless (Handle.ofNode ⟨66⟩) :=
    ⟨rfl, ⟨66⟩, .refl, _, inner, rfl⟩
  have unprintable : (Arena.empty.run hiddenFunction).Unprintable ⟨67⟩ :=
    ⟨_, outer, rfl, Handle.ofNode ⟨66⟩, List.mem_cons_self, nameless⟩
  exact ⟨built, resolved,
    (full_fails_iff built _ resolved 0 Sink.plain).1.mpr ⟨rfl, ⟨67⟩, path, unprintable⟩⟩

end Arena

end TypeGraph
