import TypeGraph.Proofs.Interning
import TypeGraph.Proofs.SharedSpine
import TypeGraph.Proofs.Spelling

set_option autoImplicit false

namespace TypeGraph

open Printer

def pointerName (keywords : List String) (builtin : Builtin) (pointers : Nat) : String :=
  String.join (keywords.map (· ++ " ")) ++ builtin.name ++ String.ofList (List.replicate pointers '*')

section Spelled

variable {keywords keywords' : List String} {builtin builtin' : Builtin} {pointers pointers' : Nat}

theorem pointerName_nil_injective
    (same : pointerName [] builtin pointers = pointerName [] builtin' pointers') :
    builtin = builtin' ∧ pointers = pointers' := by
  have letters : builtin.name.toList ++ List.replicate pointers '*' =
      builtin'.name.toList ++ List.replicate pointers' '*' := by
    simpa [pointerName] using congrArg String.toList same
  have name (builtin : Builtin) (pointers : Nat) :
      (builtin.name.toList ++ List.replicate pointers '*').filter Char.isAlphanum =
        builtin.name.toList := by
    rw [List.filter_append, List.filter_eq_self.mpr builtin.letter_of_mem_name]
    simp
  have names := (name builtin pointers).symm.trans
    ((congrArg (List.filter Char.isAlphanum) letters).trans (name builtin' pointers'))
  obtain rfl := Builtin.name_injective (String.toList_inj.mp names)
  exact ⟨rfl, by simpa using letters⟩

theorem pointerName_cons (keyword : String) :
    (pointerName (keyword :: keywords) builtin pointers).toList =
      keyword.toList ++ ' ' :: (pointerName keywords builtin pointers).toList := by
  simp [pointerName]

theorem not_mem_pointerName_nil : ' ' ∉ (pointerName [] builtin pointers).toList := by
  intro member
  have cases : ' ' ∈ builtin.name.toList ∨ ' ' ∈ List.replicate pointers '*' := by
    simpa [pointerName] using member
  rcases cases with name | star
  · exact absurd (builtin.letter_of_mem_name _ name) (by decide)
  · exact absurd (List.eq_of_mem_replicate star) (by decide)

theorem pointerName_injective
    (plain : ∀ keyword ∈ keywords, ∀ letter ∈ keyword.toList, letter.isAlphanum = true)
    (plain' : ∀ keyword ∈ keywords', ∀ letter ∈ keyword.toList, letter.isAlphanum = true)
    (same : pointerName keywords builtin pointers = pointerName keywords' builtin' pointers') :
    keywords = keywords' ∧ builtin = builtin' ∧ pointers = pointers' := by
  have blank {word : String} (plain : ∀ letter ∈ word.toList, letter.isAlphanum = true) :
      ' ' ∉ word.toList := fun member => absurd (plain _ member) (by decide)
  induction keywords generalizing keywords' with
  | nil =>
    cases keywords' with
    | nil => exact ⟨rfl, pointerName_nil_injective same⟩
    | cons keyword' keywords' =>
      have absent : ' ' ∉ (pointerName [] builtin pointers).toList := not_mem_pointerName_nil
      simp [same, pointerName_cons] at absent
  | cons keyword keywords ih =>
    obtain ⟨first, later⟩ := List.forall_mem_cons.mp plain
    cases keywords' with
    | nil =>
      have absent : ' ' ∉ (pointerName [] builtin' pointers').toList := not_mem_pointerName_nil
      simp [← same, pointerName_cons] at absent
    | cons keyword' keywords' =>
      obtain ⟨first', later'⟩ := List.forall_mem_cons.mp plain'
      have letters := congrArg String.toList same
      rw [pointerName_cons, pointerName_cons] at letters
      obtain ⟨heads, tails⟩ := eq_of_cut (blank first) (blank first') letters
      obtain ⟨rfl, rest⟩ := ih later later' (String.toList_inj.mp tails)
      exact ⟨by rw [String.toList_inj.mp heads], rest⟩

end Spelled

theorem pointerName_snoc (keywords : List String) (builtin : Builtin) (pointers : Nat) :
    pointerName keywords builtin (pointers + 1) = pointerName keywords builtin pointers ++ "*" := by
  rw [← String.toList_inj]
  simp [pointerName, List.replicate_succ']

theorem pointerName_opening (target : Handle) (keywords : List String) (builtin : Builtin)
    (pointers : Nat) :
    pointerName (target.quals.keywords ++ keywords) builtin pointers =
      target.opening ++ pointerName keywords builtin pointers := by
  simp [pointerName, Handle.opening, String.join_append, String.append_assoc]

theorem Handle.eq_of_parts {a b : Handle} (nodes : a.node = b.node) (same : a.quals = b.quals) :
    a = b := by
  cases a
  cases b
  exact congrArg₂ Handle.mk nodes same

namespace Arena

variable {arena : Arena} {a b target : Handle} {quals qualsA qualsB : List Qualifiers}
  {which whichA whichB : Builtin}

/-- Whether pointers and nothing else lead from a handle to a builtin, with the qualifiers of the
handle itself and of each one below it. -/
inductive Points (arena : Arena) : Handle → List Qualifiers → Builtin → Prop where
  | builtin {target : Handle} {node : Node} {which : Builtin}
      (found : arena.lookup target.node = .ok node) (bare : node.payload = .builtin which) :
      Points arena target [target.quals] which
  | pointer {target : Handle} {node : Node} {quals : List Qualifiers} {which : Builtin}
      (found : arena.lookup target.node = .ok node) (stands : node.payload = .pointer)
      (rest : Points arena node.target quals which) :
      Points arena target (target.quals :: quals) which

theorem Points.writes (points : arena.Points target quals which) (levels : Nat) :
    Writes false (Printer.handle (arena.nameWithin (quals.length + levels)) target)
      (pointerName (quals.flatMap Qualifiers.keywords) which (quals.length - 1)) none := by
  induction points with
  | @builtin target node which found bare =>
    have alone : Writes false (arena.nameWithin (1 + levels) target.node)
        (pointerName [] which 0) none := by
      simp only [Nat.add_comm 1, nameWithin, found, bare]
      simpa [pointerName] using writes_text _
    simpa [← pointerName_opening] using writes_handle (isNull_of_lookup found) alone
  | @pointer target node quals which found stands rest ih =>
    have longer : quals.length - 1 + 1 = quals.length := by
      cases rest <;> rfl
    have below := writes_pair ih (writes_text "*")
    rw [← pointerName_snoc, longer] at below
    have alone : Writes false (arena.nameWithin (quals.length + levels + 1) target.node)
        (pointerName (quals.flatMap Qualifiers.keywords) which quals.length) none := by
      simpa only [nameWithin, found, stands] using below
    have written := writes_handle (isNull_of_lookup found) alone
    rw [← pointerName_opening] at written
    simpa [Nat.add_right_comm] using written

theorem Built.nameText_of_points (built : Built arena) (points : arena.Points target quals which) :
    arena.nameText target =
      .ok (pointerName (quals.flatMap Qualifiers.keywords) which (quals.length - 1)) := by
  have settled : Printer.handle (arena.nameWithin (quals.length + (arena.size + 1))) target =
      arena.writeName target := (built.sound.name_settles target).2 _ (by omega)
  have written := points.writes (arena.size + 1)
  rw [settled] at written
  exact written.toText_eq

theorem Points.length_pos (points : arena.Points target quals which) : 0 < quals.length := by
  cases points <;> exact Nat.succ_pos _

theorem Points.unique (left : arena.Points target qualsA whichA)
    (right : arena.Points target qualsB whichB) : qualsA = qualsB ∧ whichA = whichB := by
  induction left generalizing qualsB with
  | builtin found bare =>
    cases right with
    | builtin found' bare' =>
      cases found.symm.trans found'
      exact ⟨rfl, Payload.builtin.inj (bare.symm.trans bare')⟩
    | pointer found' stands' =>
      cases found.symm.trans found'
      cases bare.symm.trans stands'
  | pointer found stands rest ih =>
    cases right with
    | builtin found' bare' =>
      cases found.symm.trans found'
      cases stands.symm.trans bare'
    | pointer found' stands' rest' =>
      cases found.symm.trans found'
      obtain ⟨rfl, rfl⟩ := ih rest'
      exact ⟨rfl, rfl⟩

theorem Built.builtin?_of_payload (built : Built arena) {id : NodeId} {node : Node}
    (found : arena.lookup id = .ok node) (bare : node.payload = .builtin which) :
    id.builtin? = some which := by
  have kind : node.kind = .builtin := by simp [Node.kind, bare, Payload.kind]
  obtain ⟨builtin, named, rfl⟩ := built.sharesBuiltins.builtin? found kind
  cases bare
  exact named

theorem Built.eq_of_target (built : Built arena) {id id' : NodeId} {node other : Node}
    (found : arena.lookup id = .ok node) (stands : node.payload = .pointer)
    (found' : arena.lookup id' = .ok other) (stands' : other.payload = .pointer)
    (same : node.target = other.target) : id = id' := by
  have owned {id : NodeId} {node : Node} (found : arena.lookup id = .ok node)
      (stands : node.payload = .pointer) : arena.owned id = .ok node := by
    rcases lookup_eq_ok_iff.mp found with ⟨builtin, -, rfl⟩ | owned
    · cases stands
    · exact owned
  have pointee {node : Node} (stands : node.payload = .pointer) :
      node.pointee = some node.target := by
    simp [Node.pointee, Node.kind, stands, Payload.kind]
  exact built.scanned.unique (owned found stands) (pointee stands) (owned found' stands')
    (same ▸ pointee stands')

theorem Built.eq_of_points (built : Built arena) (left : arena.Points a quals which)
    (right : arena.Points b quals which) : a = b := by
  induction left generalizing b with
  | @builtin a node which found bare =>
    generalize listed : [a.quals] = all at right
    cases right with
    | builtin found' bare' =>
      exact Handle.eq_of_parts (NodeId.eq_of_builtin? (built.builtin?_of_payload found bare)
        (built.builtin?_of_payload found' bare')) (List.cons.inj listed).1
    | pointer found' stands' rest' =>
      obtain ⟨-, rfl⟩ := List.cons.inj listed
      cases rest'
  | @pointer a node quals which found stands rest ih =>
    generalize listed : a.quals :: quals = all at right
    cases right with
    | builtin found' bare' =>
      obtain ⟨-, rfl⟩ := List.cons.inj listed
      cases rest
    | pointer found' stands' rest' =>
      obtain ⟨same, rfl⟩ := List.cons.inj listed
      exact Handle.eq_of_parts (built.eq_of_target found stands found' stands' (ih rest')) same

/-- Pointers to a builtin are named alike if and only if they have the same builtin, as many levels
and, read from the handle down, the same keywords, of whatever level each of them is. They are the
same if and only if they are named alike and each level of the one has as many keywords as that of
the other. -/
theorem pointer_names_tell (built : Built arena) (left : arena.Points a qualsA whichA)
    (right : arena.Points b qualsB whichB)
    (knownA : ∀ quals ∈ qualsA, Qualifiers.known.contains quals = true)
    (knownB : ∀ quals ∈ qualsB, Qualifiers.known.contains quals = true) :
    (∃ text, arena.nameText a = .ok text) ∧
    (arena.nameText a = arena.nameText b ↔
      whichA = whichB ∧ qualsA.length = qualsB.length ∧
        qualsA.flatMap Qualifiers.keywords = qualsB.flatMap Qualifiers.keywords) ∧
    (a = b ↔
      arena.nameText a = arena.nameText b ∧
        (qualsA.map fun quals => quals.keywords.length) =
          qualsB.map fun quals => quals.keywords.length) := by
  have plain (quals : List Qualifiers) : ∀ keyword ∈ quals.flatMap Qualifiers.keywords,
      ∀ letter ∈ keyword.toList, letter.isAlphanum = true := by
    intro keyword member
    obtain ⟨level, -, one⟩ := List.mem_flatMap.mp member
    exact Qualifiers.letter_of_mem_keywords one
  have alike : arena.nameText a = arena.nameText b ↔
      whichA = whichB ∧ qualsA.length = qualsB.length ∧
        qualsA.flatMap Qualifiers.keywords = qualsB.flatMap Qualifiers.keywords := by
    rw [built.nameText_of_points left, built.nameText_of_points right, Except.ok.injEq]
    constructor
    · intro same
      obtain ⟨keywords, which, pointers⟩ := pointerName_injective (plain _) (plain _) same
      have lengthA := left.length_pos
      have lengthB := right.length_pos
      exact ⟨which, by omega, keywords⟩
    · rintro ⟨rfl, levels, keywords⟩
      rw [keywords, levels]
  refine ⟨⟨_, built.nameText_of_points left⟩, alike, ?_⟩
  constructor
  · rintro rfl
    obtain ⟨rfl, -⟩ := left.unique right
    exact ⟨rfl, rfl⟩
  · rintro ⟨same, counts⟩
    obtain ⟨rfl, -, keywords⟩ := alike.mp same
    -- The keywords of all levels, cut into levels again, leave no choice for the sets.
    have levels : qualsA.map Qualifiers.keywords = qualsB.map Qualifiers.keywords := by
      rw [List.eq_iff_flatten_eq]
      simpa [List.flatMap_def, Function.comp_def] using And.intro keywords counts
    have quals := Qualifiers.map_keywords_injective knownA knownB levels
    exact built.eq_of_points left (quals ▸ right)

-- A pointer to a constant and a pointer that is used as a constant.
def constantPointers : List Call :=
  [.pointerTo (Handle.ofNode (NodeId.ofBuiltin .int)).withConst,
    .pointerTo (Handle.ofNode (NodeId.ofBuiltin .int))]

theorem points_constantPointers :
    let arena := Arena.empty.run constantPointers
    Built arena ∧ arena.Points (Handle.ofNode ⟨64⟩) [.none, .const] .int ∧
      arena.Points (Handle.ofNode ⟨65⟩).withConst [.const, .none] .int := by
  have inner : (Arena.empty.run constantPointers).lookup ⟨64⟩ =
      .ok ⟨(Handle.ofNode (NodeId.ofBuiltin .int)).withConst, Handle.null, .pointer⟩ := by cbv
  have outer : (Arena.empty.run constantPointers).lookup ⟨65⟩ =
      .ok ⟨Handle.ofNode (NodeId.ofBuiltin .int), Handle.null, .pointer⟩ := by cbv
  have int : (Arena.empty.run constantPointers).lookup (NodeId.ofBuiltin .int) =
      .ok (Node.ofBuiltin .int) := by cbv
  exact ⟨Built.empty.run constantPointers (by cbv), .pointer inner rfl (.builtin int rfl),
    .pointer outer rfl (.builtin int rfl)⟩

theorem pointer_names_tell_constantPointers :
    let arena := Arena.empty.run constantPointers
    Built arena ∧ arena.Points (Handle.ofNode ⟨64⟩) [.none, .const] .int ∧
      arena.Points (Handle.ofNode ⟨65⟩).withConst [.const, .none] .int ∧
      arena.nameText (Handle.ofNode ⟨64⟩) = arena.nameText (Handle.ofNode ⟨65⟩).withConst ∧
      Handle.ofNode ⟨64⟩ ≠ (Handle.ofNode ⟨65⟩).withConst := by
  obtain ⟨built, left, right⟩ := points_constantPointers
  obtain ⟨-, named, same⟩ := pointer_names_tell built left right (by decide) (by decide)
  refine ⟨built, left, right, named.mpr (by decide), fun equal => ?_⟩
  exact absurd (same.mp equal).2 (by decide)

-- The name does not tell a pointer to a constant from a constant pointer.
theorem constantPointers_named_alike :
    let arena := Arena.empty.run constantPointers
    Built arena ∧ arena.Points (Handle.ofNode ⟨64⟩) [.none, .const] .int ∧
      arena.Points (Handle.ofNode ⟨65⟩).withConst [.const, .none] .int ∧
      (∀ quals ∈ [Qualifiers.none, .const], Qualifiers.known.contains quals = true) ∧
      arena.nameText (Handle.ofNode ⟨64⟩) = .ok "const int*" ∧
      arena.nameText (Handle.ofNode ⟨65⟩).withConst = .ok "const int*" ∧
      Handle.ofNode ⟨64⟩ ≠ (Handle.ofNode ⟨65⟩).withConst := by
  obtain ⟨built, left, right⟩ := points_constantPointers
  exact ⟨built, left, right, by decide, (built.nameText_of_points left).trans (by decide),
    (built.nameText_of_points right).trans (by decide), by decide⟩

end Arena

end TypeGraph
