import Std.Data.String.ToNat
import TypeGraph.NodeId
import TypeGraph.Qualifiers

set_option autoImplicit false

namespace TypeGraph

theorem eq_of_cut {α : Type} {mark : α} {first first' rest rest' : List α} (free : mark ∉ first)
    (free' : mark ∉ first') (same : first ++ mark :: rest = first' ++ mark :: rest') :
    first = first' ∧ rest = rest' := by
  rcases List.append_eq_append_iff.mp same with ⟨more, rfl, later⟩ | ⟨more, rfl, later⟩ <;>
    cases more with
    | nil => simpa [eq_comm] using later
    | cons head more =>
      obtain ⟨rfl, -⟩ := List.cons.inj later
      simp at free free'

def Visible (part : String) : Prop := ∀ c ∈ part.toList, ' ' ≤ c

instance (part : String) : Decidable (Visible part) :=
  List.decidableBAll (' ' ≤ ·) part.toList

theorem visible_append {first second : String} :
    Visible (first ++ second) ↔ Visible first ∧ Visible second := by
  simp only [Visible, String.toList_append, List.forall_mem_append]

theorem Visible.newline_not_mem {part : String} (visible : Visible part) : '\n' ∉ part.toList :=
  fun member => absurd (visible _ member) (by decide)

theorem visible_toString (number : Nat) : Visible (toString number) := by
  intro c member
  have digit : c ∈ Nat.toDigits 10 number := by simpa using member
  have range := Nat.isDigit_of_mem_toDigits (by decide) (by decide) digit
  simp only [Char.isDigit, Bool.and_eq_true, decide_eq_true_eq] at range
  have lower : '0' ≤ c := Char.le_def.mpr range.1
  exact Char.le_trans (show ' ' ≤ '0' by decide) lower

namespace Builtin

theorem name_injective {a b : Builtin} (same : a.name = b.name) : a = b :=
  Option.some.inj ((ofName?_name a).symm.trans ((congrArg ofName? same).trans (ofName?_name b)))

theorem letter_of_mem_name (builtin : Builtin) :
    ∀ letter ∈ builtin.name.toList, letter.isAlphanum = true := by
  rw [← List.all_eq_true]
  cases builtin <;> rfl

theorem not_mem_name (builtin : Builtin) {mark : Char} (odd : mark.isAlphanum = false) :
    mark ∉ builtin.name.toList := by
  intro member
  rw [builtin.letter_of_mem_name mark member] at odd
  cases odd

theorem visible_name (builtin : Builtin) : Visible builtin.name := by
  cases builtin <;> decide

end Builtin

namespace NodeId

theorem eq_of_builtin? {a b : NodeId} {builtin : Builtin} (left : a.builtin? = some builtin)
    (right : b.builtin? = some builtin) : a = b := by
  have distinct : Builtin.all.Nodup := by decide
  obtain ⟨inside, -⟩ := List.getElem?_eq_some_iff.mp left
  have same := (List.getElem?_inj inside distinct).mp (left.trans right.symm)
  cases a
  cases b
  exact congrArg NodeId.mk (UInt32.toNat_inj.mp same)

theorem name_cases (id : NodeId) :
    (∃ builtin, id.builtin? = some builtin ∧ id.name = builtin.name) ∨
      (id = NodeId.null ∧ id.name = "<none>") ∨ id.name = "type#" ++ toString id.raw.toNat := by
  unfold name
  cases id.builtin? with
  | some builtin => exact .inl ⟨builtin, rfl, rfl⟩
  | none =>
    cases null : id.isNull with
    | true => exact .inr (.inl ⟨eq_null_of_isNull null, rfl⟩)
    | false => exact .inr (.inr rfl)

theorem name_injective {a b : NodeId} (same : a.name = b.name) : a = b := by
  have apart (builtin : Builtin) : builtin.name ≠ "<none>" := by
    intro same
    have free : '<' ∉ builtin.name.toList := builtin.not_mem_name rfl
    simp [same] at free
  have apart' (builtin : Builtin) (number : Nat) : builtin.name ≠ "type#" ++ toString number := by
    intro same
    have free : '#' ∉ builtin.name.toList := builtin.not_mem_name rfl
    simp [same] at free
  have apart'' (number : Nat) : "<none>" ≠ "type#" ++ toString number := by
    intro same
    simpa using congrArg String.toList same
  rcases name_cases a with ⟨builtin, named, spelled⟩ | ⟨null, spelled⟩ | spelled <;>
    rcases name_cases b with ⟨builtin', named', spelled'⟩ | ⟨null', spelled'⟩ | spelled' <;>
    rw [spelled, spelled'] at same
  · exact eq_of_builtin? named (Builtin.name_injective same ▸ named')
  · exact absurd same (apart builtin)
  · exact absurd same (apart' builtin _)
  · exact absurd same.symm (apart builtin')
  · exact null.trans null'.symm
  · exact absurd same (apart'' _)
  · exact absurd same.symm (apart' builtin' _)
  · exact absurd same.symm (apart'' _)
  · have letters := congrArg String.toList same
    simp only [String.toList_append, List.append_cancel_left_eq, String.toList_inj] at letters
    cases a
    cases b
    exact congrArg NodeId.mk (UInt32.toNat_inj.mp (Nat.repr_inj.mp letters))

theorem visible_name (id : NodeId) : Visible id.name := by
  rcases id.name_cases with ⟨builtin, -, spelled⟩ | ⟨-, spelled⟩ | spelled <;> rw [spelled]
  · exact builtin.visible_name
  · decide
  · exact visible_append.mpr ⟨by decide, visible_toString _⟩

theorem visible_invalid (id : NodeId) : Visible ("<invalid " ++ id.name ++ ">") :=
  visible_append.mpr ⟨visible_append.mpr ⟨by decide, id.visible_name⟩, by decide⟩

end NodeId

namespace Qualifiers

theorem known_cases {quals : Qualifiers} (within : known.contains quals = true) :
    quals = none ∨ quals = const ∨ quals = volatile ∨ quals = known := by
  have cases : ∀ bits : BitVec 8, known.contains ⟨⟨bits⟩⟩ = true →
      bits = 0 ∨ bits = 2 ∨ bits = 4 ∨ bits = 6 := by decide
  obtain ⟨⟨bits⟩⟩ := quals
  rcases cases bits within with rfl | rfl | rfl | rfl
  · exact .inl rfl
  · exact .inr (.inl rfl)
  · exact .inr (.inr (.inl rfl))
  · exact .inr (.inr (.inr rfl))

theorem text_injective {a b : Qualifiers} (left : known.contains a = true)
    (right : known.contains b = true) (same : a.text = b.text) : a = b := by
  rcases known_cases left with rfl | rfl | rfl | rfl <;>
    rcases known_cases right with rfl | rfl | rfl | rfl <;>
    first | rfl | exact absurd same (by decide)

theorem keywords_injective {a b : Qualifiers} (left : known.contains a = true)
    (right : known.contains b = true) (same : a.keywords = b.keywords) : a = b :=
  text_injective left right (congrArg (" ".intercalate) same)

theorem map_keywords_injective {first second : List Qualifiers}
    (left : ∀ quals ∈ first, known.contains quals = true)
    (right : ∀ quals ∈ second, known.contains quals = true)
    (same : first.map keywords = second.map keywords) : first = second := by
  induction first generalizing second with
  | nil => exact (List.map_eq_nil_iff.mp same.symm).symm
  | cons a first ih =>
    cases second with
    | nil => cases same
    | cons b second =>
      obtain ⟨head, tail⟩ := List.cons.inj same
      obtain ⟨knownA, left⟩ := List.forall_mem_cons.mp left
      obtain ⟨knownB, right⟩ := List.forall_mem_cons.mp right
      rw [keywords_injective knownA knownB head, ih left right tail]

theorem letter_of_mem_keywords {quals : Qualifiers} {keyword : String}
    (member : keyword ∈ quals.keywords) :
    ∀ letter ∈ keyword.toList, letter.isAlphanum = true := by
  have all : (named.all fun entry => entry.2.1.toList.all Char.isAlphanum) = true := rfl
  obtain ⟨entry, chosen, rfl⟩ := List.mem_map.mp member
  exact List.all_eq_true.mp (List.all_eq_true.mp all entry (List.mem_filter.mp chosen).1)

theorem visible_of_mem_keywords {quals : Qualifiers} {keyword : String}
    (member : keyword ∈ quals.keywords) : Visible keyword := by
  obtain ⟨entry, chosen, rfl⟩ := List.mem_map.mp member
  have all : ∀ entry ∈ named, Visible entry.2.1 := by decide
  exact all entry (List.mem_filter.mp chosen).1

theorem visible_text (quals : Qualifiers) : Visible quals.text := by
  unfold text keywords named
  simp only [List.filter_cons, List.filter_nil]
  split <;> split <;> decide

end Qualifiers

end TypeGraph
