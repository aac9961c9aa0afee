import TypeGraph.Proofs.Faultless
import TypeGraph.Proofs.FormLayout
import TypeGraph.Proofs.Lines

set_option autoImplicit false

namespace TypeGraph

open PrinterOver Printer

def escape : Char := '\x1b'

theorem control_escape : Control (· = escape) := by
  rintro c rfl
  decide

def Color.sequences : List String :=
  [Color.cyan.ansi, Color.blue.ansi, Color.green.ansi, Color.yellow.ansi, Color.reset]

def unmarkedLetters : Nat → List Char → List Char
  | _, [] => []
  | skip + 1, _ :: rest => unmarkedLetters skip rest
  | 0, c :: rest =>
    match Color.sequences.find? fun sequence => sequence.toList.isPrefixOf (c :: rest) with
    | some sequence => unmarkedLetters (sequence.length - 1) rest
    | none => c :: unmarkedLetters 0 rest

/-- A text without the terminal sequences in it. -/
def unmarked (text : String) : String := String.ofList (unmarkedLetters 0 text.toList)

/-- Whether each colour that is switched to is switched off again, before any other sequence and before
the end of the line. -/
def Closes (letters : List Char) : Prop :=
  ∀ (color : Color) (after : List Char), color.ansi.toList ++ after <:+ letters →
    ∃ word rest, after = word ++ (Color.reset.toList ++ rest) ∧
      ∀ c ∈ word, c ≠ escape ∧ c ≠ '\n'

section Unmarked

variable {part rest : String}

theorem unmarked_ansi (color : Color) : unmarked (color.ansi ++ rest) = unmarked rest := by
  simp only [unmarked, String.toList_append]
  cases color <;> rfl

theorem unmarked_reset : unmarked (Color.reset ++ rest) = unmarked rest := by
  simp only [unmarked, String.toList_append]
  rfl

theorem unmarked_append (plain : Lacks (· = escape) part) :
    unmarked (part ++ rest) = part ++ unmarked rest := by
  have opened : ∀ sequence ∈ Color.sequences, sequence.toList.head? = some escape := by decide
  have kept (letters : List Char) (plain : ∀ c ∈ letters, ¬ c = escape) :
      unmarkedLetters 0 (letters ++ rest.toList) = letters ++ unmarkedLetters 0 rest.toList := by
    induction letters with
    | nil => rfl
    | cons c letters ih =>
      obtain ⟨head, tail⟩ := List.forall_mem_cons.mp plain
      have none : (Color.sequences.find? fun sequence =>
          sequence.toList.isPrefixOf (c :: (letters ++ rest.toList))) = none := by
        rw [List.find?_eq_none]
        intro sequence known starts
        obtain ⟨more, same⟩ := List.isPrefixOf_iff_prefix.mp starts
        have first := opened sequence known
        cases spelled : sequence.toList with
        | nil => simp [spelled] at first
        | cons first' others => simp_all
      simp [unmarkedLetters, none, ih tail]
  apply String.toList_inj.mp
  simp only [unmarked, String.toList_append, String.toList_ofList, kept part.toList plain]

end Unmarked

section Closes

variable {c : Char} {rest : List Char}

theorem Color.exists_code (color : Color) :
    ∃ code, color.ansi.toList = escape :: code ∧ escape ∉ code ∧ code.length = 4 := by
  cases color <;> exact ⟨_, rfl, by decide, rfl⟩

theorem closes_nil : Closes [] := by
  intro color after suffix
  obtain ⟨code, spelled, -⟩ := color.exists_code
  simp [spelled] at suffix

theorem closes_cons (first : ∀ (color : Color) (after : List Char),
      color.ansi.toList ++ after = c :: rest → ∃ word later,
        after = word ++ (Color.reset.toList ++ later) ∧ ∀ c ∈ word, c ≠ escape ∧ c ≠ '\n')
    (closes : Closes rest) : Closes (c :: rest) := by
  intro color after suffix
  rcases List.suffix_cons_iff.mp suffix with whole | later
  · exact first color after whole
  · exact closes color after later

theorem closes_append {part : List Char} (plain : ∀ c ∈ part, ¬ c = escape) (closes : Closes rest) :
    Closes (part ++ rest) := by
  induction part with
  | nil => exact closes
  | cons c part ih =>
    obtain ⟨head, tail⟩ := List.forall_mem_cons.mp plain
    refine closes_cons (fun color after same => ?_) (ih tail)
    obtain ⟨code, spelled, -⟩ := color.exists_code
    rw [spelled] at same
    exact absurd (List.cons.inj same).1.symm head

theorem closes_reset (closes : Closes rest) : Closes (Color.reset.toList ++ rest) := by
  have spelled : Color.reset.toList = escape :: "[0m".toList := rfl
  rw [spelled]
  have plain : escape ∉ "[0m".toList := by decide
  refine closes_cons (fun color after same => ?_)
    (closes_append (List.forall_mem_ne'.mpr plain) closes)
  -- No colour is switched to by the sequence that switches it off.
  cases color <;> simp [Color.ansi] at same

theorem closes_marked (color : Color) {word : String} (visible : Visible word)
    (closes : Closes rest) :
    Closes (color.ansi.toList ++ (word.toList ++ (Color.reset.toList ++ rest))) := by
  obtain ⟨code, spelled, plain, four⟩ := color.exists_code
  have ended := closes_append (control_escape.lacks visible) (closes_reset closes)
  rw [spelled]
  refine closes_cons (fun other after same => ?_)
    (closes_append (List.forall_mem_ne'.mpr plain) ended)
  obtain ⟨code', spelled', -, four'⟩ := other.exists_code
  rw [spelled'] at same
  have behind := (List.append_inj (List.cons.inj same).2 (four'.trans four.symm)).2
  refine ⟨word.toList, rest, behind, fun c member => ⟨control_escape.lacks visible c member, ?_⟩⟩
  rintro rfl
  exact visible.newline_not_mem member

end Closes

namespace Piece

variable {indent : Nat} {pieces : List Piece} {opening finish : Column} {odd : Char → Prop}

theorem unmarked_render (indent : Nat) {marks : String → Prop}
    (aligned : Aligned (· = escape) marks opening pieces finish) :
    unmarked (render true indent pieces) = render false indent pieces := by
  induction aligned with
  | nil column => rfl
  | margin extra _ ih =>
    simp only [render_cons, text]
    rw [unmarked_append (control_escape.lacks (visible_spaces _)), ih]
  | flat plain _ ih =>
    simp only [render_cons, text]
    rw [unmarked_append plain, ih]
  | marked color _ plain _ ih =>
    simp only [render_cons, text, if_true, Bool.false_eq_true, if_false, String.append_assoc]
    rw [unmarked_ansi, unmarked_append plain, unmarked_reset, ih]
  | newline _ ih =>
    simp only [render_cons, text]
    rw [unmarked_append (by decide), ih]

theorem closes_render (indent : Nat)
    (aligned : Aligned (· = escape) Visible opening pieces finish) :
    Closes (render true indent pieces).toList := by
  induction aligned with
  | nil column => exact closes_nil
  | margin extra _ ih =>
    rw [render_cons, String.toList_append]
    exact closes_append (control_escape.lacks (visible_spaces _)) ih
  | flat plain _ ih =>
    rw [render_cons, String.toList_append]
    exact closes_append plain ih
  | marked color visible _ _ ih =>
    simp only [render_cons, text, if_true, String.toList_append, List.append_assoc]
    exact closes_marked color visible ih
  | newline _ ih =>
    rw [render_cons, String.toList_append]
    have plain : escape ∉ "\n".toList := by decide
    exact closes_append (List.forall_mem_ne'.mpr plain) ih

theorem render_noMarks (indent : Nat) (aligned : Aligned odd NoMarks opening pieces finish) :
    render true indent pieces = render false indent pieces := by
  induction aligned with
  | nil column => rfl
  | margin extra _ ih | flat _ _ ih | newline _ ih => simp only [render_cons, text, ih]
  | marked _ none => cases none

end Piece

/-- Whether a printer writes the same text and stops for the same reason whether or not colours are
marked, or has no end. -/
def Uncolored (printer : Printer) : Prop :=
  Endless printer ∨ ∃ part ended, ended ≠ some .outOfFuel ∧
    ∀ colors, Writes colors printer part ended

section LaysOut

variable {odd : Char → Prop} {opening finish : Column} {print : Nat → Printer}

theorem LaysOut.uncolored (lays : LaysOut odd NoMarks opening finish print) (indent : Nat) :
    Uncolored (print indent) := by
  obtain ⟨pieces, ended, writes, aligned⟩ := lays
  by_cases endless : ended = some .outOfFuel
  · subst endless
    exact .inl fun sink => (writes sink.colors indent).stop_eq rfl
  · refine .inr ⟨Piece.render false indent pieces, ended, endless, fun colors => ?_⟩
    have same := Piece.render_noMarks indent (aligned endless)
    cases colors with
    | false => exact writes false indent
    | true => exact same ▸ writes true indent

theorem LaysOut.tinted (lays : LaysOut (· = escape) Visible opening finish print)
    (indent : Nat) (only : StopsOnly (· = .outOfFuel) (print indent)) :
    Endless (print indent) ∨ ∃ tinted plain, Writes true (print indent) tinted none ∧
      Writes false (print indent) plain none ∧ unmarked tinted = plain ∧ Closes tinted.toList := by
  obtain ⟨pieces, ended, writes, aligned⟩ := lays
  cases ended with
  | some reason =>
    obtain rfl : reason = .outOfFuel := (writes false indent).allowed only
    exact .inl fun sink => (writes sink.colors indent).stop_eq rfl
  | none =>
    have aligned := aligned nofun
    exact .inr ⟨_, _, writes true indent, writes false indent,
      Piece.unmarked_render indent aligned, Piece.closes_render indent aligned⟩

end LaysOut

namespace Arena

/-- Colours only add marks. The name, the full and the effective form write the same text and stop for
the same reason whether or not colours are marked. A dump, of either scope and from every column, reads
without the marks as it is written without colours, and each mark ends on its line before another
begins, if no tag, no member and no expression of the arena holds the escape character. -/
theorem colors_add_marks (arena : Arena) (target : Handle) :
    Uncolored (arena.writeName target) ∧
    (∀ indent, Uncolored (arena.writeFull target indent)) ∧
    Uncolored (arena.writeEffective target) ∧
    (arena.Lacks (· = escape) → ∀ indent scope,
      Endless (arena.writeDump target indent scope) ∨
      ∃ tinted plain, Writes true (arena.writeDump target indent scope) tinted none ∧
        Writes false (arena.writeDump target indent scope) plain none ∧
        unmarked tinted = plain ∧ Closes tinted.toList) := by
  refine ⟨?_, fun indent => ?_, ?_, fun plain indent scope => ?_⟩
  · exact (laysOut_writeName control_none arena.lacks_none target).uncolored 0
  · exact (laysOut_full control_none arena.lacks_none target).uncolored indent
  · exact (laysOut_writeEffective control_none arena.lacks_none target).uncolored 0
  · apply (laysOut_writeDump control_escape plain target scope).tinted
    exact stopsOnly_dumpHandle indent fun _ => stopsOnly_dump _ scope indent target.node

-- A struct with a member, seen through a handle whose only qualifier has no keyword.
def oddHandle : List Call :=
  [.newTagged .struct "S", .attachMembers ⟨64⟩ [.plain "x" ⟨⟨8⟩, Qualifiers.const⟩]]

def oddHandleText (green yellow reset : String) : String :=
  "[type] (struct) S\n   " ++ green ++ "[member]" ++ reset ++ " x\n      [type] (builtin) int\n" ++
    "      qualifiers=" ++ yellow ++ "const" ++ reset ++ "\nqualifiers=" ++ yellow ++ reset ++ "\n"

theorem colors_add_marks_oddHandle :
    let arena := Arena.empty.run oddHandle
    let tinted := oddHandleText Color.green.ansi Color.yellow.ansi Color.reset
    arena.Lacks (· = escape) ∧
      Writes true (arena.writeDump ⟨⟨64⟩, ⟨1⟩⟩ 0 .deep) tinted none ∧
      unmarked tinted = oddHandleText "" "" "" ∧ Closes tinted.toList := by
  have plain : (Arena.empty.run oddHandle).Lacks (· = escape) := by
    have all : ((Arena.empty.run oddHandle).nodes.toList.all fun node =>
        node.texts.all fun part => decide (TypeGraph.Lacks (· = escape) part)) = true := by
      decide +kernel
    intro node member part own
    exact of_decide_eq_true (List.all_eq_true.mp (List.all_eq_true.mp all node member) part own)
  have colored : ((Arena.empty.run oddHandle).writeDump ⟨⟨64⟩, ⟨1⟩⟩ 0 .deep
      { colors := true }).state.text =
        oddHandleText Color.green.ansi Color.yellow.ansi Color.reset := by decide +kernel
  have bare : ((Arena.empty.run oddHandle).writeDump ⟨⟨64⟩, ⟨1⟩⟩ 0 .deep Sink.plain).state.text =
      oddHandleText "" "" "" := by decide +kernel
  have ended : ((Arena.empty.run oddHandle).writeDump ⟨⟨64⟩, ⟨1⟩⟩ 0 .deep Sink.plain).stop = none := by
    decide +kernel
  rcases (colors_add_marks (Arena.empty.run oddHandle) ⟨⟨64⟩, ⟨1⟩⟩).2.2.2 plain 0 .deep with
    endless | ⟨tinted, untinted, writes, writes', same, closes⟩
  · rw [endless Sink.plain] at ended
    cases ended
  · obtain rfl := (writes.text_eq).symm.trans colored
    obtain rfl := (writes'.text_eq).symm.trans bare
    exact ⟨plain, writes, same, closes⟩

end Arena

end TypeGraph
