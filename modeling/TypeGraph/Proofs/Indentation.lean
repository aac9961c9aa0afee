import TypeGraph.Proofs.Faultless
import TypeGraph.Proofs.FormLayout
import TypeGraph.Proofs.Lines

set_option autoImplicit false

namespace TypeGraph

open PrinterOver Printer

def spread (width : Nat) (text : String) : String :=
  String.ofList
    (text.toList.flatMap fun c => if c = '\n' then c :: List.replicate width ' ' else [c])

/-- A text with spaces put in at its start and behind the end of each line. -/
def shifted (width : Nat) (text : String) : String := "".pushn ' ' width ++ spread width text

def lined (width : Nat) (lines : List String) : String :=
  String.join (lines.map fun line => "".pushn ' ' width ++ line ++ "\n")

theorem control_newline : Control (· = '\n') := by
  rintro c rfl
  decide

abbrev Flat (part : String) : Prop := Lacks (· = '\n') part

theorem spaces_add (first second : Nat) :
    "".pushn ' ' (first + second) = "".pushn ' ' first ++ "".pushn ' ' second := by
  apply String.toList_inj.mp
  simp only [String.toList_append, toList_spaces, List.replicate_append_replicate]

section Spread

variable {width : Nat} {first second part : String}

theorem spread_append :
    spread width (first ++ second) = spread width first ++ spread width second := by
  apply String.toList_inj.mp
  simp [spread]

theorem spread_of_flat (flat : Flat part) : spread width part = part := by
  apply String.toList_inj.mp
  have kept (letters : List Char) (flat : ∀ c ∈ letters, ¬ c = '\n') :
      (letters.flatMap fun c => if c = '\n' then c :: List.replicate width ' ' else [c]) =
        letters := by
    induction letters with
    | nil => rfl
    | cons c letters ih =>
      obtain ⟨head, tail⟩ := List.forall_mem_cons.mp flat
      rw [List.flatMap_cons, if_neg head, ih tail, List.singleton_append]
  rw [spread, String.toList_ofList, kept part.toList flat]

theorem spread_newline : spread width "\n" = "\n" ++ "".pushn ' ' width := by
  apply String.toList_inj.mp
  simp [spread, toList_spaces]

theorem flat_spaces (width : Nat) : Flat ("".pushn ' ' width) :=
  control_newline.lacks (visible_spaces width)

end Spread

theorem Color.flat_ansi (color : Color) : Flat color.ansi := by
  cases color <;> decide

namespace Piece

variable {colors : Bool} {width indent : Nat} {pieces : List Piece} {opening finish : Column}
  {marks : String → Prop}

def pad (width : Nat) : Column → String
  | .start => "".pushn ' ' width
  | .within => ""

@[simp] theorem pad_start : pad width .start = "".pushn ' ' width := rfl

@[simp] theorem pad_within : pad width .within = "" := rfl

theorem flat_marked {word : String} (color : Color) (flat : Flat word) :
    Flat (text colors indent (.marked color word)) := by
  cases colors with
  | false => exact flat
  | true => exact lacks_append.mpr ⟨lacks_append.mpr ⟨color.flat_ansi, flat⟩, by decide⟩

theorem render_shifted (colors : Bool) (width : Nat)
    (aligned : Aligned (· = '\n') marks opening pieces finish) :
    render colors width pieces ++ pad width finish =
      pad width opening ++ spread width (render colors 0 pieces) := by
  induction aligned with
  | nil column => simp [spread]
  | margin extra _ ih =>
    simp only [render_cons, text, spread_append, String.append_assoc, ih, pad_start, pad_within,
      String.empty_append, spread_of_flat (flat_spaces _), spaces_add, Nat.zero_add]
  | flat plain _ ih =>
    simp only [render_cons, text, spread_append, String.append_assoc, ih, pad_within,
      String.empty_append, spread_of_flat plain]
  | @marked color word _ _ _ plain _ ih =>
    have same : text colors width (.marked color word) = text colors 0 (.marked color word) := rfl
    simp only [render_cons, spread_append, String.append_assoc, ih, pad_within, String.empty_append,
      spread_of_flat (flat_marked color plain), same]
  | newline _ ih =>
    simp only [render_cons, text, spread_append, String.append_assoc, ih, pad_start, pad_within,
      String.empty_append, spread_newline]

def Whole (colors : Bool) (pieces : List Piece) : Column → Prop
  | .start => ∃ lines, (∀ line ∈ lines, Flat line) ∧
      ∀ indent, render colors indent pieces = lined indent lines
  | .within => ∃ rest lines, Flat rest ∧ (∀ line ∈ lines, Flat line) ∧
      ∀ indent, render colors indent pieces = rest ++ "\n" ++ lined indent lines

theorem whole_of_aligned (colors : Bool) (aligned : Aligned (· = '\n') marks opening pieces finish)
    (closed : finish = .start) : Whole colors pieces opening := by
  induction aligned with
  | nil column =>
    subst closed
    exact ⟨[], by simp, fun _ => rfl⟩
  | margin extra _ ih =>
    obtain ⟨rest, lines, flat, flats, same⟩ := ih closed
    refine ⟨("".pushn ' ' extra ++ rest) :: lines, ?_, fun indent => ?_⟩
    · exact List.forall_mem_cons.mpr ⟨lacks_append.mpr ⟨flat_spaces extra, flat⟩, flats⟩
    · simp [same, text, lined, spaces_add, String.append_assoc, String.join_cons]
  | @flat part _ _ plain _ ih =>
    obtain ⟨rest, lines, flat, flats, same⟩ := ih closed
    refine ⟨part ++ rest, lines, lacks_append.mpr ⟨plain, flat⟩, flats, fun indent => ?_⟩
    simp [same, text, String.append_assoc]
  | @marked color word _ _ _ plain _ ih =>
    obtain ⟨rest, lines, flat, flats, same⟩ := ih closed
    refine ⟨text colors 0 (.marked color word) ++ rest, lines,
      lacks_append.mpr ⟨flat_marked color plain, flat⟩, flats, fun indent => ?_⟩
    simp [same, text, String.append_assoc]
  | newline _ ih =>
    obtain ⟨lines, flats, same⟩ := ih closed
    refine ⟨"", lines, by decide, flats, fun indent => ?_⟩
    simp [same, text]

end Piece

section LaysOut

variable {marks : String → Prop} {print : Nat → Printer}

theorem LaysOut.shifts (lays : LaysOut (· = '\n') marks .start .within print) (colors : Bool) :
    (∀ width, Endless (print width)) ∨
      ∃ part ended, ended ≠ some .outOfFuel ∧ Writes colors (print 0) part ended ∧
        ∀ width, Writes colors (print width) (shifted width part) ended := by
  obtain ⟨pieces, ended, writes, aligned⟩ := lays
  by_cases endless : ended = some .outOfFuel
  · subst endless
    exact .inl fun width sink => (writes sink.colors width).stop_eq rfl
  · refine .inr ⟨_, ended, endless, writes colors 0, fun width => ?_⟩
    have landed : Column.within.landing ended = .within := by cases ended <;> rfl
    have moved := Piece.render_shifted colors width (aligned endless)
    rw [landed, Piece.pad_within, Piece.pad_start, String.append_empty] at moved
    rw [shifted, ← moved]
    exact writes colors width

theorem LaysOut.lines (lays : LaysOut (· = '\n') marks .start .start print)
    (only : StopsOnly (· = .outOfFuel) (print 0)) (colors : Bool) :
    (∀ width, Endless (print width)) ∨
      ∃ lines : List String, (∀ line ∈ lines, '\n' ∉ line.toList) ∧
        ∀ width, Writes colors (print width) (lined width lines) none := by
  obtain ⟨pieces, ended, writes, aligned⟩ := lays
  cases ended with
  | some reason =>
    obtain rfl : reason = .outOfFuel := (writes colors 0).allowed only
    exact .inl fun width sink => (writes sink.colors width).stop_eq rfl
  | none =>
    obtain ⟨lines, flats, same⟩ := Piece.whole_of_aligned colors (aligned nofun) rfl
    refine .inr ⟨lines, fun line member newline => flats line member _ newline rfl, fun width => ?_⟩
    rw [← same width]
    exact writes colors width

end LaysOut

namespace Arena

/-- Every form is written alike from every column, if no tag, no member and no expression of the arena
holds the end of a line. The full form stops for the same reason, and its text, whole or not, has as
many more spaces at its start and behind the end of each line. A dump, of either scope and with or
without colours, writes whole lines with as many spaces before each. -/
theorem indentation_is_uniform {arena : Arena} (plain : arena.Lacks (· = '\n')) (target : Handle)
    (colors : Bool) :
    ((∀ width, Endless (arena.writeFull target width)) ∨
      ∃ part ended, ended ≠ some .outOfFuel ∧ Writes colors (arena.writeFull target 0) part ended ∧
        ∀ width, Writes colors (arena.writeFull target width) (shifted width part) ended) ∧
    ∀ scope, (∀ width, Endless (arena.writeDump target width scope)) ∨
      ∃ lines : List String, (∀ line ∈ lines, '\n' ∉ line.toList) ∧
        ∀ width, Writes colors (arena.writeDump target width scope) (lined width lines) none := by
  refine ⟨(laysOut_full control_newline plain target).shifts colors, fun scope => ?_⟩
  apply (laysOut_writeDump control_newline plain target scope).lines
  exact stopsOnly_dumpHandle 0 fun _ => stopsOnly_dump _ scope 0 target.node

-- A struct with a member whose type is an alias of another struct.
def nestedStructs : List Call :=
  [.newTagged .struct "Point", .attachMembers ⟨64⟩ [.plain "x" (Handle.ofNode ⟨8⟩)],
    .newUser (.identifier (some "m") "P"), .resolve ⟨65⟩ (Handle.ofNode ⟨64⟩),
    .newTagged .struct "Line", .attachMembers ⟨66⟩ [.plain "from" (Handle.ofNode ⟨65⟩)]]

def nestedStructsText : String :=
  "struct Line \x7b\n   struct Point \x7b\n      int x;\n   \x7d from;\n\x7d"

theorem indentation_is_uniform_nestedStructs :
    let arena := Arena.empty.run nestedStructs
    arena.Lacks (· = '\n') ∧
      (arena.writeFull (Handle.ofNode ⟨66⟩) 2).toText = .ok (shifted 2 nestedStructsText) := by
  have plain : (Arena.empty.run nestedStructs).Lacks (· = '\n') := by
    have all : ((Arena.empty.run nestedStructs).nodes.toList.all fun node =>
        node.texts.all fun part => decide (Flat part)) = true := by decide +kernel
    intro node member part own
    exact of_decide_eq_true (List.all_eq_true.mp (List.all_eq_true.mp all node member) part own)
  have written : ((Arena.empty.run nestedStructs).writeFull (Handle.ofNode ⟨66⟩) 0).toText =
      .ok nestedStructsText := by decide +kernel
  refine ⟨plain, ?_⟩
  rcases (indentation_is_uniform plain (Handle.ofNode ⟨66⟩) false).1 with
    endless | ⟨part, ended, -, writes, moved⟩
  · rw [toText_of_endless (endless 0)] at written
    cases written
  · obtain ⟨rfl, rfl⟩ := writes.of_toText written
    exact (moved 2).toText_eq

end Arena

end TypeGraph
