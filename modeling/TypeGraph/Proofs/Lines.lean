import TypeGraph.Node
import TypeGraph.Proofs.Spelling

set_option autoImplicit false

namespace TypeGraph

inductive Heading where
  | null
  | invalid
  | builtin
  | user
  | tagged (sort : TagKind)
  | func
  | pointer
  | array
  | returns
  | args
  | size
  | integer
  | identifier
  | scope
  | qualifiers
  deriving DecidableEq

namespace Heading

def all : List Heading :=
  [.null, .invalid, .builtin, .user, .tagged .struct, .tagged .union, .tagged .enum, .func, .pointer,
    .array, .returns, .args, .size, .integer, .identifier, .scope, .qualifiers]

theorem mem_all (heading : Heading) : heading ∈ all := by
  cases heading with
  | tagged sort => cases sort <;> decide
  | _ => decide

def word : Heading → String
  | .null => "NULL"
  | .invalid => "[type] <invalid "
  | .builtin => "[type] (builtin) "
  | .user => "[type] (user)"
  | .tagged .struct => "[type] (struct) "
  | .tagged .union => "[type] (union) "
  | .tagged .enum => "[type] (enum) "
  | .func => "[type] (func)"
  | .pointer => "[type] (pointer)"
  | .array => "[type] (array)"
  | .returns => "returns:"
  | .args => "args:"
  | .size => "size:"
  | .integer => "[integer] "
  | .identifier => "[identifier] "
  | .scope => "module="
  | .qualifiers => "qualifiers="

def letters (heading : Heading) : List Char := heading.word.toList

theorem eq_of_prefix {a b : Heading} (starts : a.letters <+: b.letters) : a = b := by
  have apart : (all.all fun a => all.all fun b =>
      !a.letters.isPrefixOf b.letters || a = b) = true := by decide
  have either := List.all_eq_true.mp (List.all_eq_true.mp apart a (mem_all a)) b (mem_all b)
  simpa [List.isPrefixOf_iff_prefix.mpr starts] using either

theorem letters_plain (heading : Heading) : '\n' ∉ heading.letters := by
  have plain : (all.all fun heading => !heading.letters.contains '\n') = true := by decide
  simpa using List.all_eq_true.mp plain heading (mem_all heading)

theorem exists_letters (heading : Heading) :
    ∃ first rest, heading.letters = first :: rest ∧ first ≠ ' ' := by
  cases heading with
  | tagged sort => cases sort <;> exact ⟨_, _, rfl, by decide⟩
  | _ => exact ⟨_, _, rfl, by decide⟩

end Heading

structure Line where
  depth : Nat
  heading : Heading
  content : String
  deriving DecidableEq

theorem toList_spaces (width : Nat) : ("".pushn ' ' width).toList = List.replicate width ' ' := by
  rw [String.pushn_eq_repeat_push]
  induction width with
  | zero => rfl
  | succ width ih => rw [Nat.repeat, String.toList_push, ih, List.replicate_succ']

theorem visible_spaces (width : Nat) : Visible ("".pushn ' ' width) := by
  intro c member
  rw [toList_spaces] at member
  obtain rfl := List.eq_of_mem_replicate member
  decide

namespace Line

variable {line other : Line} {lines others : List Line}

def text (line : Line) : String :=
  "".pushn ' ' line.depth ++ line.heading.word ++ line.content ++ "\n"

def Plain (line : Line) : Prop := '\n' ∉ line.content.toList

def letters (line : Line) : List Char :=
  List.replicate line.depth ' ' ++ (line.heading.letters ++ line.content.toList)

theorem toList_text (line : Line) : line.text.toList = line.letters ++ ['\n'] := by
  simp [text, letters, Heading.letters, toList_spaces]

theorem letters_plain (plain : line.Plain) : '\n' ∉ line.letters := by
  simp only [letters, List.mem_append, List.mem_replicate, not_or]
  exact ⟨by simp, line.heading.letters_plain, plain⟩

theorem letters_injective (same : line.letters = other.letters) : line = other := by
  obtain ⟨depth, heading, content⟩ := line
  obtain ⟨depth', heading', content'⟩ := other
  simp only [letters] at same
  obtain ⟨first, rest, spelled, visible⟩ := heading.exists_letters
  obtain ⟨first', rest', spelled', visible'⟩ := heading'.exists_letters
  -- The headings start where the spaces end.
  have depths : depth = depth' := by
    induction depth generalizing depth' with
    | zero =>
      cases depth' with
      | zero => rfl
      | succ depth' => simp [spelled, List.replicate_succ, visible] at same
    | succ depth ih =>
      cases depth' with
      | zero => simp [spelled', List.replicate_succ, eq_comm, visible'] at same
      | succ depth' =>
        simp only [List.replicate_succ, List.cons_append, List.cons.injEq, true_and] at same
        exact congrArg Nat.succ (ih depth' same)
  subst depths
  have words := List.append_cancel_left same
  obtain rfl : heading = heading' := by
    rcases List.prefix_or_prefix_of_prefix (List.prefix_append heading.letters content.toList)
      (words ▸ List.prefix_append heading'.letters content'.toList) with starts | starts
    · exact Heading.eq_of_prefix starts
    · exact (Heading.eq_of_prefix starts).symm
  rw [String.toList_inj.mp (List.append_cancel_left words)]

def render (lines : List Line) : String := String.join (lines.map text)

@[simp] theorem render_nil : render [] = "" := rfl

@[simp] theorem render_cons (line : Line) (lines : List Line) :
    render (line :: lines) = line.text ++ render lines := by
  simp [render, String.join_cons]

@[simp] theorem render_append (lines others : List Line) :
    render (lines ++ others) = render lines ++ render others := by
  simp [render, String.join_append]

theorem render_injective (plain : ∀ line ∈ lines, line.Plain) (plain' : ∀ line ∈ others, line.Plain)
    (same : render lines = render others) : lines = others := by
  induction lines generalizing others with
  | nil =>
    cases others with
    | nil => rfl
    | cons other others => simpa [toList_text] using congrArg String.toList same
  | cons line lines ih =>
    cases others with
    | nil => simpa [toList_text] using congrArg String.toList same
    | cons other others =>
      obtain ⟨head, tail⟩ := List.forall_mem_cons.mp plain
      obtain ⟨head', tail'⟩ := List.forall_mem_cons.mp plain'
      have letters : line.letters ++ '\n' :: (render lines).toList =
          other.letters ++ '\n' :: (render others).toList := by
        simpa [toList_text] using congrArg String.toList same
      obtain ⟨first, rest⟩ := eq_of_cut (letters_plain head) (letters_plain head') letters
      rw [letters_injective first, ih tail tail' (String.toList_inj.mp rest)]

end Line

end TypeGraph
