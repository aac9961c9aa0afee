import Mathlib.Data.Finset.Card
import Mathlib.Data.List.Chain
import Mathlib.Logic.Relation

/-!
Descents along the links of a graph of which finitely many nodes have links at all. Where no node
leads back to itself a descent meets each of them once, so that a recursion along the links comes to
its end on as many levels and does not depend on how many more it is given.
-/

set_option autoImplicit false

namespace TypeGraph.Descent

open Relation

variable {α : Type} {link wider : α → α → Prop} {a b source target : α}

def Acyclic (link : α → α → Prop) : Prop := ∀ a, ¬ TransGen link a a

theorem Acyclic.mono (acyclic : Acyclic wider) (within : ∀ a b, link a b → wider a b) :
    Acyclic link :=
  fun a cycle => acyclic a (TransGen.mono within a a cycle)

theorem reaches_source_of_wider (added : ∀ a b, wider a b → link a b ∨ a = source ∧ b = target)
    (path : ReflTransGen wider a source) : ReflTransGen link a source := by
  induction path using ReflTransGen.head_induction_on with
  | refl => exact .refl
  | head first _ ih =>
    rcases added _ _ first with old | ⟨rfl, -⟩
    · exact .head old ih
    · exact .refl

theorem wider_path_cases (added : ∀ a b, wider a b → link a b ∨ a = source ∧ b = target)
    (path : TransGen wider a b) :
    TransGen link a b ∨ ReflTransGen wider a source ∧ ReflTransGen wider target b := by
  induction path with
  | single first =>
    rcases added _ _ first with old | ⟨rfl, rfl⟩
    · exact .inl (.single old)
    · exact .inr ⟨.refl, .refl⟩
  | tail path last ih =>
    rcases added _ _ last with old | ⟨rfl, rfl⟩
    · exact ih.imp (fun before => before.tail old) fun through => ⟨through.1, through.2.tail last⟩
    · exact .inr ⟨path.to_reflTransGen, .refl⟩

theorem Acyclic.add_link (acyclic : Acyclic link)
    (added : ∀ a b, wider a b → link a b ∨ a = source ∧ b = target)
    (apart : ¬ ReflTransGen link target source) : Acyclic wider := by
  intro a cycle
  -- A new cycle takes the new link, so that the rest of it leads from the target to the source.
  rcases wider_path_cases added cycle with old | ⟨before, after⟩
  · exact acyclic a old
  · exact apart (reaches_source_of_wider added (after.trans before))

/-- Whether a descent from `a` can go on for ever. -/
def Winds (link : α → α → Prop) (a : α) : Prop :=
  ∃ c, ReflTransGen link a c ∧ TransGen link c c

theorem Winds.next (winds : Winds link a) : ∃ b, link a b ∧ Winds link b := by
  obtain ⟨c, path, cycle⟩ := winds
  -- The next step is one of the path to the cycle, or of the cycle if `a` lies on it.
  rcases ReflTransGen.cases_head path with rfl | ⟨b, first, rest⟩
  · obtain ⟨b, first, rest⟩ := TransGen.head'_iff.mp cycle
    exact ⟨b, first, a, rest, cycle⟩
  · exact ⟨b, first, c, rest, cycle⟩

theorem Winds.mono (winds : Winds link a) (within : ∀ a b, link a b → wider a b) : Winds wider a :=
  let ⟨c, path, cycle⟩ := winds
  ⟨c, ReflTransGen.mono within a c path, TransGen.mono within c c cycle⟩

-- The nodes with links that a descent from `a` can meet; one step down loses `a` at least.
noncomputable def height (link : α → α → Prop) (sources : Finset α) (a : α) : Nat :=
  open Classical in (sources.filter (ReflTransGen link a)).card

variable {sources : Finset α}

theorem height_le_card : height link sources a ≤ sources.card := by
  classical
  exact Finset.card_filter_le _ _

theorem height_pos (present : a ∈ sources) : 0 < height link sources a := by
  classical
  exact Finset.card_pos.mpr ⟨a, by simp [present, ReflTransGen.refl]⟩

theorem height_lt (present : a ∈ sources) (next : link a b) (acyclic : ¬ TransGen link a a) :
    height link sources b < height link sources a := by
  classical
  apply Finset.card_lt_card
  refine ⟨fun c met => ?_, fun within => ?_⟩
  · simp only [Finset.mem_filter] at met ⊢
    exact ⟨met.1, .head next met.2⟩
  · have met := within (show a ∈ sources.filter (ReflTransGen link a) by
      simp [present, ReflTransGen.refl])
    exact acyclic (.head' next (Finset.mem_filter.mp met).2)

theorem length_le_height (acyclic : Acyclic link) (linked : ∀ a b, link a b → a ∈ sources)
    (rest : List α) (path : List.IsChain link (a :: rest)) :
    rest.length ≤ height link sources a := by
  induction rest generalizing a with
  | nil => exact Nat.zero_le _
  | cons b rest ih =>
    obtain ⟨next, path⟩ := List.isChain_cons_cons.mp path
    have lower := height_lt (linked _ _ next) next (acyclic a)
    have below := ih path
    simp only [List.length_cons]
    omega

theorem nodup_of_path (acyclic : Acyclic link) (path : List α) (linked : path.IsChain link) :
    path.Nodup := by
  have later : path.Pairwise (TransGen link) :=
    (linked.imp fun _ _ next => TransGen.single next).pairwise
  refine later.imp ?_
  rintro a _ cycle rfl
  exact acyclic a cycle

/-- Whether a recursion on levels has one result on any number of levels from `bound` on, and one
that tells that it came to its end. -/
def Settles {β : Type} (ended : β → Prop) (run : Nat → β) (bound : Nat) (result : β) : Prop :=
  ended result ∧ ∀ levels, bound ≤ levels → run levels = result

/-- Two recursions along the same links are alike on levels enough for each, if they are alike where
they go on for ever and if what one step makes of alike results is alike. -/
theorem alike_of_step {σ β γ : Type} (run : Nat → σ → β) (more : Nat → σ → γ)
    (next : σ → σ → Prop) (inside stuck : σ → Prop) (depth : σ → Nat) (alike : σ → β → γ → Prop)
    (never : ∀ a, inside a → stuck a → ∀ levels levels', alike a (run levels a) (more levels' a))
    (falls : ∀ a b, inside a → ¬ stuck a → next a b → inside b ∧ depth b < depth a)
    (step : ∀ a, inside a → ∀ levels levels', depth a ≤ levels → depth a ≤ levels' →
      (∀ b, next a b → alike b (run levels b) (more levels' b)) →
        alike a (run (levels + 1) a) (more (levels' + 1) a))
    (a : σ) (start : inside a) {levels levels' : Nat} (enough : depth a < levels)
    (enough' : depth a < levels') : alike a (run levels a) (more levels' a) := by
  -- Induction on the levels of the one, for all of the other.
  induction levels generalizing a levels' with
  | zero => omega
  | succ levels ih =>
    by_cases endless : stuck a
    · exact never a start endless _ _
    · obtain _ | levels' := levels'
      · omega
      · apply step a start levels levels' (by omega) (by omega)
        intro b down
        obtain ⟨within, lower⟩ := falls a b start endless down
        exact ih b within (by omega) (by omega)

theorem settles_of_step {σ β : Type} (run : Nat → σ → β) (next : σ → σ → Prop) (inside : σ → Prop)
    (depth : σ → Nat) (ended : σ → β → Prop)
    (falls : ∀ a b, inside a → next a b → inside b ∧ depth b < depth a)
    (step : ∀ a, inside a → ∀ levels more,
      (∀ b, next a b → run levels b = run more b ∧ ended b (run levels b)) →
        run (levels + 1) a = run (more + 1) a ∧ ended a (run (levels + 1) a))
    (a : σ) (start : inside a) {bound top : Nat} (deep : depth a < bound) (above : bound ≤ top) :
    Settles (ended a) (fun levels => run levels a) bound (run top a) := by
  have agree (levels : Nat) (enough : depth a < levels) :
      run levels a = run top a ∧ ended a (run levels a) :=
    alike_of_step run run next inside (fun _ => False) depth
      (fun a result other => result = other ∧ ended a result) (fun _ _ => False.elim)
      (fun a b start _ => falls a b start)
      (fun a start levels more _ _ => step a start levels more) a start enough (by omega)
  exact ⟨(agree top (by omega)).2, fun levels enough => (agree levels (by omega)).1⟩

theorem settles_along {β : Type} (run : Nat → α → β) {ended : β → Prop}
    (linked : ∀ a b, link a b → a ∈ sources)
    (step : ∀ a levels more,
      (∀ b, link a b → run levels b = run more b ∧ ended (run levels b)) →
        run (levels + 1) a = run (more + 1) a ∧ ended (run (levels + 1) a))
    (free : ¬ Winds link a) {bound top : Nat} (enough : sources.card < bound)
    (above : bound ≤ top) :
    Settles ended (fun levels => run levels a) bound (run top a) := by
  -- What a node leads to cannot go on for ever if the node itself cannot.
  apply settles_of_step run link (fun a => ¬ Winds link a) (height link sources) (fun _ => ended)
    ?_ (fun a _ => step a) a free ?_ above
  · intro a b free next
    refine ⟨fun ⟨c, path, cycle⟩ => free ⟨c, .head next path, cycle⟩, ?_⟩
    exact height_lt (linked a b next) next fun cycle => free ⟨a, .refl, cycle⟩
  · exact Nat.lt_of_le_of_lt height_le_card enough

theorem holds_of_winds (holds : Nat → α → Prop) (start : ∀ a, holds 0 a)
    (step : ∀ levels a b, link a b → holds levels b → holds (levels + 1) a)
    (levels : Nat) (winds : Winds link a) : holds levels a := by
  induction levels generalizing a with
  | zero => exact start a
  | succ levels ih =>
    obtain ⟨b, next, winds⟩ := winds.next
    exact step levels a b next (ih winds)

theorem alike_along {β γ : Type} (link : α → α → Prop) (sources : Finset α) (run : Nat → α → β)
    (more : Nat → α → γ) (alike : β → γ → Prop) (inside : α → Prop) (slack : Nat)
    (linked : ∀ a b, link a b → a ∈ sources)
    (onward : ∀ a b, inside a → link a b → inside b)
    (never : ∀ a, inside a → Winds link a → ∀ levels levels', alike (run levels a) (more levels' a))
    (step : ∀ a, inside a → ∀ levels levels', slack ≤ levels → slack ≤ levels' →
      (∀ b, link a b → alike (run levels b) (more levels' b)) →
        alike (run (levels + 1) a) (more (levels' + 1) a))
    (start : inside a) {levels levels' : Nat} (enough : sources.card + slack < levels)
    (enough' : sources.card + slack < levels') : alike (run levels a) (more levels' a) := by
  have bounded : height link sources a ≤ sources.card := height_le_card
  apply alike_of_step run more link inside (Winds link) (fun a => height link sources a + slack)
    (fun _ => alike) never ?_ ?_ a start (by omega) (by omega)
  · intro a b start free next
    refine ⟨onward a b start next, Nat.add_lt_add_right ?_ slack⟩
    exact height_lt (linked a b next) next fun cycle => free ⟨a, .refl, cycle⟩
  · intro a start levels levels' deep deep'
    exact step a start levels levels' (by omega) (by omega)

theorem path_cases_of_marked {marked : α → Prop} (plain : ∀ a b, wider a b → link a b ∨ marked a)
    (path : TransGen wider a b) :
    TransGen link a b ∨ ∃ c, marked c ∧ ReflTransGen wider a c ∧ TransGen wider c b := by
  induction path with
  | single first =>
    rcases plain _ _ first with inner | mark
    · exact .inl (.single inner)
    · exact .inr ⟨a, mark, .refl, .single first⟩
  | tail path last ih =>
    rcases ih with inner | ⟨c, mark, before, after⟩
    · rcases plain _ _ last with inner' | mark
      · exact .inl (inner.tail inner')
      · exact .inr ⟨_, mark, path.to_reflTransGen, .single last⟩
    · exact .inr ⟨c, mark, before, after.tail last⟩

theorem Winds.marked {marked : α → Prop} (acyclic : Acyclic link)
    (plain : ∀ a b, wider a b → link a b ∨ marked a) (winds : Winds wider a) :
    ∃ c, marked c ∧ ReflTransGen wider a c ∧ TransGen wider c c := by
  obtain ⟨b, path, cycle⟩ := winds
  rcases path_cases_of_marked plain cycle with inner | ⟨c, mark, before, after⟩
  · exact absurd inner (acyclic b)
  · exact ⟨c, mark, path.trans before, after.trans_left before⟩

def Reaches (link : α → α → Prop) (wanted : α → Prop) (a : α) : Prop :=
  ∃ b, ReflTransGen link a b ∧ wanted b

variable {wanted : α → Prop}

theorem reaches_iff : Reaches link wanted a ↔ wanted a ∨ ∃ b, link a b ∧ Reaches link wanted b := by
  constructor
  · rintro ⟨c, path, found⟩
    rcases ReflTransGen.cases_head path with rfl | ⟨b, first, rest⟩
    · exact .inl found
    · exact .inr ⟨b, first, c, rest, found⟩
  · rintro (found | ⟨b, first, c, rest, found⟩)
    · exact ⟨a, .refl, found⟩
    · exact ⟨c, .head first rest, found⟩

theorem last_visit (path : ReflTransGen link a b) (apart : b ≠ a) :
    ∃ c, link a c ∧ ReflTransGen (fun x y => x ≠ a ∧ link x y) c b := by
  induction path with
  | refl => exact absurd rfl apart
  | @tail x y path last ih =>
    by_cases same : x = a
    · subst same
      exact ⟨y, last, .refl⟩
    · obtain ⟨c, first, rest⟩ := ih same
      exact ⟨c, first, rest.tail ⟨same, last⟩⟩

end TypeGraph.Descent
