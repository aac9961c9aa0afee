import TypeGraph.Proofs.Admission

set_option autoImplicit false

namespace TypeGraph

open Relation Descent

namespace Arena

variable {arena : Arena} {id met : NodeId} {target : Handle}

theorem Circles.outOfFuel (circles : arena.Circles id target) (levels : Nat) :
    arena.reachesWithin id levels target = .error .outOfFuel := by
  refine holds_of_winds
    (fun levels a => ∀ handle : Handle, handle.isNull = false → handle.node = a →
      arena.reachesWithin id levels handle = .error .outOfFuel)
    (fun _ _ _ _ => rfl) ?_ levels circles.2 target circles.1 rfl
  rintro levels a b ⟨different, leads⟩ below handle valid rfl
  obtain ⟨node, found, link⟩ := leads
  obtain ⟨stands, valid', same⟩ := Leads.eq_target ⟨node, found, link⟩ found
  rw [reachesWithin_of_lookup levels valid different found, if_neg (by simp [stands])]
  exact below node.target valid' same

theorem reaches_ends_iff :
    (∃ levels, (arena.reachesWithin id levels target).Ends) ↔ ¬ arena.Circles id target := by
  constructor
  · rintro ⟨levels, ends⟩ circles
    exact ends (circles.outOfFuel levels)
  · intro free
    exact ⟨arena.levels, (reaches_settles_of_not_circles free).1⟩

theorem reachesWithin_of_unknown (levels : Nat) (handle : Handle) (valid : handle.isNull = false)
    (path : ReflTransGen (arena.Avoids id) handle.node met) (different : met ≠ id)
    (absent : arena.contains met = false)
    (ends : (arena.reachesWithin id levels handle).Ends) :
    arena.reachesWithin id levels handle = .error (.refused (.unknownType met)) := by
  induction levels generalizing handle with
  | zero => exact absurd rfl ends
  | succ levels ih =>
    rcases ReflTransGen.cases_head path with rfl | ⟨next, ⟨apart, leads⟩, rest⟩
    · cases found : arena.lookup handle.node with
      | ok node =>
        rw [contains_iff.mpr ⟨node, found⟩] at absent
        cases absent
      | error refusal =>
        rcases lookup_error_cases found with ⟨null, -⟩ | ⟨-, rfl⟩
        · cases null.symm.trans valid
        · simp [reachesWithin, valid, different, found]
    · -- The way down is one only, so that the search takes the first step of the path.
      obtain ⟨node, found, link⟩ := leads
      obtain ⟨stands, valid', rfl⟩ := Leads.eq_target ⟨node, found, link⟩ found
      rw [reachesWithin_of_lookup levels valid apart found, if_neg (by simp [stands])] at ends ⊢
      exact ih node.target valid' rest ends

theorem resolve_of_error {stop : Stop} (stopped : arena.reaches target id = .error stop) :
    (arena.resolve id target).answer = .error stop := by
  simp only [resolve, stopped]

theorem resolve_answers (free : ¬ arena.Circles id target) :
    (arena.resolve id target).answer = .ok () ∨
      ∃ error, (arena.resolve id target).answer = .error (.refused error) := by
  have ends := (reaches_settles_of_not_circles free).1
  cases walk : arena.reaches target id with
  | ok found =>
    cases found with
    | true => exact .inr ⟨cycleError, by simp only [resolve, walk]⟩
    | false =>
      simp only [resolve, walk]
      exact change_answer arena id _ _
  | error stop =>
    rcases reachesWithin_stop _ target stop walk with rfl | ⟨error, rfl⟩
    · exact absurd walk ends
    · exact .inr ⟨error, resolve_of_error walk⟩

theorem resolve_of_unknown (free : ¬ arena.Circles id target) (valid : target.isNull = false)
    (path : ReflTransGen (arena.Avoids id) target.node met) (different : met ≠ id)
    (absent : arena.contains met = false) :
    (arena.resolve id target).answer = .error (.refused (.unknownType met)) :=
  resolve_of_error (reachesWithin_of_unknown _ target valid path different absent
    (reaches_settles_of_not_circles free).1)

/-- Whether the calls of a run overwrite no node and ask for pointers to nodes and arrays of nodes
only that are there by then. All else that they pass on may lead nowhere. -/
def groundsElements (arena : Arena) : List Call → Bool
  | [] => true
  | call :: calls =>
    !call.isOverwrite && call.elements.all arena.resolves &&
      (call.perform arena).arena.groundsElements calls

theorem Upright.run (upright : arena.Upright) (calls : List Call)
    (grounded : arena.groundsElements calls = true) : (arena.run calls).Upright := by
  induction calls generalizing arena with
  | nil => exact upright
  | cons call calls ih =>
    simp only [groundsElements, Bool.and_eq_true, Bool.not_eq_true', List.all_eq_true] at grounded
    have next := upright.effect grounded.1.1 grounded.1.2 (effect_perform call arena)
    exact ih next grounded.2

/-- Resolving an alias returns exactly if the way from the target does not go round without meeting the
alias. It then answers or is refused, for an unknown type if the way leads out of the arena. After calls
that make pointers and arrays over existing nodes only, it always returns. -/
theorem resolve_returns_iff (arena : Arena) (id : NodeId) (target : Handle) :
    ((∃ levels, (arena.reachesWithin id levels target).Ends) ↔ ¬ arena.Circles id target) ∧
    (¬ arena.Circles id target →
      Settles Answer.Ends (fun levels => arena.reachesWithin id levels target) (arena.size + 1)
          (arena.reaches target id) ∧
        ((arena.resolve id target).answer = .ok () ∨
          ∃ error, (arena.resolve id target).answer = .error (.refused error))) ∧
    (¬ arena.Circles id target → target.isNull = false → ∀ met,
      ReflTransGen (arena.Avoids id) target.node met → met ≠ id → arena.contains met = false →
        (arena.resolve id target).answer = .error (.refused (.unknownType met))) ∧
    ∀ calls, Arena.empty.groundsElements calls = true →
      ¬ (Arena.empty.run calls).Circles id target := by
  refine ⟨reaches_ends_iff, fun free => ⟨reaches_settles_of_not_circles free, resolve_answers free⟩,
    fun free valid met path different absent => resolve_of_unknown free valid path different absent,
    fun calls grounded => ?_⟩
  exact (Sound.empty.upright.run calls grounded).not_circles id target

-- An alias with an array of it and a function that returns a node that is never made; the alias is
-- resolved to the function, and a second one is made.
def groundedArray : List Call :=
  [.newUser (.identifier none "A"), .newArray (Handle.ofNode ⟨64⟩) none,
    .newFunction (Handle.ofNode ⟨99⟩), .resolve ⟨64⟩ (Handle.ofNode ⟨66⟩),
    .newUser (.identifier none "B")]

-- An alias and an array of a node that is never made.
def strayArray : List Call :=
  [.newUser (.identifier none "A"), .newArray (Handle.ofNode ⟨98⟩) none]

theorem resolve_returns_iff_groundedArray :
    let grounded := Arena.empty.run groundedArray
    let stray := Arena.empty.run strayArray
    Arena.empty.groundsElements groundedArray = true ∧
      ¬ grounded.Circles ⟨67⟩ (Handle.ofNode ⟨65⟩) ∧
      Settles Answer.Ends (fun levels => grounded.reachesWithin ⟨67⟩ levels (Handle.ofNode ⟨65⟩))
        (grounded.size + 1) (grounded.reaches (Handle.ofNode ⟨65⟩) ⟨67⟩) ∧
      (grounded.resolve ⟨67⟩ (Handle.ofNode ⟨65⟩)).answer = .ok () ∧
      ¬ stray.Circles ⟨64⟩ (Handle.ofNode ⟨65⟩) ∧
      (stray.resolve ⟨64⟩ (Handle.ofNode ⟨65⟩)).answer = .error (.refused (.unknownType ⟨98⟩)) := by
  have firm : Arena.empty.groundsElements groundedArray = true := by cbv
  have free := (resolve_returns_iff Arena.empty ⟨67⟩ (Handle.ofNode ⟨65⟩)).2.2.2 groundedArray firm
  have returns := resolve_returns_iff (Arena.empty.run groundedArray) ⟨67⟩ (Handle.ofNode ⟨65⟩)
  have stray := resolve_returns_iff (Arena.empty.run strayArray) ⟨64⟩ (Handle.ofNode ⟨65⟩)
  have walk : (Arena.empty.run strayArray).reachesWithin ⟨64⟩ 3 (Handle.ofNode ⟨65⟩) =
      .error (.refused (.unknownType ⟨98⟩)) := by cbv
  have free' := stray.1.mp ⟨3, walk ▸ Answer.ends_refused _⟩
  have array : (Arena.empty.run strayArray).lookup ⟨65⟩ =
      .ok ⟨Handle.ofNode ⟨98⟩, Handle.null, .array none⟩ := by cbv
  have step : (Arena.empty.run strayArray).Avoids ⟨64⟩ ⟨65⟩ ⟨98⟩ :=
    ⟨by decide, _, array, _, List.mem_cons_self, rfl, rfl⟩
  exact ⟨firm, free, (returns.2.1 free).1, by cbv, free',
    stray.2.2.1 free' rfl ⟨98⟩ (.single step) (by decide) (by cbv)⟩

-- A pointer to itself, which can be had as long as its id is not in use, and an alias.
def selfPointer : List Call :=
  [.pointerTo (Handle.ofNode ⟨64⟩), .newUser (.identifier none "T")]

theorem selfPointer_endless :
    let arena := Arena.empty.run selfPointer
    (∀ levels, arena.reachesWithin ⟨65⟩ levels (Handle.ofNode ⟨64⟩) = .error .outOfFuel) ∧
      (arena.resolve ⟨65⟩ (Handle.ofNode ⟨64⟩)).answer = .error .outOfFuel ∧
      Arena.empty.contains ⟨99⟩ = false ∧
      (Arena.empty.resolve ⟨99⟩ (Handle.ofNode ⟨99⟩)).answer = .error (.refused cycleError) := by
  have pointer : (Arena.empty.run selfPointer).lookup ⟨64⟩ =
      .ok ⟨Handle.ofNode ⟨64⟩, Handle.null, .pointer⟩ := by cbv
  have around : (Arena.empty.run selfPointer).Avoids ⟨65⟩ ⟨64⟩ ⟨64⟩ :=
    ⟨by decide, _, pointer, _, List.mem_cons_self, rfl, rfl⟩
  have circles : (Arena.empty.run selfPointer).Circles ⟨65⟩ (Handle.ofNode ⟨64⟩) :=
    ⟨rfl, ⟨64⟩, .refl, .single around⟩
  exact ⟨circles.outOfFuel, resolve_of_error (circles.outOfFuel _), by cbv, by cbv⟩

end Arena

end TypeGraph
