import Lookahead.Proofs.Cursor.Stride
import Mathlib.Data.List.DropRight

namespace Lookahead.Cursor

/-- The steps of a run, each action with the cursor that it starts from. -/
def trace : Cursor → List Action → List (Cursor × Action)
  | _, [] => []
  | c, a :: actions => (c, a) :: (c.after a).trace actions

/-- The actions after the last rewind. -/
def lastLeg (actions : List Action) : List Action := actions.rtakeWhile fun a => a ≠ .rewind

theorem run_eq_map_trace (c : Cursor) (actions : List Action) :
    c.run actions = (c.trace actions).map fun s => s.1.outcome s.2 := by
  induction actions generalizing c with
  | nil => rfl
  | cons a actions ih => rw [run, trace, List.map_cons, ih]

@[simp] theorem afterAll_nil (c : Cursor) : c.afterAll [] = c := rfl

@[simp] theorem afterAll_cons (c : Cursor) (a : Action) (actions : List Action) :
    c.afterAll (a :: actions) = (c.after a).afterAll actions := rfl

theorem afterAll_concat (c : Cursor) (actions : List Action) (a : Action) :
    c.afterAll (actions ++ [a]) = (c.afterAll actions).after a := by
  simp [afterAll]

theorem afterAll_append (c : Cursor) (actions later : List Action) :
    c.afterAll (actions ++ later) = (c.afterAll actions).afterAll later :=
  List.foldl_append

theorem afterAll_replicate_advance (c : Cursor) (n : Nat) :
    c.afterAll (List.replicate n .advance) = c.moved n := by
  induction n generalizing c with
  | zero => rfl
  | succ n ih =>
    rw [List.replicate_succ, afterAll_cons, ih, ← moved_forward]
    rfl

theorem trace_concat (c : Cursor) (actions : List Action) (a : Action) :
    c.trace (actions ++ [a]) = c.trace actions ++ [(c.afterAll actions, a)] := by
  induction actions generalizing c with
  | nil => rfl
  | cons b actions ih => rw [List.cons_append, trace, ih, trace, afterAll_cons, List.cons_append]

theorem getLast?_run_concat (c : Cursor) (actions : List Action) (a : Action) :
    (c.run (actions ++ [a])).getLast? = some ((c.afterAll actions).outcome a) := by
  simp [run_eq_map_trace, trace_concat]

theorem exists_afterAll_eq (c : Cursor) (actions : List Action) :
    ∃ n, c.afterAll actions = { c with passed := n } := by
  induction actions generalizing c with
  | nil => exact ⟨c.passed, rfl⟩
  | cons a actions ih =>
    obtain ⟨n, hn⟩ := c.exists_after_eq a
    obtain ⟨m, hm⟩ := ih (c.after a)
    exact ⟨m, by rw [afterAll_cons, hm, hn]⟩

@[simp] theorem tokens_afterAll (c : Cursor) (actions : List Action) :
    (c.afterAll actions).tokens = c.tokens := by
  obtain ⟨n, hn⟩ := c.exists_afterAll_eq actions
  rw [hn]

@[simp] theorem names_afterAll (c : Cursor) (actions : List Action) :
    (c.afterAll actions).names = c.names := by
  obtain ⟨n, hn⟩ := c.exists_afterAll_eq actions
  rw [hn]

theorem rewind_afterAll (c : Cursor) (actions : List Action) :
    (c.afterAll actions).rewind = c.rewind := by
  obtain ⟨n, hn⟩ := c.exists_afterAll_eq actions
  rw [hn]
  rfl

theorem passed_le_passed_afterAll (c : Cursor) {actions : List Action} (h : .rewind ∉ actions) :
    c.passed ≤ (c.afterAll actions).passed := by
  induction actions generalizing c with
  | nil => exact Nat.le_refl _
  | cons a actions ih =>
    obtain ⟨ha, hrest⟩ := List.ne_and_not_mem_of_not_mem_cons h
    have hstep := ih (c.after a) hrest
    rw [after_eq_moved c ha.symm, passed_moved] at hstep
    rw [afterAll_cons, after_eq_moved c ha.symm]
    omega

def bracketed : List Token := [⟨"(", .bare 1, 1⟩, ⟨"x", .bare 2, 1⟩, ⟨")", .bare 3, 1⟩]

/-- A run over `(x)` that consumes, fails, looks ahead, skips and goes on beyond the end. -/
def bracketRun : List Action :=
  [.expect (.bare 1), .startsWith [.bare 2, .bare 3, .bare 4], .expect (.bare 7),
    .skipRun (.bare 2) 1, .skipAmong [.bare 0, .bare 3], .advance, .position]

end Lookahead.Cursor
