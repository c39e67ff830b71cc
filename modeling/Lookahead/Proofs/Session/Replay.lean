import Lookahead.Proofs.Cursor.Trace

namespace Lookahead

namespace Cursor

theorem lastLeg_concat (actions : List Action) (a : Action) :
    lastLeg (actions ++ [a]) = if a = .rewind then [] else lastLeg actions ++ [a] := by
  unfold lastLeg
  rw [List.rtakeWhile_concat]
  by_cases ha : a = .rewind <;> simp [ha]

/-- A rewind forgets all that was done before it. -/
theorem afterAll_lastLeg (tokens : List Token) (names : Resolver) (actions : List Action) :
    (ofTokens tokens names).afterAll (lastLeg actions) =
      (ofTokens tokens names).afterAll actions := by
  induction actions using List.reverseRecOn with
  | nil => rfl
  | append_singleton actions a ih =>
    rw [lastLeg_concat, afterAll_concat]
    by_cases ha : a = .rewind
    · rw [if_pos ha, ha]
      exact ((ofTokens tokens names).rewind_afterAll actions).symm
    · rw [if_neg ha, afterAll_concat, ih]

end Cursor

namespace Session

variable {n : Nat}

def received (i : Fin n) (steps : List (Step n)) : List Action :=
  steps.filterMap fun step => if step.cursor = i then some step.action else none

theorem received_cons (i : Fin n) (step : Step n) (steps : List (Step n)) :
    received i (step :: steps) =
      if step.cursor = i then step.action :: received i steps else received i steps := by
  unfold received
  rw [List.filterMap_cons]
  by_cases hi : step.cursor = i <;> simp [hi]

theorem get_ofTokens (tokens : List Token) (names : Resolver) (i : Fin n) :
    (ofTokens n tokens names).get i = Cursor.ofTokens tokens names :=
  Vector.getElem_replicate _

theorem get_after (s : Session n) (step : Step n) (i : Fin n) :
    (s.after step).get i = if step.cursor = i then (s.get i).after step.action else s.get i := by
  change (s.set step.cursor (s[step.cursor].after step.action))[i.val] = _
  rw [Vector.getElem_set]
  by_cases hi : step.cursor = i
  · subst hi
    rw [if_pos rfl, if_pos rfl]
    rfl
  · rw [if_neg (Fin.val_ne_of_ne hi), if_neg hi]
    rfl

theorem get_foldl_after (s : Session n) (steps : List (Step n)) (i : Fin n) :
    (steps.foldl after s).get i = (s.get i).afterAll (received i steps) := by
  induction steps generalizing s with
  | nil => rfl
  | cons step steps ih =>
    rw [List.foldl_cons, ih, get_after, received_cons]
    by_cases hi : step.cursor = i
    · rw [if_pos hi, if_pos hi, Cursor.afterAll_cons]
    · rw [if_neg hi, if_neg hi]

theorem length_run (s : Session n) (steps : List (Step n)) :
    (s.run steps).length = steps.length := by
  induction steps generalizing s with
  | nil => rfl
  | cons step steps ih => rw [run, List.length_cons, List.length_cons, ih]

theorem getElem?_run (s : Session n) (steps : List (Step n)) (k : Nat) :
    (s.run steps)[k]? = steps[k]?.map fun step =>
      (((steps.take k).foldl after s).get step.cursor).outcome step.action := by
  induction steps generalizing s k with
  | nil => rfl
  | cons step steps ih =>
    rw [run]
    cases k with
    | zero => rfl
    | succ k => simpa using ih (s.after step) k

/-- Every step has the outcome that it would have on a fresh cursor which received nothing but what
the cursor of the step received since its last rewind. -/
theorem run_eq_replay (n : Nat) (tokens : List Token) (names : Resolver) (steps : List (Step n)) :
    ((ofTokens n tokens names).run steps).length = steps.length ∧
      ∀ k : Fin steps.length,
        ((ofTokens n tokens names).run steps)[k.val]? =
          ((Cursor.ofTokens tokens names).run
            (Cursor.lastLeg (received steps[k].cursor (steps.take k)) ++
              [steps[k].action])).getLast? := by
  refine ⟨length_run _ steps, ?_⟩
  intro k
  rw [getElem?_run, List.getElem?_eq_getElem k.isLt, Option.map_some, Cursor.getLast?_run_concat,
    Cursor.afterAll_lastLeg, ← get_ofTokens tokens names steps[k].cursor]
  exact congrArg (fun c => some (c.outcome steps[k].action)) (get_foldl_after _ _ _)

end Session

end Lookahead
