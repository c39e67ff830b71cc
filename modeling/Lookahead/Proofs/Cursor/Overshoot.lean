import Lookahead.Proofs.Cursor.Trace

namespace Lookahead.Cursor

def misses (c : Cursor) (a : Action) : Bool :=
  match a, (c.outcome a).report.outcome with
  | .advance, .ok (.token none) => true
  | _, _ => false

/-- The number of advances in a run that found no token, counted from the last rewind. -/
def missCount (c : Cursor) (actions : List Action) : Nat :=
  ((c.trace actions).rtakeWhile fun s => s.2 ≠ .rewind).countP fun s => s.1.misses s.2

theorem misses_iff (c : Cursor) (a : Action) :
    c.misses a = true ↔ a = .advance ∧ (c.outcome a).report = pure (.token none) := by
  cases a with
  | advance =>
    have hreport : (c.outcome .advance).report = pure (.token c.next?) := rfl
    unfold misses
    rw [hreport]
    cases c.next? <;> simp [pure]
  | _ => simp [misses]

theorem misses_advance (c : Cursor) : c.misses .advance = c.rest.isEmpty := by
  unfold misses
  simp only [outcome, perform, advance, Report.outcome_pure, next?_eq]
  cases c.rest <;> rfl

/-- Only an advance that finds no token makes more moves than there are tokens left. -/
theorem stride_le_of_not_misses (c : Cursor) {a : Action} (h : c.misses a = false) :
    c.stride a ≤ c.rest.length := by
  have hrun (p : Token → Bool) : (c.rest.takeWhile p).length ≤ c.rest.length :=
    (c.rest.takeWhile_prefix p).length_le
  cases a with
  | advance =>
    rw [misses_advance, List.isEmpty_eq_false_iff] at h
    exact List.length_pos_iff.mpr h
  | expect k =>
    show (if c.rest.head?.any (Token.isOf k) then 1 else 0) ≤ c.rest.length
    cases c.rest with
    | nil => simp
    | cons t ts =>
      rw [List.length_cons]
      split <;> omega
  | skipRun k limit => exact (capped_le _ _).trans (hrun _)
  | skipAmong ks => exact hrun _
  | _ => exact Nat.zero_le _

/-- A miss adds one to the overshoot, and any other action but a rewind keeps it. -/
theorem passed_after_sub (c : Cursor) {a : Action} (ha : a ≠ .rewind) :
    (c.after a).passed - c.tokens.length =
      c.passed - c.tokens.length + if c.misses a then 1 else 0 := by
  have hlen := c.length_rest
  rw [after_eq_moved c ha, passed_moved]
  cases h : c.misses a with
  | false =>
    have hle := c.stride_le_of_not_misses h
    simp only [Bool.false_eq_true, ↓reduceIte]
    omega
  | true =>
    obtain ⟨rfl, -⟩ := (c.misses_iff a).mp h
    rw [misses_advance, List.isEmpty_iff_length_eq_zero] at h
    simp only [↓reduceIte, stride]
    omega

theorem missCount_concat (c : Cursor) (actions : List Action) (a : Action) :
    c.missCount (actions ++ [a]) =
      if a = .rewind then 0
      else c.missCount actions + if (c.afterAll actions).misses a then 1 else 0 := by
  unfold missCount
  rw [trace_concat, List.rtakeWhile_concat]
  by_cases ha : a = .rewind
  · simp [ha]
  · simp [ha, List.countP_append, List.countP_cons]

theorem passed_afterAll_sub (tokens : List Token) (names : Resolver) (actions : List Action) :
    ((ofTokens tokens names).afterAll actions).passed - tokens.length =
      (ofTokens tokens names).missCount actions := by
  induction actions using List.reverseRecOn with
  | nil => simp [missCount, trace, ofTokens]
  | append_singleton actions a ih =>
    rw [afterAll_concat, missCount_concat]
    by_cases ha : a = .rewind
    · rw [if_pos ha, ha]
      exact Nat.zero_sub _
    · have hstep := ((ofTokens tokens names).afterAll actions).passed_after_sub ha
      rw [tokens_afterAll] at hstep
      rw [if_neg ha, ← ih]
      exact hstep

theorem position_after_le (c : Cursor) (a : Action) :
    (c.after a).position ≤ max c.position ((c.tokens.length : Int) - 1) ∨
      a = .advance ∧ (c.outcome a).report = pure (.token none) := by
  cases h : c.misses a with
  | true => exact Or.inr ((c.misses_iff a).mp h)
  | false =>
    left
    by_cases ha : a = .rewind
    · have hzero : (c.after a).passed = 0 := by
        subst ha
        rfl
      simp only [position_eq]
      omega
    · have hstep := c.passed_after_sub ha
      simp only [h, Bool.false_eq_true, ↓reduceIte] at hstep
      simp only [position_eq]
      omega

/-- The position is beyond the last token by the number of misses since the last rewind, and only a
miss takes it there. -/
theorem overshoot_eq_missCount (tokens : List Token) (names : Resolver) (actions : List Action) :
    -1 ≤ ((ofTokens tokens names).afterAll actions).position ∧
      max 0 (((ofTokens tokens names).afterAll actions).position - ((tokens.length : Int) - 1)) =
        (ofTokens tokens names).missCount actions ∧
      ∀ a, (((ofTokens tokens names).afterAll actions).after a).position ≤
          max ((ofTokens tokens names).afterAll actions).position ((tokens.length : Int) - 1) ∨
        a = .advance ∧
          (((ofTokens tokens names).afterAll actions).outcome a).report = pure (.token none) := by
  have hcount := passed_afterAll_sub tokens names actions
  refine ⟨?_, ?_, ?_⟩
  · simp only [position_eq]
    omega
  · simp only [position_eq]
    omega
  · intro a
    have hstep := ((ofTokens tokens names).afterAll actions).position_after_le a
    rw [tokens_afterAll] at hstep
    exact hstep

end Lookahead.Cursor
