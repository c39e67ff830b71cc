import Lookahead.Proofs.Cursor.Trace

namespace Lookahead

/-- Outcomes of an action that differ at most in the tokens that they hand out and in diagnostics. -/
def Alike (a : Action) (o p : Outcome) : Prop :=
  o.position = p.position ∧
    match a with
    | .advance =>
      ∃ t u : Option Token, o.report = pure (.token t) ∧ p.report = pure (.token u) ∧
        t.map (fun t => t.kind.code) = u.map fun t => t.kind.code
    | .expect _ => o.report.outcome.isOk = p.report.outcome.isOk
    | .tokens =>
      ∃ ts us : List Token, o.report = pure (.tokens ts) ∧ p.report = pure (.tokens us) ∧
        ts.map (fun t => t.kind.code) = us.map fun t => t.kind.code
    | _ => ∃ x, o.report = pure x ∧ p.report = pure x

namespace Cursor

structure Aligned (c d : Cursor) : Prop where
  passed : c.passed = d.passed
  tokens : (c.tokens.map fun t => t.kind.code) = d.tokens.map fun t => t.kind.code

namespace Aligned

variable {c d : Cursor}

theorem codes (h : Aligned c d) : c.codes = d.codes := by
  unfold Cursor.codes rest
  rw [List.map_drop, List.map_drop, h.tokens, h.passed]

theorem head? (h : Aligned c d) :
    c.rest.head?.map (fun t => t.kind.code) = d.rest.head?.map fun t => t.kind.code := by
  rw [← List.head?_map, ← List.head?_map]
  exact congrArg List.head? h.codes

theorem hasNext (h : Aligned c d) : c.hasNext = d.hasNext := by
  have hlen := congrArg List.length h.tokens
  rw [List.length_map, List.length_map] at hlen
  unfold Cursor.hasNext
  rw [h.passed, hlen]

theorem after (h : Aligned c d) (a : Action) : Aligned (c.after a) (d.after a) := by
  refine ⟨?_, by rw [tokens_after, tokens_after, h.tokens]⟩
  by_cases ha : a = .rewind
  · subst ha
    rfl
  · rw [after_eq_moved c ha, after_eq_moved d ha, passed_moved, passed_moved, h.passed,
      stride_congr h.codes]

theorem position (h : Aligned c d) : c.position = d.position := by
  unfold Cursor.position
  rw [h.passed]

theorem alike (h : Aligned c d) (a : Action) : Alike a (c.outcome a) (d.outcome a) := by
  refine ⟨(h.after a).position, ?_⟩
  cases a with
  | peek => exact ⟨.number c.peek, rfl, by simp only [outcome, perform, peek_congr h.codes]⟩
  | advance => exact ⟨c.next?, d.next?, rfl, rfl, by rw [next?_eq, next?_eq, h.head?]⟩
  | expect k =>
    show (c.perform (.expect k)).1.outcome.isOk = (d.perform (.expect k)).1.outcome.isOk
    simp only [perform, Report.isOk_map, isOk_expect, any_isOf_eq, h.codes]
  | skipRun k limit =>
    refine ⟨.number (c.stride (.skipRun k limit)), c.report_skipRun k limit, ?_⟩
    rw [stride_congr h.codes, report_skipRun]
  | skipAmong ks => exact ⟨.done, rfl, rfl⟩
  | nextIs k => exact ⟨.truth (c.nextIs k), rfl, by simp only [outcome, perform, nextIs_congr h.codes]⟩
  | nextIsAmong ks =>
    refine ⟨.truth (c.nextIsAmong ks), rfl, ?_⟩
    simp only [outcome, perform, Cursor.nextIsAmong, nextIs_congr h.codes]
  | startsWith ks =>
    refine ⟨.truth ((ks.map Kind.code).isPrefixOf c.codes), ?_, ?_⟩
    · simp only [outcome, perform, startsWith_eq]
    · simp only [outcome, perform, startsWith_eq, h.codes]
  | tokens => exact ⟨c.tokens, d.tokens, rfl, rfl, h.tokens⟩
  | hasNext => exact ⟨.truth c.hasNext, rfl, by simp only [outcome, perform, h.hasNext]⟩
  | rewind => exact ⟨.done, rfl, rfl⟩
  | position => exact ⟨.number c.position, rfl, by simp only [outcome, perform, h.position]⟩

theorem forall₂_run (h : Aligned c d) (actions : List Action) :
    List.Forall₂ (fun a o => Alike a o.1 o.2) actions ((c.run actions).zip (d.run actions)) := by
  induction actions generalizing c d with
  | nil => exact .nil
  | cons a actions ih => exact .cons (h.alike a) (ih (h.after a))

theorem positions_run (h : Aligned c d) (actions : List Action) :
    (c.run actions).map Outcome.position = (d.run actions).map Outcome.position := by
  induction actions generalizing c d with
  | nil => rfl
  | cons a actions ih =>
    rw [run, run, List.map_cons, List.map_cons, ih (h.after a)]
    exact congrArg (fun p => p :: _) (h.after a).position

end Aligned

/-- Token lists with the same codes are navigated alike, whatever the values, the lines and the
resolvers are. -/
theorem run_alike (ts us : List Token) (names names' : Resolver) (actions : List Action)
    (h : (ts.map fun t => t.kind.code) = us.map fun t => t.kind.code) :
    (start ts names).warnings = (start us names').warnings ∧
      ((ofTokens ts names).run actions).map Outcome.position =
        ((ofTokens us names').run actions).map Outcome.position ∧
      List.Forall₂ (fun a o => Alike a o.1 o.2) actions
        (((ofTokens ts names).run actions).zip ((ofTokens us names').run actions)) := by
  have haligned : Aligned (ofTokens ts names) (ofTokens us names') := ⟨rfl, h⟩
  refine ⟨?_, haligned.positions_run actions, haligned.forall₂_run actions⟩
  rw [start_eq, start_eq, h]

def relabelled : List Token :=
  [⟨"", .member ⟨"Kind", "OPEN", 1⟩, 0⟩, ⟨"λ", .bare 2, -7⟩, ⟨"(", .bare 3, 2⟩]

/-- The second resolver refuses every kind, and not as unnamed. -/
theorem run_alike_relabelled :
    (bracketed.map fun t => t.kind.code) = (relabelled.map fun t => t.kind.code) ∧
      (start bracketed NameSource.decimal.resolver).warnings =
        (start relabelled fun _ => .error (.refused .runtime none)).warnings ∧
      ((ofTokens bracketed NameSource.decimal.resolver).run bracketRun).map Outcome.position =
        ((ofTokens relabelled fun _ => .error (.refused .runtime none)).run bracketRun).map
          Outcome.position ∧
      List.Forall₂ (fun a o => Alike a o.1 o.2) bracketRun
        (((ofTokens bracketed NameSource.decimal.resolver).run bracketRun).zip
          ((ofTokens relabelled fun _ => .error (.refused .runtime none)).run bracketRun)) :=
  ⟨by decide, run_alike bracketed relabelled _ _ bracketRun (by decide)⟩

end Cursor

end Lookahead
