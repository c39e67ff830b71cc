import Lookahead.Proofs.Cursor.EndOfStream

namespace Lookahead

def Report.atLine {α : Type} (line : Int) (r : Report α) : Report α :=
  match r.outcome with
  | .error (.mismatch m) => ⟨r.warnings, .error (.mismatch { m with line := line })⟩
  | _ => r

/-- Outcomes of an action on a cursor that started before the tokens `xs ++ ys` and went past `xs`,
and on one that started before `ys`. -/
def Shifted (xs ys : List Token) (a : Action) (o p : Outcome) : Prop :=
  o.position = p.position + xs.length ∧
    match a with
    | .position => o.report = pure (.number o.position) ∧ p.report = pure (.number p.position)
    | .expect _ =>
      if ys = [] then
        o.report = p.report.atLine (xs.getLast?.elim 0 Token.line) ∧ p.report = p.report.atLine 0
      else o.report = p.report
    | _ => o.report = p.report

namespace Cursor

/-- The cursor with tokens put before its own, all of them passed. -/
def prepend (xs : List Token) (c : Cursor) : Cursor :=
  { c with tokens := xs ++ c.tokens, passed := c.passed + xs.length }

section Congr

variable {c d : Cursor}

theorem reject_congr {α : Type} (hrest : c.rest = d.rest) (hnames : c.names = d.names)
    (hline : c.lastLine = d.lastLine) (k : Kind) : (c.reject k : Report α) = d.reject k := by
  unfold reject
  rw [next?_eq, next?_eq, hrest, hnames, hline]

theorem expect_congr (hrest : c.rest = d.rest) (hnames : c.names = d.names)
    (hline : c.lastLine = d.lastLine) (k : Kind) : (c.expect k).1 = (d.expect k).1 := by
  unfold expect
  rw [next?_eq, next?_eq, hrest, reject_congr hrest hnames hline]
  cases d.rest.head? with
  | none => rfl
  | some t => cases ht : t.kind.code == k.code <;> simp [ht]

/-- The tokens after the position and the resolver decide on every report but those of the whole
tokens and of the position, and the line of the last token counts for an expected kind alone. -/
theorem report_congr (hrest : c.rest = d.rest) (hnames : c.names = d.names) {a : Action}
    (htokens : a ≠ .tokens) (hposition : a ≠ .position)
    (hline : ∀ k, a = .expect k → c.lastLine = d.lastLine) :
    (c.outcome a).report = (d.outcome a).report := by
  have hcodes : c.codes = d.codes := by rw [codes, codes, hrest]
  cases a with
  | peek => simp only [outcome, perform, peek_congr hcodes]
  | advance => simp only [outcome, perform, advance, next?_eq, hrest]
  | expect k => simp only [outcome, perform, expect_congr hrest hnames (hline k rfl)]
  | skipRun k limit => simp only [outcome, perform, skipRun_eq, hrest]
  | nextIs k => simp only [outcome, perform, nextIs_congr hcodes]
  | nextIsAmong ks => simp only [outcome, perform, nextIsAmong, nextIs_congr hcodes]
  | startsWith ks => simp only [outcome, perform, startsWith_eq, hcodes]
  | tokens => exact absurd rfl htokens
  | hasNext => simp only [outcome, perform, hasNext_eq, hrest]
  | position => exact absurd rfl hposition
  | _ => rfl

end Congr

theorem rest_prepend (xs : List Token) (c : Cursor) : (c.prepend xs).rest = c.rest := by
  unfold rest prepend
  rw [Nat.add_comm]
  exact List.drop_length_add_append c.passed

theorem position_prepend (xs : List Token) (c : Cursor) :
    (c.prepend xs).position = c.position + xs.length := by
  simp only [position, prepend]
  omega

theorem lastLine_prepend (xs : List Token) {c : Cursor} (h : c.tokens ≠ []) :
    (c.prepend xs).lastLine = c.lastLine := by
  rw [lastLine_eq, lastLine_eq]
  unfold prepend
  rw [List.getLast?_append_of_ne_nil _ h]

theorem after_prepend (xs : List Token) (c : Cursor) {a : Action} (ha : a ≠ .rewind) :
    (c.prepend xs).after a = (c.after a).prepend xs := by
  have hcodes : (c.prepend xs).codes = c.codes := by rw [codes, codes, rest_prepend]
  rw [after_eq_moved _ ha, after_eq_moved _ ha, stride_congr hcodes]
  simp only [prepend, moved, Nat.add_right_comm]

theorem atLine_mismatchAtEnd {α : Type} (names : Resolver) (k : Kind) (line line' : Int) :
    (mismatchAtEnd names k line : Report α).atLine line' = mismatchAtEnd names k line' := by
  unfold mismatchAtEnd
  split
  · rfl
  · split <;> rfl

theorem rest_of_tokens_nil {c : Cursor} (h : c.tokens = []) : c.rest = [] := by
  rw [rest, h, List.drop_nil]

theorem expect_prepend_of_tokens_nil (xs : List Token) {c : Cursor} (h : c.tokens = []) (k : Kind) :
    ((c.prepend xs).outcome (.expect k)).report =
        (c.outcome (.expect k)).report.atLine (xs.getLast?.elim 0 Token.line) ∧
      (c.outcome (.expect k)).report = (c.outcome (.expect k)).report.atLine 0 := by
  have hrest := rest_of_tokens_nil h
  have hrest' := (rest_prepend xs c).trans hrest
  have htokens : (c.prepend xs).tokens = xs := by
    rw [prepend, h, List.append_nil]
  have hreport : (c.outcome (.expect k)).report = mismatchAtEnd c.names k 0 := by
    rw [report_of_rest_nil hrest, h]
    rfl
  rw [report_of_rest_nil hrest', htokens, hreport]
  rw [atLine_mismatchAtEnd, atLine_mismatchAtEnd]
  exact ⟨rfl, rfl⟩

theorem shifted_prepend (xs : List Token) (c : Cursor) {a : Action} (hrewind : a ≠ .rewind)
    (htokens : a ≠ .tokens) : Shifted xs c.tokens a ((c.prepend xs).outcome a) (c.outcome a) := by
  refine ⟨?_, ?_⟩
  · show ((c.prepend xs).after a).position = (c.after a).position + xs.length
    rw [after_prepend xs c hrewind, position_prepend]
  · have hreport := report_congr (rest_prepend xs c) rfl htokens
    cases a with
    | position => exact ⟨rfl, rfl⟩
    | expect k =>
      -- with tokens of its own the cursor has the same last token as before
      by_cases h : c.tokens = []
      · simp only [if_pos h]
        exact expect_prepend_of_tokens_nil xs h k
      · simp only [if_neg h]
        exact hreport nofun fun _ _ => lastLine_prepend xs h
    | _ => exact hreport nofun nofun

theorem forall₂_shifted_run (xs : List Token) (c : Cursor) {actions : List Action}
    (hrewind : .rewind ∉ actions) (htokens : .tokens ∉ actions) :
    List.Forall₂ (fun a o => Shifted xs c.tokens a o.1 o.2) actions
      (((c.prepend xs).run actions).zip (c.run actions)) := by
  induction actions generalizing c with
  | nil => exact .nil
  | cons a actions ih =>
    obtain ⟨ha, hrewind'⟩ := List.ne_and_not_mem_of_not_mem_cons hrewind
    obtain ⟨ha', htokens'⟩ := List.ne_and_not_mem_of_not_mem_cons htokens
    have hlater := ih (c.after a) hrewind' htokens'
    rw [tokens_after, ← after_prepend xs c ha.symm] at hlater
    exact .cons (shifted_prepend xs c ha.symm ha'.symm) hlater

/-- After `xs.length` advances over `xs ++ ys` a cursor behaves as a fresh one over `ys`, also beyond
the end: the position counts `xs`, and so does the line of a mismatch if `ys` is empty. -/
theorem run_append_shifted (xs ys : List Token) (names : Resolver) (actions : List Action)
    (hrewind : .rewind ∉ actions) (htokens : .tokens ∉ actions) :
    ((ofTokens (xs ++ ys) names).afterAll (List.replicate xs.length .advance)).position =
        (ofTokens ys names).position + xs.length ∧
      List.Forall₂ (fun a o => Shifted xs ys a o.1 o.2) actions
        ((((ofTokens (xs ++ ys) names).afterAll (List.replicate xs.length .advance)).run actions).zip
          ((ofTokens ys names).run actions)) := by
  have hmiddle : (ofTokens (xs ++ ys) names).afterAll (List.replicate xs.length .advance) =
      (ofTokens ys names).prepend xs :=
    afterAll_replicate_advance _ _
  rw [hmiddle]
  exact ⟨position_prepend _ _, forall₂_shifted_run xs (ofTokens ys names) hrewind htokens⟩

theorem run_append_shifted_bracketRun :
    .rewind ∉ bracketRun ∧ .tokens ∉ bracketRun ∧
      ((ofTokens (bracketed ++ bracketed) NameSource.decimal.resolver).afterAll
          (List.replicate 3 .advance)).position =
        (ofTokens bracketed NameSource.decimal.resolver).position + 3 ∧
      List.Forall₂ (fun a o => Shifted bracketed bracketed a o.1 o.2) bracketRun
        ((((ofTokens (bracketed ++ bracketed) NameSource.decimal.resolver).afterAll
            (List.replicate 3 .advance)).run bracketRun).zip
          ((ofTokens bracketed NameSource.decimal.resolver).run bracketRun)) :=
  ⟨by decide, by decide,
    run_append_shifted bracketed bracketed NameSource.decimal.resolver bracketRun (by decide)
      (by decide)⟩

end Cursor

end Lookahead
