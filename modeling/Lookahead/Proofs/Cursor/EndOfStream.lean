import Lookahead.Proofs.Cursor.Expectation
import Lookahead.Proofs.Cursor.Trace

namespace Lookahead.Cursor

def mismatchAtEnd {α : Type} (names : Resolver) (k : Kind) (line : Int) : Report α :=
  match names k with
  | .ok name => ⟨[], .error (.mismatch ⟨name, "end of stream", line⟩)⟩
  | .error f =>
    if f.cls.isUnnamed then
      ⟨[.unnamed k f], .error (.mismatch ⟨k.decimal, "end of stream", line⟩)⟩
    else ⟨[], .error (.naming f)⟩

/-- What an action reports where no token is left. -/
def reportAtEnd (tokens : List Token) (names : Resolver) (position : Int) : Action → Report Answer
  | .peek => pure (.number endOfStream)
  | .advance => pure (.token none)
  | .expect k => mismatchAtEnd names k (tokens.getLast?.elim 0 Token.line)
  | .skipRun _ _ => pure (.number 0)
  | .skipAmong _ => pure .done
  | .nextIs k => pure (.truth (k.code = endOfStream))
  | .nextIsAmong ks => pure (.truth (∃ k ∈ ks, k.code = endOfStream))
  | .startsWith ks => pure (.truth (ks = []))
  | .tokens => pure (.tokens tokens)
  | .hasNext => pure (.truth false)
  | .rewind => pure .done
  | .position => pure (.number position)

def positionAtEnd (position : Int) : Action → Int
  | .advance => position + 1
  | .rewind => beforeFirst
  | _ => position

section AtEnd

variable {c : Cursor}

theorem peek_of_rest_nil (h : c.rest = []) : c.peek = endOfStream := by
  rw [peek_eq, codes, h]
  rfl

theorem nextIs_of_rest_nil (h : c.rest = []) (k : Kind) :
    c.nextIs k = decide (k.code = endOfStream) := by
  unfold nextIs
  rw [peek_of_rest_nil h, BEq.comm, Bool.beq_eq_decide_eq]

theorem nextIsAmong_of_rest_nil (h : c.rest = []) (ks : List Kind) :
    c.nextIsAmong ks = decide (∃ k ∈ ks, k.code = endOfStream) := by
  unfold nextIsAmong
  rw [Bool.eq_iff_iff, List.any_eq_true, decide_eq_true_eq]
  simp only [nextIs_of_rest_nil h, decide_eq_true_eq]

theorem startsWith_of_rest_nil (h : c.rest = []) (ks : List Kind) :
    (c.startsWith ks).1 = decide (ks = []) := by
  rw [startsWith_eq, codes, h]
  cases ks <;> rfl

theorem reject_of_rest_nil {α : Type} (h : c.rest = []) (k : Kind) :
    (c.reject k : Report α) = mismatchAtEnd c.names k (c.tokens.getLast?.elim 0 Token.line) := by
  have hnext : c.next? = none := by
    rw [next?_eq, h]
    rfl
  unfold mismatchAtEnd
  cases hname : c.names k with
  | ok name => exact reject_at_end hnext (.named hname)
  | error f =>
    cases hf : f.cls.isUnnamed with
    | true =>
      simp only [hf, if_true]
      exact reject_at_end hnext (.unnamed hname (f.cls.isUnnamed_iff.mp hf))
    | false =>
      simp only [hf, Bool.false_eq_true, if_false]
      exact reject_of_expected_refused ⟨hname, f.cls.isUnnamed_eq_false_iff.mp hf⟩

theorem expect_of_rest_nil (h : c.rest = []) (k : Kind) :
    c.expect k = (mismatchAtEnd c.names k (c.tokens.getLast?.elim 0 Token.line), c) := by
  rcases c.expect_cases k with ⟨t, ts, hrest, -, -⟩ | ⟨-, hexpect⟩
  · exact absurd (h.symm.trans hrest) nofun
  · rw [hexpect, reject_of_rest_nil h]

theorem map_mismatchAtEnd {α β : Type} (f : α → β) (names : Resolver) (k : Kind) (line : Int) :
    f <$> (mismatchAtEnd names k line : Report α) = mismatchAtEnd names k line := by
  unfold mismatchAtEnd
  split
  · rfl
  · split <;> rfl

theorem stride_of_rest_nil (h : c.rest = []) (a : Action) :
    c.stride a = if a = .advance then 1 else 0 := by
  cases a <;> simp [stride, h, capped_zero]

theorem report_of_rest_nil (h : c.rest = []) (a : Action) :
    (c.outcome a).report = reportAtEnd c.tokens c.names c.position a := by
  cases a with
  | peek => simp only [outcome, perform, peek_of_rest_nil h, reportAtEnd]
  | advance => simp only [outcome, perform, advance, next?_eq, h, List.head?_nil, reportAtEnd]
  | expect k => simp only [outcome, perform, expect_of_rest_nil h, map_mismatchAtEnd, reportAtEnd]
  | skipRun k limit =>
    simp only [outcome, perform, skipRun_eq, h, List.takeWhile_nil, List.length_nil, capped_zero]
    rfl
  | nextIs k => simp only [outcome, perform, nextIs_of_rest_nil h, reportAtEnd]
  | nextIsAmong ks => simp only [outcome, perform, nextIsAmong_of_rest_nil h, reportAtEnd]
  | startsWith ks => simp only [outcome, perform, startsWith_of_rest_nil h, reportAtEnd]
  | hasNext => simp only [outcome, perform, (rest_eq_nil_iff c).mp h, reportAtEnd]
  | _ => rfl

theorem position_of_rest_nil (h : c.rest = []) (a : Action) :
    (c.outcome a).position = positionAtEnd c.position a := by
  by_cases ha : a = .rewind
  · subst ha
    rfl
  · rw [position_outcome c ha, stride_of_rest_nil h]
    cases a with
    | advance => rfl
    | rewind => exact absurd rfl ha
    | _ => exact Int.add_zero c.position

theorem rest_afterAll_of_rest_nil (h : c.rest = []) {actions : List Action}
    (hactions : .rewind ∉ actions) : (c.afterAll actions).rest = [] := by
  induction actions generalizing c with
  | nil => exact h
  | cons a actions ih =>
    obtain ⟨ha, hlater⟩ := List.ne_and_not_mem_of_not_mem_cons hactions
    apply ih _ hlater
    rw [after_eq_moved c ha.symm, rest_moved, h, List.drop_nil]

end AtEnd

/-- Once no token is left, every action has the same outcome until the next rewind, whatever was done
in between: its report depends on the position for the action `position` alone. -/
theorem outcome_eq_atEnd (tokens : List Token) (names : Resolver) (actions later : List Action)
    (hend : ((ofTokens tokens names).afterAll actions).hasNext = false) (hlater : .rewind ∉ later)
    (a : Action) :
    (((ofTokens tokens names).afterAll (actions ++ later)).outcome a).report =
        reportAtEnd tokens names ((ofTokens tokens names).afterAll (actions ++ later)).position a ∧
      (((ofTokens tokens names).afterAll (actions ++ later)).outcome a).position =
        positionAtEnd ((ofTokens tokens names).afterAll (actions ++ later)).position a := by
  have hrest : ((ofTokens tokens names).afterAll (actions ++ later)).rest = [] := by
    rw [afterAll_append]
    exact rest_afterAll_of_rest_nil ((rest_eq_nil_iff _).mpr hend) hlater
  have hreport := report_of_rest_nil hrest a
  rw [tokens_afterAll, names_afterAll] at hreport
  exact ⟨hreport, position_of_rest_nil hrest a⟩

/-- The kind that stands for the end has no name here, and is asked for beyond the end of `(x)`. -/
theorem outcome_eq_atEnd_bracketRun :
    ((ofTokens bracketed (NameSource.ofEntries [(1, "OPEN")])).afterAll bracketRun).hasNext = false ∧
      .rewind ∉ [Action.advance, .skipRun (.bare 0) 0, .advance] ∧
      (((ofTokens bracketed (NameSource.ofEntries [(1, "OPEN")])).afterAll
          (bracketRun ++ [.advance, .skipRun (.bare 0) 0, .advance])).outcome
            (.expect (.bare 0))).report =
        ⟨[.unnamed (.bare 0) (.noEntry (.bare 0))],
          .error (.mismatch ⟨"0", "end of stream", 1⟩)⟩ ∧
      (((ofTokens bracketed (NameSource.ofEntries [(1, "OPEN")])).afterAll
          (bracketRun ++ [.advance, .skipRun (.bare 0) 0, .advance])).outcome
            (.expect (.bare 0))).position =
        ((ofTokens bracketed (NameSource.ofEntries [(1, "OPEN")])).afterAll
          (bracketRun ++ [.advance, .skipRun (.bare 0) 0, .advance])).position := by
  have hend : ((ofTokens bracketed (NameSource.ofEntries [(1, "OPEN")])).afterAll
      bracketRun).hasNext = false := by
    decide +kernel
  exact ⟨hend, by decide, outcome_eq_atEnd _ _ bracketRun _ hend (by decide) _⟩

/-- A next token that lookahead cannot tell from the end. -/
def Ambiguous (c : Cursor) : Prop := c.peek = endOfStream ∧ c.hasNext = true

theorem not_ambiguous_iff (c : Cursor) :
    ¬ c.Ambiguous ↔ (c.peek = endOfStream ↔ c.hasNext = false) := by
  unfold Ambiguous
  cases h : c.hasNext with
  | true => simp
  | false => simp [peek_of_rest_nil (c.rest_eq_nil_iff.mpr h)]

theorem ambiguous_iff (c : Cursor) :
    c.Ambiguous ↔ (c.tokens.map fun t => t.kind.code)[c.passed]? = some endOfStream := by
  have hhead : (c.tokens.map fun t => t.kind.code)[c.passed]? = c.codes.head? := by
    rw [codes, rest, List.map_drop, List.head?_drop]
  unfold Ambiguous
  rw [hhead, peek_eq, hasNext_eq, codes]
  cases c.rest <;> simp

/-- Every token comes to be the next one, so a token with the kind of the end is met in some run. -/
theorem exists_ambiguous_iff (tokens : List Token) (names : Resolver) :
    (∃ actions, ((ofTokens tokens names).afterAll actions).Ambiguous) ↔
      endOfStream ∈ tokens.map fun t => t.kind.code := by
  constructor
  · rintro ⟨actions, hamb⟩
    rw [ambiguous_iff, tokens_afterAll] at hamb
    exact List.mem_of_getElem? hamb
  · intro hmem
    obtain ⟨i, hi⟩ := List.mem_iff_getElem?.mp hmem
    -- that many advances make the token at index `i` the next one
    refine ⟨List.replicate i .advance, ?_⟩
    rw [afterAll_replicate_advance, ambiguous_iff, tokens_moved, passed_moved]
    rw [← Nat.zero_add i] at hi
    exact hi

/-- Opening a cursor gives one warning if some run comes to a token that looks like the end, and none
otherwise. Without the warning lookahead reports the end just where no token is left. -/
theorem start_warns_iff_ambiguous (tokens : List Token) (names : Resolver) :
    (start tokens names).outcome = .ok (ofTokens tokens names) ∧
      ((start tokens names).warnings = [] ∨ (start tokens names).warnings = [.reservedKind]) ∧
      ((start tokens names).warnings = [.reservedKind] ↔
        ∃ actions, ((ofTokens tokens names).afterAll actions).Ambiguous) ∧
      ((start tokens names).warnings = [] ↔
        ∀ actions, ((ofTokens tokens names).afterAll actions).peek = endOfStream ↔
          ((ofTokens tokens names).afterAll actions).hasNext = false) := by
  have hreach := exists_ambiguous_iff tokens names
  have hnone : (∀ actions, ((ofTokens tokens names).afterAll actions).peek = endOfStream ↔
      ((ofTokens tokens names).afterAll actions).hasNext = false) ↔
        endOfStream ∉ tokens.map fun t => t.kind.code := by
    rw [← hreach, not_exists]
    exact forall_congr' fun actions => (not_ambiguous_iff _).symm
  rw [hreach, hnone, start_eq]
  refine ⟨rfl, ?_⟩
  by_cases h : endOfStream ∈ tokens.map fun t => t.kind.code
  · simp [h]
  · simp [h]

end Lookahead.Cursor
