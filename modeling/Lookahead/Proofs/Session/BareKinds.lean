import Lookahead.Proofs.Resolver.BareKinds
import Lookahead.Proofs.Session.Replay

namespace Lookahead

def Action.toBare : Action → Action
  | .expect k => .expect k.toBare
  | .skipRun k limit => .skipRun k.toBare limit
  | .skipAmong ks => .skipAmong (ks.map Kind.toBare)
  | .nextIs k => .nextIs k.toBare
  | .nextIsAmong ks => .nextIsAmong (ks.map Kind.toBare)
  | .startsWith ks => .startsWith (ks.map Kind.toBare)
  | a => a

def Answer.toBare : Answer → Answer
  | .token t => .token (t.map Token.toBare)
  | .tokens ts => .tokens (ts.map Token.toBare)
  | x => x

def Step.toBare {n : Nat} (step : Step n) : Step n := ⟨step.cursor, step.action.toBare⟩

/-- Outcomes of a step and of the same step with bare kinds: at the same position, with the same error
or with results that differ in the names of kinds only, and with warnings related one by one. -/
structure Outcome.Matches (W : Warning → Warning → Prop) (o p : Outcome) : Prop where
  position : p.position = o.position
  report : Report.Matches W Answer.toBare o.report p.report

theorem Token.map_code_toBare (ts : List Token) :
    (ts.map Token.toBare).map (fun t => t.kind.code) = ts.map fun t => t.kind.code := by
  rw [List.map_map]
  rfl

theorem Token.isAmong_toBare (ks : List Kind) :
    Token.isAmong (ks.map Kind.toBare) = Token.isAmong ks := by
  funext t
  unfold isAmong
  rw [List.any_map]
  rfl

namespace Cursor

def toBare (c : Cursor) : Cursor := { c with tokens := c.tokens.map Token.toBare }

section

variable (c : Cursor)

theorem rest_toBare : c.toBare.rest = c.rest.map Token.toBare := by
  unfold rest toBare
  rw [List.map_drop]

theorem codes_toBare : c.toBare.codes = c.codes := by
  unfold codes
  rw [rest_toBare, Token.map_code_toBare]

theorem next?_toBare : c.toBare.next? = c.next?.map Token.toBare := by
  rw [next?_eq, next?_eq, rest_toBare, List.head?_map]

theorem hasNext_toBare : c.toBare.hasNext = c.hasNext := by
  unfold hasNext toBare
  rw [List.length_map]

theorem lastLine_toBare : c.toBare.lastLine = c.lastLine := by
  unfold lastLine toBare
  rw [List.getLast?_map]
  cases c.tokens.getLast? <;> rfl

theorem nextIs_toBare (k : Kind) : c.toBare.nextIs k.toBare = c.nextIs k := by
  rw [nextIs_congr c.codes_toBare]
  rfl

theorem nextIsAmong_toBare (ks : List Kind) :
    c.toBare.nextIsAmong (ks.map Kind.toBare) = c.nextIsAmong ks := by
  unfold nextIsAmong
  rw [List.any_map]
  congr 1
  funext k
  exact c.nextIs_toBare k

theorem startsWith_toBare (ks : List Kind) :
    (c.toBare.startsWith (ks.map Kind.toBare)).1 = (c.startsWith ks).1 := by
  rw [startsWith_eq, startsWith_eq, codes_toBare, List.map_map]
  rfl

theorem stride_toBare (a : Action) : c.toBare.stride a.toBare = c.stride a := by
  rw [stride_congr c.codes_toBare]
  cases a with
  | skipAmong ks => simp only [Action.toBare, stride, Token.isAmong_toBare]
  | _ => rfl

theorem after_toBare (a : Action) : c.toBare.after a.toBare = (c.after a).toBare := by
  by_cases ha : a = .rewind
  · subst ha
    rfl
  · have ha' : a.toBare ≠ .rewind := by
      cases a with
      | rewind => exact absurd rfl ha
      | _ => nofun
    rw [after_eq_moved _ ha, after_eq_moved _ ha', stride_toBare]
    rfl

end

section

variable {W : Warning → Warning → Prop} {c : Cursor}
  (hnames : ∀ k, Report.Matches W id (c.names.display k) (c.names.display k.toBare))

include hnames

theorem matches_reject {α : Type} (k : Kind) :
    Report.Matches W id (c.reject k : Report α) (c.toBare.reject k.toBare) := by
  unfold reject
  rw [next?_toBare, lastLine_toBare]
  apply (hnames k).bind
  intro expected
  cases c.next? with
  | none => exact .fail _
  | some t =>
    apply (hnames t.kind).bind
    intro actual
    exact .fail _

theorem matches_expect (k : Kind) :
    Report.Matches W id (c.expect k).1 (c.toBare.expect k.toBare).1 := by
  have hreject := matches_reject (α := String) hnames k
  unfold expect
  rw [next?_toBare]
  cases c.next? with
  | none => exact hreject
  | some t =>
    simp only [Option.map_some]
    by_cases hk : t.kind.code == k.code
    · have hk' : t.toBare.kind.code == k.toBare.code := hk
      rw [if_pos hk, if_pos hk']
      exact .pure t.value
    · have hk' : ¬ (t.toBare.kind.code == k.toBare.code) := hk
      rw [if_neg hk, if_neg hk']
      exact hreject

theorem matches_report (a : Action) :
    Report.Matches W Answer.toBare (c.outcome a).report (c.toBare.outcome a.toBare).report := by
  cases a with
  | expect k => exact (matches_expect hnames k).map fun _ => rfl
  | peek =>
    simp only [outcome, perform, Action.toBare, peek_congr c.codes_toBare]
    exact .pure _
  | advance =>
    simp only [outcome, perform, advance, Action.toBare, next?_toBare]
    exact .pure (Answer.token c.next?)
  | skipRun k limit =>
    have hstride := c.stride_toBare (.skipRun k limit)
    simp only [Action.toBare] at hstride ⊢
    rw [report_skipRun, report_skipRun, hstride]
    exact .pure _
  | nextIs k =>
    simp only [outcome, perform, Action.toBare, nextIs_toBare]
    exact .pure _
  | nextIsAmong ks =>
    simp only [outcome, perform, Action.toBare, nextIsAmong_toBare]
    exact .pure _
  | startsWith ks =>
    simp only [outcome, perform, Action.toBare, startsWith_toBare]
    exact .pure _
  | hasNext =>
    simp only [outcome, perform, Action.toBare, hasNext_toBare]
    exact .pure _
  | tokens => exact .pure (Answer.tokens c.tokens)
  | skipAmong ks => exact .pure _
  | rewind => exact .pure _
  | position => exact .pure _

theorem matches_outcome (a : Action) : (c.outcome a).Matches W (c.toBare.outcome a.toBare) := by
  refine ⟨?_, matches_report hnames a⟩
  show (c.toBare.after a.toBare).position = (c.after a).position
  rw [after_toBare]
  rfl

end

end Cursor

namespace Session

variable {n : Nat}

def toBare (s : Session n) : Session n := s.map Cursor.toBare

theorem toBare_ofTokens (n : Nat) (tokens : List Token) (names : Resolver) :
    (ofTokens n tokens names).toBare = ofTokens n (tokens.map Token.toBare) names := by
  unfold toBare ofTokens
  rw [Vector.map_replicate]
  rfl

theorem getElem_toBare (s : Session n) (i : Fin n) : s.toBare[i] = s[i].toBare :=
  Vector.getElem_map _ _

theorem after_toBare (s : Session n) (step : Step n) :
    s.toBare.after step.toBare = (s.after step).toBare := by
  have hcursor : s.toBare[step.cursor].after step.action.toBare =
      (s[step.cursor].after step.action).toBare := by
    rw [getElem_toBare, Cursor.after_toBare]
  show s.toBare.set step.cursor (s.toBare[step.cursor].after step.action.toBare) = _
  rw [hcursor]
  exact Vector.map_set.symm

theorem matches_run {W : Warning → Warning → Prop} {names : Resolver}
    (hnames : ∀ k, Report.Matches W id (names.display k) (names.display k.toBare))
    (s : Session n) (hs : ∀ i, (s.get i).names = names) (steps : List (Step n)) :
    List.Forall₂ (Outcome.Matches W) (s.run steps) (s.toBare.run (steps.map Step.toBare)) := by
  induction steps generalizing s with
  | nil => exact .nil
  | cons step steps ih =>
    -- a step keeps the resolver of every cursor, and that is all the next steps need
    have hkept : ∀ i, ((s.after step).get i).names = names := by
      intro i
      rw [get_after]
      split
      · rw [Cursor.names_after, hs i]
      · exact hs i
    have hlater := ih (s.after step) hkept
    have hcursor : s[step.cursor].names = names := hs step.cursor
    have hstep : (s[step.cursor].outcome step.action).Matches W
        (s.toBare[step.cursor].outcome step.action.toBare) := by
      rw [getElem_toBare]
      apply Cursor.matches_outcome
      rw [hcursor]
      exact hnames
    rw [← after_toBare] at hlater
    exact .cons hstep hlater

theorem opening_toBare (n : Nat) (tokens : List Token) (names : Resolver) :
    opening n (tokens.map Token.toBare) names = opening n tokens names := by
  unfold opening
  rw [Cursor.start_eq, Cursor.start_eq, Token.map_code_toBare]
  rfl

/-- A session does the same with bare kinds: every step gives the same result or error at the same
position, with as many warnings and the same texts up to the reasons. From a source that sees codes
only, the texts are the same throughout. Opening warns alike, and tokens keep their dumps and their
equality. -/
theorem run_toBare_matches (source : NameSource) (n : Nat) (tokens : List Token)
    (steps : List (Step n)) :
    opening n (tokens.map Token.toBare) source.resolver = opening n tokens source.resolver ∧
      ((ofTokens n tokens source.resolver).run steps).length = steps.length ∧
      List.Forall₂ (Outcome.Matches Warning.SameLead)
        ((ofTokens n tokens source.resolver).run steps)
        ((ofTokens n (tokens.map Token.toBare) source.resolver).run (steps.map Step.toBare)) ∧
      (source = default ∨ source = .decimal ∨ (∃ rows otherwise, source = .table rows otherwise) →
        List.Forall₂ (Outcome.Matches Warning.SameText)
          ((ofTokens n tokens source.resolver).run steps)
          ((ofTokens n (tokens.map Token.toBare) source.resolver).run (steps.map Step.toBare))) ∧
      ∀ s t : Token, s.toBare.dump = s.dump ∧ s.toBare.same t.toBare = s.same t := by
  have hfresh (i : Fin n) :
      ((ofTokens n tokens source.resolver).get i).names = source.resolver := by
    rw [get_ofTokens]
    rfl
  rw [← toBare_ofTokens]
  refine ⟨opening_toBare n tokens source.resolver, length_run _ steps, ?_, ?_,
    fun s t => ⟨rfl, rfl⟩⟩
  · exact matches_run source.matches_display_resolver _ hfresh steps
  · intro hsource
    apply matches_run _ _ hfresh steps
    intro k
    apply Resolver.matches_display_of_eq
    rcases hsource with rfl | rfl | ⟨rows, otherwise, rfl⟩ <;> rfl

end Session

end Lookahead
