import Lookahead.Proofs.Cursor.Trace

namespace Lookahead.Cursor

/-- The tokens after the position before an action, up to the position after it. -/
def segment (c : Cursor) (a : Action) : List Token :=
  (c.tokens.take ((c.outcome a).position + 1).toNat).drop (c.position + 1).toNat

/-- An action that reports tokens has moved past these, and any other action has not moved. -/
def Accounted (c : Cursor) (a : Action) : Prop :=
  match a with
  | .advance => ∃ t, (c.outcome a).report = pure (.token t) ∧ c.segment a = t.toList
  | .expect k =>
    (∃ t, (c.outcome a).report = pure (.lexeme t.value) ∧ t.kind.code = k.code ∧
        c.segment a = [t]) ∨
      (∃ e, (c.outcome a).report.outcome = .error e) ∧ (c.outcome a).position = c.position
  | .skipRun k _ =>
    ∃ n : Nat, (c.outcome a).report = pure (.number n) ∧ (c.segment a).length = n ∧
      ∀ t ∈ c.segment a, t.kind.code = k.code
  | .skipAmong ks =>
    (c.outcome a).report = pure .done ∧ ∀ t ∈ c.segment a, ∃ k ∈ ks, t.kind.code = k.code
  | .rewind => (c.outcome a).position = beforeFirst
  | _ => (c.outcome a).position = c.position

theorem toNat_position_add_one (c : Cursor) : (c.position + 1).toNat = c.passed := by
  rw [position_eq, Int.sub_add_cancel, Int.toNat_natCast]

theorem segment_eq (c : Cursor) {a : Action} (ha : a ≠ .rewind) :
    c.segment a = c.rest.take (c.stride a) := by
  unfold segment outcome
  rw [after_eq_moved c ha, toNat_position_add_one, toNat_position_add_one, List.drop_take,
    passed_moved, Nat.add_sub_cancel_left]
  rfl

theorem flatMap_segment (c : Cursor) {actions : List Action} (h : .rewind ∉ actions) :
    ((c.trace actions).flatMap fun s => s.1.segment s.2) =
      c.rest.take ((c.afterAll actions).passed - c.passed) := by
  induction actions generalizing c with
  | nil => simp [trace]
  | cons a actions ih =>
    -- the passed tokens are cut where the first step ends
    obtain ⟨ha, hrest⟩ := List.ne_and_not_mem_of_not_mem_cons h
    have hmoved := after_eq_moved c ha.symm
    have hle := passed_le_passed_afterAll (c.after a) hrest
    have hlen : (c.afterAll (a :: actions)).passed - c.passed =
        c.stride a + ((c.afterAll (a :: actions)).passed - (c.after a).passed) := by
      rw [hmoved, passed_moved] at hle
      rw [afterAll_cons, hmoved, passed_moved]
      omega
    rw [trace, List.flatMap_cons, ih _ hrest, segment_eq c ha.symm, hlen, List.take_add,
      ← rest_moved, ← hmoved]
    rfl

theorem accounted_expect (c : Cursor) (k : Kind) : c.Accounted (.expect k) := by
  have hseg := c.segment_eq (a := .expect k) nofun
  rcases c.expect_cases k with ⟨t, ts, hrest, hk, hexpect⟩ | ⟨hno, hexpect⟩
  · refine Or.inl ⟨t, ?_, beq_iff_eq.mp hk, ?_⟩
    · simp only [outcome, perform, hexpect, map_pure]
    · simp [hseg, stride, hrest, hk]
  · obtain ⟨e, he⟩ : ∃ e, (c.reject k : Report String).outcome = .error e :=
      c.exists_error_reject k
    refine Or.inr ⟨⟨e, ?_⟩, ?_⟩
    · simp only [outcome, perform, hexpect, map_eq_pure_bind, Report.bind_of_error he]
    · simp only [outcome, after, perform, hexpect]

theorem accounted_skipRun (c : Cursor) (k : Kind) (limit : Int) :
    c.Accounted (.skipRun k limit) := by
  have hseg := c.segment_eq (a := .skipRun k limit) nofun
  have hle : c.stride (.skipRun k limit) ≤ (c.rest.takeWhile (Token.isOf k)).length := capped_le _ _
  have hrun := (c.rest.takeWhile_prefix (Token.isOf k)).length_le
  refine ⟨c.stride (.skipRun k limit), ?_, ?_, ?_⟩
  · exact c.report_skipRun k limit
  · rw [hseg, List.length_take_of_le (hle.trans hrun)]
  · intro t ht
    rw [hseg] at ht
    exact beq_iff_eq.mp (pass_of_mem_take hle ht)

theorem accounted_skipAmong (c : Cursor) (ks : List Kind) : c.Accounted (.skipAmong ks) := by
  refine ⟨rfl, ?_⟩
  intro t ht
  rw [c.segment_eq (a := .skipAmong ks) nofun] at ht
  exact Token.isAmong_iff.mp (pass_of_mem_take (Nat.le_refl _) ht)

theorem accounted (c : Cursor) (a : Action) : c.Accounted a := by
  cases a with
  | advance =>
    refine ⟨c.next?, rfl, ?_⟩
    rw [c.segment_eq (a := .advance) nofun, next?_eq]
    exact List.take_one
  | expect k => exact c.accounted_expect k
  | skipRun k limit => exact c.accounted_skipRun k limit
  | skipAmong ks => exact c.accounted_skipAmong ks
  | startsWith ks => simp [Accounted, outcome, after, perform, startsWith_eq]
  | _ => rfl

/-- In a run without a rewind, the passed tokens are the first ones up to the last position. -/
theorem segments_tile (tokens : List Token) (names : Resolver) (actions : List Action)
    (h : .rewind ∉ actions) :
    (((ofTokens tokens names).trace actions).flatMap fun s => s.1.segment s.2) =
        tokens.take
          (min (((ofTokens tokens names).afterAll actions).position + 1) tokens.length).toNat ∧
      ∀ s ∈ (ofTokens tokens names).trace actions, s.1.Accounted s.2 := by
  constructor
  · generalize hd : (ofTokens tokens names).afterAll actions = d
    have hcut :
        (min (d.position + 1) (tokens.length : Int)).toNat = min d.passed tokens.length := by
      simp only [position_eq]
      omega
    rw [flatMap_segment _ h, rest_ofTokens, hd, hcut]
    exact List.take_eq_take_min
  · intro s _
    exact s.1.accounted s.2

theorem segments_tile_bracketRun :
    .rewind ∉ bracketRun ∧
      (((ofTokens bracketed NameSource.decimal.resolver).trace bracketRun).flatMap
          fun s => s.1.segment s.2) =
        bracketed.take (min
          (((ofTokens bracketed NameSource.decimal.resolver).afterAll bracketRun).position + 1)
          bracketed.length).toNat ∧
      ∀ s ∈ (ofTokens bracketed NameSource.decimal.resolver).trace bracketRun, s.1.Accounted s.2 :=
  ⟨by decide, segments_tile bracketed NameSource.decimal.resolver bracketRun (by decide)⟩

end Lookahead.Cursor
