import Lookahead.Proofs.Cursor.EndOfStream
import Mathlib.Data.List.TFAE

namespace Lookahead

theorem Token.isAmong_singleton (k : Kind) : Token.isAmong [k] = Token.isOf k := by
  funext t
  simp [isAmong]

namespace Cursor

theorem hasNext_and_nextIs_iff (c : Cursor) (k : Kind) :
    c.hasNext = true ∧ c.nextIs k = true ↔ c.rest.head?.any (Token.isOf k) = true := by
  rw [hasNext_eq]
  cases hrest : c.rest with
  | nil => simp
  | cons t ts => simp [nextIs_of_rest hrest]

theorem nextIsAmong_singleton (c : Cursor) (k : Kind) : c.nextIsAmong [k] = c.nextIs k := by
  simp [nextIsAmong]

theorem startsWith_singleton (c : Cursor) (k : Kind) :
    (c.startsWith [k]).1 = c.rest.head?.any (Token.isOf k) := by
  rw [startsWith_eq]
  unfold codes
  cases c.rest with
  | nil => rfl
  | cons t ts => exact (Bool.and_true _).trans BEq.comm

theorem expect_ok_iff (c : Cursor) (k : Kind) :
    (∃ s, (c.expect k).1.outcome = .ok s) ↔ c.rest.head?.any (Token.isOf k) = true := by
  rw [← isOk_expect]
  cases (c.expect k).1.outcome <;> simp [Except.isOk, Except.toBool]

theorem skipRun_one_iff (c : Cursor) (k : Kind) :
    (c.skipRun k 1).1 = 1 ↔ c.rest.head?.any (Token.isOf k) = true := by
  rw [← length_takeWhile_pos_iff]
  exact c.skipRun_eq_limit_iff k (Nat.le_refl 1)

theorem position_skipAmong_ne_iff (c : Cursor) (ks : List Kind) :
    (c.skipAmong ks).position ≠ c.position ↔ c.rest.head?.any (Token.isAmong ks) = true := by
  have hmove : (c.skipAmong ks).position = c.position ↔
      (c.rest.takeWhile (Token.isAmong ks)).length = 0 := by
    rw [skipAmong_eq, position_moved]
    omega
  rw [ne_eq, hmove, ← length_takeWhile_pos_iff, Nat.pos_iff_ne_zero]

theorem hasNext_iff_advance (c : Cursor) : c.hasNext = true ↔ ∃ t, c.advance.1 = some t := by
  unfold advance
  rw [hasNext_eq, next?_eq]
  cases c.rest <;> simp

theorem nextIs_and_not_hasNext_iff (c : Cursor) (k : Kind) :
    c.nextIs k = true ∧ c.hasNext = false ↔ k.code = endOfStream ∧ c.hasNext = false := by
  apply and_congr_left
  intro h
  rw [nextIs_of_rest_nil ((rest_eq_nil_iff c).mpr h), decide_eq_true_eq]

/-- Each way to test the next token for a kind, or to consume it if it is of that kind, gives the same
answer. Only lookahead on its own differs, for the kind that stands for the end, where no token is
left. -/
theorem tests_agree (c : Cursor) (k : Kind) :
    List.TFAE [
      c.hasNext = true ∧ c.nextIs k = true,
      c.hasNext = true ∧ c.nextIsAmong [k] = true,
      (c.startsWith [k]).1 = true,
      ∃ s, (c.expect k).1.outcome = .ok s,
      (c.skipRun k 1).1 = 1,
      (c.skipAmong [k]).position ≠ c.position] ∧
    (c.hasNext = true ↔ ∃ t, c.advance.1 = some t) ∧
    (¬ (c.nextIs k = true ↔ c.hasNext = true ∧ c.nextIs k = true) ↔
      k.code = endOfStream ∧ c.hasNext = false) := by
  refine ⟨?_, c.hasNext_iff_advance, ?_⟩
  · -- each of the six says of the tokens after the position that the first is of the kind
    apply List.tfae_of_forall (c.rest.head?.any (Token.isOf k) = true)
    simp only [List.forall_mem_cons]
    refine ⟨c.hasNext_and_nextIs_iff k, ?_, ?_, c.expect_ok_iff k, c.skipRun_one_iff k, ?_, nofun⟩
    · rw [nextIsAmong_singleton]
      exact c.hasNext_and_nextIs_iff k
    · rw [startsWith_singleton]
    · rw [position_skipAmong_ne_iff, Token.isAmong_singleton]
  · rw [← c.nextIs_and_not_hasNext_iff k, iff_and_self, Classical.not_imp, Bool.not_eq_true]

end Cursor

end Lookahead
