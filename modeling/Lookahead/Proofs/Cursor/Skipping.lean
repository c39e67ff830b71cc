import Lookahead.Proofs.Cursor.Sequence
import Lookahead.Proofs.Cursor.Trace

namespace Lookahead

theorem length_takeWhile_of_pass {p : Token → Bool} {ts : List Token} {n : Nat}
    (h : ∀ t ∈ ts.take n, p t = true) :
    (ts.takeWhile p).length = (ts.take n).length + ((ts.drop n).takeWhile p).length := by
  have hsplit : (ts.take n ++ ts.drop n).takeWhile p = ts.take n ++ (ts.drop n).takeWhile p :=
    List.takeWhile_append_of_pos h
  rw [List.take_append_drop] at hsplit
  rw [hsplit, List.length_append]

theorem isGreatest_run (p : Token → Bool) (ts : List Token) :
    IsGreatest {j | j ≤ ts.length ∧ ∀ t ∈ ts.take j, p t = true} (ts.takeWhile p).length := by
  constructor
  · refine ⟨(ts.takeWhile_prefix p).length_le, ?_⟩
    intro t ht
    exact pass_of_mem_take (Nat.le_refl _) ht
  · rintro j ⟨hj, hpass⟩
    rw [length_takeWhile_of_pass hpass, List.length_take_of_le hj]
    exact Nat.le_add_right _ _

theorem isGreatest_run_isOf (k : Kind) (ts : List Token) :
    IsGreatest {j | j ≤ ts.length ∧ ∀ t ∈ ts.take j, t.kind.code = k.code}
      (ts.takeWhile (Token.isOf k)).length := by
  simpa only [Token.isOf, beq_iff_eq] using isGreatest_run (Token.isOf k) ts

theorem isGreatest_run_isAmong (ks : List Kind) (ts : List Token) :
    IsGreatest {j | j ≤ ts.length ∧ ∀ t ∈ ts.take j, ∃ k ∈ ks, t.kind.code = k.code}
      (ts.takeWhile (Token.isAmong ks)).length := by
  simpa only [Token.isAmong_iff] using isGreatest_run (Token.isAmong ks) ts

theorem metCount_replicate (ts : List Token) (k : Kind) (n : Nat) :
    metCount ts (List.replicate n k) = min n (ts.takeWhile (Token.isOf k)).length := by
  induction n generalizing ts with
  | zero => simp [metCount]
  | succ n ih =>
    cases ts with
    | nil => rw [metCount_nil, List.takeWhile_nil, List.length_nil, Nat.min_zero]
    | cons t ts =>
      rw [List.replicate_succ]
      by_cases hk : t.isOf k = true
      · rw [metCount_cons_of_pos hk, ih, List.takeWhile_cons_of_pos hk, List.length_cons,
          Nat.succ_min_succ]
      · rw [metCount_cons_of_neg hk, List.takeWhile_cons_of_neg hk, List.length_nil, Nat.min_zero]

namespace Cursor

/-- The finite runs of the skip loop: with `count` tokens passed before, the loop comes from the given
cursor to the given result. -/
inductive Skips (test : Cursor → Bool) (limit : Int) : Nat → Cursor → Nat × Cursor → Prop where
  | stop {count : Nat} {c : Cursor} (hguard : (c.hasNext && test c) = false) :
      Skips test limit count c (count, c)
  | full {count : Nat} {c : Cursor} (hguard : (c.hasNext && test c) = true)
      (hlimit : 0 < limit ∧ limit ≤ count + 1) : Skips test limit count c (count + 1, c.forward)
  | pass {count : Nat} {c : Cursor} {r : Nat × Cursor} (hguard : (c.hasNext && test c) = true)
      (hlimit : ¬ (0 < limit ∧ limit ≤ count + 1)) (hlater : Skips test limit (count + 1) c.forward r) :
      Skips test limit count c r

/-- The loop has one finite run from every cursor: it always comes to an end. -/
theorem skips_iff_eq_skip (test : Cursor → Bool) (limit : Int) (count : Nat) (c : Cursor)
    (r : Nat × Cursor) : Skips test limit count c r ↔ r = c.skip test limit count := by
  constructor
  · intro h
    induction h with
    | stop hguard => rw [skip, dif_neg (Bool.eq_false_iff.mp hguard)]
    | full hguard hlimit => rw [skip, dif_pos hguard, if_pos hlimit]
    | pass hguard hlimit _ ih =>
      rw [skip, dif_pos hguard, if_neg hlimit]
      exact ih
  · rintro rfl
    -- the number of tokens left falls in each round
    fun_induction skip test limit count c with
    | case1 count c hguard hlimit => exact .full hguard hlimit
    | case2 count c hguard hlimit ih => exact .pass hguard hlimit ih
    | case3 count c hguard => exact .stop (Bool.eq_false_iff.mpr hguard)

/-- Skipping tokens of one kind comes to an end and passes the longest run of that kind, cut off at
the limit if the limit is positive. The answer is the number of tokens passed. -/
theorem skipRun_passes_capped_run (c : Cursor) (k : Kind) (limit : Int) :
    ∃ run n : Nat,
      IsGreatest {j | j ≤ c.rest.length ∧ ∀ t ∈ c.rest.take j, t.kind.code = k.code} run ∧
      (n : Int) = (if 0 < limit then min (run : Int) limit else run) ∧
      (∀ r, Skips (fun d => d.nextIs k) limit 0 c r ↔ r = c.skipRun k limit) ∧
      c.skipRun k limit = (n, c.moved n) ∧
      c.outcome (.skipRun k limit) = ⟨pure (.number n), c.position + n⟩ ∧
      (c.hasNext = false → c.skipRun k limit = (0, c)) := by
  refine ⟨_, _, isGreatest_run_isOf k c.rest, cast_capped limit _, ?_, c.skipRun_eq k limit, ?_, ?_⟩
  · intro r
    exact skips_iff_eq_skip _ limit 0 c r
  · exact congrArg₂ Outcome.mk (c.report_skipRun k limit) (c.position_outcome nofun)
  · intro hend
    rw [skipRun_eq, c.rest_eq_nil_iff.mpr hend, List.takeWhile_nil, List.length_nil, capped_zero,
      moved_zero]

theorem skipAmong_moved {c : Cursor} {ks : List Kind} {n : Nat}
    (hn : n ≤ (c.rest.takeWhile (Token.isAmong ks)).length) :
    (c.moved n).skipAmong ks = c.skipAmong ks := by
  have hlen : (c.rest.take n).length = n :=
    List.length_take_of_le (hn.trans (c.rest.takeWhile_prefix _).length_le)
  have hrun := length_takeWhile_of_pass fun t ht => pass_of_mem_take hn (t := t) ht
  rw [hlen] at hrun
  rw [skipAmong_eq, skipAmong_eq, rest_moved, moved_moved, ← hrun]

theorem stride_skipRun_le_run {ks : List Kind} {k : Kind} (hk : ∃ j ∈ ks, k.code = j.code)
    (c : Cursor) (limit : Int) :
    c.stride (.skipRun k limit) ≤ (c.rest.takeWhile (Token.isAmong ks)).length := by
  have hcap : c.stride (.skipRun k limit) ≤ (c.rest.takeWhile (Token.isOf k)).length :=
    capped_le limit _
  apply (isGreatest_run (Token.isAmong ks) c.rest).2
  refine ⟨hcap.trans (c.rest.takeWhile_prefix _).length_le, ?_⟩
  intro t ht
  have hkind : t.kind.code = k.code := beq_iff_eq.mp (pass_of_mem_take hcap ht)
  obtain ⟨j, hj, hcode⟩ := hk
  exact Token.isAmong_iff.mpr ⟨j, hj, hkind.trans hcode⟩

def schedule (calls : List (Kind × Int)) : List Action :=
  calls.map fun call => .skipRun call.1 call.2

/-- Skips of single kinds from a set keep the place where a skip of the whole set ends. -/
theorem skipAmong_afterAll_schedule (c : Cursor) {ks : List Kind} {calls : List (Kind × Int)}
    (h : ∀ call ∈ calls, ∃ k ∈ ks, call.1.code = k.code) :
    (c.afterAll (schedule calls)).skipAmong ks = c.skipAmong ks := by
  induction calls generalizing c with
  | nil => rfl
  | cons call calls ih =>
    obtain ⟨hcall, hlater⟩ := List.forall_mem_cons.mp h
    -- each skip stays within the run, and what is left of the run ends at the same place
    have hstep : (c.after (.skipRun call.1 call.2)).skipAmong ks = c.skipAmong ks := by
      rw [after_eq_moved c (a := .skipRun call.1 call.2) nofun]
      exact skipAmong_moved (stride_skipRun_le_run hcall c call.2)
    rw [← hstep]
    exact ih _ hlater

theorem position_le_skipAmong (c : Cursor) (ks : List Kind) :
    c.position ≤ (c.skipAmong ks).position := by
  rw [skipAmong_eq, position_moved]
  omega

theorem skipAmong_of_stuck {c : Cursor} {ks : List Kind} (h : ∀ k ∈ ks, (c.skipRun k 0).1 = 0) :
    c.skipAmong ks = c := by
  have hrun : c.rest.takeWhile (Token.isAmong ks) = [] := by
    cases hrest : c.rest with
    | nil => rfl
    | cons t ts =>
      apply List.takeWhile_cons_of_neg
      intro hamong
      obtain ⟨k, hk, hkind⟩ := Token.isAmong_iff.mp hamong
      have hof : t.isOf k = true := beq_iff_eq.mpr hkind
      have hskip := h k hk
      rw [skipRun_eq, hrest, List.takeWhile_cons_of_pos hof, capped_of_nonpos (le_refl 0)] at hskip
      exact absurd hskip (Nat.succ_ne_zero _)
  rw [skipAmong_eq, hrun]
  rfl

/-- Skipping a set of kinds comes to an end behind the longest run of tokens of these kinds. Skips of
single kinds from the set, with whatever limits and in whatever order, never lead beyond that place,
and have reached it when none of the kinds can be skipped any more. -/
theorem skipAmong_limit_of_schedule (c : Cursor) (ks : List Kind) (calls : List (Kind × Int))
    (hcalls : ∀ call ∈ calls, ∃ k ∈ ks, call.1.code = k.code) :
    (∃ run : Nat,
      IsGreatest {j | j ≤ c.rest.length ∧ ∀ t ∈ c.rest.take j, ∃ k ∈ ks, t.kind.code = k.code} run ∧
      (∀ r, Skips (fun d => d.nextIsAmong ks) 0 0 c r ↔ r = (run, c.skipAmong ks)) ∧
      (c.skipAmong ks).position = c.position + run) ∧
    (c.afterAll (schedule calls)).position ≤ (c.skipAmong ks).position ∧
    ((∀ k ∈ ks, ((c.afterAll (schedule calls)).skipRun k 0).1 = 0) →
      (c.afterAll (schedule calls)).position = (c.skipAmong ks).position) := by
  refine ⟨⟨_, isGreatest_run_isAmong ks c.rest, ?_, ?_⟩, ?_, ?_⟩
  · intro r
    rw [skips_iff_eq_skip, skip_nextIsAmong_eq, skipAmong_eq]
  · rw [skipAmong_eq, position_moved]
  · rw [← skipAmong_afterAll_schedule c hcalls]
    exact position_le_skipAmong _ ks
  · intro hstuck
    rw [← skipAmong_afterAll_schedule c hcalls, skipAmong_of_stuck hstuck]

/-- A text of letters (kind 1), blanks (kind 0), line ends (kind 2) and a stop (kind 3). -/
def spaced : List Token :=
  [⟨"a", .bare 1, 1⟩, ⟨" ", .bare 0, 1⟩, ⟨"\n", .bare 2, 1⟩, ⟨"b", .member ⟨"Kind", "LETTER", 1⟩, 2⟩,
    ⟨".", .bare 3, 2⟩, ⟨" ", .bare 0, 2⟩]

def spacedSchedule : List (Kind × Int) :=
  [(.bare 0, 0), (.bare 1, 1), (.bare 0, -2), (.member ⟨"Kind", "LETTER", 1⟩, 5), (.bare 2, 1),
    (.bare 1, 0)]

def wordKinds : List Kind := [.bare 1, .bare 0, .bare 2, .bare 0]

theorem skipAmong_limit_of_schedule_spaced :
    (∀ call ∈ spacedSchedule, ∃ k ∈ wordKinds, call.1.code = k.code) ∧
      (∀ k ∈ wordKinds, (((ofTokens spaced NameSource.decimal.resolver).afterAll
        (schedule spacedSchedule)).skipRun k 0).1 = 0) ∧
      ((ofTokens spaced NameSource.decimal.resolver).afterAll (schedule spacedSchedule)).position =
        ((ofTokens spaced NameSource.decimal.resolver).skipAmong wordKinds).position := by
  have hstuck : ∀ k ∈ wordKinds, (((ofTokens spaced NameSource.decimal.resolver).afterAll
      (schedule spacedSchedule)).skipRun k 0).1 = 0 := by
    decide +kernel
  exact ⟨by decide, hstuck, (skipAmong_limit_of_schedule _ _ spacedSchedule (by decide)).2.2 hstuck⟩

theorem startsWith_replicate_iff (c : Cursor) (k : Kind) (n : Nat) :
    (c.startsWith (List.replicate n k)).1 = true ↔
      n ≤ (c.rest.takeWhile (Token.isOf k)).length := by
  rw [startsWith_iff_metCount, metCount_replicate, List.length_replicate]
  omega

/-- A kind is found `n` times in a row if a skip with the limit `n` passes `n` tokens, and a skip
without a limit passes as many as can be found in a row. -/
theorem startsWith_replicate_iff_skipRun (c : Cursor) (k : Kind) :
    (∀ n : Nat, 1 ≤ n →
      ((c.startsWith (List.replicate n k)).1 = true ↔ (c.skipRun k n).1 = n)) ∧
    IsGreatest {n | (c.startsWith (List.replicate n k)).1 = true} (c.skipRun k 0).1 := by
  have hall : (c.skipRun k 0).1 = (c.rest.takeWhile (Token.isOf k)).length := by
    rw [skipRun_eq]
    exact capped_of_nonpos (le_refl 0) _
  refine ⟨?_, ?_, ?_⟩
  · intro n hn
    rw [startsWith_replicate_iff, skipRun_eq_limit_iff c k hn]
  · exact (c.startsWith_replicate_iff k _).mpr hall.le
  · intro n hn
    rw [hall]
    exact (c.startsWith_replicate_iff k n).mp hn

end Cursor

end Lookahead
