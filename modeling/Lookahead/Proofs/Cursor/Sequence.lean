import Lookahead.Proofs.Cursor.Stride
import Mathlib.Order.Bounds.Basic

namespace Lookahead

theorem isGreatest_metCount (ts : List Token) (ks : List Kind) :
    IsGreatest {j | j ≤ ks.length ∧ (ks.take j).map Kind.code <+: ts.map fun t => t.kind.code}
      (metCount ts ks) := by
  constructor
  · refine ⟨(metCount_le ts ks).trans (Nat.min_le_right _ _), ?_⟩
    rw [take_prefix_iff]
    exact Nat.min_le_left _ _
  · intro j hj
    have hmet := (take_prefix_iff ts ks j).mp hj.2
    rw [Nat.min_eq_left hj.1] at hmet
    exact hmet

namespace Cursor

theorem startsWith_iff_front (c : Cursor) (ks : List Kind) :
    (c.startsWith ks).1 = true ↔ ks.map Kind.code <+: c.codes := by
  rw [startsWith_eq, List.isPrefixOf_iff_prefix]

/-- Looking ahead for a sequence tells whether it is a front of the kinds after the position, and
leaves the cursor where it was, though the lookahead itself follows the longest front that is met and
goes one move further, perhaps beyond the last token. -/
theorem startsWith_decides_front (c : Cursor) (ks : List Kind) :
    ((c.startsWith ks).1 = true ↔ ks.map Kind.code <+: c.codes) ∧
      (c.startsWith ks).2 = c ∧
      c.outcome (.startsWith ks) = ⟨pure (.truth (c.startsWith ks).1), c.position⟩ ∧
      ∃ m, IsGreatest {j | j ≤ ks.length ∧ (ks.take j).map Kind.code <+: c.codes} m ∧
        (c.follow ks).2 = c.moved (min (m + 1) ks.length) := by
  have hstay : (c.startsWith ks).2 = c := by
    rw [startsWith_eq]
  refine ⟨c.startsWith_iff_front ks, hstay, ?_, ?_⟩
  · have hposition : (c.outcome (.startsWith ks)).position = (c.startsWith ks).2.position := rfl
    rw [hstay] at hposition
    exact congrArg (Outcome.mk _) hposition
  · refine ⟨metCount c.rest ks, isGreatest_metCount c.rest ks, ?_⟩
    rw [follow_eq]

theorem startsWith_take_iff (c : Cursor) (ks : List Kind) (j : Nat) :
    (c.startsWith (ks.take j)).1 = true ↔ min j ks.length ≤ metCount c.rest ks := by
  rw [startsWith_iff_front, codes, take_prefix_iff]

theorem startsWith_iff_metCount (c : Cursor) (ks : List Kind) :
    (c.startsWith ks).1 = true ↔ metCount c.rest ks = ks.length := by
  have hle := metCount_le c.rest ks
  have hwhole := c.startsWith_take_iff ks ks.length
  rw [List.take_length] at hwhole
  rw [hwhole]
  omega

theorem isGreatest_startsWith_take {c : Cursor} {ks : List Kind}
    (h : metCount c.rest ks < ks.length) :
    IsGreatest {j | (c.startsWith (ks.take j)).1 = true} (metCount c.rest ks) := by
  constructor
  · apply (c.startsWith_take_iff ks _).mpr
    exact Nat.min_le_left _ _
  · intro j hj
    have hmin := (c.startsWith_take_iff ks j).mp hj
    omega

/-- Expects kinds one after another up to the first failure. Gives the reports of the calls that were
made, and the cursor after them. -/
def expectEach : Cursor → List Kind → List (Report String) × Cursor
  | c, [] => ([], c)
  | c, k :: ks =>
    let (r, d) := c.expect k
    if r.outcome.isOk then
      let (rs, e) := d.expectEach ks
      (r :: rs, e)
    else ([r], d)

theorem expectEach_eq (c : Cursor) (ks : List Kind) :
    c.expectEach ks =
      ((c.rest.take (metCount c.rest ks)).map (fun t => pure t.value) ++
          (ks[metCount c.rest ks]?.map (c.moved (metCount c.rest ks)).reject).toList,
        c.moved (metCount c.rest ks)) := by
  induction ks generalizing c with
  | nil => simp [expectEach, metCount]
  | cons k ks ih =>
    rcases c.expect_cases k with ⟨t, ts, hrest, hk, hexpect⟩ | ⟨hno, hexpect⟩
    · -- the other kinds are expected one move further on
      have hnext : (c.moved 1).rest = ts := by
        rw [rest_moved, hrest]
        rfl
      have hmoved (n : Nat) : (c.moved 1).moved n = c.moved (n + 1) := c.moved_forward n
      have hlater := ih (c.moved 1)
      rw [hnext, hmoved] at hlater
      rw [hrest, metCount_cons_of_pos hk]
      simp only [expectEach, hexpect, hlater]
      rfl
    · -- the first kind fails, so no other is expected
      have hcount : metCount c.rest (k :: ks) = 0 := by
        cases hrest : c.rest with
        | nil => rfl
        | cons t ts =>
          rw [hrest] at hno
          exact metCount_cons_of_neg (Bool.eq_false_iff.mp hno) ts ks
      have hfail : (c.reject k : Report String).outcome.isOk = false := by
        have h := c.isOk_expect k
        rw [hexpect, hno] at h
        exact h
      rw [hcount]
      simp only [expectEach, hexpect, hfail]
      rfl

/-- Where looking ahead finds the whole sequence, expecting its kinds gives the values of the next
tokens, without a failure or a warning. Otherwise as many calls succeed as looking ahead finds kinds
at most, and the call after them fails. -/
theorem startsWith_predicts_expectEach (c : Cursor) (ks : List Kind) :
    if (c.startsWith ks).1 then
      (c.expectEach ks).1 = (c.rest.take ks.length).map (fun t => pure t.value) ∧
        (c.expectEach ks).1.length = ks.length ∧
        (c.expectEach ks).2.position = c.position + ks.length
    else
      ∃ (i : Nat) (failing : Report String) (e : CallError),
        IsGreatest {j | (c.startsWith (ks.take j)).1 = true} i ∧
        (c.expectEach ks).1 = (c.rest.take i).map (fun t => pure t.value) ++ [failing] ∧
        (c.expectEach ks).1.length = i + 1 ∧
        failing.outcome = .error e ∧
        (c.expectEach ks).2.position = c.position + i := by
  have hle := metCount_le c.rest ks
  have hpassed : (c.rest.take (metCount c.rest ks)).length = metCount c.rest ks :=
    List.length_take_of_le (by omega)
  rw [expectEach_eq]
  split
  · next hfound =>
    have hall := (c.startsWith_iff_metCount ks).mp hfound
    have hnone : ks[metCount c.rest ks]? = none := List.getElem?_eq_none hall.ge
    rw [hnone, Option.map_none, Option.toList_none, List.append_nil, List.length_map, hpassed, hall]
    exact ⟨rfl, rfl, c.position_moved _⟩
  · next hmissed =>
    have hlt : metCount c.rest ks < ks.length := by
      have hne := mt (c.startsWith_iff_metCount ks).mpr hmissed
      omega
    have hkind : ks[metCount c.rest ks]? = some ks[metCount c.rest ks] :=
      List.getElem?_eq_getElem hlt
    obtain ⟨e, he⟩ : ∃ e, ((c.moved (metCount c.rest ks)).reject
        ks[metCount c.rest ks] : Report String).outcome = .error e :=
      exists_error_reject _ _
    refine ⟨metCount c.rest ks, _, e, isGreatest_startsWith_take hlt, ?_, ?_, he,
      c.position_moved _⟩
    · rw [hkind]
      rfl
    · rw [hkind, List.length_append, List.length_map, hpassed]
      rfl

end Cursor

end Lookahead
