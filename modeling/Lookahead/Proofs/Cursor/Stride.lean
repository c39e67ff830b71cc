import Lookahead.Session

namespace Lookahead

def Token.isOf (k : Kind) (t : Token) : Bool := t.kind.code == k.code

def Token.isAmong (ks : List Kind) (t : Token) : Bool := ks.any fun k => t.isOf k

theorem Token.isAmong_iff {ks : List Kind} {t : Token} :
    t.isAmong ks = true ↔ ∃ k ∈ ks, t.kind.code = k.code := by
  simp only [isAmong, isOf, List.any_eq_true, beq_iff_eq]

/-- The number `n`, cut off at the limit if the limit is positive. -/
def capped (limit : Int) (n : Nat) : Nat := if 0 < limit then min limit.toNat n else n

theorem capped_zero (limit : Int) : capped limit 0 = 0 := by
  simp [capped]

theorem capped_le (limit : Int) (n : Nat) : capped limit n ≤ n := by
  unfold capped
  split <;> omega

theorem capped_of_nonpos {limit : Int} (h : limit ≤ 0) (n : Nat) : capped limit n = n :=
  if_neg (by omega)

theorem cast_capped (limit : Int) (n : Nat) :
    (capped limit n : Int) = if 0 < limit then min (n : Int) limit else n := by
  unfold capped
  split <;> omega

theorem capped_succ (limit : Int) (n : Nat) (h : ¬ (0 < limit ∧ limit ≤ 1)) :
    capped limit (n + 1) = capped (limit - 1) n + 1 := by
  unfold capped
  split <;> split <;> omega

theorem pass_of_mem_take {p : Token → Bool} {ts : List Token} {n : Nat}
    (hn : n ≤ (ts.takeWhile p).length) {t : Token} (ht : t ∈ ts.take n) : p t = true := by
  have hrun : t ∈ ts.takeWhile p := by
    rw [List.prefix_iff_eq_take.mp (ts.takeWhile_prefix p)]
    exact List.take_subset_take_left ts hn ht
  exact List.all_eq_true.mp List.all_takeWhile t hrun

theorem length_takeWhile_pos_iff (p : Token → Bool) (ts : List Token) :
    0 < (ts.takeWhile p).length ↔ ts.head?.any p = true := by
  cases ts with
  | nil => simp
  | cons t ts => cases ht : p t <;> simp [ht]

/-- How many of the kinds, from the first on, the tokens have in this order. -/
def metCount : List Token → List Kind → Nat
  | t :: ts, k :: ks => if t.isOf k then metCount ts ks + 1 else 0
  | _, _ => 0

theorem metCount_nil (ks : List Kind) : metCount [] ks = 0 := rfl

theorem metCount_cons_of_pos {t : Token} {k : Kind} (h : t.isOf k = true) (ts : List Token)
    (ks : List Kind) : metCount (t :: ts) (k :: ks) = metCount ts ks + 1 := if_pos h

theorem metCount_cons_of_neg {t : Token} {k : Kind} (h : ¬ t.isOf k = true) (ts : List Token)
    (ks : List Kind) : metCount (t :: ts) (k :: ks) = 0 := if_neg h

theorem metCount_le (ts : List Token) (ks : List Kind) :
    metCount ts ks ≤ min ts.length ks.length := by
  fun_induction metCount ts ks with
  | case1 t ts k ks hk ih =>
    rw [List.length_cons, List.length_cons]
    omega
  | case2 t ts k ks hk => exact Nat.zero_le _
  | case3 ts ks h => exact Nat.zero_le _

theorem take_prefix_iff (ts : List Token) (ks : List Kind) (j : Nat) :
    (ks.take j).map Kind.code <+: (ts.map fun t => t.kind.code) ↔
      min j ks.length ≤ metCount ts ks := by
  induction ks generalizing ts j with
  | nil => simp
  | cons k ks ih =>
    cases j with
    | zero => simp
    | succ j =>
      cases ts with
      | nil => simp [metCount]
      | cons t ts =>
        rw [List.take_succ_cons, List.map_cons, List.map_cons, List.cons_prefix_cons, ih,
          List.length_cons]
        -- a first kind that is not met ends both the front and the count
        by_cases hk : t.isOf k = true
        · rw [metCount_cons_of_pos hk, and_iff_right (beq_iff_eq.mp hk).symm]
          omega
        · have hcode : k.code ≠ t.kind.code := fun h => hk (beq_iff_eq.mpr h.symm)
          rw [metCount_cons_of_neg hk, iff_false_intro hcode, false_and, false_iff]
          omega

namespace Cursor

/-- The tokens after the position. -/
def rest (c : Cursor) : List Token := c.tokens.drop c.passed

def codes (c : Cursor) : List Int := c.rest.map fun t => t.kind.code

def moved (c : Cursor) (n : Nat) : Cursor := { c with passed := c.passed + n }

@[simp] theorem moved_zero (c : Cursor) : c.moved 0 = c := rfl

@[simp] theorem tokens_moved (c : Cursor) (n : Nat) : (c.moved n).tokens = c.tokens := rfl

@[simp] theorem passed_moved (c : Cursor) (n : Nat) : (c.moved n).passed = c.passed + n := rfl

theorem position_moved (c : Cursor) (n : Nat) : (c.moved n).position = c.position + n := by
  unfold position
  rw [passed_moved]
  omega

theorem moved_moved (c : Cursor) (m n : Nat) : (c.moved m).moved n = c.moved (m + n) := by
  simp only [moved, Nat.add_assoc]

theorem moved_forward (c : Cursor) (n : Nat) : c.forward.moved n = c.moved (n + 1) := by
  simp only [moved, forward, Nat.add_assoc, Nat.add_comm 1 n]

@[simp] theorem rest_moved (c : Cursor) (n : Nat) : (c.moved n).rest = c.rest.drop n := by
  simp [rest, moved]

theorem rest_forward (c : Cursor) : c.forward.rest = c.rest.tail := by
  simp [rest, forward]

theorem length_rest (c : Cursor) : c.rest.length = c.tokens.length - c.passed := by
  simp [rest]

@[simp] theorem rest_ofTokens (tokens : List Token) (names : Resolver) :
    (ofTokens tokens names).rest = tokens := rfl

theorem start_eq (tokens : List Token) (names : Resolver) :
    start tokens names =
      ⟨if endOfStream ∈ tokens.map fun t => t.kind.code then [.reservedKind] else [],
        .ok (ofTokens tokens names)⟩ := by
  have hany : (tokens.any fun t => t.kind.code == endOfStream) =
      decide (endOfStream ∈ tokens.map fun t => t.kind.code) := by
    rw [Bool.eq_iff_iff]
    simp
  unfold start
  rw [hany]
  by_cases h : endOfStream ∈ tokens.map fun t => t.kind.code
  · simp only [h, decide_true, ↓reduceIte]
    rfl
  · simp only [h, decide_false, Bool.false_eq_true, ↓reduceIte]
    rfl

theorem next?_eq (c : Cursor) : c.next? = c.rest.head? := by
  simp [next?, rest]

theorem exists_rest_of_next? {c : Cursor} {t : Token} (h : c.next? = some t) :
    ∃ ts, c.rest = t :: ts :=
  List.head?_eq_some_iff.mp (c.next?_eq ▸ h)

theorem hasNext_eq (c : Cursor) : c.hasNext = !c.rest.isEmpty := by
  rw [Bool.eq_iff_iff]
  simp [hasNext, rest]

theorem rest_eq_nil_iff (c : Cursor) : c.rest = [] ↔ c.hasNext = false := by
  rw [hasNext_eq, Bool.not_eq_false', List.isEmpty_iff]

theorem peek_eq (c : Cursor) : c.peek = c.codes.head?.getD endOfStream := by
  unfold peek codes
  rw [next?_eq, List.head?_map]
  cases c.rest.head? <;> rfl

theorem peek_congr {c d : Cursor} (h : c.codes = d.codes) : c.peek = d.peek := by
  rw [peek_eq, peek_eq, h]

theorem nextIs_congr {c d : Cursor} (h : c.codes = d.codes) : c.nextIs = d.nextIs := by
  funext k
  unfold nextIs
  rw [peek_congr h]

theorem nextIs_of_rest {c : Cursor} {t : Token} {ts : List Token} (h : c.rest = t :: ts)
    (k : Kind) : c.nextIs k = t.isOf k := by
  simp [nextIs, peek_eq, codes, h, Token.isOf]

theorem nextIsAmong_of_rest {c : Cursor} {t : Token} {ts : List Token} (h : c.rest = t :: ts)
    (ks : List Kind) : c.nextIsAmong ks = t.isAmong ks := by
  unfold nextIsAmong Token.isAmong
  exact congrArg ks.any (funext fun k => nextIs_of_rest h k)

/-- A skip passes the longest run of tokens that pass the test, up to what is left of the limit. -/
theorem skip_eq (test : Cursor → Bool) (p : Token → Bool) (limit : Int) (count : Nat) (c : Cursor)
    (htest : ∀ d t ts, d.rest = t :: ts → test d = p t) (hcount : 0 < limit → count < limit) :
    c.skip test limit count =
      (count + capped (limit - count) (c.rest.takeWhile p).length,
        c.moved (capped (limit - count) (c.rest.takeWhile p).length)) := by
  fun_induction skip test limit count c with
  | case1 count c h hlimit =>
    -- the limit is reached with this token, so one was left of it
    obtain ⟨hnext, hpass⟩ := Bool.and_eq_true_iff.mp h
    cases hrest : c.rest with
    | nil => simp [hasNext_eq, hrest] at hnext
    | cons t ts =>
      have hlast : limit - count = 1 := by have := hcount hlimit.1; omega
      have hcap : capped 1 ((ts.takeWhile p).length + 1) = 1 := by simp [capped]
      rw [htest c t ts hrest] at hpass
      rw [List.takeWhile_cons_of_pos hpass, List.length_cons, hlast, hcap]
      rfl
  | case2 count c h hlimit ih =>
    obtain ⟨hnext, hpass⟩ := Bool.and_eq_true_iff.mp h
    cases hrest : c.rest with
    | nil => simp [hasNext_eq, hrest] at hnext
    | cons t ts =>
      have hleft : limit - ((count + 1 : Nat) : Int) = limit - count - 1 := by omega
      rw [htest c t ts hrest] at hpass
      rw [ih (by omega), hleft, rest_forward, hrest, List.tail_cons,
        List.takeWhile_cons_of_pos hpass, List.length_cons, moved_forward,
        capped_succ _ _ (by omega), Nat.add_right_comm, Nat.add_assoc]
  | case3 count c h =>
    -- either there is no next token or it ends the run
    have hrun : c.rest.takeWhile p = [] := by
      cases hrest : c.rest with
      | nil => rfl
      | cons t ts =>
        apply List.takeWhile_cons_of_neg
        rw [← htest c t ts hrest]
        simpa [hasNext_eq, hrest] using h
    simp [hrun, capped_zero]

theorem skipRun_eq (c : Cursor) (k : Kind) (limit : Int) :
    c.skipRun k limit =
      (capped limit (c.rest.takeWhile (Token.isOf k)).length,
        c.moved (capped limit (c.rest.takeWhile (Token.isOf k)).length)) := by
  have h := skip_eq (fun d => d.nextIs k) (Token.isOf k) limit 0 c
    (fun d t ts hd => nextIs_of_rest hd k) id
  simpa [skipRun] using h

theorem skipRun_eq_limit_iff (c : Cursor) (k : Kind) {n : Nat} (hn : 1 ≤ n) :
    (c.skipRun k n).1 = n ↔ n ≤ (c.rest.takeWhile (Token.isOf k)).length := by
  rw [skipRun_eq]
  unfold capped
  split <;> omega

theorem skip_nextIsAmong_eq (c : Cursor) (ks : List Kind) :
    c.skip (fun d => d.nextIsAmong ks) 0 0 =
      ((c.rest.takeWhile (Token.isAmong ks)).length,
        c.moved (c.rest.takeWhile (Token.isAmong ks)).length) := by
  have h := skip_eq (fun d => d.nextIsAmong ks) (Token.isAmong ks) 0 0 c
    (fun d t ts hd => nextIsAmong_of_rest hd ks) id
  simpa [capped] using h

theorem skipAmong_eq (c : Cursor) (ks : List Kind) :
    c.skipAmong ks = c.moved (c.rest.takeWhile (Token.isAmong ks)).length :=
  congrArg Prod.snd (c.skip_nextIsAmong_eq ks)

/-- Following kinds leads one move beyond the last token of a kind met, unless all are met. -/
theorem follow_eq (c : Cursor) (ks : List Kind) :
    c.follow ks =
      (metCount c.rest ks == ks.length, c.moved (min (metCount c.rest ks + 1) ks.length)) := by
  fun_induction follow c ks with
  | case1 c => simp [metCount]
  | case2 c k ks t d hstep heq ih =>
    obtain ⟨hnext, rfl⟩ := Prod.mk.inj hstep
    obtain ⟨ts, hrest⟩ := exists_rest_of_next? hnext
    rw [ih, rest_forward, hrest, List.tail_cons, metCount_cons_of_pos heq, moved_forward,
      List.length_cons, Nat.succ_min_succ]
    simp
  | case3 c k ks t d hstep hne =>
    obtain ⟨hnext, rfl⟩ := Prod.mk.inj hstep
    obtain ⟨ts, hrest⟩ := exists_rest_of_next? hnext
    rw [hrest, metCount_cons_of_neg hne, List.length_cons, Nat.min_eq_left (by omega)]
    rfl
  | case4 c k ks d hstep =>
    obtain ⟨hnext, rfl⟩ := Prod.mk.inj hstep
    rw [next?_eq, List.head?_eq_none_iff] at hnext
    rw [hnext, metCount_nil, List.length_cons, Nat.min_eq_left (by omega)]
    rfl

theorem startsWith_eq (c : Cursor) (ks : List Kind) :
    c.startsWith ks = ((ks.map Kind.code).isPrefixOf c.codes, c) := by
  have hmet : (metCount c.rest ks == ks.length) = (ks.map Kind.code).isPrefixOf c.codes := by
    have hle := metCount_le c.rest ks
    have hprefix := take_prefix_iff c.rest ks ks.length
    rw [List.take_length] at hprefix
    rw [Bool.eq_iff_iff, List.isPrefixOf_iff_prefix, beq_iff_eq, codes, hprefix]
    omega
  simp only [startsWith, follow_eq, hmet, moved]

theorem exists_error_reject {α : Type} (c : Cursor) (k : Kind) :
    ∃ e, (c.reject k : Report α).outcome = .error e := by
  apply Report.exists_error_bind
  intro expected
  cases c.next? with
  | none => exact ⟨_, rfl⟩
  | some t =>
    apply Report.exists_error_bind
    intro actual
    exact ⟨_, rfl⟩

/-- All that `expect` can do: consume a next token of the kind, or stay and reject. -/
theorem expect_cases (c : Cursor) (k : Kind) :
    (∃ t ts, c.rest = t :: ts ∧ t.isOf k = true ∧ c.expect k = (pure t.value, c.moved 1)) ∨
      c.rest.head?.any (Token.isOf k) = false ∧ c.expect k = (c.reject k, c) := by
  unfold expect
  rw [next?_eq]
  cases hrest : c.rest with
  | nil => exact Or.inr ⟨rfl, rfl⟩
  | cons t ts =>
    cases hk : t.isOf k with
    | true => exact Or.inl ⟨t, ts, rfl, hk, if_pos hk⟩
    | false => exact Or.inr ⟨hk, if_neg (Bool.eq_false_iff.mp hk)⟩

theorem isOk_expect (c : Cursor) (k : Kind) :
    (c.expect k).1.outcome.isOk = c.rest.head?.any (Token.isOf k) := by
  rcases c.expect_cases k with ⟨t, ts, hrest, hk, hexpect⟩ | ⟨hno, hexpect⟩
  · rw [hexpect, hrest]
    exact hk.symm
  · obtain ⟨e, he⟩ : ∃ e, (c.reject k : Report String).outcome = .error e :=
      c.exists_error_reject k
    rw [hexpect, hno]
    exact congrArg Except.isOk he

/-- The number of moves that an action makes, if it is not `rewind`. -/
def stride (c : Cursor) : Action → Nat
  | .advance => 1
  | .expect k => if c.rest.head?.any (Token.isOf k) then 1 else 0
  | .skipRun k limit => capped limit (c.rest.takeWhile (Token.isOf k)).length
  | .skipAmong ks => (c.rest.takeWhile (Token.isAmong ks)).length
  | _ => 0

theorem any_isOf_eq (c : Cursor) (k : Kind) :
    c.rest.head?.any (Token.isOf k) = c.codes.head?.any fun x => x == k.code := by
  unfold codes
  cases c.rest <;> rfl

theorem length_takeWhile_eq (c : Cursor) (q : Int → Bool) :
    (c.rest.takeWhile fun t => q t.kind.code).length = (c.codes.takeWhile q).length := by
  rw [codes, List.takeWhile_map, List.length_map]
  rfl

theorem stride_congr {c d : Cursor} (h : c.codes = d.codes) (a : Action) :
    c.stride a = d.stride a := by
  have hrun (q : Int → Bool) : (c.rest.takeWhile fun t => q t.kind.code).length =
      (d.rest.takeWhile fun t => q t.kind.code).length := by
    rw [length_takeWhile_eq, length_takeWhile_eq, h]
  cases a with
  | expect k => simp only [stride, any_isOf_eq, h]
  | skipRun k limit => exact congrArg (capped limit) (hrun fun x => x == k.code)
  | skipAmong ks => exact hrun fun x => ks.any fun k => x == k.code
  | _ => rfl

theorem after_eq_moved (c : Cursor) {a : Action} (ha : a ≠ .rewind) :
    c.after a = c.moved (c.stride a) := by
  cases a with
  | rewind => exact absurd rfl ha
  | expect k =>
    rcases c.expect_cases k with ⟨t, ts, hrest, hk, hexpect⟩ | ⟨hno, hexpect⟩
    · simp [after, perform, hexpect, stride, hrest, hk]
    · simp [after, perform, hexpect, stride, hno]
  | skipRun k limit => simp [after, perform, skipRun_eq, stride]
  | skipAmong ks => simp [after, perform, skipAmong_eq, stride]
  | startsWith ks => simp [after, perform, startsWith_eq, stride]
  | _ => rfl

theorem position_outcome (c : Cursor) {a : Action} (ha : a ≠ .rewind) :
    (c.outcome a).position = c.position + c.stride a := by
  unfold outcome
  rw [after_eq_moved c ha, position_moved]

theorem exists_after_eq (c : Cursor) (a : Action) : ∃ n, c.after a = { c with passed := n } := by
  by_cases ha : a = .rewind
  · subst ha
    exact ⟨0, rfl⟩
  · exact ⟨c.passed + c.stride a, c.after_eq_moved ha⟩

theorem report_skipRun (c : Cursor) (k : Kind) (limit : Int) :
    (c.outcome (.skipRun k limit)).report = pure (.number (c.stride (.skipRun k limit))) := by
  simp only [outcome, perform, skipRun_eq, stride]

@[simp] theorem tokens_after (c : Cursor) (a : Action) : (c.after a).tokens = c.tokens := by
  obtain ⟨n, hn⟩ := c.exists_after_eq a
  rw [hn]

@[simp] theorem names_after (c : Cursor) (a : Action) : (c.after a).names = c.names := by
  obtain ⟨n, hn⟩ := c.exists_after_eq a
  rw [hn]

end Cursor

end Lookahead
