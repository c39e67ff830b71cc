import Lookahead.Proofs.Cursor.Stride

namespace Lookahead.Resolver

/-- Diagnostics call the kind by this name, and finding it gives these warnings. -/
inductive Calls (r : Resolver) (k : Kind) : String → List Warning → Prop where
  | named {name : String} (h : r k = .ok name) : Calls r k name []
  | unnamed {f : Failure} (h : r k = .error f)
      (hf : f.cls ∈ [FailureClass.lookup, .key, .index, .value, .unicode]) :
      Calls r k k.decimal [.unnamed k f]

/-- The resolver fails for the kind, and not because it knows no name for it. -/
def Refuses (r : Resolver) (k : Kind) (f : Failure) : Prop :=
  r k = .error f ∧ f.cls ∉ [FailureClass.lookup, .key, .index, .value, .unicode]

theorem calls_or_refuses (r : Resolver) (k : Kind) :
    (∃ name ws, r.Calls k name ws) ∨ ∃ f, r.Refuses k f := by
  cases h : r k with
  | ok name => exact Or.inl ⟨name, [], .named h⟩
  | error f =>
    by_cases hf : f.cls ∈ [FailureClass.lookup, .key, .index, .value, .unicode]
    · exact Or.inl ⟨k.decimal, [.unnamed k f], .unnamed h hf⟩
    · exact Or.inr ⟨f, h, hf⟩

variable {r : Resolver} {k : Kind}

theorem display_of_calls {name : String} {ws : List Warning} (h : r.Calls k name ws) :
    r.display k = ⟨ws, .ok name⟩ := by
  cases h with
  | named h => exact display_of_ok h
  | @unnamed f h hf => exact display_of_unnamed h (f.cls.isUnnamed_iff.mpr hf)

theorem display_of_refuses {f : Failure} (h : r.Refuses k f) :
    r.display k = ⟨[], .error (.naming f)⟩ :=
  display_of_refused h.1 (f.cls.isUnnamed_eq_false_iff.mpr h.2)

theorem calls_of_display {name : String} (h : (r.display k).outcome = .ok name) :
    ∃ ws, r.Calls k name ws := by
  rcases r.calls_or_refuses k with ⟨other, ws, hcalls⟩ | ⟨f, hrefuses⟩
  · rw [display_of_calls hcalls] at h
    obtain rfl := Except.ok.inj h
    exact ⟨ws, hcalls⟩
  · rw [display_of_refuses hrefuses] at h
    cases h

end Lookahead.Resolver

namespace Lookahead.Cursor

/-- The outcomes of expecting the kind `k`. -/
inductive Expects (c : Cursor) (k : Kind) : Outcome → Prop where
  | met {t : Token} (hnext : c.tokens[c.passed]? = some t) (hkind : t.kind.code = k.code) :
      Expects c k ⟨⟨[], .ok (.lexeme t.value)⟩, c.position + 1⟩
  /-- The expected kind cannot be named, whether or not there is a next token. -/
  | expectedRefused {f : Failure} (hkind : ∀ t, c.tokens[c.passed]? = some t → t.kind.code ≠ k.code)
      (hrefused : c.names.Refuses k f) :
      Expects c k ⟨⟨[], .error (.naming f)⟩, c.position⟩
  | atEnd {expected : String} {ws : List Warning} (hnext : c.tokens[c.passed]? = none)
      (hexpected : c.names.Calls k expected ws) :
      Expects c k
        ⟨⟨ws, .error (.mismatch
          ⟨expected, "end of stream", c.tokens.getLast?.elim 0 Token.line⟩)⟩, c.position⟩
  /-- The kind of the next token cannot be named. Warnings for the expected kind are kept. -/
  | actualRefused {t : Token} {expected : String} {ws : List Warning} {f : Failure}
      (hnext : c.tokens[c.passed]? = some t) (hkind : t.kind.code ≠ k.code)
      (hexpected : c.names.Calls k expected ws) (hrefused : c.names.Refuses t.kind f) :
      Expects c k ⟨⟨ws, .error (.naming f)⟩, c.position⟩
  | mismatch {t : Token} {expected actual : String} {ws vs : List Warning}
      (hnext : c.tokens[c.passed]? = some t) (hkind : t.kind.code ≠ k.code)
      (hexpected : c.names.Calls k expected ws) (hactual : c.names.Calls t.kind actual vs) :
      Expects c k ⟨⟨ws ++ vs, .error (.mismatch ⟨expected, actual, t.line⟩)⟩, c.position⟩

theorem lastLine_eq (c : Cursor) : c.lastLine = c.tokens.getLast?.elim 0 Token.line := by
  unfold lastLine
  cases c.tokens.getLast? <;> rfl

section Reject

variable {α : Type} {c : Cursor} {k : Kind} {expected : String} {ws : List Warning}

theorem reject_of_expected_refused {f : Failure} (h : c.names.Refuses k f) :
    (c.reject k : Report α) = ⟨[], .error (.naming f)⟩ := by
  unfold reject
  rw [Resolver.display_of_refuses h]
  rfl

theorem reject_at_end (hnext : c.next? = none) (h : c.names.Calls k expected ws) :
    (c.reject k : Report α) =
      ⟨ws, .error (.mismatch
        ⟨expected, "end of stream", c.tokens.getLast?.elim 0 Token.line⟩)⟩ := by
  unfold reject
  rw [hnext, ← lastLine_eq, Report.bind_fails (Resolver.display_of_calls h) rfl, List.append_nil]

theorem reject_of_actual_refused {t : Token} {f : Failure} (hnext : c.next? = some t)
    (h : c.names.Calls k expected ws) (hrefused : c.names.Refuses t.kind f) :
    (c.reject k : Report α) = ⟨ws, .error (.naming f)⟩ := by
  have hactual : (do
      let actual ← c.names.display t.kind
      Report.fail (.mismatch ⟨expected, actual, t.line⟩) : Report α) = ⟨[], .error (.naming f)⟩ := by
    rw [Resolver.display_of_refuses hrefused]
    rfl
  unfold reject
  rw [hnext, Report.bind_fails (Resolver.display_of_calls h) hactual, List.append_nil]

theorem reject_of_actual {t : Token} {actual : String} {vs : List Warning}
    (hnext : c.next? = some t) (h : c.names.Calls k expected ws)
    (hactual : c.names.Calls t.kind actual vs) :
    (c.reject k : Report α) = ⟨ws ++ vs, .error (.mismatch ⟨expected, actual, t.line⟩)⟩ := by
  have hlater := Report.bind_fails (β := α) (Resolver.display_of_calls hactual)
    (f := fun actual => Report.fail (.mismatch ⟨expected, actual, t.line⟩)) rfl
  rw [List.append_nil] at hlater
  unfold reject
  rw [hnext, Report.bind_fails (Resolver.display_of_calls h) hlater]

end Reject

section Outcome

variable {c : Cursor} {k : Kind}

theorem outcome_of_met {t : Token} (hnext : c.next? = some t) (hkind : t.kind.code = k.code) :
    c.outcome (.expect k) = ⟨⟨[], .ok (.lexeme t.value)⟩, c.position + 1⟩ := by
  obtain ⟨ts, hrest⟩ := exists_rest_of_next? hnext
  rcases c.expect_cases k with ⟨u, us, hrest', -, hexpect⟩ | ⟨hno, -⟩
  · obtain rfl := (List.cons.inj (hrest.symm.trans hrest')).1
    simp only [outcome, after, perform, hexpect, position_moved]
    rfl
  · rw [hrest] at hno
    exact absurd (beq_iff_eq.mpr hkind) (Bool.eq_false_iff.mp hno)

theorem outcome_of_reject {ws : List Warning} {e : CallError}
    (hkind : ∀ t, c.next? = some t → t.kind.code ≠ k.code)
    (hreject : (c.reject k : Report String) = ⟨ws, .error e⟩) :
    c.outcome (.expect k) = ⟨⟨ws, .error e⟩, c.position⟩ := by
  rcases c.expect_cases k with ⟨t, ts, hrest, hk, -⟩ | ⟨-, hexpect⟩
  · have hnext : c.next? = some t := by
      rw [next?_eq, hrest]
      rfl
    exact absurd (beq_iff_eq.mp hk) (hkind t hnext)
  · simp only [outcome, after, perform, hexpect, hreject]
    rfl

theorem ne_of_next?_none (hnext : c.next? = none) : ∀ t, c.next? = some t → t.kind.code ≠ k.code := by
  intro t ht
  exact absurd (hnext.symm.trans ht) nofun

theorem ne_of_next?_some {t : Token} (hnext : c.next? = some t) (hkind : t.kind.code ≠ k.code) :
    ∀ u, c.next? = some u → u.kind.code ≠ k.code := by
  intro u hu
  obtain rfl := Option.some.inj (hnext.symm.trans hu)
  exact hkind

theorem Expects.outcome_eq {o : Outcome} (h : Expects c k o) : c.outcome (.expect k) = o := by
  cases h with
  | met hnext hkind => exact outcome_of_met hnext hkind
  | expectedRefused hkind hrefused =>
    exact outcome_of_reject hkind (reject_of_expected_refused hrefused)
  | atEnd hnext hexpected =>
    exact outcome_of_reject (ne_of_next?_none hnext) (reject_at_end hnext hexpected)
  | actualRefused hnext hkind hexpected hrefused =>
    exact outcome_of_reject (ne_of_next?_some hnext hkind)
      (reject_of_actual_refused hnext hexpected hrefused)
  | mismatch hnext hkind hexpected hactual =>
    exact outcome_of_reject (ne_of_next?_some hnext hkind)
      (reject_of_actual hnext hexpected hactual)

end Outcome

theorem exists_expects (c : Cursor) (k : Kind) : ∃ o, Expects c k o := by
  cases hnext : c.next? with
  | none =>
    rcases c.names.calls_or_refuses k with ⟨expected, ws, hexpected⟩ | ⟨f, hrefused⟩
    · exact ⟨_, .atEnd hnext hexpected⟩
    · exact ⟨_, .expectedRefused (ne_of_next?_none hnext) hrefused⟩
  | some t =>
    by_cases hkind : t.kind.code = k.code
    · exact ⟨_, .met hnext hkind⟩
    · rcases c.names.calls_or_refuses k with ⟨expected, ws, hexpected⟩ | ⟨f, hrefused⟩
      · rcases c.names.calls_or_refuses t.kind with ⟨actual, vs, hactual⟩ | ⟨f, hrefused⟩
        · exact ⟨_, .mismatch hnext hkind hexpected hactual⟩
        · exact ⟨_, .actualRefused hnext hkind hexpected hrefused⟩
      · exact ⟨_, .expectedRefused (ne_of_next?_some hnext hkind) hrefused⟩

theorem after_expect_of_error {c : Cursor} {k : Kind} {e : CallError}
    (h : (c.outcome (.expect k)).report.outcome = .error e) : c.after (.expect k) = c := by
  rcases c.expect_cases k with ⟨t, ts, -, -, hexpect⟩ | ⟨-, hexpect⟩
  · simp only [outcome, perform, hexpect] at h
    cases h
  · simp only [after, perform, hexpect]

/-- The rules give the outcome of expecting a kind in every case, and an error changes nothing. -/
theorem expects_iff_outcome (c : Cursor) (k : Kind) :
    (∀ o, Expects c k o ↔ c.outcome (.expect k) = o) ∧
      ∀ e, (c.outcome (.expect k)).report.outcome = .error e → c.after (.expect k) = c := by
  refine ⟨?_, fun e => after_expect_of_error⟩
  intro o
  constructor
  · exact Expects.outcome_eq
  · -- some rule applies, and its outcome can be no other
    rintro rfl
    obtain ⟨o, ho⟩ := c.exists_expects k
    rw [ho.outcome_eq]
    exact ho

end Lookahead.Cursor
