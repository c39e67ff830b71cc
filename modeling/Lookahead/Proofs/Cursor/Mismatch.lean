import Lookahead.Proofs.Cursor.Expectation
import Lookahead.Proofs.Cursor.Trace
import Lookahead.Proofs.Resolver.Distinct

namespace Lookahead

namespace Cursor

theorem outcome_of_named {c : Cursor} {t : Token} {k : Kind} {expected actual : String}
    (hnext : c.next? = some t) (hkind : t.kind.code ≠ k.code)
    (hexpected : (c.names.display k).outcome = .ok expected)
    (hactual : (c.names.display t.kind).outcome = .ok actual) :
    (c.outcome (.expect k)).report.outcome = .error (.mismatch ⟨expected, actual, t.line⟩) := by
  obtain ⟨ws, hexpected⟩ := Resolver.calls_of_display hexpected
  obtain ⟨vs, hactual⟩ := Resolver.calls_of_display hactual
  rw [(Expects.mismatch hnext hkind hexpected hactual).outcome_eq]

/-- In no run does a mismatch error call the expected and the actual kind the same. -/
theorem mismatch_names_ne {source : NameSource} (h : source.IsDistinct) :
    ∃ label : Int → String, Function.Injective label ∧
      (∀ k, (source.resolver.display k).outcome = .ok (label k.code)) ∧
      ∀ (tokens : List Token) (actions : List Action) (t : Token) (k : Kind),
        ((ofTokens tokens source.resolver).afterAll actions).next? = some t →
          t.kind.code ≠ k.code →
            (((ofTokens tokens source.resolver).afterAll actions).outcome (.expect k)).report.outcome =
                .error (.mismatch ⟨label k.code, label t.kind.code, t.line⟩) ∧
              label k.code ≠ label t.kind.code := by
  obtain ⟨label, hinjective, hlabel⟩ := h.exists_label
  refine ⟨label, hinjective, hlabel, ?_⟩
  intro tokens actions t k hnext hkind
  have hnames : ((ofTokens tokens source.resolver).afterAll actions).names = source.resolver :=
    names_afterAll (ofTokens tokens source.resolver) actions
  refine ⟨?_, hinjective.ne hkind.symm⟩
  apply outcome_of_named hnext hkind
  · rw [hnames]
    exact hlabel k
  · rw [hnames]
    exact hlabel t.kind

theorem mismatch_names_ne_arithmetic :
    (NameSource.vocabulary .arithmetic).IsDistinct ∧
      ((ofTokens bracketed (NameSource.vocabulary .arithmetic).resolver).afterAll [.advance]).next? =
        some ⟨"x", .bare 2, 1⟩ ∧
      (2 : Int) ≠ 7 ∧
      ∃ expected actual, expected ≠ actual ∧
        (((ofTokens bracketed (NameSource.vocabulary .arithmetic).resolver).afterAll
            [.advance]).outcome (.expect (.bare 7))).report.outcome =
          .error (.mismatch ⟨expected, actual, 1⟩) := by
  have hsource : (NameSource.vocabulary .arithmetic).IsDistinct :=
    .vocabulary Vocabulary.isDistinct_arithmetic
  obtain ⟨label, -, -, hrun⟩ := mismatch_names_ne hsource
  obtain ⟨hreport, hne⟩ := hrun bracketed [.advance] ⟨"x", .bare 2, 1⟩ (.bare 7) rfl (by decide)
  exact ⟨hsource, rfl, by decide, label 7, label 2, hne, hreport⟩

end Cursor

namespace Mismatch

theorem toList_message (m : Mismatch) :
    m.message.toList = "Syntax error: expected token with name \"".toList ++
      (m.expected.toList ++ '"' :: (" instead of \"".toList ++ m.actual.toList)) ++
        "\" at line".toList ++ ' ' :: Numeral.chars m.line ++ ".".toList := by
  unfold message
  -- the literal stays opaque, since `simp` would spell it out again with every step
  generalize "Syntax error: expected token with name \"" = lead
  simp

def isIdentifierPart (c : Char) : Bool := c.isAlphanum || c == '_' || 0x7f < c.toNat

/-- The text of a mismatch has one line. It has one expected and one actual name too, where no quote
ends the expected name early; numerals and identifiers have none. -/
theorem fields_of_message {m n : Mismatch} (h : m.message = n.message) :
    m.line = n.line ∧
      ('"' ∉ m.expected.toList → '"' ∉ n.expected.toList →
        m.expected = n.expected ∧ m.actual = n.actual) ∧
      (∀ code : Int, '"' ∉ (Numeral.text code).toList) ∧
      ∀ name : String, name.toList.all isIdentifierPart = true → '"' ∉ name.toList := by
  have htext := congrArg String.toList h
  rw [toList_message, toList_message, List.append_cancel_right_eq] at htext
  obtain ⟨hnames, hline⟩ := Numeral.append_chars_inj (by decide) htext
  rw [List.append_cancel_right_eq, List.append_cancel_left_eq] at hnames
  refine ⟨hline, ?_, ?_, ?_⟩
  · intro hm hn
    obtain ⟨hexpected, hlater⟩ := append_cons_inj_of_notMem hm hn hnames
    have hactual : m.actual.toList = n.actual.toList := List.append_cancel_left hlater
    exact ⟨String.toList_inj.mp hexpected, String.toList_inj.mp hactual⟩
  · intro code
    rw [Numeral.toList_text]
    exact Numeral.notMem_chars (by decide) code
  · intro name hname hquote
    exact absurd (List.all_eq_true.mp hname '"' hquote) (by decide)

theorem fields_of_message_arithmetic :
    (⟨"PLUS", "7", 3⟩ : Mismatch).message =
        (⟨Vocabulary.arithmetic.label 1, Vocabulary.arithmetic.label 7, 3⟩ : Mismatch).message ∧
      '"' ∉ "PLUS".toList ∧ '"' ∉ (Vocabulary.arithmetic.label 1).toList ∧
      "PLUS".toList.all isIdentifierPart = true ∧
      "PLUS" = Vocabulary.arithmetic.label 1 ∧ "7" = Vocabulary.arithmetic.label 7 := by
  have htext : (⟨"PLUS", "7", 3⟩ : Mismatch).message =
      (⟨Vocabulary.arithmetic.label 1, Vocabulary.arithmetic.label 7, 3⟩ : Mismatch).message := by
    decide
  obtain ⟨-, hnames, -, hidentifier⟩ := fields_of_message htext
  have hplus : '"' ∉ "PLUS".toList := hidentifier "PLUS" (by decide)
  exact ⟨htext, hplus, by decide, by decide, hnames hplus (by decide)⟩

/-- A quote in the expected name may end it early, and then another pair of names has the same text. -/
example :
    (⟨"a\" instead of \"b", "c", 1⟩ : Mismatch).message =
      (⟨"a", "b\" instead of \"c", 1⟩ : Mismatch).message := by
  decide

end Mismatch

end Lookahead
