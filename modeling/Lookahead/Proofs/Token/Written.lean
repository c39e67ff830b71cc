import Lookahead.Proofs.Text.Quoted
import Lookahead.Token

namespace Lookahead.Token

theorem toList_dump (t : Token) :
    t.dump.toList = "[\n kind: ".toList ++ (Numeral.chars t.kind.code ++
      '\n' :: ((" value: ".toList ++ t.value.toList ++ "\n line:".toList) ++
        ' ' :: Numeral.chars t.line)) ++ "\n]".toList := by
  unfold dump Kind.decimal
  -- the literal stays opaque, since `simp` would spell it out again with every step
  generalize "[\n kind: " = lead
  simp

/-- Two tokens have the same dump if and only if they are equal. -/
theorem dump_eq_iff (s t : Token) :
    (s.dump = t.dump ↔ s.same t = true) ∧
      (s.same t = true ↔ s.value = t.value ∧ s.kind.code = t.kind.code ∧ s.line = t.line) := by
  refine ⟨?_, same_iff s t⟩
  rw [same_iff, ← String.toList_inj, toList_dump, toList_dump, List.append_cancel_right_eq,
    List.append_cancel_left_eq]
  constructor
  · intro h
    obtain ⟨hkind, hlater⟩ := Numeral.chars_append_inj (by decide) h
    obtain ⟨hvalue, hline⟩ := Numeral.append_chars_inj (by decide) hlater
    rw [List.append_cancel_right_eq, List.append_cancel_left_eq, String.toList_inj] at hvalue
    exact ⟨hvalue, hkind, hline⟩
  · rintro ⟨hvalue, hkind, hline⟩
    rw [hvalue, hkind, hline]

/-- A value may look like the end of a dump, and the line still stands at the end of the text. -/
example :
    (⟨"x\n line: 5\n]", .bare 2, 1⟩ : Token).dump =
      "[\n kind: 2\n value: x\n line: 5\n]\n line: 1\n]" := by
  decide

theorem toList_literalBy (shows : Char → Bool) (t : Token) :
    (t.literalBy shows).toList = "Token(value=".toList ++ (Quoted.encode shows t.value.toList ++
      (", kind".toList ++ '=' :: t.kind.literal.toList ++ ", line".toList ++
        '=' :: Numeral.chars t.line ++ ")".toList)) := by
  unfold literalBy
  generalize "Token(value=" = lead
  simp [Quoted.text]

theorem exists_readLast?_kind (s : List Char) (k : Kind) :
    ∃ front, Numeral.readLast? ((">".toList.isSuffixOf? (s ++ '=' :: k.literal.toList)).getD
      (s ++ '=' :: k.literal.toList)) = some (front, k.code) := by
  cases k with
  | bare code =>
    have hopen : ">".toList.isSuffixOf? (s ++ '=' :: Numeral.chars code) = none := by
      rw [Option.eq_none_iff_forall_ne_some]
      intro front hfront
      have hsuffix := List.isSuffixOf?_eq_some_iff_append_eq.mp hfront
      apply Numeral.append_chars_ne_concat (c := '>') (by decide) (s ++ ['=']) front code
      rw [List.append_assoc, List.singleton_append, ← hsuffix]
      rfl
    refine ⟨s ++ ['='], ?_⟩
    rw [Kind.literal, Numeral.toList_text, hopen, Option.getD_none]
    exact Numeral.readLast?_append_chars (by decide) s code
  | member m =>
    have hlayout : s ++ '=' :: (Kind.member m).literal.toList =
        (s ++ '=' :: ("<" ++ m.vocabulary ++ "." ++ m.name ++ ":").toList ++
          ' ' :: Numeral.chars m.code) ++ ">".toList := by
      simp [Kind.literal]
    refine ⟨s ++ '=' :: ("<" ++ m.vocabulary ++ "." ++ m.name ++ ":").toList ++ [' '], ?_⟩
    rw [hlayout, List.isSuffixOf?_eq_some_iff_append_eq.mpr rfl, Option.getD_some]
    exact Numeral.readLast?_append_chars (by decide) _ m.code

/-- The value is taken off the front of a literal, the line and the code off its end. -/
theorem readLiteral?_literalBy (shows : Char → Bool) (t : Token) :
    readLiteral? (t.literalBy shows) = some t.key := by
  have hopen (s : List Char) :
      "Token(value=".toList.isPrefixOf? ("Token(value=".toList ++ s) = some s :=
    List.isPrefixOf?_eq_some_iff_append_eq.mpr rfl
  have hclose (s : List Char) : ")".toList.isSuffixOf? (s ++ ")".toList) = some s :=
    List.isSuffixOf?_eq_some_iff_append_eq.mpr rfl
  have hline := Numeral.readLast?_append_chars (c := '=') (by decide)
    (", kind".toList ++ '=' :: t.kind.literal.toList ++ ", line".toList) t.line
  have hlabel : ", line=".toList.isSuffixOf?
      (", kind".toList ++ '=' :: t.kind.literal.toList ++ ", line".toList ++ ['=']) =
        some (", kind".toList ++ '=' :: t.kind.literal.toList) := by
    rw [List.isSuffixOf?_eq_some_iff_append_eq, List.append_assoc _ ", line".toList]
    rfl
  obtain ⟨front, hcode⟩ := exists_readLast?_kind ", kind".toList t.kind
  simp only [readLiteral?, toList_literalBy, Option.bind_eq_bind, hopen, Quoted.decode?_encode,
    hclose, hline, hlabel, hcode, Option.bind_some, String.ofList_toList]
  rfl

theorem literalBy_eq_quoted (shows : Char → Bool) (t : Token) :
    ∃ m body, Quoted.IsMark m ∧ Quoted.IsBody m body ∧
      (t.literalBy shows).toList = "Token(value=".toList ++ m :: (body ++ m ::
        (", kind=" ++ t.kind.literal ++ ", line=" ++ Numeral.text t.line ++ ")").toList) ∧
      ∀ later, Quoted.decodeBody? m (body ++ m :: later) = some (t.value.toList, later) := by
  have hm : Quoted.IsMark (Quoted.mark t.value.toList) := Quoted.isMark_mark t.value.toList
  refine ⟨_, _, hm, Quoted.isBody_flatMap_escape shows hm t.value.toList, ?_,
    Quoted.decodeBody?_flatMap_escape shows hm t.value.toList⟩
  unfold literalBy
  generalize "Token(value=" = lead
  simp [Quoted.text, Quoted.encode]

/-- A literal gives back the value, the code and the line of its token, whatever characters the value
shows. Of the marks after the opening one, the first that does not stand right after an odd run of
backslashes ends the value, and undoing the escapes before it gives the value. -/
theorem literal_reads_back (t : Token) :
    (∀ shows : Char → Bool,
      readLiteral? (t.literalBy shows) = some t.key ∧
      ∃ m body rest, Quoted.IsMark m ∧
        (t.literalBy shows).toList = "Token(value=".toList ++ m :: (body ++ m :: rest) ∧
        rest = (", kind=" ++ t.kind.literal ++ ", line=" ++ Numeral.text t.line ++ ")").toList ∧
        (∀ b r, body ++ m :: rest = b ++ m :: r → (Quoted.IsBody m b ↔ b = body)) ∧
        ∀ later, Quoted.decodeBody? m (body ++ m :: later) = some (t.value.toList, later)) ∧
      readLiteral? t.literal = some t.key ∧
      ∀ s : Token, s.literal = t.literal → s.same t = true := by
  refine ⟨?_, readLiteral?_literalBy isPrintable t, ?_⟩
  · intro shows
    refine ⟨readLiteral?_literalBy shows t, ?_⟩
    obtain ⟨m, body, hm, hbody, hlayout, hread⟩ := t.literalBy_eq_quoted shows
    refine ⟨m, body, _, hm, hlayout, rfl, ?_, hread⟩
    intro b r h
    constructor
    · intro hb
      exact (hbody.append_inj hb h).1.symm
    · rintro rfl
      exact hbody
  · intro s h
    have hkey : some s.key = some t.key := by
      rw [← readLiteral?_literalBy isPrintable s, ← literal, h, literal,
        readLiteral?_literalBy isPrintable t]
    exact beq_iff_eq.mpr (Option.some.inj hkey)

end Lookahead.Token
