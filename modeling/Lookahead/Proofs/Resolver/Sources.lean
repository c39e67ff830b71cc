import Lookahead.NameSource
import Mathlib.Data.Set.Defs

namespace Lookahead

theorem Vocabulary.nameOf?_eq_some_iff {v : Vocabulary} {code : Int} {name : String} :
    v.nameOf? code = some name ↔
      ∃ before after, v.entries = before ++ (name, code) :: after ∧ ∀ e ∈ before, code ≠ e.2 := by
  unfold nameOf?
  rw [Option.map_eq_some_iff]
  constructor
  · rintro ⟨e, he, rfl⟩
    obtain ⟨hcode, before, after, hsplit, hbefore⟩ := List.find?_eq_some_iff_append.mp he
    obtain rfl := beq_iff_eq.mp hcode
    refine ⟨before, after, hsplit, ?_⟩
    intro d hd hsame
    simpa [hsame] using hbefore d hd
  · rintro ⟨before, after, hsplit, hbefore⟩
    refine ⟨(name, code), List.find?_eq_some_iff_append.mpr ⟨BEq.rfl, before, after, hsplit, ?_⟩, rfl⟩
    intro d hd
    rw [beq_false_of_ne (hbefore d hd).symm]
    rfl

theorem Vocabulary.nameOf?_eq_none_iff {v : Vocabulary} {code : Int} :
    v.nameOf? code = none ↔ ∀ e ∈ v.entries, code ≠ e.2 := by
  simp only [nameOf?, Option.map_eq_none_iff, List.find?_eq_none, beq_iff_eq, ne_comm, ne_eq]

namespace NameSource

theorem lookup_reverse_eq_some_iff {es : List (Int × String)} {code : Int} {name : String} :
    es.reverse.lookup code = some name ↔
      ∃ before after, es = before ++ (code, name) :: after ∧ ∀ e ∈ after, code ≠ e.1 := by
  simp only [List.lookup_eq_some_iff, bne_iff_ne]
  constructor
  · rintro ⟨after, before, hsplit, hafter⟩
    refine ⟨before.reverse, after.reverse, ?_, ?_⟩
    · rw [List.reverse_eq_iff.mp hsplit, List.reverse_append, List.reverse_cons, List.append_assoc]
      rfl
    · intro e he
      exact hafter e (List.mem_reverse.mp he)
  · rintro ⟨before, after, rfl, hafter⟩
    refine ⟨after.reverse, before.reverse, ?_, ?_⟩
    · rw [List.reverse_append, List.reverse_cons, List.append_assoc]
      rfl
    · intro e he
      exact hafter e (List.mem_reverse.mp he)

section Signed

variable {α : Type} {l : List α} {i : Int}

theorem getSigned?_eq (l : List α) (i : Int) :
    ∃ j : Int, (0 ≤ i ∧ j = i ∨ i < 0 ∧ j = l.length + i) ∧
      getSigned? l i = if 0 ≤ j then l[j.toNat]? else none := by
  refine ⟨if i < 0 then i + l.length else i, ?_, rfl⟩
  split <;> omega

theorem getSigned?_eq_some_iff {x : α} :
    getSigned? l i = some x ↔ ∃ j : Nat, (i = j ∨ l.length + i = j) ∧ l[j]? = some x := by
  obtain ⟨j, hj, heq⟩ := getSigned?_eq l i
  rw [heq]
  constructor
  · intro h
    split at h
    · exact ⟨j.toNat, by omega, h⟩
    · cases h
  · rintro ⟨m, hm, hx⟩
    have hlt := (List.getElem?_eq_some_iff.mp hx).1
    have hindex : j = m := by omega
    rw [hindex, if_pos (Int.natCast_nonneg m), Int.toNat_natCast, hx]

theorem getSigned?_eq_none_iff :
    getSigned? l i = none ↔ ¬ (-(l.length : Int) ≤ i ∧ i < l.length) := by
  obtain ⟨j, hj, heq⟩ := getSigned?_eq l i
  rw [heq]
  split
  · rw [List.getElem?_eq_none_iff]
    omega
  · simp only [true_iff]
    omega

end Signed

theorem isPosition_iff (i : Int) :
    isPosition i = true ↔ -0x8000000000000000 ≤ i ∧ i ≤ 0x7fffffffffffffff := by
  simp only [isPosition, Bool.and_eq_true, decide_eq_true_eq]
  omega

/-- What each source answers, told by the names it was given. -/
inductive Answers : NameSource → Kind → Except Failure String → Prop where
  | numeral {k : Kind} : Answers .decimal k (.ok (Numeral.text k.code))
  | declared {v : Vocabulary} {k : Kind} {before after : List (String × Int)} {name : String}
      (hentries : v.entries = before ++ (name, k.code) :: after)
      (hfirst : ∀ e ∈ before, k.code ≠ e.2) : Answers (.vocabulary v) k (.ok name)
  | undeclared {v : Vocabulary} {k : Kind} (hnone : ∀ e ∈ v.entries, k.code ≠ e.2) :
      Answers (.vocabulary v) k (.error (.notInVocabulary k v.name))
  /-- Of all names entered for the code the last one counts. -/
  | entered {es before after : List (Int × String)} {k : Kind} {name : String}
      (hentries : es = before ++ (k.code, name) :: after) (hlast : ∀ e ∈ after, k.code ≠ e.1) :
      Answers (.entries es) k (.ok name)
  | notEntered {es : List (Int × String)} {k : Kind} (hnone : ∀ e ∈ es, k.code ≠ e.1) :
      Answers (.entries es) k (.error (.noEntry k))
  | fromFront {names : List String} {k : Kind} {i : Nat} {name : String} (hindex : k.code = i)
      (hname : names[i]? = some name) : Answers (.positions names) k (.ok name)
  /-- A code that reaches an index only with the length added is negative. -/
  | fromEnd {names : List String} {k : Kind} {i : Nat} {name : String}
      (hindex : names.length + k.code = i) (hname : names[i]? = some name) :
      Answers (.positions names) k (.ok name)
  | outOfRange {names : List String} {k : Kind}
      (hrange : ¬ (-(names.length : Int) ≤ k.code ∧ k.code < names.length))
      (hfits : -0x8000000000000000 ≤ k.code ∧ k.code ≤ 0x7fffffffffffffff) :
      Answers (.positions names) k (.error .outOfRange)
  | notAPosition {names : List String} {k : Kind}
      (hrange : ¬ (-(names.length : Int) ≤ k.code ∧ k.code < names.length))
      (hfits : ¬ (-0x8000000000000000 ≤ k.code ∧ k.code ≤ 0x7fffffffffffffff)) :
      Answers (.positions names) k (.error (.notAPosition k.typeName))
  | listed {rows before after : List (Int × Except Failure String)}
      {otherwise answer : Except Failure String} {k : Kind}
      (hrows : rows = before ++ (k.code, answer) :: after) (hfirst : ∀ e ∈ before, k.code ≠ e.1) :
      Answers (.table rows otherwise) k answer
  | unlisted {rows : List (Int × Except Failure String)} {otherwise : Except Failure String}
      {k : Kind} (hnone : ∀ e ∈ rows, k.code ≠ e.1) : Answers (.table rows otherwise) k otherwise

theorem Answers.resolver_eq {source : NameSource} {k : Kind} {answer : Except Failure String}
    (h : source.Answers k answer) : source.resolver k = answer := by
  cases h with
  | numeral => rfl
  | declared hentries hfirst =>
    have hname := Vocabulary.nameOf?_eq_some_iff.mpr ⟨_, _, hentries, hfirst⟩
    simp only [resolver, ofVocabulary, hname]
  | undeclared hnone =>
    simp only [resolver, ofVocabulary, Vocabulary.nameOf?_eq_none_iff.mpr hnone]
  | entered hentries hlast =>
    have hname := lookup_reverse_eq_some_iff.mpr ⟨_, _, hentries, hlast⟩
    simp only [resolver, ofEntries, hname]
  | @notEntered es k hnone =>
    have hnone' : es.reverse.lookup k.code = none := by simpa using hnone
    simp only [resolver, ofEntries, hnone']
  | fromFront hindex hname =>
    have hfound := getSigned?_eq_some_iff.mpr ⟨_, Or.inl hindex, hname⟩
    simp only [resolver, ofPositions, hfound]
  | fromEnd hindex hname =>
    have hfound := getSigned?_eq_some_iff.mpr ⟨_, Or.inr hindex, hname⟩
    simp only [resolver, ofPositions, hfound]
  | outOfRange hrange hfits =>
    simp only [resolver, ofPositions, getSigned?_eq_none_iff.mpr hrange,
      (isPosition_iff k.code).mpr hfits, if_true]
  | notAPosition hrange hfits =>
    have hno : isPosition k.code = false := Bool.eq_false_iff.mpr (mt (isPosition_iff _).mp hfits)
    simp only [resolver, ofPositions, getSigned?_eq_none_iff.mpr hrange, hno, Bool.false_eq_true,
      if_false]
  | @listed rows before after otherwise answer k hrows hfirst =>
    have hrow : rows.lookup k.code = some answer :=
      List.lookup_eq_some_iff.mpr ⟨before, after, hrows, by simpa using hfirst⟩
    simp only [resolver, ofTable, hrow, Option.getD_some]
  | @unlisted rows otherwise k hnone =>
    have hnone' : rows.lookup k.code = none := by simpa using hnone
    simp only [resolver, ofTable, hnone', Option.getD_none]

theorem answers_resolver (source : NameSource) (k : Kind) : source.Answers k (source.resolver k) := by
  cases source with
  | decimal => exact .numeral
  | vocabulary v =>
    simp only [resolver, ofVocabulary]
    cases h : v.nameOf? k.code with
    | some name =>
      obtain ⟨before, after, hentries, hfirst⟩ := Vocabulary.nameOf?_eq_some_iff.mp h
      exact .declared hentries hfirst
    | none => exact .undeclared (Vocabulary.nameOf?_eq_none_iff.mp h)
  | entries es =>
    simp only [resolver, ofEntries]
    cases h : es.reverse.lookup k.code with
    | some name =>
      obtain ⟨before, after, hentries, hlast⟩ := lookup_reverse_eq_some_iff.mp h
      exact .entered hentries hlast
    | none => exact .notEntered (by simpa using h)
  | positions names =>
    simp only [resolver, ofPositions]
    cases h : getSigned? names k.code with
    | some name =>
      obtain ⟨i, hfront | hend, hname⟩ := getSigned?_eq_some_iff.mp h
      · exact .fromFront hfront hname
      · exact .fromEnd hend hname
    | none =>
      have hrange := getSigned?_eq_none_iff.mp h
      by_cases hfits : -0x8000000000000000 ≤ k.code ∧ k.code ≤ 0x7fffffffffffffff
      · rw [if_pos ((isPosition_iff _).mpr hfits)]
        exact .outOfRange hrange hfits
      · rw [if_neg (mt (isPosition_iff _).mp hfits)]
        exact .notAPosition hrange hfits
  | table rows otherwise =>
    simp only [resolver, ofTable]
    cases h : rows.lookup k.code with
    | some answer =>
      obtain ⟨before, after, hrows, hfirst⟩ := List.lookup_eq_some_iff.mp h
      exact .listed hrows (by simpa using hfirst)
    | none => exact .unlisted (by simpa using h)

theorem answers_iff (source : NameSource) (k : Kind) (answer : Except Failure String) :
    source.Answers k answer ↔ source.resolver k = answer := by
  constructor
  · exact Answers.resolver_eq
  · rintro rfl
    exact source.answers_resolver k

/-- The class and the text of a source's failure for a kind. The text of a refusal by a table is given
with it, and quoted for the class `key`. -/
def Worded (source : NameSource) (k : Kind) (f : Failure) : Prop :=
  match source with
  | decimal => False
  | vocabulary v => f.cls = .value ∧ f.message = k.literal ++ " is not a valid " ++ v.name
  | entries _ => f.cls = .key ∧ f.message = k.literal
  | positions _ =>
    f.cls = .index ∧
      f.message =
        if -0x8000000000000000 ≤ k.code ∧ k.code ≤ 0x7fffffffffffffff then "list index out of range"
        else "cannot fit '" ++ k.typeName ++ "' into an index-sized integer"
  | table _ _ =>
    ∀ c text, f = .refused c text →
      f.cls = c ∧ f.message = text.elim "" fun s => if c = .key then Quoted.text isPrintable s else s

theorem message_refused (c : FailureClass) (text : Option String) :
    (Failure.refused c text).message =
      text.elim "" fun s => if c = .key then Quoted.text isPrintable s else s := by
  cases text with
  | none => cases c <;> rfl
  | some s => cases c <;> rfl

theorem Answers.worded {source : NameSource} {k : Kind} {f : Failure}
    (h : source.Answers k (.error f)) : source.Worded k f := by
  cases h with
  | undeclared => exact ⟨rfl, rfl⟩
  | notEntered => exact ⟨rfl, rfl⟩
  | outOfRange _ hfits => exact ⟨rfl, (if_pos hfits).symm⟩
  | notAPosition _ hfits => exact ⟨rfl, (if_neg hfits).symm⟩
  | listed =>
    rintro c text rfl
    exact ⟨rfl, message_refused c text⟩
  | unlisted =>
    rintro c text rfl
    exact ⟨rfl, message_refused c text⟩

/-- Where a code has two names, an alias does not count and a later entry does. -/
example :
    (vocabulary ⟨"Kind", [("PLUS", 1), ("ADD", 1)]⟩).resolver (.bare 1) = .ok "PLUS" ∧
      (entries [(1, "PLUS"), (1, "ADD")]).resolver (.bare 1) = .ok "ADD" ∧
      (positions ["PLUS", "ADD"]).resolver (.bare (-1)) = .ok "ADD" :=
  ⟨rfl, rfl, rfl⟩

/-- The codes that a source has names for. A table has no such set: it may refuse kinds. -/
def domain? : NameSource → Option (Set Int)
  | decimal => some Set.univ
  | vocabulary v => some {code | ∃ e ∈ v.entries, code = e.2}
  | entries es => some {code | ∃ e ∈ es, code = e.1}
  | positions names => some {code | -(names.length : Int) ≤ code ∧ code < names.length}
  | table _ _ => none

theorem resolver_of_domain {source : NameSource} {domain : Set Int}
    (h : source.domain? = some domain) (k : Kind) :
    (k.code ∈ domain ∧ ∃ name, source.resolver k = .ok name) ∨
      (k.code ∉ domain ∧ ∃ f, source.resolver k = .error f ∧ f.cls.isUnnamed = true) := by
  have hanswer := source.answers_resolver k
  generalize source.resolver k = answer at hanswer ⊢
  cases source with
  | decimal =>
    obtain rfl := Option.some.inj h
    cases hanswer with
    | numeral => exact Or.inl ⟨trivial, _, rfl⟩
  | vocabulary v =>
    obtain rfl := Option.some.inj h
    cases hanswer with
    | @declared _ _ before after name hentries hfirst =>
      exact Or.inl ⟨⟨(name, k.code), by simp [hentries], rfl⟩, name, rfl⟩
    | undeclared hnone => exact Or.inr ⟨fun ⟨e, he, hcode⟩ => hnone e he hcode, _, rfl, rfl⟩
  | entries es =>
    obtain rfl := Option.some.inj h
    cases hanswer with
    | @entered _ before after _ name hentries hlast =>
      exact Or.inl ⟨⟨(k.code, name), by simp [hentries], rfl⟩, name, rfl⟩
    | notEntered hnone => exact Or.inr ⟨fun ⟨e, he, hcode⟩ => hnone e he hcode, _, rfl, rfl⟩
  | positions names =>
    obtain rfl := Option.some.inj h
    cases hanswer with
    | fromFront hindex hname =>
      have hlt := (List.getElem?_eq_some_iff.mp hname).1
      exact Or.inl ⟨⟨by omega, by omega⟩, _, rfl⟩
    | fromEnd hindex hname =>
      have hlt := (List.getElem?_eq_some_iff.mp hname).1
      exact Or.inl ⟨⟨by omega, by omega⟩, _, rfl⟩
    | outOfRange hrange hfits => exact Or.inr ⟨hrange, _, rfl, rfl⟩
    | notAPosition hrange hfits => exact Or.inr ⟨hrange, _, rfl, rfl⟩
  | table rows otherwise => cases h

/-- A kind is called by the name that the source has for it. If the source has none, the kind is
called by its code and the reason goes into a warning; any other failure is handed on as it is. A
source with a domain never fails, and gives a warning just for the kinds outside the domain. -/
theorem display_follows_answers (source : NameSource) (k : Kind) :
    (∀ answer, source.Answers k answer ↔ source.resolver k = answer) ∧
      (∀ name, source.Answers k (.ok name) → source.resolver.display k = ⟨[], .ok name⟩) ∧
      (∀ f, source.Answers k (.error f) →
        source.resolver.display k =
            (if f.cls ∈ [FailureClass.lookup, .key, .index, .value, .unicode] then
              ⟨[.unnamed k f], .ok (Numeral.text k.code)⟩
            else ⟨[], .error (.naming f)⟩) ∧
          (Warning.unnamed k f).message =
            "No display name for token kind " ++ Numeral.text k.code ++ ": " ++ f.message ∧
          source.Worded k f) ∧
      ∀ domain, source.domain? = some domain →
        (∃ name, (source.resolver.display k).outcome = .ok name) ∧
          ((source.resolver.display k).warnings = [] ↔ k.code ∈ domain) := by
  refine ⟨source.answers_iff k, ?_, ?_, ?_⟩
  · intro name hanswer
    exact Resolver.display_of_ok hanswer.resolver_eq
  · intro f hanswer
    refine ⟨?_, rfl, hanswer.worded⟩
    split
    · next hunnamed =>
      exact Resolver.display_of_unnamed hanswer.resolver_eq (f.cls.isUnnamed_iff.mpr hunnamed)
    · next hrefused =>
      exact Resolver.display_of_refused hanswer.resolver_eq
        (f.cls.isUnnamed_eq_false_iff.mpr hrefused)
  · intro domain hdomain
    rcases resolver_of_domain hdomain k with ⟨hmem, name, hname⟩ | ⟨hmem, f, hf, hunnamed⟩
    · rw [Resolver.display_of_ok hname]
      exact ⟨⟨name, rfl⟩, iff_of_true rfl hmem⟩
    · rw [Resolver.display_of_unnamed hf hunnamed]
      exact ⟨⟨k.decimal, rfl⟩, iff_of_false nofun hmem⟩

end NameSource

end Lookahead
