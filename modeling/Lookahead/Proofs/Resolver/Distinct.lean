import Lookahead.Proofs.Resolver.Sources
import Lookahead.Proofs.Text.Splitting
import Mathlib.Data.List.Nodup

namespace Lookahead

/-- A vocabulary that declares no name twice, and none that is a numeral. -/
structure Vocabulary.IsDistinct (v : Vocabulary) : Prop where
  names_nodup : (v.entries.map fun e => e.1).Nodup
  not_numeral : ∀ e ∈ v.entries, ∀ code : Int, e.1 ≠ Numeral.text code

namespace Vocabulary

def label (v : Vocabulary) (code : Int) : String := (v.nameOf? code).getD (Numeral.text code)

variable {v : Vocabulary} {code : Int} {name : String}

theorem mem_entries_of_nameOf? (h : v.nameOf? code = some name) : (name, code) ∈ v.entries := by
  obtain ⟨before, after, hentries, -⟩ := nameOf?_eq_some_iff.mp h
  rw [hentries]
  exact List.mem_append_right before List.mem_cons_self

theorem IsDistinct.ne_text (hv : v.IsDistinct) (h : v.nameOf? code = some name) (k : Int) :
    name ≠ Numeral.text k :=
  hv.not_numeral (name, code) (mem_entries_of_nameOf? h) k

/-- Aliases give a code several names, but no name has two codes. -/
theorem IsDistinct.eq_of_nameOf? (hv : v.IsDistinct) {j k : Int} (hj : v.nameOf? j = some name)
    (hk : v.nameOf? k = some name) : j = k := by
  have hentry : (name, j) = (name, k) := List.inj_on_of_nodup_map hv.names_nodup
    (mem_entries_of_nameOf? hj) (mem_entries_of_nameOf? hk) rfl
  exact (Prod.mk.inj hentry).2

theorem IsDistinct.label_injective (hv : v.IsDistinct) : Function.Injective v.label := by
  intro j k h
  unfold label at h
  -- a name can meet a name or a numeral, and only equals meet
  cases hj : v.nameOf? j with
  | some name =>
    rw [hj, Option.getD_some] at h
    cases hk : v.nameOf? k with
    | some other =>
      rw [hk, Option.getD_some] at h
      exact hv.eq_of_nameOf? hj (h ▸ hk)
    | none =>
      rw [hk, Option.getD_none] at h
      exact absurd h (hv.ne_text hj k)
  | none =>
    rw [hj, Option.getD_none] at h
    cases hk : v.nameOf? k with
    | some other =>
      rw [hk, Option.getD_some] at h
      exact absurd h.symm (hv.ne_text hk j)
    | none =>
      rw [hk, Option.getD_none] at h
      exact Numeral.text_injective h

/-- A name that is a numeral may stand for two codes. -/
example : (⟨"Kind", [("2", 1)]⟩ : Vocabulary).label 1 = "2" ∧
    (⟨"Kind", [("2", 1)]⟩ : Vocabulary).label 2 = "2" := by
  decide

def arithmetic : Vocabulary := ⟨"Kind", [("PLUS", 1), ("ADD", 1), ("STAR", 2)]⟩

theorem isDistinct_arithmetic : arithmetic.IsDistinct := by
  have hunread : ∀ e ∈ arithmetic.entries, Numeral.read? e.1.toList = none := by decide
  refine ⟨by decide, ?_⟩
  intro e he
  exact Numeral.ne_text_of_read?_eq_none (hunread e he)

end Vocabulary

namespace NameSource

theorem display_vocabulary (v : Vocabulary) (k : Kind) :
    ((vocabulary v).resolver.display k).outcome = .ok (v.label k.code) := by
  unfold Vocabulary.label
  cases h : v.nameOf? k.code with
  | some name =>
    have hname : (vocabulary v).resolver k = .ok name := by simp only [resolver, ofVocabulary, h]
    rw [Resolver.display_of_ok hname, Option.getD_some]
  | none =>
    have hnone : (vocabulary v).resolver k = .error (.notInVocabulary k v.name) := by
      simp only [resolver, ofVocabulary, h]
    rw [Resolver.display_of_unnamed hnone rfl, Option.getD_none]
    rfl

/-- The sources that call kinds by their codes, or by the names of such a vocabulary. -/
inductive IsDistinct : NameSource → Prop where
  | decimal : IsDistinct .decimal
  | vocabulary {v : Vocabulary} (h : v.IsDistinct) : IsDistinct (.vocabulary v)

theorem IsDistinct.exists_label {source : NameSource} (h : source.IsDistinct) :
    ∃ label : Int → String, Function.Injective label ∧
      ∀ k, (source.resolver.display k).outcome = .ok (label k.code) := by
  cases h with
  | decimal => exact ⟨Numeral.text, Numeral.text_injective, fun _ => rfl⟩
  | @vocabulary v hv => exact ⟨v.label, hv.label_injective, display_vocabulary v⟩

end NameSource

end Lookahead
