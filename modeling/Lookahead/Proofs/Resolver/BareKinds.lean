import Lookahead.NameSource
import Mathlib.Data.List.Forall2

namespace Lookahead

namespace Warning

def lead (code : Int) : String := "No display name for token kind " ++ Numeral.text code ++ ": "

def SameLead (v w : Warning) : Prop :=
  ∃ code s t, v.message = lead code ++ s ∧ w.message = lead code ++ t

def SameText (v w : Warning) : Prop := v.message = w.message

theorem sameLead_unnamed (k : Kind) (f g : Failure) :
    SameLead (.unnamed k f) (.unnamed k.toBare g) :=
  ⟨k.code, f.message, g.message, rfl, rfl⟩

end Warning

/-- Reports that end alike, a result turned by `p`, and whose warnings are related one by one. -/
structure Report.Matches {α β : Type} (W : Warning → Warning → Prop) (p : α → β) (r : Report α)
    (s : Report β) : Prop where
  outcome : s.outcome = r.outcome.map p
  warnings : List.Forall₂ W r.warnings s.warnings

namespace Report.Matches

variable {α β γ δ : Type} {W : Warning → Warning → Prop} {p : α → β}

theorem pure (a : α) : Matches W p (Pure.pure a) (Pure.pure (p a)) := ⟨rfl, .nil⟩

theorem fail (e : CallError) : Matches W p (Report.fail e) (Report.fail e) := ⟨rfl, .nil⟩

theorem bind {r : Report α} {s : Report β} (h : Matches W p r s) {q : γ → δ} {f : α → Report γ}
    {g : β → Report δ} (hfg : ∀ a, Matches W q (f a) (g (p a))) :
    Matches W q (r >>= f) (s >>= g) := by
  have hend := h.outcome
  cases hr : r.outcome with
  | error e =>
    rw [hr] at hend
    rw [bind_of_error hr, bind_of_error hend]
    exact ⟨rfl, h.warnings⟩
  | ok a =>
    rw [hr] at hend
    rw [bind_of_ok hr, bind_of_ok hend]
    exact ⟨(hfg a).outcome, List.rel_append h.warnings (hfg a).warnings⟩

theorem map {r : Report α} {s : Report β} (h : Matches W p r s) {q : γ → δ} {f : α → γ} {g : β → δ}
    (hfg : ∀ a, g (p a) = q (f a)) : Matches W q (f <$> r) (g <$> s) := by
  rw [map_eq_pure_bind, map_eq_pure_bind]
  apply h.bind
  intro a
  rw [hfg]
  exact .pure (f a)

end Report.Matches

namespace Resolver

/-- The resolver's answers for a kind and for its code are the same, or both say no more than that
the kind is unnamed. -/
def Agrees (r : Resolver) (k : Kind) : Prop :=
  r k.toBare = r k ∨
    ∃ f g, r k = .error f ∧ r k.toBare = .error g ∧ f.cls.isUnnamed = true ∧ g.cls.isUnnamed = true

theorem agrees_of_code {r : Resolver} {k : Kind} (name? : Option String) (reason : Kind → Failure)
    (hreason : ∀ j, (reason j).cls.isUnnamed = true)
    (hr : ∀ j : Kind, j.code = k.code → r j = name?.elim (.error (reason j)) .ok) : r.Agrees k := by
  have hk := hr k rfl
  have hbare := hr k.toBare rfl
  cases name? with
  | some name => exact Or.inl (hbare.trans hk.symm)
  | none => exact Or.inr ⟨_, _, hk, hbare, hreason k, hreason k.toBare⟩

theorem matches_display {W : Warning → Warning → Prop} {r : Resolver} {k : Kind} (h : r.Agrees k)
    (hW : ∀ f g, r k = .error f → r k.toBare = .error g → W (.unnamed k f) (.unnamed k.toBare g)) :
    Report.Matches W id (r.display k) (r.display k.toBare) := by
  rcases h with hsame | ⟨f, g, hf, hg, hfu, hgu⟩
  · cases hk : r k with
    | ok name =>
      rw [display_of_ok hk, display_of_ok (hsame.trans hk)]
      exact ⟨rfl, .nil⟩
    | error f =>
      cases hf : f.cls.isUnnamed with
      | true =>
        rw [display_of_unnamed hk hf, display_of_unnamed (hsame.trans hk) hf]
        exact ⟨rfl, .cons (hW f f hk (hsame.trans hk)) .nil⟩
      | false =>
        rw [display_of_refused hk hf, display_of_refused (hsame.trans hk) hf]
        exact ⟨rfl, .nil⟩
  · rw [display_of_unnamed hf hfu, display_of_unnamed hg hgu]
    exact ⟨rfl, .cons (hW f g hf hg) .nil⟩

theorem matches_display_of_eq {r : Resolver} {k : Kind} (h : r k.toBare = r k) :
    Report.Matches Warning.SameText id (r.display k) (r.display k.toBare) := by
  apply matches_display (Or.inl h)
  intro f g hf hg
  obtain rfl := Except.error.inj (hf.symm.trans (h.symm.trans hg))
  rfl

end Resolver

namespace NameSource

theorem agrees_resolver (source : NameSource) (k : Kind) : source.resolver.Agrees k := by
  cases source with
  | decimal => exact Or.inl rfl
  | table rows otherwise => exact Or.inl rfl
  | vocabulary v =>
    apply Resolver.agrees_of_code (v.nameOf? k.code) (fun j => .notInVocabulary j v.name)
      fun _ => rfl
    intro j hj
    simp only [resolver, ofVocabulary, hj]
    cases v.nameOf? k.code <;> rfl
  | entries es =>
    apply Resolver.agrees_of_code (es.reverse.lookup k.code) .noEntry fun _ => rfl
    intro j hj
    simp only [resolver, ofEntries, hj]
    cases es.reverse.lookup k.code <;> rfl
  | positions names =>
    apply Resolver.agrees_of_code (getSigned? names k.code)
      fun j => if isPosition j.code then .outOfRange else .notAPosition j.typeName
    · intro j
      split <;> rfl
    · intro j hj
      simp only [resolver, ofPositions, hj]
      cases getSigned? names k.code <;> rfl

theorem matches_display_resolver (source : NameSource) (k : Kind) :
    Report.Matches Warning.SameLead id (source.resolver.display k)
      (source.resolver.display k.toBare) :=
  Resolver.matches_display (source.agrees_resolver k) fun f g _ _ => Warning.sameLead_unnamed k f g

/-- The reasons do differ where a source words them by the kind. -/
example :
    ((ofEntries []).display (.member ⟨"Kind", "NAME", 2⟩)).warnings.map Warning.message =
        ["No display name for token kind 2: <Kind.NAME: 2>"] ∧
      ((ofEntries []).display (.bare 2)).warnings.map Warning.message =
        ["No display name for token kind 2: 2"] := by
  decide

end NameSource

end Lookahead
