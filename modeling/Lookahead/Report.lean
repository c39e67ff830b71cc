import Lookahead.Failure

namespace Lookahead

inductive Warning where
  | reservedKind
  | unnamed (kind : Kind) (reason : Failure)
deriving DecidableEq, Repr

def Warning.message : Warning → String
  | reservedKind =>
    "Token stream contains tokens of kind " ++ Numeral.text endOfStream ++
      ", which can not be told apart from end of stream in lookahead."
  | unnamed k f => "No display name for token kind " ++ k.decimal ++ ": " ++ f.message

structure Mismatch where
  expected : String
  actual : String
  line : Int
deriving DecidableEq, Repr

def Mismatch.message (m : Mismatch) : String :=
  "Syntax error: expected token with name \"" ++ m.expected ++ "\" instead of \"" ++ m.actual ++
    "\" at line " ++ Numeral.text m.line ++ "."

/-- Why a call has no result: the tokens are not as expected, or a kind could not be named. -/
inductive CallError where
  | mismatch (m : Mismatch)
  | naming (f : Failure)
deriving DecidableEq, Repr

def CallError.message : CallError → String
  | mismatch m => m.message
  | naming f => f.message

structure Report (α : Type) where
  warnings : List Warning
  outcome : Except CallError α

namespace Report

def warn (w : Warning) : Report Unit := ⟨[w], .ok ()⟩

def fail {α : Type} (e : CallError) : Report α := ⟨[], .error e⟩

instance : Monad Report where
  pure a := ⟨[], .ok a⟩
  bind r f :=
    match r.outcome with
    | .error e => ⟨r.warnings, .error e⟩
    | .ok a =>
      let s := f a
      ⟨r.warnings ++ s.warnings, s.outcome⟩

variable {α β : Type}

@[simp] theorem warnings_pure (a : α) : (pure a : Report α).warnings = [] := rfl

@[simp] theorem outcome_pure (a : α) : (pure a : Report α).outcome = .ok a := rfl

theorem bind_of_ok {r : Report α} {a : α} (h : r.outcome = .ok a) (f : α → Report β) :
    r >>= f = ⟨r.warnings ++ (f a).warnings, (f a).outcome⟩ := by
  simp only [bind, h]

theorem bind_of_error {r : Report α} {e : CallError} (h : r.outcome = .error e) (f : α → Report β) :
    r >>= f = ⟨r.warnings, .error e⟩ := by
  simp only [bind, h]

theorem bind_fails {r : Report α} {f : α → Report β} {a : α} {ws vs : List Warning} {e : CallError}
    (hr : r = ⟨ws, .ok a⟩) (hf : f a = ⟨vs, .error e⟩) : r >>= f = ⟨ws ++ vs, .error e⟩ := by
  subst hr
  rw [bind_of_ok rfl, hf]

@[simp] theorem isOk_map (f : α → β) (r : Report α) : (f <$> r).outcome.isOk = r.outcome.isOk := by
  obtain ⟨ws, o⟩ := r
  cases o <;> rfl

theorem exists_error_bind (r : Report α) {f : α → Report β} (h : ∀ a, ∃ e, (f a).outcome = .error e) :
    ∃ e, (r >>= f).outcome = .error e := by
  cases hr : r.outcome with
  | error e => exact ⟨e, by rw [bind_of_error hr]⟩
  | ok a =>
    obtain ⟨e, he⟩ := h a
    exact ⟨e, by rw [bind_of_ok hr, he]⟩

instance : LawfulMonad Report := LawfulMonad.mk' Report
  (fun ⟨ws, o⟩ => by cases o <;> simp [Functor.map])
  (fun a f => by simp [bind, pure])
  (fun ⟨ws, o⟩ f g => by
    cases o with
    | error e => rfl
    | ok a => cases h : (f a).outcome <;> simp [bind, h])

end Report

end Lookahead
