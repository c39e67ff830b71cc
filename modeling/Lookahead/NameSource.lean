import Lookahead.Report

namespace Lookahead

/-- Gives the display name of a kind, or says why there is none. -/
abbrev Resolver := Kind → Except Failure String

inductive NameSource where
  | decimal
  | vocabulary (v : Vocabulary)
  /-- Names by code; of several entries for a code the last one counts. -/
  | entries (es : List (Int × String))
  /-- Names by position, from the front for codes 0, 1, … and from the end for -1, -2, … -/
  | positions (names : List String)
  | table (rows : List (Int × Except Failure String)) (otherwise : Except Failure String)

namespace NameSource

instance : Inhabited NameSource := ⟨decimal⟩

def ofVocabulary (v : Vocabulary) : Resolver := fun k =>
  match v.nameOf? k.code with
  | some s => .ok s
  | none => .error (.notInVocabulary k v.name)

def ofEntries (es : List (Int × String)) : Resolver := fun k =>
  match es.reverse.lookup k.code with
  | some s => .ok s
  | none => .error (.noEntry k)

/-- Positions are signed integers of 64 bits. -/
def isPosition (i : Int) : Bool := -0x8000000000000000 ≤ i && i < 0x8000000000000000

/-- The element at a position that counts from the end if it is negative. -/
def getSigned? {α : Type} (l : List α) (i : Int) : Option α :=
  let j := if i < 0 then i + l.length else i
  if 0 ≤ j then l[j.toNat]? else none

def ofPositions (names : List String) : Resolver := fun k =>
  match getSigned? names k.code with
  | some s => .ok s
  | none => .error (if isPosition k.code then .outOfRange else .notAPosition k.typeName)

def ofTable (rows : List (Int × Except Failure String)) (otherwise : Except Failure String) : Resolver :=
  fun k => (rows.lookup k.code).getD otherwise

def resolver : NameSource → Resolver
  | decimal => fun k => .ok k.decimal
  | vocabulary v => ofVocabulary v
  | entries es => ofEntries es
  | positions names => ofPositions names
  | table rows otherwise => ofTable rows otherwise

end NameSource

namespace Resolver

/-- The name of a kind in diagnostics. A kind without a name is called by its code, with a warning;
any other failure of the resolver ends the call. -/
def display (r : Resolver) (k : Kind) : Report String :=
  match r k with
  | .ok name => pure name
  | .error f =>
    if f.cls.isUnnamed then do
      Report.warn (.unnamed k f)
      pure k.decimal
    else Report.fail (.naming f)

section

variable {r : Resolver} {k : Kind} {f : Failure}

theorem display_of_ok {name : String} (h : r k = .ok name) : r.display k = ⟨[], .ok name⟩ := by
  unfold display
  rw [h]
  rfl

theorem display_of_unnamed (h : r k = .error f) (hf : f.cls.isUnnamed = true) :
    r.display k = ⟨[.unnamed k f], .ok k.decimal⟩ := by
  unfold display
  simp only [h, hf, if_true]
  rfl

theorem display_of_refused (h : r k = .error f) (hf : f.cls.isUnnamed = false) :
    r.display k = ⟨[], .error (.naming f)⟩ := by
  unfold display
  simp only [h, hf]
  rfl

end

def ask (r : Resolver) (k : Kind) : Report String :=
  match r k with
  | .ok name => pure name
  | .error f => Report.fail (.naming f)

end Resolver

end Lookahead
