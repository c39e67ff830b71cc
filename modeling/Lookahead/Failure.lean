import Lookahead.Kind
import Lookahead.Text.Quoted

namespace Lookahead

inductive FailureClass where
  | lookup
  | key
  | index
  | value
  | unicode
  | type
  | runtime
  | attribute
  | zeroDivision
  | arithmetic
  | notImplemented
  | assertion
  | general
  | name
deriving DecidableEq, Repr

namespace FailureClass

/-- The classes that a class is a special case of, nearest first. -/
def above : FailureClass → List FailureClass
  | key | index => [lookup, general]
  | unicode => [value, general]
  | zeroDivision => [arithmetic, general]
  | notImplemented => [runtime, general]
  | general => []
  | _ => [general]

def isA (c d : FailureClass) : Bool := c == d || c.above.contains d

/-- Whether a failure of this class says no more than that the kind has no name. -/
def isUnnamed (c : FailureClass) : Bool := c.isA lookup || c.isA value

theorem isUnnamed_iff (c : FailureClass) :
    c.isUnnamed = true ↔ c ∈ [lookup, key, index, value, unicode] := by
  cases c <;> decide

theorem isUnnamed_eq_false_iff (c : FailureClass) :
    c.isUnnamed = false ↔ c ∉ [lookup, key, index, value, unicode] := by
  rw [← isUnnamed_iff, Bool.not_eq_true]

end FailureClass

/-- Why a source gives no name for a kind. -/
inductive Failure where
  | notInVocabulary (kind : Kind) (vocabulary : String)
  | noEntry (kind : Kind)
  | outOfRange
  /-- The kind is too large to be a position in any list. -/
  | notAPosition (typeName : String)
  | refused (cls : FailureClass) (text : Option String)
deriving DecidableEq, Repr

namespace Failure

def cls : Failure → FailureClass
  | notInVocabulary _ _ => .value
  | noEntry _ => .key
  | outOfRange => .index
  | notAPosition _ => .index
  | refused c _ => c

/-- The text of a failure. A failure of class `key` shows its key as a literal. -/
def message : Failure → String
  | notInVocabulary k v => k.literal ++ " is not a valid " ++ v
  | noEntry k => k.literal
  | outOfRange => "list index out of range"
  | notAPosition t => "cannot fit '" ++ t ++ "' into an index-sized integer"
  | refused .key (some s) => Quoted.text isPrintable s
  | refused _ (some s) => s
  | refused _ none => ""

end Failure

end Lookahead
