import Std.Data.HashSet
import Lookahead.Kind
import Lookahead.Text.Quoted

namespace Lookahead

structure Token where
  value : String
  kind : Kind
  line : Int
deriving DecidableEq, Repr

namespace Token

/-- What tokens are compared and hashed by: a kind counts by its code. -/
structure Key where
  value : String
  code : Int
  line : Int
deriving DecidableEq, Hashable, Repr

def key (t : Token) : Key := ⟨t.value, t.kind.code, t.line⟩

def same (s t : Token) : Bool := s.key == t.key

def toBare (t : Token) : Token := { t with kind := t.kind.toBare }

def dump (t : Token) : String :=
  "[\n kind: " ++ t.kind.decimal ++ "\n value: " ++ t.value ++ "\n line: " ++ Numeral.text t.line ++ "\n]"

/-- The fields in one line, the value quoted. The test tells which characters the value shows. -/
def literalBy (shows : Char → Bool) (t : Token) : String :=
  "Token(value=" ++ Quoted.text shows t.value ++ ", kind=" ++ t.kind.literal ++
    ", line=" ++ Numeral.text t.line ++ ")"

def literal (t : Token) : String := t.literalBy isPrintable

/-- Reads a literal back. The value is read from the front, the line and the code from the end, where
the code of a member stands before a closing bracket. -/
def readLiteral? (s : String) : Option Key := do
  let s ← "Token(value=".toList.isPrefixOf? s.toList
  let (value, s) ← Quoted.decode? s
  let s ← ")".toList.isSuffixOf? s
  let (s, line) ← Numeral.readLast? s
  let s ← ", line=".toList.isSuffixOf? s
  let (_, code) ← Numeral.readLast? ((">".toList.isSuffixOf? s).getD s)
  some ⟨String.ofList value, code, line⟩

@[simp] theorem key_toBare (t : Token) : t.toBare.key = t.key := rfl

theorem same_iff (s t : Token) :
    s.same t = true ↔ s.value = t.value ∧ s.kind.code = t.kind.code ∧ s.line = t.line := by
  simp [same, key]

def firstEqual (ts : List Token) : List Nat :=
  ts.map fun t => ts.findIdx fun s => s.same t

def repeatsPrevious (ts : List Token) : List Bool :=
  List.zipWith same ts.tail ts

/-- The number of different tokens, as the size of the hash set of their keys. -/
def distinct (ts : List Token) : Nat := (Std.HashSet.ofList (ts.map key)).size

end Token

end Lookahead
