import Lookahead.Text.Numeral

namespace Lookahead

structure Member where
  vocabulary : String
  name : String
  code : Int
deriving DecidableEq, Repr

/-- The category of a token. A member of a vocabulary stands for its code wherever kinds are
compared; the two forms differ only in how diagnostics write them. -/
inductive Kind where
  | bare (code : Int)
  | member (m : Member)
deriving DecidableEq, Repr

/-- The kind that lookahead reports where there is no token. -/
def endOfStream : Int := 0

namespace Kind

def code : Kind → Int
  | bare k => k
  | member m => m.code

def toBare (k : Kind) : Kind := bare k.code

def literal : Kind → String
  | bare k => Numeral.text k
  | member m => "<" ++ m.vocabulary ++ "." ++ m.name ++ ": " ++ Numeral.text m.code ++ ">"

/-- The type that a kind belongs to, as diagnostics call it. -/
def typeName : Kind → String
  | bare _ => "int"
  | member m => m.vocabulary

def decimal (k : Kind) : String := Numeral.text k.code

@[simp] theorem code_bare (k : Int) : (bare k).code = k := rfl

@[simp] theorem code_toBare (k : Kind) : k.toBare.code = k.code := rfl

end Kind

/-- Names for kinds in the order of their declaration. A code may have several names; the first one
declared is the name of the member, and the others are aliases of it. -/
structure Vocabulary where
  name : String
  entries : List (String × Int)
deriving DecidableEq, Repr

namespace Vocabulary

def nameOf? (v : Vocabulary) (code : Int) : Option String :=
  (v.entries.find? fun e => e.2 == code).map fun e => e.1

/-- The member that a name or an alias stands for. -/
def member? (v : Vocabulary) (name : String) : Option Member := do
  let code ← v.entries.lookup name
  let first ← v.nameOf? code
  some ⟨v.name, first, code⟩

end Vocabulary

end Lookahead
