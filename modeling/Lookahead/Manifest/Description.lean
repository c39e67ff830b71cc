import Lookahead.Text.Utf8

namespace Lookahead.Newline

/-- Ends every line with a line feed: a carriage return becomes one, together with a line feed that
follows it. -/
def normalize : List Char → List Char
  | [] => []
  | '\r' :: '\n' :: s => '\n' :: normalize s
  | '\r' :: s => '\n' :: normalize s
  | c :: s => c :: normalize s

end Lookahead.Newline

namespace Lookahead.Description

def fileName : String := "README.md"

inductive Fault where
  | missing
  | notUtf8
deriving DecidableEq, Repr

def Fault.message? : Fault → Option String
  | missing => some ("[Errno 2] No such file or directory: '" ++ fileName ++ "'")
  | notUtf8 => none

/-- The text of a file with its line ends normalized, from the bytes of the file if it exists. -/
def read : Option (List UInt8) → Except Fault String
  | none => .error .missing
  | some bytes =>
    match Utf8.decode? bytes with
    | none => .error .notUtf8
    | some s => .ok (String.ofList (Newline.normalize s))

end Lookahead.Description

namespace Lookahead.Readme

def lines : List String := [
  "# TokenStream",
  "",
  "Token and token stream primitives for hand-written recursive descent parsers.",
  "",
  "A lexer produces a list of `Token(value, kind, line)`, where `kind` is an",
  "integer (typically an `IntEnum` member, `0` is reserved for end of stream).",
  "A `TokenStream` is a cursor over that list:",
  "",
  "```python",
  "from enum import IntEnum",
  "",
  "from tokenstream import Token, TokenStream, TokenSyntaxError, names_from_enum",
  "",
  "",
  "class Kind(IntEnum):",
  "    BRACKET_BEGIN = 1",
  "    NAME = 2",
  "    BRACKET_END = 3",
  "",
  "",
  "tokens = [",
  "    Token(\"(\", Kind.BRACKET_BEGIN, 1),",
  "    Token(\"x\", Kind.NAME, 1),",
  "    Token(\")\", Kind.BRACKET_END, 1),",
  "]",
  "stream = TokenStream(tokens, token_name=names_from_enum(Kind))",
  "",
  "stream.match_next(Kind.BRACKET_BEGIN)  # \"(\"",
  "stream.is_next_sequence([Kind.NAME, Kind.BRACKET_END])  # True, does not move",
  "try:",
  "    stream.match_next(Kind.BRACKET_END)",
  "except TokenSyntaxError as err:",
  "    print(err)",
  "# Syntax error: expected token with name \"BRACKET_END\" instead of \"NAME\" at line 1.",
  "```",
  "",
  "Available operations are `peek_next`, `advance`, `match_next`, `skip_while`,",
  "`skip_while_any`, `is_next`, `is_next_any`, `is_next_sequence`, `get_all`,",
  "`has_pending` and `reset`.",
  ""]

def text : String := "\n".intercalate lines

def bytes : List UInt8 := text.toUTF8.toList

end Lookahead.Readme
