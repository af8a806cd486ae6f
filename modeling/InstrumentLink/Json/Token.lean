import InstrumentLink.Bytes.Hex
import InstrumentLink.Json.Contents
import InstrumentLink.Json.Number

namespace InstrumentLink.Json

inductive Token
  | objectStart
  | objectEnd
  | arrayStart
  | arrayEnd
  | colon
  | comma
  | null
  | bool (b : Bool)
  | number (literal : String)
  | string (text : Text)
deriving DecidableEq, Repr

namespace Token

def isBlank (c : Char) : Bool := c = ' ' || c = '\n' || c = '\r' || c = '\t'

/-- The token that a single character is. -/
def ofMark? : Char → Option Token
  | '{' => some objectStart
  | '}' => some objectEnd
  | '[' => some arrayStart
  | ']' => some arrayEnd
  | ':' => some colon
  | ',' => some comma
  | _ => none

/-- Whether a character may stand in a name or a number literal. -/
def isWord (c : Char) : Bool := c.isAlphanum || c = '+' || c = '-' || c = '.'

/-- The token that a run of word characters is. -/
def ofWord? (word : List Char) : Option Token :=
  if word = "null".toList then some null
  else if word = "true".toList then some (bool true)
  else if word = "false".toList then some (bool false)
  else if isNumber word then some (number (String.ofList word))
  else none

end Token

inductive LexerMode
  | between
  /-- In a word; its characters, last one first. -/
  | word (chars : List Char)
  | string (contents : Contents)
  /-- After a backslash. -/
  | escape (contents : Contents)
  /-- In the digits of a `\u` escape: how many are missing, and the value of those read. -/
  | code (contents : Contents) (missing value : Nat)

structure Lexer where
  /-- The tokens read, last one first. -/
  tokens : List Token := []
  mode : LexerMode := .between

namespace Lexer

/-- The reader after a character that stands between tokens. -/
def start (tokens : List Token) (c : Char) : Option Lexer :=
  if Token.isBlank c then some ⟨tokens, .between⟩
  else if c = '"' then some ⟨tokens, .string {}⟩
  else if Token.isWord c then some ⟨tokens, .word [c]⟩
  else (Token.ofMark? c).map fun token => ⟨token :: tokens, .between⟩

/-- The reader after one more character; none if no JSON text goes on like this. -/
def step (lexer : Lexer) (c : Char) : Option Lexer :=
  match lexer.mode with
  | .between => start lexer.tokens c
  | .word chars =>
      if Token.isWord c then some ⟨lexer.tokens, .word (c :: chars)⟩
      else (Token.ofWord? chars.reverse).bind fun token => start (token :: lexer.tokens) c
  | .string contents =>
      if c = '"' then some ⟨.string contents.text :: lexer.tokens, .between⟩
      else if c = '\\' then some ⟨lexer.tokens, .escape contents⟩
      else if c.toNat < 0x20 then none
      else some ⟨lexer.tokens, .string (contents.push c)⟩
  | .escape contents =>
      if c = 'u' then some ⟨lexer.tokens, .code contents 4 0⟩
      else (escaped? c).map fun e => ⟨lexer.tokens, .string (contents.push e)⟩
  | .code contents missing value =>
      (Hex.value? c).map fun digit =>
        if missing ≤ 1 then ⟨lexer.tokens, .string (contents.pushCode (value * 16 + digit))⟩
        else ⟨lexer.tokens, .code contents (missing - 1) (value * 16 + digit)⟩

def finish (lexer : Lexer) : Option (List Token) :=
  match lexer.mode with
  | .between => some lexer.tokens.reverse
  | .word chars => (Token.ofWord? chars.reverse).map fun token => (token :: lexer.tokens).reverse
  | _ => none

end Lexer

def Token.ofText? (text : List Char) : Option (List Token) :=
  (text.foldlM Lexer.step {}).bind Lexer.finish

end InstrumentLink.Json
