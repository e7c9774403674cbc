import Folio.Template.Position
import Folio.Text.Quoted
import Folio.Number.Numeral

/-!
Contract: tokens of templates and of the expressions in them.

Owns: the kinds of tokens with their names, tokens, and the text that shows one.
-/

namespace Folio.Template

open Folio.Text Folio.Number

/-- The first two kinds cut a template; the last one ends both templates and expressions. -/
inductive TokenKind where
  | text
  | expression
  | identifier
  | string
  | number
  | pipe
  | dot
  | comma
  | colon
  | leftParen
  | rightParen
  | leftBracket
  | rightBracket
  | leftBrace
  | rightBrace
  | finish
deriving DecidableEq, Repr

namespace TokenKind

def all : List TokenKind :=
  [.text, .expression, .identifier, .string, .number, .pipe, .dot, .comma, .colon, .leftParen,
    .rightParen, .leftBracket, .rightBracket, .leftBrace, .rightBrace, .finish]

def name : TokenKind → String
  | .text => "TEXT"
  | .expression => "EXPRESSION"
  | .identifier => "IDENTIFIER"
  | .string => "STRING"
  | .number => "NUMBER"
  | .pipe => "PIPE"
  | .dot => "DOT"
  | .comma => "COMMA"
  | .colon => "COLON"
  | .leftParen => "LPAREN"
  | .rightParen => "RPAREN"
  | .leftBracket => "LBRACKET"
  | .rightBracket => "RBRACKET"
  | .leftBrace => "LBRACE"
  | .rightBrace => "RBRACE"
  | .finish => "EOF"

def named? (name : String) : Option TokenKind :=
  all.find? fun kind => kind.name == name

end TokenKind

structure Token where
  kind : TokenKind
  value : String
  place : Position
deriving DecidableEq, Repr

def Token.shown (token : Token) : String :=
  "Token(" ++ token.kind.name ++ ", " ++ quoted token.value ++ ", " ++ wholeText token.place.line ++
    ":" ++ wholeText token.place.column ++ ")"

end Folio.Template
