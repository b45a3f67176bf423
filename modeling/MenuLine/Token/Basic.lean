import MenuLine.Text.Basic

/-!
# Tokens

A line of user input and the description of a command are read by the same
scanner. In a description `$` starts a placeholder; in user input it is an
ordinary character.
-/

namespace MenuLine

inductive Mode where
  | description
  | input
deriving DecidableEq, Repr

/-- A line feed or a carriage return. -/
def isLineEnd (c : Char) : Bool := c == '\n' || c == '\r'

/-- A space or a tab. -/
def isBlank (c : Char) : Bool := c == ' ' || c == '\t'

def isQuote (c : Char) : Bool := c == '"' || c == '\'' || c == '\x60'

def isWordChar (mode : Mode) (c : Char) : Bool :=
  !(isBlank c || isLineEnd c || c == ';' || c == '|' || c == '>') &&
    (c != '$' || mode == .input)

inductive TokenKind where
  | word
  /-- A quoted text, its delimiters included. -/
  | quoted
  /-- A semicolon or the end of a line. -/
  | separator
  /-- A backslash at the end of a line; the token has no text. -/
  | continuation
  /-- The digits or the star after `$`. -/
  | placeholder
  /-- The name after the colon of a placeholder. -/
  | completionType
  | pipe
  | redirect
  | filename
deriving DecidableEq, Repr

namespace TokenKind

/-- The name of a kind in messages. -/
def name : TokenKind → Text
  | word => "word".toList
  | quoted => "quoted string".toList
  | separator => "separator".toList
  | continuation => "line continuation".toList
  | placeholder => "placeholder".toList
  | completionType => "completion type".toList
  | pipe => "pipe".toList
  | redirect => "redirect".toList
  | filename => "filename".toList

end TokenKind

structure Token where
  kind : TokenKind
  text : Text
deriving DecidableEq, Repr

/-- Why a line cannot be divided into tokens. -/
inductive ScanError where
  | unterminatedString
  | invalidPlaceholderChar (c : Char)
  | unterminatedPlaceholder
  | unexpectedFilterChar (c : Char)
  | unexpectedFilenameChar (c : Char)
deriving DecidableEq, Repr

namespace ScanError

def message : ScanError → Text
  | unterminatedString => "unterminated quoted string".toList
  | invalidPlaceholderChar c => "invalid placeholder character '".toList ++ [c, '\'']
  | unterminatedPlaceholder => "unterminated placeholder".toList
  | unexpectedFilterChar c => "unexpected filter character '".toList ++ [c, '\'']
  | unexpectedFilenameChar c => "unexpected filename character '".toList ++ [c, '\'']

end ScanError

namespace Token

/-- How a token is written in a line; a continuation takes the shortest of
its forms. -/
def source (t : Token) : Text :=
  match t.kind with
  | .placeholder => '$' :: t.text
  | .completionType => ':' :: t.text
  | .continuation => ['\\', '\n']
  | _ => t.text

end Token

end MenuLine
