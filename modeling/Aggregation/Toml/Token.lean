import Aggregation.Text.Numeral

namespace Aggregation.Toml

/-! The tokens of a TOML text.

A word is a maximal run of the characters that bare keys, numbers, dates and dots
are made of; what it means is left to where it stands.  Blanks are tokens, since
a date and a time may have one space between them, and comments are none.
-/

open Aggregation.Text

inductive Token where
  | newLine
  /-- Spaces and tabs; `single` says that it is just one space. -/
  | blank (single : Bool)
  | openBracket
  | closeBracket
  | openBrace
  | closeBrace
  | equals
  | comma
  /-- A text in quotes; `block` says that it may go over several lines. -/
  | quoted (text : String) (block : Bool)
  | word (letters : List Char)
deriving DecidableEq, Repr

/-- The two marks that a text may stand between.  Between double quotes a backslash
escapes what follows it. -/
inductive Quote where
  | double
  | single
deriving DecidableEq, Repr

def Quote.mark : Quote → Char
  | double => '"'
  | single => '\''

/-- What is under way; the characters of a text are kept in reverse. -/
inductive Mode where
  | between
  | comment
  | blank (single : Bool)
  | word (reversed : List Char)
  /-- After a quote that may be the first of three. -/
  | opened (quote : Quote)
  /-- After two quotes, with nothing between them. -/
  | paired (quote : Quote)
  /-- In a text of one line, or at the beginning or inside of a block. -/
  | line (quote : Quote) (reversed : List Char)
  | blockStart (quote : Quote)
  | block (quote : Quote) (reversed : List Char)
  /-- In a block, after so many quotes, of which three are its end. -/
  | closing (quote : Quote) (reversed : List Char) (count : Nat)
  | escape (inBlock : Bool) (reversed : List Char)
  /-- `digits` hexadecimal digits of an escape are missing. -/
  | code (inBlock : Bool) (reversed : List Char) (digits value : Nat)
  /-- After a backslash and blanks, which the end of the line has to follow. -/
  | lineTail (reversed : List Char)
  /-- At the beginning of a line that goes on with the one before. -/
  | continued (reversed : List Char)

def isWordChar (c : Char) : Bool :=
  c.isAlphanum || c == '_' || c == '-' || c == '+' || c == '.' || c == ':'

def betweenTokens (c : Char) : Option (Mode × List Token) :=
  match c with
  | '\n' => some (.between, [.newLine])
  | ' ' => some (.blank true, [])
  | '\t' => some (.blank false, [])
  | '#' => some (.comment, [])
  | '[' => some (.between, [.openBracket])
  | ']' => some (.between, [.closeBracket])
  | '\x7b' => some (.between, [.openBrace])
  | '\x7d' => some (.between, [.closeBrace])
  | '=' => some (.between, [.equals])
  | ',' => some (.between, [.comma])
  | '"' => some (.opened .double, [])
  | '\'' => some (.opened .single, [])
  | c => if isWordChar c then some (.word [c], []) else none

/-- Ends a token, and goes on with the character after it. -/
def endToken (token : Token) (c : Char) : Option (Mode × List Token) :=
  (betweenTokens c).map fun (mode, tokens) => (mode, token :: tokens)

def quotedToken (reversed : List Char) (block : Bool) : Token :=
  .quoted (String.ofList reversed.reverse) block

def isPlain (c : Char) : Bool := (0x20 ≤ c.toNat && c.toNat != 0x7F) || c == '\t'

def inLine (quote : Quote) (reversed : List Char) (c : Char) : Option (Mode × List Token) :=
  if c = quote.mark then some (.between, [quotedToken reversed false])
  else if quote = .double && c = '\\' then some (.escape false reversed, [])
  else if isPlain c then some (.line quote (c :: reversed), [])
  else none

def inBlock (quote : Quote) (reversed : List Char) (c : Char) : Option (Mode × List Token) :=
  if c = quote.mark then some (.closing quote reversed 1, [])
  else if quote = .double && c = '\\' then some (.escape true reversed, [])
  else if isPlain c || c = '\n' then some (.block quote (c :: reversed), [])
  else none

def escaped? : Char → Option Char
  | 'b' => some '\x08'
  | 't' => some '\t'
  | 'n' => some '\n'
  | 'f' => some '\x0c'
  | 'r' => some '\r'
  | '"' => some '"'
  | '\\' => some '\\'
  | _ => none

def afterEscape (inBlock : Bool) (reversed : List Char) : Mode :=
  if inBlock then .block .double reversed else .line .double reversed

def readEscape (inBlock : Bool) (reversed : List Char) (c : Char) : Option Mode :=
  match c with
  | 'u' => some (.code inBlock reversed 4 0)
  | 'U' => some (.code inBlock reversed 8 0)
  | '\n' => if inBlock then some (.continued reversed) else none
  | ' ' | '\t' => if inBlock then some (.lineTail reversed) else none
  | c => (escaped? c).map fun c => afterEscape inBlock (c :: reversed)

def readCode (inBlock : Bool) (reversed : List Char) (digits value : Nat) (c : Char) :
    Option Mode := do
  let value := value * 16 + (← digitInBase? 16 c)
  if 1 < digits then return .code inBlock reversed (digits - 1) value
  else if Nat.isValidChar value then return afterEscape inBlock (Char.ofNat value :: reversed)
  else none

/-- Reads a character after quotes in a block.  Two quotes right after the three that end it
belong to the text, and so does one. -/
def readClosing (quote : Quote) (reversed : List Char) (count : Nat) (c : Char) :
    Option (Mode × List Token) :=
  if c != quote.mark then
    if count < 3 then inBlock quote (List.replicate count quote.mark ++ reversed) c
    else endToken (quotedToken reversed true) c
  else if count < 3 then some (.closing quote reversed (count + 1), [])
  else if count = 3 then some (.closing quote (c :: reversed) 4, [])
  else some (.between, [quotedToken (c :: reversed) true])

/-- Reads one character; nothing when it cannot stand where it does. -/
def readChar (mode : Mode) (c : Char) : Option (Mode × List Token) :=
  match mode with
  | .between => betweenTokens c
  | .comment => if c.toNat < 0x20 && c != '\t' then betweenTokens c else some (.comment, [])
  | .blank single =>
    if c = ' ' || c = '\t' then some (.blank false, []) else endToken (.blank single) c
  | .word reversed =>
    if isWordChar c then some (.word (c :: reversed), []) else endToken (.word reversed.reverse) c
  | .opened quote => if c = quote.mark then some (.paired quote, []) else inLine quote [] c
  | .paired quote =>
    if c = quote.mark then some (.blockStart quote, []) else endToken (.quoted "" false) c
  | .line quote reversed => inLine quote reversed c
  | .blockStart quote => if c = '\n' then some (.block quote [], []) else inBlock quote [] c
  | .block quote reversed => inBlock quote reversed c
  | .closing quote reversed count => readClosing quote reversed count c
  | .escape inBlock reversed => (readEscape inBlock reversed c).map fun mode => (mode, [])
  | .code inBlock reversed digits value =>
    (readCode inBlock reversed digits value c).map fun mode => (mode, [])
  | .lineTail reversed =>
    if c = ' ' || c = '\t' then some (.lineTail reversed, [])
    else if c = '\n' then some (.continued reversed, [])
    else none
  | .continued reversed =>
    if c = ' ' || c = '\t' || c = '\n' then some (.continued reversed, [])
    else inBlock .double reversed c

/-- The tokens of a text to whose end another line's end has been added; nothing when it
has none.  Those so far are given in reverse. -/
def tokensFrom (mode : Mode) (reversed : List Token) : List Char → Option (List Token)
  | [] => match mode with
    | .between => some reversed.reverse
    | _ => none
  | c :: rest =>
    match readChar mode c with
    | some (mode, tokens) => tokensFrom mode (tokens.reverse ++ reversed) rest
    | none => none

/-- A text with each line ended by a line feed alone. -/
def foldLines : List Char → List Char
  | '\r' :: '\n' :: rest => '\n' :: foldLines rest
  | c :: rest => c :: foldLines rest
  | [] => []

/-- The tokens of a text, which may begin with a byte order mark; its last line has an
end, too. -/
def tokens? (text : String) : Option (List Token) :=
  let letters := match text.toList with
    | '\uFEFF' :: rest => rest
    | letters => letters
  tokensFrom .between [] (foldLines letters ++ ['\n'])

end Aggregation.Toml
