import ScriptPlugins.Text.Utf8

/-!
# Words and operators of a shell script

A shell script is cut into words and operators one character at a time. A word is a list of parts,
because each stretch of it may be quoted in its own way, and quotes decide later whether the value
of a parameter is split into several fields.
-/

namespace ScriptPlugins.Shell

open Text

inductive Part where
  | literal (quoted : Bool) (text : List Char)
  | parameter (quoted : Bool) (name : List Char)
  deriving Repr, DecidableEq

abbrev Word := List Part

inductive Direction where
  | write
  | append
  | read
  /-- The stream goes where another one goes. -/
  | duplicate
  deriving Repr, DecidableEq

inductive Token where
  | word (parts : Word)
  | separator
  | and
  | or
  | pipe
  | opening
  | closing
  | redirect (stream : Option Nat) (direction : Direction)
  deriving Repr, DecidableEq

/-- The text of a word that is written without quotes and parameters. -/
def Word.plain? : Word → Option String
  | [.literal false text] => some (String.ofList text)
  | _ => none

/-- What the next character belongs to. -/
inductive Mode where
  | plain
  | comment
  | single
  | double
  /-- After a backslash, inside double quotes or not. -/
  | escaped (quoted : Bool)
  /-- After a dollar sign. -/
  | dollar (quoted : Bool)
  /-- In the name of a parameter, read backwards. -/
  | named (quoted : Bool) (name : List Char)
  /-- In the name of a parameter in braces, read backwards. -/
  | braced (quoted : Bool) (name : List Char)
  /-- After a character that may be half of an operator. -/
  | half (operator : Char)
  deriving Repr, DecidableEq

structure Scanner where
  mode : Mode
  /-- The tokens found, last one first. -/
  tokens : List Token
  /-- The word being read, last part first, if one has begun. -/
  word : Option (List Part)
  deriving Repr, DecidableEq

namespace Scanner

def start : Scanner := ⟨.plain, [], none⟩

def addPart (scanner : Scanner) (part : Part) : Scanner :=
  { scanner with word := some (part :: scanner.word.getD []) }

/-- Adds a character to the stretch of the same quoting that ends the word, or begins one. -/
def addChar (scanner : Scanner) (quoted : Bool) (c : Char) : Scanner :=
  match scanner.word with
  | some (.literal q text :: parts) =>
    if q = quoted then { scanner with word := some (.literal q (text ++ [c]) :: parts) }
    else scanner.addPart (.literal quoted [c])
  | _ => scanner.addPart (.literal quoted [c])

def endWord (scanner : Scanner) : Scanner :=
  match scanner.word with
  | none => scanner
  | some parts => { scanner with word := none, tokens := .word parts.reverse :: scanner.tokens }

def addToken (scanner : Scanner) (token : Token) : Scanner :=
  let scanner := scanner.endWord
  { scanner with mode := .plain, tokens := token :: scanner.tokens }

def back (quoted : Bool) : Mode :=
  if quoted then .double else .plain

/-- A redirection of the stream whose number is the word just read, or of the usual one. -/
def redirect (scanner : Scanner) (direction : Direction) : Scanner :=
  match scanner.word with
  | some [.literal false [digit]] =>
    if digit.isDigit then
      { scanner with mode := .plain, word := none,
                     tokens := .redirect (some (digit.toNat - '0'.toNat)) direction
                       :: scanner.tokens }
    else scanner.addToken (.redirect none direction)
  | _ => scanner.addToken (.redirect none direction)

def plain (scanner : Scanner) (c : Char) : Scanner :=
  let scanner := { scanner with mode := .plain }
  if c == ' ' || c == '\t' then scanner.endWord
  else if c == '\n' || c == ';' then scanner.addToken .separator
  else if c == '(' then scanner.addToken .opening
  else if c == ')' then scanner.addToken .closing
  else if c == '&' || c == '|' || c == '>' then { scanner with mode := .half c }
  else if c == '<' then scanner.redirect .read
  else if c == '\\' then { scanner with mode := .escaped false }
  else if c == '\'' then { scanner.addPart (.literal true []) with mode := .single }
  else if c == '"' then { scanner.addPart (.literal true []) with mode := .double }
  else if c == '$' then { scanner with mode := .dollar false }
  else if c == '#' && scanner.word.isNone then { scanner with mode := .comment }
  else scanner.addChar false c

def inDouble (scanner : Scanner) (c : Char) : Scanner :=
  let scanner := { scanner with mode := .double }
  if c == '"' then { scanner with mode := .plain }
  else if c == '\\' then { scanner with mode := .escaped true }
  else if c == '$' then { scanner with mode := .dollar true }
  else scanner.addChar true c

def outside (scanner : Scanner) (quoted : Bool) (c : Char) : Scanner :=
  if quoted then scanner.inDouble c else scanner.plain c

def isNameChar (c : Char) : Bool :=
  c.isAlphanum || c == '_'

def isSpecial (c : Char) : Bool :=
  "@*#?$!-".toList.contains c || c.isDigit

def step (scanner : Scanner) (c : Char) : Scanner :=
  match scanner.mode with
  | .plain => scanner.plain c
  | .comment => if c == '\n' then scanner.plain c else scanner
  | .single =>
    if c == '\'' then { scanner with mode := .plain } else scanner.addChar true c
  | .double => scanner.inDouble c
  | .escaped quoted =>
    let scanner := { scanner with mode := back quoted }
    if c == '\n' then scanner
    else if quoted && !("$`\"\\".toList.contains c) then
      (scanner.addChar true '\\').addChar true c
    else scanner.addChar true c
  | .dollar quoted =>
    if c == '{' then { scanner with mode := .braced quoted [] }
    else if isSpecial c then { scanner.addPart (.parameter quoted [c]) with mode := back quoted }
    else if isNameChar c then { scanner with mode := .named quoted [c] }
    else (scanner.addChar quoted '$').outside quoted c
  | .named quoted name =>
    if isNameChar c then { scanner with mode := .named quoted (c :: name) }
    else (scanner.addPart (.parameter quoted name.reverse)).outside quoted c
  | .braced quoted name =>
    if c == '}' then
      { scanner.addPart (.parameter quoted name.reverse) with mode := back quoted }
    else { scanner with mode := .braced quoted (c :: name) }
  | .half operator =>
    if operator == '&' then
      if c == '&' then scanner.addToken .and else (scanner.addToken .separator).plain c
    else if operator == '|' then
      if c == '|' then scanner.addToken .or else (scanner.addToken .pipe).plain c
    else if c == '>' then scanner.redirect .append
    else if c == '&' then scanner.redirect .duplicate
    else (scanner.redirect .write).plain c

/-- The tokens of a script, or none if it ends inside quotes or braces. -/
def finish (scanner : Scanner) : Option (List Token) :=
  match scanner.mode with
  | .single | .double | .escaped true | .braced _ _ => none
  | .plain | .comment | .escaped false => some scanner.endWord.tokens.reverse
  | .dollar quoted =>
    if quoted then none else some ((scanner.addChar false '$').endWord.tokens.reverse)
  | .named quoted name =>
    if quoted then none
    else some ((scanner.addPart (.parameter false name.reverse)).endWord.tokens.reverse)
  | .half operator =>
    if operator == '&' then some (scanner.addToken .separator).tokens.reverse else none

end Scanner

def tokenize (script : List Char) : Option (List Token) :=
  (script.foldl Scanner.step Scanner.start).finish

end ScriptPlugins.Shell
