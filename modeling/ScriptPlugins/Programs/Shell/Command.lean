import ScriptPlugins.Programs.Shell.Token

/-!
# Shell commands

The commands of a shell script: simple ones, and those made of others. The reader goes down through
the levels of the grammar, from lists over pipelines to single commands. Each call has less fuel
than its caller. There are fewer than eight levels from one token to the next, so eight times as
much fuel as there are tokens is enough.
-/

namespace ScriptPlugins.Shell

structure Redirect where
  stream : Option Nat
  direction : Direction
  target : Word
  deriving Repr, DecidableEq

inductive Command where
  | nothing
  | simple (assignments : List (List Char × Word)) (words : List Word) (redirects : List Redirect)
  | seq (first second : Command)
  | and (first second : Command)
  | or (first second : Command)
  | not (command : Command)
  | pipe (first second : Command)
  | branch (condition consequence alternative : Command)
  | loop (name : List Char) (words : List Word) (body : Command)
  /-- Commands that cannot change the variables of those around them. -/
  | subshell (command : Command)
  /-- Commands of which all have these redirections. -/
  | redirected (command : Command) (redirects : List Redirect)
  deriving Repr

namespace Command

/-- The words that end a list of commands. -/
def closers : List String :=
  ["then", "elif", "else", "fi", "do", "done", "\x7d"]

def isCloser : Token → Bool
  | .closing => true
  | .word parts => parts.plain?.any closers.contains
  | _ => false

def skipSeparators : List Token → List Token
  | .separator :: rest => skipSeparators rest
  | tokens => tokens

def expect (text : String) : List Token → Option (List Token)
  | .word parts :: rest => if parts.plain? = some text then some rest else none
  | _ => none

/-- The name and the value of a word that assigns to a variable. -/
def assignment? : Word → Option (List Char × Word)
  | .literal false text :: parts =>
    let name := text.takeWhile (· != '=')
    match text.dropWhile (· != '=') with
    | [] => none
    | _ :: value =>
      if name.head?.any (fun c => !c.isDigit) && name.all Scanner.isNameChar then
        some (name, if value.isEmpty then parts else .literal false value :: parts)
      else none
  | _ => none

def leadingWords : List Token → List Word × List Token
  | .word parts :: rest =>
    let (words, rest) := leadingWords rest
    (parts :: words, rest)
  | tokens => ([], tokens)

def simpleParts : List Token → Option (List Word × List Redirect × List Token)
  | .word parts :: rest => do
    let (words, redirects, rest) ← simpleParts rest
    return (parts :: words, redirects, rest)
  | .redirect stream direction :: .word target :: rest => do
    let (words, redirects, rest) ← simpleParts rest
    return (words, ⟨stream, direction, target⟩ :: redirects, rest)
  | .redirect _ _ :: _ => none
  | tokens => some ([], [], tokens)

/-- Splits the assignments off that come before the words of a command. -/
def splitAssignments : List Word → List (List Char × Word) × List Word
  | [] => ([], [])
  | word :: rest =>
    match assignment? word with
    | none => ([], word :: rest)
    | some assignment =>
      let (assignments, words) := splitAssignments rest
      (assignment :: assignments, words)

def leadingRedirects : List Token → Option (List Redirect × List Token)
  | .redirect stream direction :: .word target :: rest => do
    let (redirects, rest) ← leadingRedirects rest
    return (⟨stream, direction, target⟩ :: redirects, rest)
  | .redirect _ _ :: _ => none
  | tokens => some ([], tokens)

/-- A command made of others, with the redirections that follow it. -/
def whole (command : Command) (tokens : List Token) : Option (Command × List Token) := do
  match ← leadingRedirects tokens with
  | ([], rest) => return (command, rest)
  | (redirects, rest) => return (.redirected command redirects, rest)

mutual

def readList (fuel : Nat) (tokens : List Token) : Option (Command × List Token) :=
  match fuel with
  | 0 => none
  | fuel + 1 =>
    match skipSeparators tokens with
    | [] => some (.nothing, [])
    | token :: rest =>
      if isCloser token then some (.nothing, token :: rest)
      else do
        let (first, rest) ← readPipeline fuel (token :: rest)
        let (first, rest) ← readChain fuel first rest
        match rest with
        | .separator :: rest =>
          let (second, rest) ← readList fuel rest
          return (.seq first second, rest)
        | rest => return (first, rest)

def readChain (fuel : Nat) (left : Command) (tokens : List Token) :
    Option (Command × List Token) :=
  match fuel with
  | 0 => none
  | fuel + 1 =>
    match tokens with
    | .and :: rest => do
      let (right, rest) ← readPipeline fuel (skipSeparators rest)
      readChain fuel (.and left right) rest
    | .or :: rest => do
      let (right, rest) ← readPipeline fuel (skipSeparators rest)
      readChain fuel (.or left right) rest
    | tokens => some (left, tokens)

def readPipeline (fuel : Nat) (tokens : List Token) : Option (Command × List Token) :=
  match fuel with
  | 0 => none
  | fuel + 1 =>
    match expect "!" tokens with
    | some rest => do
      let (command, rest) ← readPipeline fuel rest
      return (.not command, rest)
    | none => do
      let (first, rest) ← readCommand fuel tokens
      match rest with
      | .pipe :: rest =>
        let (second, rest) ← readPipeline fuel (skipSeparators rest)
        return (.pipe first second, rest)
      | rest => return (first, rest)

def readCommand (fuel : Nat) (tokens : List Token) : Option (Command × List Token) :=
  match fuel with
  | 0 => none
  | fuel + 1 =>
    match tokens with
    | .opening :: rest => do
      let (body, rest) ← readList fuel rest
      match rest with
      | .closing :: rest => whole (.subshell body) rest
      | _ => none
    | .word parts :: rest =>
      match parts.plain? with
      | some "if" => do
        let (command, rest) ← readBranch fuel rest
        whole command rest
      | some "for" =>
        match rest with
        | .word name :: rest => do
          let name ← name.plain?
          let (words, rest) :=
            match expect "in" (skipSeparators rest) with
            | some rest => leadingWords rest
            | none => ([[.parameter true ['@']]], rest)
          let rest ← expect "do" (skipSeparators rest)
          let (body, rest) ← readList fuel rest
          let rest ← expect "done" rest
          whole (.loop name.toList words body) rest
        | _ => none
      | some "\x7b" => do
        let (body, rest) ← readList fuel rest
        let rest ← expect "\x7d" rest
        whole body rest
      | _ =>
        if isCloser (.word parts) then none
        else do
          let (words, redirects, rest) ← simpleParts tokens
          let (assignments, words) := splitAssignments words
          return (.simple assignments words redirects, rest)
    | .redirect _ _ :: _ => do
      let (words, redirects, rest) ← simpleParts tokens
      let (assignments, words) := splitAssignments words
      return (.simple assignments words redirects, rest)
    | _ => none

def readBranch (fuel : Nat) (tokens : List Token) : Option (Command × List Token) :=
  match fuel with
  | 0 => none
  | fuel + 1 => do
    let (condition, rest) ← readList fuel tokens
    let rest ← expect "then" rest
    let (consequence, rest) ← readList fuel rest
    match expect "elif" rest with
    | some rest =>
      let (alternative, rest) ← readBranch fuel rest
      return (.branch condition consequence alternative, rest)
    | none =>
      match expect "else" rest with
      | some rest =>
        let (alternative, rest) ← readList fuel rest
        let rest ← expect "fi" rest
        return (.branch condition consequence alternative, rest)
      | none =>
        let rest ← expect "fi" rest
        return (.branch condition consequence .nothing, rest)

end

/-- The commands that a script is made of, or none if it is not well formed. -/
def ofTokens? (tokens : List Token) : Option Command :=
  match readList (8 * tokens.length + 8) tokens with
  | some (command, []) => some command
  | _ => none

end Command

end ScriptPlugins.Shell
