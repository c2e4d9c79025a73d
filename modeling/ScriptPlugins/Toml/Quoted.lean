import ScriptPlugins.Toml.Trivia

/-!
# Strings of TOML

There are four kinds of strings. Those in double quotes have escapes, those in single quotes have
none, and each kind may stand in one quote and on one line or in three quotes and on several. In the
latter a line break right after the opening quotes does not count, every other line break is a line
feed however it is written, and up to two quotes may stand before the closing ones.
-/

namespace ScriptPlugins.Toml

def hexDigit? (c : Char) : Option Nat :=
  if c.isDigit then some (c.toNat - '0'.toNat)
  else if 'a' ≤ c ∧ c ≤ 'f' then some (c.toNat - 'a'.toNat + 10)
  else if 'A' ≤ c ∧ c ≤ 'F' then some (c.toNat - 'A'.toNat + 10)
  else none

/-- The character with a hexadecimal code, if it is one. -/
def codePoint? (digits : List Char) : Option Char := do
  let code ← digits.foldl (fun code? c => do return (← code?) * 16 + (← hexDigit? c)) (some 0)
  if code < 0xD800 || (decide (0xDFFF < code) && decide (code < 0x110000)) then
    return Char.ofNat code
  else none

/-- What a letter stands for after a backslash. -/
def escape? (c : Char) : Option Char :=
  [('b', '\x08'), ('t', '\t'), ('n', '\n'), ('f', '\x0c'), ('r', '\r'), ('"', '"'),
   ('\\', '\\')].lookup c

def readEscape : List Char → Option (Char × List Char)
  | 'u' :: rest =>
    if rest.length < 4 then none
    else (codePoint? (rest.take 4)).map (·, rest.drop 4)
  | 'U' :: rest =>
    if rest.length < 8 then none
    else (codePoint? (rest.take 8)).map (·, rest.drop 8)
  | c :: rest => (escape? c).map (·, rest)
  | [] => none

theorem length_readEscape_lt {source rest : List Char} {c : Char}
    (h : readEscape source = some (c, rest)) : rest.length < source.length := by
  unfold readEscape at h
  split at h
  · split at h
    · simp at h
    · obtain ⟨_, _, heq⟩ := Option.map_eq_some_iff.1 h
      simp only [Prod.mk.injEq] at heq
      rw [← heq.2]
      simp only [List.length_drop, List.length_cons]
      omega
  · split at h
    · simp at h
    · obtain ⟨_, _, heq⟩ := Option.map_eq_some_iff.1 h
      simp only [Prod.mk.injEq] at heq
      rw [← heq.2]
      simp only [List.length_drop, List.length_cons]
      omega
  · obtain ⟨_, _, heq⟩ := Option.map_eq_some_iff.1 h
    simp only [Prod.mk.injEq] at heq
    rw [← heq.2]
    simp
  · simp at h

/-- A string in one double quote, from after the quote on. -/
def readBasic : List Char → Option (List Char × List Char)
  | [] => none
  | c :: rest =>
    if c = '"' then some ([], rest)
    else if c = '\\' then
      match h : readEscape rest with
      | none => none
      | some (meant, after) =>
        have := length_readEscape_lt h
        (readBasic after).map fun (text, after) => (meant :: text, after)
    else if isPrintable c then (readBasic rest).map fun (text, after) => (c :: text, after)
    else none
  termination_by source => source.length
  decreasing_by all_goals simp; try omega

/-- A string in one single quote, from after the quote on. -/
def readLiteral (source : List Char) : Option (List Char × List Char) :=
  match source.dropWhile fun c => c != '\'' && isPrintable c with
  | '\'' :: rest => some (source.takeWhile fun c => c != '\'' && isPrintable c, rest)
  | _ => none

/-- What an escaped line break takes with it. -/
def isGap (c : Char) : Bool :=
  isBlank c || c == '\n' || c == '\r'

/-- How many quotes a text starts with. -/
def countQuotes (quote : Char) (source : List Char) : Nat :=
  (source.takeWhile (· == quote)).length

/-- The end of a string in three quotes at a run of quotes, if the run is long enough: the quotes
that belong to the string, and what follows. -/
def closing? (quote : Char) (source : List Char) : Option (List Char × List Char) :=
  let count := countQuotes quote source
  if count < 3 then none
  else
    let inside := min (count - 3) 2
    some (List.replicate inside quote, source.drop (inside + 3))

/-- Whether carriage returns stand before line feeds only. -/
def hasCleanBreaks : List Char → Bool
  | '\r' :: '\n' :: rest => hasCleanBreaks rest
  | '\r' :: _ => false
  | _ :: rest => hasCleanBreaks rest
  | [] => true

/-- A string in three quotes, after the line break that may open it. Only double quotes have
escapes. -/
def readLines (quote : Char) (fuel : Nat) (source : List Char) :
    Option (List Char × List Char) :=
  match fuel with
  | 0 => none
  | fuel + 1 =>
    match source with
    | [] => none
    | c :: rest =>
      if c = quote then
        match closing? quote source with
        | some found => some found
        | none => (readLines quote fuel rest).map fun (text, after) => (c :: text, after)
      else if c = '\\' && quote == '"' then
        match readEscape rest with
        | some (meant, after) =>
          (readLines quote fuel after).map fun (text, after) => (meant :: text, after)
        | none =>
          match newline? (skipBlanks rest) with
          | some after =>
            if hasCleanBreaks (after.takeWhile isGap) then
              readLines quote fuel (after.dropWhile isGap)
            else none
          | none => none
      else match newline? source with
        | some after =>
          (readLines quote fuel after).map fun (text, after) => ('\n' :: text, after)
        | none =>
          if isPrintable c then
            (readLines quote fuel rest).map fun (text, after) => (c :: text, after)
          else none

/-- A string in three quotes, from after the opening ones on. -/
def readLong (quote : Char) (source : List Char) : Option (List Char × List Char) :=
  readLines quote (source.length + 1) ((newline? source).getD source)

def readString : List Char → Option (List Char × List Char)
  | '"' :: '"' :: '"' :: rest => readLong '"' rest
  | '\'' :: '\'' :: '\'' :: rest => readLong '\'' rest
  | '"' :: rest => readBasic rest
  | '\'' :: rest => readLiteral rest
  | _ => none

end ScriptPlugins.Toml
