import ScriptPlugins.Text.Utf8

/-!
# What echo and printf write

Both read backslash escapes. In a format, an octal escape has up to three digits; in an argument one
more zero may precede them, and a small c ends the output. A format is used again as long as there
are arguments left and it takes any.
-/

namespace ScriptPlugins.Shell.Printed

open Text

def isOctal (b : UInt8) : Bool :=
  decide (0x30 ≤ b) && decide (b ≤ 0x37)

def escape? (b : UInt8) : Option UInt8 :=
  [(0x61, 0x07), (0x62, 0x08), (0x66, 0x0C), (0x6E, 0x0A), (0x72, 0x0D), (0x74, 0x09),
   (0x76, 0x0B), (0x5C, 0x5C)].lookup b

def backslash : UInt8 := 0x5C

def octal (digits : Bytes) : UInt8 :=
  UInt8.ofNat (digits.foldl (fun value b => value * 8 + (b.toNat - 0x30)) 0)

def octalDigits (text : Bytes) : Bytes :=
  (text.take 3).takeWhile isOctal

/-- Reads one escape after its backslash, and hands back what follows it. -/
def unescape : Bytes → UInt8 × Bytes
  | [] => (backslash, [])
  | b :: rest =>
    if isOctal b then
      (octal (octalDigits (b :: rest)), (b :: rest).drop (octalDigits (b :: rest)).length)
    else match escape? b with
      | some byte => (byte, rest)
      | none => (backslash, b :: rest)

theorem length_unescape_le (text : Bytes) : (unescape text).2.length ≤ text.length := by
  unfold unescape
  split
  · simp
  · split
    · simp
    · split <;> simp

/-- The text of an escape without the zero that may come before its octal digits. -/
def skipZero : Bytes → Bytes
  | 0x30 :: d :: rest => if isOctal d then d :: rest else 0x30 :: d :: rest
  | text => text

theorem length_skipZero_le (text : Bytes) : (skipZero text).length ≤ text.length := by
  unfold skipZero
  split
  · split <;> simp
  · simp

/-- An argument with its escapes read, and whether the output ends with it. -/
def argument : Bytes → Bytes × Bool
  | [] => ([], false)
  | b :: rest =>
    if b != backslash then
      let (text, stops) := argument rest
      (b :: text, stops)
    else if rest.head? == some 0x63 then ([], true)
    else
      let (text, stops) := argument (unescape (skipZero rest)).2
      ((unescape (skipZero rest)).1 :: text, stops)
  termination_by text => text.length
  decreasing_by
    · simp
    · have h := length_unescape_le (skipZero rest)
      have := length_skipZero_le rest
      simp only [List.length_cons]
      omega

def take (arguments : List Bytes) : Bytes × List Bytes :=
  (arguments.head?.getD [], arguments.tail)

/-- One use of a format: the text, the arguments left, and whether the output ends here. -/
def once (arguments : List Bytes) : Bytes → Bytes × List Bytes × Bool
  | [] => ([], arguments, false)
  | 0x25 :: 0x25 :: rest =>
    let (text, left, stops) := once arguments rest
    (0x25 :: text, left, stops)
  | 0x25 :: 0x62 :: rest =>
    let (first, others) := take arguments
    let (shown, ends) := argument first
    if ends then (shown, others, true)
    else
      let (text, left, stops) := once others rest
      (shown ++ text, left, stops)
  | 0x25 :: conversion :: rest =>
    let (first, others) := take arguments
    let shown :=
      if conversion == 0x63 then first.take 1
      else if conversion == 0x73 then first
      else if first.isEmpty then [0x30] else first
    let (text, left, stops) := once others rest
    (shown ++ text, left, stops)
  | b :: rest =>
    if b == backslash then
      let (text, left, stops) := once arguments (unescape rest).2
      ((unescape rest).1 :: text, left, stops)
    else
      let (text, left, stops) := once arguments rest
      (b :: text, left, stops)
  termination_by format => format.length
  decreasing_by
    all_goals simp only [List.length_cons]
    · omega
    · omega
    · omega
    · have := length_unescape_le rest
      omega
    · omega

/-- The format used until the arguments are, at most as often as there are arguments. -/
def again (format : Bytes) : Nat → List Bytes → Bytes
  | 0, _ => []
  | count + 1, arguments =>
    let (text, left, stops) := once arguments format
    if stops || left.isEmpty || left.length == arguments.length then text
    else text ++ again format count left

def printf (format : Bytes) (arguments : List Bytes) : Bytes :=
  again format (arguments.length + 1) arguments

/-- The arguments with blanks between them and, unless the first is `-n`, a line feed. -/
def echo (arguments : List Bytes) : Bytes :=
  let quiet := arguments.head? == some [0x2D, 0x6E]
  let words := if quiet then arguments.tail else arguments
  let (text, stops) := argument (([0x20] : Bytes).intercalate words)
  if quiet || stops then text else text ++ [0x0A]

end ScriptPlugins.Shell.Printed
