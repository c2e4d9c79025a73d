/-!
# UTF-8

File names and file contents are bytes, everything else is text. `decode` reads bytes as
characters and answers `none` for each piece that is not UTF-8, where a piece is the longest start
of a character that the bytes still allow. Refusing such pieces gives strict reading; showing each
as U+FFFD gives the form in which paths and messages are displayed.
-/

namespace ScriptPlugins.Text

abbrev Bytes := List UInt8

namespace Utf8

def encode (text : List Char) : Bytes :=
  text.flatMap String.utf8EncodeChar

def ofString (text : String) : Bytes :=
  encode text.toList

def isContinuation (b : UInt8) : Bool :=
  decide (0x80 ≤ b) && decide (b ≤ 0xBF)

/-- Whether `second` may follow `first` at the start of a character of three or four bytes. The
narrowed cases exclude overlong forms, surrogates and code points above U+10FFFF. -/
def isSecond (first second : UInt8) : Bool :=
  if first = 0xE0 then decide (0xA0 ≤ second) && decide (second ≤ 0xBF)
  else if first = 0xED then decide (0x80 ≤ second) && decide (second ≤ 0x9F)
  else if first = 0xF0 then decide (0x90 ≤ second) && decide (second ≤ 0xBF)
  else if first = 0xF4 then decide (0x80 ≤ second) && decide (second ≤ 0x8F)
  else isContinuation second

/-- The part of a code point that a byte holds in its lowest bits, which have `count` values. -/
def low (b : UInt8) (count : Nat) : Nat :=
  b.toNat % count

/-- The first character of the bytes, or `none` for a broken piece, and the bytes after it. -/
def next : UInt8 → Bytes → Option Char × Bytes
  | a, rest =>
    if a < 0x80 then (some (Char.ofNat a.toNat), rest)
    else if 0xC2 ≤ a && a ≤ 0xDF then
      match rest with
      | b :: rest' =>
        if isContinuation b then (some (Char.ofNat (low a 32 * 64 + low b 64)), rest')
        else (none, rest)
      | [] => (none, [])
    else if 0xE0 ≤ a && a ≤ 0xEF then
      match rest with
      | b :: rest' =>
        if isSecond a b then
          match rest' with
          | c :: rest'' =>
            if isContinuation c then
              (some (Char.ofNat ((low a 16 * 64 + low b 64) * 64 + low c 64)), rest'')
            else (none, rest')
          | [] => (none, [])
        else (none, rest)
      | [] => (none, [])
    else if 0xF0 ≤ a && a ≤ 0xF4 then
      match rest with
      | b :: rest' =>
        if isSecond a b then
          match rest' with
          | c :: rest'' =>
            if isContinuation c then
              match rest'' with
              | d :: rest''' =>
                if isContinuation d then
                  (some (Char.ofNat (((low a 8 * 64 + low b 64) * 64 + low c 64) * 64 + low d 64)),
                    rest''')
                else (none, rest'')
              | [] => (none, [])
            else (none, rest')
          | [] => (none, [])
        else (none, rest)
      | [] => (none, [])
    else (none, rest)

theorem length_next_le (a : UInt8) (rest : Bytes) : (next a rest).2.length ≤ rest.length := by
  unfold next
  repeat' split
  all_goals simp <;> omega

def decode : Bytes → List (Option Char)
  | [] => []
  | a :: rest => (next a rest).1 :: decode (next a rest).2
  termination_by bytes => bytes.length
  decreasing_by
    have := length_next_le a rest
    simp; omega

/-- The text of bytes that are UTF-8 throughout. -/
def decode? (bytes : Bytes) : Option (List Char) :=
  (decode bytes).mapM id

def toString? (bytes : Bytes) : Option String :=
  (decode? bytes).map String.ofList

/-- The text in which each broken piece is shown as U+FFFD. -/
def display (bytes : Bytes) : String :=
  String.ofList ((decode bytes).map (·.getD '\ufffd'))

@[simp] theorem encode_nil : encode [] = [] := rfl

@[simp] theorem encode_append (s t : List Char) : encode (s ++ t) = encode s ++ encode t := by
  simp [encode]

end Utf8

end ScriptPlugins.Text
