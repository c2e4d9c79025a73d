import ScriptPlugins.Text.Capital.Table

/-!
# Capital letters and upper-casing

`upper` is the full upper-case mapping of Unicode: a character may become several, as *ß* becomes
*SS*, and a character without an upper-case form stays as it is.
-/

namespace ScriptPlugins.Text

/-- The Unicode property *Uppercase*. -/
def isCapital (c : Char) : Bool :=
  if c.toNat < 0x80 then c.isUpper else Capital.capitalRuns.any (·.holds c.toNat)

def upper (c : Char) : List Char :=
  if c.toNat < 0x80 then [c.toUpper]
  else match Capital.expansions.lookup c.toNat with
    | some codes => codes.map Char.ofNat
    | none => match Capital.mappedRuns.find? (·.run.holds c.toNat) with
      | some mapped => [Char.ofNat (mapped.image c.toNat)]
      | none => [c]

/-- A text with its first character in upper case. -/
def capitalize : List Char → List Char
  | [] => []
  | c :: rest => upper c ++ rest

@[simp] theorem capitalize_nil : capitalize [] = [] := rfl

@[simp] theorem capitalize_cons (c : Char) (rest : List Char) :
    capitalize (c :: rest) = upper c ++ rest := rfl

end ScriptPlugins.Text
