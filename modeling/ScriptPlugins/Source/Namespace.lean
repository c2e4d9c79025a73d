import ScriptPlugins.Source.Token

/-!
# The namespace of a script

A script may open with a declaration such as `package org.acme`. It is found without parsing:
after what may be skipped comes one of the keywords, and the identifiers and dots that follow it,
again after what may be skipped, are the namespace. The scan does not judge what it finds: a
keyword with no name after it declares the empty namespace, and dots may stand anywhere.
-/

namespace ScriptPlugins.Namespace

/-- The words that declare a namespace unless a project says otherwise. -/
def defaultKeywords : List String :=
  ["package", "namespace"]

def scan (keywords : List String) (tokens : List Token) : Option String :=
  match tokens.dropWhile Token.isTrivia with
  | [] => none
  | first :: rest =>
    if keywords.any (first.isKeyword ·) then
      let name := (rest.dropWhile Token.isTrivia).takeWhile Token.isNamePart
      some (String.ofList (name.flatMap Token.text))
    else none

/-- The namespace that a source declares with one of the keywords. -/
def declaredIn (source : String) (keywords : List String) : Option String :=
  scan keywords (tokens source.toList)

end ScriptPlugins.Namespace
