import ScriptPlugins.Programs.Basic
import ScriptPlugins.Programs.Shell.Builtin
import ScriptPlugins.Programs.Shell.Command

/-!
# Running a shell script

Commands are run on a state, by recursion on their structure: no command of the grammar repeats
without an end, because a loop goes over the fields of words that are expanded before it starts.
-/

namespace ScriptPlugins.Shell

open Text

def nowhere : Bytes := Utf8.ofString "/dev/null"

/-- Opens a file to write to, which is emptied unless `keep`. -/
def openFile (state : State) (name : Bytes) (keep : Bool) :
    Except Bytes (Location × State) :=
  let path : Path := ⟨name⟩
  let contents := if keep then (state.tree.read path).toOption.getD [] else []
  match state.tree.write path contents, state.tree.locate path with
  | .ok tree, .ok location => .ok (location, { state with tree })
  | .error fault, _ | _, .error fault =>
    let reason := match fault with
      | .isDirectory => "Is a directory"
      | .notDirectory => "Not a directory"
      | _ => "Directory nonexistent"
    .error (Utf8.ofString "cannot create " ++ name ++ Utf8.ofString (": " ++ reason))

/-- Sends the output of commands elsewhere, or what another stream number says. -/
def send (state : State) (redirect : Redirect) (sink : Sink) : State :=
  { state with streams := state.streams.set (redirect.stream.getD 1) sink }

def redirect (state : State) (redirect : Redirect) : Except Bytes State :=
  let name := state.textOf redirect.target
  match redirect.direction with
  | .read =>
    if name = nowhere then .ok { state with input := [] }
    else match state.tree.read ⟨name⟩ with
      | .ok contents => .ok { state with input := contents }
      | .error _ => .error (Utf8.ofString "cannot open " ++ name ++ Utf8.ofString ": No such file")
  | .duplicate =>
    match state.streams.ofNumber? name with
    | some sink => .ok (send state redirect sink)
    | none => .error (Utf8.ofString "Bad fd number")
  | direction =>
    if name = nowhere then .ok (send state redirect .nowhere)
    else match openFile state name (direction == .append) with
      | .ok (location, state) => .ok (send state redirect (.file location))
      | .error reason => .error reason

/-- Runs commands with redirections, which end with them. -/
def redirecting (redirects : List Redirect) (state : State) (next : State → State) : State :=
  match redirects.foldlM redirect state with
  | .error reason =>
    (state.writeTo state.streams.complaint (state.reproach reason)).withStatus 2
  | .ok opened =>
    { next opened with streams := state.streams, input := state.input }

/-- The directories whose programs are also known by their full names. -/
def programDirectories : List String := ["/bin/", "/usr/bin/"]

/-- The name of a program without the directory that programs are in. -/
def baseName (name : String) : String :=
  match programDirectories.find? (·.toList.isPrefixOf name.toList) with
  | some directory => String.ofList (name.toList.drop directory.length)
  | none => name

def callUnknown (name : Bytes) : Builtin := fun _ state =>
  if name.contains Path.slash && state.tree.exists ⟨name⟩ then
    (state, .failure (state.reproach (name ++ Utf8.ofString ": Permission denied")) 126)
  else (state, .failure (state.reproach (name ++ Utf8.ofString ": not found")) 127)

def call (name : Bytes) : Builtin :=
  match Builtin.find? (baseName (Utf8.display name)) with
  | some builtin => builtin
  | none => callUnknown name

def assignAll (state : State) (assignments : List (List Char × Word)) : State :=
  assignments.foldl (fun state (name, word) => state.assign name (state.textOf word)) state

def runSimple (assignments : List (List Char × Word)) (words : List Word) (state : State) :
    State :=
  match words.flatMap state.fields with
  | [] => (assignAll state assignments).withStatus 0
  | name :: arguments =>
    let (after, result) := call name arguments state
    let after := after.writeTo state.streams.output result.output
    (after.writeTo state.streams.complaint result.complaint).withStatus result.status

/-- What a part that runs on its own leaves to the shell around it: all but its variables. Only a
signal ends both. -/
def leave (outer inner : State) : State :=
  { outer with
    tree := inner.tree
    output := inner.output
    complaint := inner.complaint
    status := match inner.ended with
      | some (.code code) => code
      | _ => inner.status
    ended := match inner.ended with
      | some (.signal number) => some (.signal number)
      | _ => none }

def unlessEnded (state : State) (next : State → State) : State :=
  if state.ended.isSome then state else next state

namespace Command

def run : Command → State → State
  | .nothing, state => state
  | .simple assignments words redirects, state =>
    redirecting redirects state (runSimple assignments words)
  | .seq first second, state => unlessEnded (first.run state) second.run
  | .and first second, state =>
    unlessEnded (first.run state) fun state =>
      if state.status = 0 then second.run state else state
  | .or first second, state =>
    unlessEnded (first.run state) fun state =>
      if state.status = 0 then state else second.run state
  | .not command, state =>
    unlessEnded (command.run state) fun state =>
      state.withStatus (if state.status = 0 then 1 else 0)
  | .pipe first second, state =>
    let inner := first.run
      { state with output := [], streams := { state.streams with output := .output } }
    unlessEnded (leave state inner) fun left =>
      leave state (second.run { left with input := inner.output, output := state.output })
  | .branch condition consequence alternative, state =>
    unlessEnded (condition.run state) fun state =>
      if state.status = 0 then consequence.run state
      else alternative.run (state.withStatus 0)
  | .loop name words body, state =>
    (words.flatMap state.fields).foldl
      (fun state value => unlessEnded state fun state => body.run (state.assign name value))
      (state.withStatus 0)
  | .subshell command, state => leave state (command.run state)
  | .redirected command redirects, state => redirecting redirects state command.run

end Command

def runScript (script name : Bytes) (parameters : List Bytes) (tree : Tree) : Ended × Tree :=
  let state := State.start name parameters tree
  match (Utf8.decode? script).bind tokenize with
  | none =>
    let complaint := Utf8.ofString "Syntax error: Unterminated quoted string"
    (⟨.code 2, state.reproach complaint⟩, tree)
  | some tokens =>
    match Command.ofTokens? tokens with
    | none => (⟨.code 2, state.reproach (Utf8.ofString "Syntax error")⟩, tree)
    | some command =>
      let state := command.run state
      (⟨state.ended.getD (.code state.status), state.complaint⟩, state.tree)

def optionLetters : List Char := "cefiIlmnsVExvabu".toList

def isOption (argument : Bytes) : Bool :=
  argument.length ≥ 2 && argument.head? == some 0x2D

def readOptions (commandGiven : Bool) : List Bytes → Except Ended (Bool × List Bytes)
  | [] => .ok (commandGiven, [])
  | argument :: rest =>
    if argument = Utf8.ofString "--" then .ok (commandGiven, rest)
    else if isOption argument then
      let letters := (Utf8.display (argument.drop 1)).toList
      match letters.find? (!optionLetters.contains ·) with
      | some letter =>
        .error ⟨.code 2,
          Utf8.ofString ("sh: 0: Illegal option -" ++ String.singleton letter ++ "\n")⟩
      | none => readOptions (commandGiven || letters.contains 'c') rest
    else .ok (commandGiven, argument :: rest)

/-- The shell as a program: it runs the script given after the option for one, or else a script
file, or else nothing, because there is nothing to read. -/
def program (arguments : List Bytes) (tree : Tree) : Ended × Tree :=
  let name := Utf8.ofString "sh"
  match readOptions false arguments with
  | .error ended => (ended, tree)
  | .ok (true, script :: scriptName :: parameters) => runScript script scriptName parameters tree
  | .ok (true, [script]) => runScript script name [] tree
  | .ok (true, []) => (⟨.code 2, Utf8.ofString "sh: 0: -c requires an argument\n"⟩, tree)
  | .ok (false, []) => (⟨.code 0, []⟩, tree)
  | .ok (false, file :: parameters) =>
    match tree.read ⟨file⟩ with
    | .ok script => runScript script file parameters tree
    | .error _ =>
      (⟨.code 2, Utf8.ofString "sh: 0: cannot open " ++ file
        ++ Utf8.ofString ": No such file\n"⟩, tree)

end ScriptPlugins.Shell
