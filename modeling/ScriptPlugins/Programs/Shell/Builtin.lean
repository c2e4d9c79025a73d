import ScriptPlugins.Files.Change
import ScriptPlugins.Programs.Shell.Printed
import ScriptPlugins.Programs.Shell.State

/-!
# The commands that a shell knows

Each command gets its arguments and the state of the shell, and answers the state afterwards with
what it writes. Where that goes is not its business.
-/

namespace ScriptPlugins.Shell

open Text

/-- What a command writes, and its status. -/
structure Result where
  output : Bytes
  complaint : Bytes
  status : Nat
  deriving Repr, DecidableEq

namespace Result

def silent (status : Nat) : Result := ⟨[], [], status⟩

def success : Result := .silent 0

def failure (complaint : Bytes) (status : Nat) : Result := ⟨[], complaint, status⟩

end Result

abbrev Builtin := List Bytes → State → State × Result

namespace Builtin

def number? (text : Bytes) : Option Nat :=
  if text.isEmpty || !text.all (fun b => decide (0x30 ≤ b) && decide (b ≤ 0x39)) then none
  else some (text.foldl (fun value b => value * 10 + (b.toNat - 0x30)) 0)

/-- Ends the shell with a status, which is taken modulo 256. -/
def exit : Builtin := fun arguments state =>
  match arguments with
  | [] => ({ state with ended := some (.code state.status) }, .silent state.status)
  | text :: _ =>
    match number? text with
    | some code => ({ state with ended := some (.code (code % 256)) }, .silent (code % 256))
    | none =>
      ({ state with ended := some (.code 2) },
        .failure (state.reproach (Utf8.ofString "exit: Illegal number: " ++ text)) 2)

/-- A signal given by its number or its name, with or without the letters that all names share. -/
def signal? (text : Bytes) : Option Nat :=
  match number? text with
  | some number => some number
  | none =>
    let name := Utf8.display text
    (ExitStatus.signalNames.find? fun (_, known) => known == name || known == "SIG" ++ name).map
      (·.1)

def endBySignal (state : State) (target : Bytes) (number : Nat) : State × Result :=
  if target = State.digits State.processNumber then
    if number = 0 then (state, .success)
    else ({ state with ended := some (.signal number) }, .success)
  else (state, .failure (state.reproach (Utf8.ofString "kill: No such process")) 1)

/-- Sends a signal, which only the shell itself can get. -/
def kill : Builtin := fun arguments state =>
  match arguments with
  | [target] => endBySignal state target 15
  | [option, target] =>
    match signal? (option.drop 1) with
    | some number => endBySignal state target number
    | none => (state, .silent 2)
  | [_, name, target] =>
    match signal? name with
    | some number => endBySignal state target number
    | none => (state, .silent 2)
  | _ => (state, .silent 2)

/-- What a file name says to read: a hyphen stands for what comes in. -/
def contentsOf (state : State) (name : Bytes) : Except Fault Bytes :=
  if name = [0x2D] then .ok state.input else state.tree.read ⟨name⟩

/-- Copies files, or what comes in, to what goes out. -/
def cat : Builtin := fun arguments state =>
  if arguments.isEmpty then (state, ⟨state.input, [], 0⟩)
  else
    (state, arguments.foldl (fun result name =>
      match contentsOf state name with
      | .ok contents => { result with output := result.output ++ contents }
      | .error fault =>
        let reason := if fault = .isDirectory then "Is a directory" else "No such file or directory"
        { result with
          complaint := result.complaint ++ Utf8.ofString "cat: " ++ name
            ++ Utf8.ofString (": " ++ reason ++ "\n")
          status := 1 }) .success)

def touch : Builtin := fun arguments state =>
  arguments.foldl (fun (state, result) name =>
    if state.tree.exists ⟨name⟩ then (state, result)
    else match state.tree.write ⟨name⟩ [] with
      | .ok tree => ({ state with tree }, result)
      | .error _ => (state, .silent 1)) (state, .success)

/-- Makes directories, with `-p` those above them too. -/
def mkdir : Builtin := fun arguments state =>
  let deep := arguments.head? == some [0x2D, 0x70]
  (if deep then arguments.tail else arguments).foldl (fun (state, result) name =>
    if deep then
      match state.tree.makeDirectories ⟨name⟩ with
      | (.ok (), tree) => ({ state with tree }, result)
      | (.error _, tree) => ({ state with tree }, .silent 1)
    else match state.tree.makeDirectory ⟨name⟩ with
      | .ok tree => ({ state with tree }, result)
      | .error _ => (state, .silent 1)) (state, .success)

/-- Removes files, with `-r` directories too, and with `-f` whatever there is of them. -/
def rm : Builtin := fun arguments state =>
  let options := arguments.filter (·.head? == some 0x2D)
  let deep := options.any fun option => option.contains 0x72 || option.contains 0x52
  let forced := options.any (·.contains 0x66)
  (arguments.filter (·.head? != some 0x2D)).foldl (fun (state, result) name =>
    let removed :=
      if deep then state.tree.remove ⟨name⟩
      else if state.tree.isDirectory ⟨name⟩ then .error .isDirectory
      else state.tree.remove ⟨name⟩
    match removed with
    | .ok tree => ({ state with tree }, result)
    | .error fault =>
      if forced && fault = .notFound then (state, result) else (state, .silent 1))
    (state, .success)

def holds (state : State) : List Bytes → Bool
  | [] => false
  | [text] => !text.isEmpty
  | [operator, operand] =>
    match Utf8.display operator with
    | "!" => operand.isEmpty
    | "-n" => !operand.isEmpty
    | "-z" => operand.isEmpty
    | "-e" => state.tree.exists ⟨operand⟩
    | "-f" => state.tree.isFile ⟨operand⟩
    | "-d" => state.tree.isDirectory ⟨operand⟩
    | "-s" => (state.tree.read ⟨operand⟩).toOption.any (!·.isEmpty)
    | _ => false
  | first :: operator :: second :: _ =>
    match Utf8.display operator, number? first, number? second with
    | "=", _, _ => first == second
    | "!=", _, _ => first != second
    | "-eq", some m, some n => m == n
    | "-ne", some m, some n => m != n
    | "-lt", some m, some n => decide (m < n)
    | "-le", some m, some n => decide (m ≤ n)
    | "-gt", some m, some n => decide (m > n)
    | "-ge", some m, some n => decide (m ≥ n)
    | _, _, _ => false

def test : Builtin := fun arguments state =>
  (state, .silent (if holds state arguments then 0 else 1))

def echo : Builtin := fun arguments state =>
  (state, ⟨Printed.echo arguments, [], 0⟩)

def printf : Builtin := fun arguments state =>
  match arguments with
  | format :: arguments => (state, ⟨Printed.printf format arguments, [], 0⟩)
  | [] => (state, .failure (state.reproach (Utf8.ofString
      "printf: usage: printf format [arg ...]")) 2)

def shift : Builtin := fun arguments state =>
  let count := (arguments.head?.bind number?).getD 1
  if count ≤ state.parameters.length then
    ({ state with parameters := state.parameters.drop count }, .success)
  else
    ({ state with ended := some (.code 2) },
      .failure (state.reproach (Utf8.ofString "shift: can't shift that many")) 2)

def set : Builtin := fun arguments state =>
  match arguments with
  | [0x2D, 0x2D] :: parameters => ({ state with parameters }, .success)
  | parameters => ({ state with parameters }, .success)

def find? : String → Option Builtin
  | ":" | "true" => some fun _ state => (state, .success)
  | "false" => some fun _ state => (state, .silent 1)
  | "exit" | "return" => some exit
  | "sleep" => some fun _ state => (state, .success)
  | "rm" => some rm
  | "kill" => some kill
  | "cat" => some cat
  | "touch" => some touch
  | "mkdir" => some mkdir
  | "test" => some test
  | "[" => some fun arguments state => test arguments.dropLast state
  | "echo" => some echo
  | "printf" => some printf
  | "shift" => some shift
  | "set" => some set
  | _ => none

end Builtin

end ScriptPlugins.Shell
