/-!
# How a program ended

A program either gives a code, where zero means success, or is stopped by a signal.
-/

namespace ScriptPlugins

inductive ExitStatus where
  | code (value : Nat)
  | signal (number : Nat)
  deriving Repr, DecidableEq

namespace ExitStatus

def isSuccess (status : ExitStatus) : Bool :=
  status == .code 0

def signalNames : List (Nat × String) :=
  [(1, "SIGHUP"), (2, "SIGINT"), (3, "SIGQUIT"), (4, "SIGILL"), (5, "SIGTRAP"), (6, "SIGABRT"),
   (7, "SIGBUS"), (8, "SIGFPE"), (9, "SIGKILL"), (10, "SIGUSR1"), (11, "SIGSEGV"), (12, "SIGUSR2"),
   (13, "SIGPIPE"), (14, "SIGALRM"), (15, "SIGTERM"), (16, "SIGSTKFLT"), (17, "SIGCHLD"),
   (18, "SIGCONT"), (19, "SIGSTOP"), (20, "SIGTSTP"), (21, "SIGTTIN"), (22, "SIGTTOU"),
   (23, "SIGURG"), (24, "SIGXCPU"), (25, "SIGXFSZ"), (26, "SIGVTALRM"), (27, "SIGPROF"),
   (28, "SIGWINCH"), (29, "SIGIO"), (30, "SIGPWR"), (31, "SIGSYS")]

def message : ExitStatus → String
  | .code value => "exit status: " ++ toString value
  | .signal number =>
    match signalNames.lookup number with
    | some name => "signal: " ++ toString number ++ " (" ++ name ++ ")"
    | none => "signal: " ++ toString number

end ExitStatus

end ScriptPlugins
