/-!
# Exit statuses

How a process ended: with a code of its own, or by a signal.
-/

namespace ConformanceGate

inductive ExitStatus
  | exited (code : Nat)
  | signaled (signal : Nat)
deriving DecidableEq

namespace ExitStatus

/-- Only the code zero is success. -/
def success : ExitStatus → Bool
  | .exited code => code == 0
  | .signaled _ => false

def signalNames : List (Nat × String) := [
  (1, "SIGHUP"), (2, "SIGINT"), (3, "SIGQUIT"), (4, "SIGILL"), (5, "SIGTRAP"), (6, "SIGABRT"),
  (7, "SIGBUS"), (8, "SIGFPE"), (9, "SIGKILL"), (10, "SIGUSR1"), (11, "SIGSEGV"), (12, "SIGUSR2"),
  (13, "SIGPIPE"), (14, "SIGALRM"), (15, "SIGTERM"), (16, "SIGSTKFLT"), (17, "SIGCHLD"),
  (18, "SIGCONT"), (19, "SIGSTOP"), (20, "SIGTSTP"), (21, "SIGTTIN"), (22, "SIGTTOU"),
  (23, "SIGURG"), (24, "SIGXCPU"), (25, "SIGXFSZ"), (26, "SIGVTALRM"), (27, "SIGPROF"),
  (28, "SIGWINCH"), (29, "SIGIO"), (30, "SIGPWR"), (31, "SIGSYS")]

/-- The text of a status. Signals without a name show only their number. -/
def text : ExitStatus → String
  | .exited code => "exit status: " ++ code.repr
  | .signaled signal =>
    let name := (signalNames.lookup signal).elim "" fun name => " (" ++ name ++ ")"
    "signal: " ++ signal.repr ++ name

end ExitStatus
end ConformanceGate
