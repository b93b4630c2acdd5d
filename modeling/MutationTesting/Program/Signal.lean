/-!
The signals that a process can raise against itself, and what they do when nobody handles them.
-/

namespace MutationTesting

inductive Signal where
  | hup | int | quit | ill | trap | abrt | bus | fpe | kill | usr1 | segv | usr2 | pipe | alrm
  | term | stkflt | chld | cont | stop | tstp | ttin | ttou | urg | xcpu | xfsz | vtalrm | prof
  | winch | io | pwr | sys
deriving DecidableEq, Repr

/-- What a signal does to a process that does not handle it. -/
inductive Disposition where
  | terminate
  | ignore
  | suspend
deriving DecidableEq, Repr

namespace Signal

/-- All signals in the order of their numbers. -/
def all : List Signal :=
  [.hup, .int, .quit, .ill, .trap, .abrt, .bus, .fpe, .kill, .usr1, .segv, .usr2, .pipe,
    .alrm, .term, .stkflt, .chld, .cont, .stop, .tstp, .ttin, .ttou, .urg, .xcpu, .xfsz,
    .vtalrm, .prof, .winch, .io, .pwr, .sys]

def name : Signal → String
  | .hup => "SIGHUP"
  | .int => "SIGINT"
  | .quit => "SIGQUIT"
  | .ill => "SIGILL"
  | .trap => "SIGTRAP"
  | .abrt => "SIGABRT"
  | .bus => "SIGBUS"
  | .fpe => "SIGFPE"
  | .kill => "SIGKILL"
  | .usr1 => "SIGUSR1"
  | .segv => "SIGSEGV"
  | .usr2 => "SIGUSR2"
  | .pipe => "SIGPIPE"
  | .alrm => "SIGALRM"
  | .term => "SIGTERM"
  | .stkflt => "SIGSTKFLT"
  | .chld => "SIGCHLD"
  | .cont => "SIGCONT"
  | .stop => "SIGSTOP"
  | .tstp => "SIGTSTP"
  | .ttin => "SIGTTIN"
  | .ttou => "SIGTTOU"
  | .urg => "SIGURG"
  | .xcpu => "SIGXCPU"
  | .xfsz => "SIGXFSZ"
  | .vtalrm => "SIGVTALRM"
  | .prof => "SIGPROF"
  | .winch => "SIGWINCH"
  | .io => "SIGIO"
  | .pwr => "SIGPWR"
  | .sys => "SIGSYS"

def ofName? (text : String) : Option Signal := all.find? (·.name == text)

def disposition : Signal → Disposition
  | .chld | .cont | .urg | .winch => .ignore
  | .stop | .tstp | .ttin | .ttou => .suspend
  | _ => .terminate

end Signal

end MutationTesting
