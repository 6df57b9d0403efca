/-!
# Signals

What the system and other processes tell a process: a number with a name, some words, and what comes of
it if the process makes no provision.
-/
namespace Transcripts

structure Signal where
  number : Nat
deriving Repr, DecidableEq

namespace Signal

def hangup : Signal := ⟨1⟩
def interrupt : Signal := ⟨2⟩
def quit : Signal := ⟨3⟩
def abort : Signal := ⟨6⟩
def kill : Signal := ⟨9⟩
def pipe : Signal := ⟨13⟩
def terminate : Signal := ⟨15⟩
def child : Signal := ⟨17⟩
def continue_ : Signal := ⟨18⟩
def stop : Signal := ⟨19⟩
/-- The stop that is typed. -/
def suspend : Signal := ⟨20⟩
/-- A process in the background reads from the terminal. -/
def backgroundRead : Signal := ⟨21⟩
/-- A process in the background writes to the terminal. -/
def backgroundWrite : Signal := ⟨22⟩

/-- The names of signals and what is said of a process that one has ended, by number from zero. -/
def table : List (String × String) :=
  [("EXIT", ""), ("HUP", "Hangup"), ("INT", "Interrupt"), ("QUIT", "Quit"),
    ("ILL", "Illegal instruction"), ("TRAP", "Trace/breakpoint trap"), ("ABRT", "Aborted"),
    ("BUS", "Bus error"), ("FPE", "Floating point exception"), ("KILL", "Killed"),
    ("USR1", "User defined signal 1"), ("SEGV", "Segmentation fault"), ("USR2", "User defined signal 2"),
    ("PIPE", "Broken pipe"), ("ALRM", "Alarm clock"), ("TERM", "Terminated"),
    ("STKFLT", "Stack fault"), ("CHLD", "Child exited"), ("CONT", "Continued"),
    ("STOP", "Stopped (signal)"), ("TSTP", "Stopped"), ("TTIN", "Stopped (tty input)"),
    ("TTOU", "Stopped (tty output)"), ("URG", "Urgent I/O condition"),
    ("XCPU", "CPU time limit exceeded"), ("XFSZ", "File size limit exceeded"),
    ("VTALRM", "Virtual timer expired"), ("PROF", "Profiling timer expired"),
    ("WINCH", "Window changed"), ("POLL", "I/O possible"), ("PWR", "Power failure"),
    ("SYS", "Bad system call")]

/-- The number of the first signal without a fixed meaning, and of the last one. -/
def realTime : Nat × Nat := (34, 64)

/-- The name of a signal. -/
def name? (s : Signal) : Option String :=
  match table[s.number]? with
  | some (name, _) => some name
  | none =>
    let (first, last) := realTime
    if s.number = first then some "RTMIN"
    else if s.number = last then some "RTMAX"
    else if first < s.number && s.number < last then
      if s.number ≤ first + 15 then some ("RTMIN+" ++ toString (s.number - first))
      else some ("RTMAX-" ++ toString (last - s.number))
    else none

/-- What is said of a process that the signal has ended. -/
def words (s : Signal) : String :=
  match table[s.number]? with
  | some (_, words) => words
  | none =>
    let (first, last) := realTime
    if first ≤ s.number && s.number ≤ last then "Real-time signal " ++ toString (s.number - first)
    else "Unknown signal " ++ toString s.number

/-- The signal of a name. -/
def ofName? (name : String) : Option Signal :=
  (List.range (realTime.2 + 1)).findSome? fun n =>
    if (⟨n⟩ : Signal).name? = some name then some ⟨n⟩ else none

/-- What comes of a signal without a provision for it. -/
inductive Effect where
  | ends | passes | stops | continues
deriving Repr, DecidableEq

def effect (s : Signal) : Effect :=
  if [17, 23, 28].contains s.number then .passes
  else if s.number = 18 then .continues
  else if [19, 20, 21, 22].contains s.number then .stops
  else .ends

/-- Whether a process can make a provision for the signal. -/
def isAvoidable (s : Signal) : Bool := s.number != 9 && s.number != 19

end Signal

end Transcripts
