import Transcripts.Shell.Act
import Transcripts.Shell.Fields
import Transcripts.Shell.Reader

/-!
# What the parts of a shell ask of each other

Words hold commands, commands hold words, and some commands run scripts.  Each part of a shell gets the
others as functions, which go one level less deep than itself.
-/
namespace Transcripts.Shell

/-- How a command is run. -/
structure Setting where
  /-- Something depends on its success, so that a failure is no reason to end. -/
  tested : Bool := false
  /-- Nothing is done after it. -/
  last : Bool := false
deriving Repr, DecidableEq

structure Services where
  /-- Runs a command. -/
  exec : Setting → Command → Act Nat
  /-- Expands a word; what it expands to may separate fields, or not. -/
  expand : Bool → Word → Act (List Piece)
  /-- Runs the commands of a script. -/
  script : Setting → Source → Act Nat

namespace Services

/-- The status when something goes too deep. -/
def depthStatus : Nat := 2

/-- No services: whatever is asked goes too deep. -/
def nothing : Services :=
  ⟨fun _ _ => Act.stop (.exited depthStatus), fun _ _ => Act.stop (.exited depthStatus),
    fun _ _ => Act.stop (.exited depthStatus)⟩

/-- Runs commands in order; the status is that of the last one. -/
def execAll (o : Services) (s : Setting) : List Command → Act Nat
  | [] => return 0
  | [c] => o.exec s c
  | c :: rest => do
    let _ ← o.exec { s with last := false } c
    execAll o s rest

/-! ## Signals -/

/-- The status of what a signal has ended. -/
def signalStatus (s : Signal) : Nat := 128 + s.number

/-- Ends by a signal as if no provision had been made for it. -/
def die {α : Type} (s : Signal) : Act α := do
  Act.ask (Process.provide s .none_)
  let st ← Act.get
  let v ← Act.view
  let _ ← Act.ask (Process.send (.process v.pid) s.number)
  Act.stop (.exited (if st.status = 0 then signalStatus s else st.status))

/-- Takes up the signals that came. -/
def takeUp : Act Unit := do
  let more ← Act.ask Process.caught
  if more.isEmpty then return ()
  Act.modify fun st => { st with signals := st.signals ++ more.filter (!st.signals.contains ·) }

/-- Whether an interrupt came that nothing is done about. -/
def isInterrupted (st : State) : Bool :=
  st.signals.contains .interrupt && (st.trap? Signal.interrupt.number).isNone

/-- Breaks off if an interrupt came that nothing is done about. -/
def checkInterrupt : Act Unit := do
  let st ← Act.get
  if isInterrupted st then
    Act.set { st with signals := st.signals.filter (· != .interrupt) }
    if st.isInteractive && !st.isCopy then
      Act.modify ({ · with status := signalStatus .interrupt })
      Act.stop .interrupted
    else die .interrupt

/-- Does what is to be done about each of some signals. -/
def meetAll (o : Services) : List Signal → Act Unit
  | [] => return ()
  | s :: rest => do
    let st ← Act.get
    match st.trap? s.number with
    | some (c :: cs) => do
      Act.set { st with before := some (st.before.getD st.status) }
      let _ ← o.script {} { rest := c :: cs, aliases := st.aliases }
      Act.modify ({ · with status := st.status, before := st.before })
      meetAll o rest
    | _ => meetAll o rest

/-- Meets the signals that came. -/
def meet (o : Services) : Act Unit := do
  takeUp
  checkInterrupt
  let st ← Act.get
  if st.signals.isEmpty then return ()
  Act.set { st with signals := [] }
  o.meetAll (st.signals.mergeSort fun a b => a.number ≤ b.number)

end Services

end Transcripts.Shell
