import Transcripts.Text.Utf8

/-!
# Settings of terminals

What a terminal does with bytes on their way, as modes that are on or off, and the bytes that it takes for
commands to itself.
-/
namespace Transcripts

open Transcripts.Text (Bytes)

/-- A mode of a terminal, by the name that it is switched by. -/
inductive Mode where
  | parenb | parodd | cmspar | cs5 | cs6 | cs7 | cs8 | hupcl | cstopb | cread | clocal | crtscts
  | ignbrk | brkint | ignpar | parmrk | inpck | istrip | inlcr | igncr | icrnl | ixon | ixoff | iuclc
  | ixany | imaxbel | iutf8
  | opost | olcuc | ocrnl | onlcr | onocr | onlret | ofill | ofdel | nl1 | nl0 | cr3 | cr2 | cr1 | cr0
  | tab3 | tab2 | tab1 | tab0 | bs1 | bs0 | vt1 | vt0 | ff1 | ff0
  | isig | icanon | iexten | echo | echoe | echok | echonl | noflsh | xcase | tostop | echoprt | echoctl
  | echoke | flusho | extproc
deriving Repr, DecidableEq

namespace Mode

/-- Modes of which exactly one is on. -/
def choices : List (List Mode) :=
  [[cs5, cs6, cs7, cs8], [nl0, nl1], [cr0, cr1, cr2, cr3], [tab0, tab1, tab2, tab3], [bs0, bs1],
    [vt0, vt1], [ff0, ff1]]

/-- The choice that a mode belongs to. -/
def choice? (m : Mode) : Option (List Mode) := choices.find? (·.contains m)

end Mode

/-- A byte that a terminal takes for a command, or a number that it waits by. -/
inductive Key where
  | intr | quit | erase | kill | eof | eol | eol2 | swtch | start | stop | susp | rprnt | werase | lnext
  | discard | min | time
deriving Repr, DecidableEq

/-- The modes that are on, and the bytes of the keys; a key without a byte is zero. -/
structure Settings where
  modes : List Mode
  keys : List (Key × Nat)
deriving Repr, DecidableEq

namespace Settings

/-- The keys of a new terminal. -/
def usualKeys : List (Key × Nat) :=
  [(.intr, 0x03), (.quit, 0x1C), (.erase, 0x7F), (.kill, 0x15), (.eof, 0x04), (.eol, 0), (.eol2, 0),
    (.swtch, 0), (.start, 0x11), (.stop, 0x13), (.susp, 0x1A), (.rprnt, 0x12), (.werase, 0x17),
    (.lnext, 0x16), (.discard, 0x0F), (.min, 1), (.time, 0)]

/-- The settings of a new terminal. -/
def usual : Settings :=
  { modes :=
      [.cs8, .cread, .icrnl, .ixon, .opost, .onlcr, .nl0, .cr0, .tab0, .bs0, .vt0, .ff0, .isig, .icanon,
        .iexten, .echo, .echoe, .echok, .echoctl, .echoke]
    keys := usualKeys }

def has (s : Settings) (m : Mode) : Bool := s.modes.contains m

/-- Switches a mode on; others of its choice go off. -/
def switchOn (s : Settings) (m : Mode) : Settings :=
  let others := (m.choice?.getD []) ++ [m]
  { s with modes := s.modes.filter (!others.contains ·) ++ [m] }

def switchOff (s : Settings) (m : Mode) : Settings := { s with modes := s.modes.filter (· != m) }

def switch (s : Settings) (m : Mode) (on : Bool) : Settings :=
  if on then s.switchOn m else s.switchOff m

def key (s : Settings) (k : Key) : Nat := (s.keys.lookup k).getD 0

def setKey (s : Settings) (k : Key) (n : Nat) : Settings :=
  { s with keys := s.keys.map fun (j, m) => if j = k then (j, n) else (j, m) }

/-- Whether a byte is the one of a key. -/
def isKey (s : Settings) (k : Key) (b : UInt8) : Bool := b != 0 && s.key k == b.toNat

end Settings

end Transcripts
