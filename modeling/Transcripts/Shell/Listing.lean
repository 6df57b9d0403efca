import Transcripts.Shell.Syntax

/-!
# Commands as text

How commands are called in lists of jobs.
-/
namespace Transcripts.Shell.Listing

open Transcripts.Text (join)

/-- The mark of an operator on a parameter. -/
def markOf : ParamOp → String
  | .value => "\x7d"
  | .length => "\x7d"
  | .default e => if e then ":-" else "-"
  | .assign e => if e then ":=" else "="
  | .require e => if e then ":?" else "?"
  | .alternative e => if e then ":+" else "+"
  | .dropStart longest => if longest then "##" else "#"
  | .dropEnd longest => if longest then "%%" else "%"
  | .invalid => "\x7d"

mutual

/-- The parts of a word, of which the part before was quoted or not. -/
def parts (quoted : Bool) : List Part → Str
  | [] => if quoted then ['"'] else []
  | p :: rest =>
    let q := match p with
      | .text q _ => q
      | .param q .. => q
      | .command q _ => q
      | .arithmetic q _ => q
    (if q = quoted then [] else ['"']) ++ part p ++ parts q rest

def part : Part → Str
  | .text quoted s =>
    if quoted then s.flatMap fun c => if ['\'', '\\', '"', '$'].contains c then ['\\', c] else [c] else s
  | .param _ name op word =>
    "$\x7b".toList ++ (if op = .length then ['#'] else []) ++ name ++ (markOf op).toList
      ++ (match op with
        | .value => []
        | .length => []
        | .invalid => []
        | _ => parts false word ++ ['\x7d'])
  | .command _ _ => "$(...)".toList
  | .arithmetic _ ps => "$((".toList ++ parts false ps ++ "))".toList

end

def word (w : Word) : Str := parts false w

def words (ws : List Word) : Str := join [' '] (ws.map word)

def redirect : Redirect → Str
  | .mk fd op target =>
    let mark := match op with
      | .input => "<"
      | .output => ">"
      | .clobber => ">|"
      | .append => ">>"
      | .both => "<>"
      | .copyIn => "<&"
      | .copyOut => ">&"
      | .here => "<<..."
    if op = .here then mark.toList else Str.decimal fd ++ mark.toList ++ word target

mutual

def sequence : List Command → Str
  | [] => []
  | [c] => command c
  | c :: rest => command c ++ "; ".toList ++ sequence rest

def pipe : List Command → Str
  | [] => []
  | [c] => command c
  | c :: rest => command c ++ " | ".toList ++ pipe rest

/-- The branches of a condition, of which the last one is given as text. -/
def branches (otherwise : Str) : List (List Command × List Command) → Str
  | [] => []
  | (condition, body) :: rest =>
    "if ".toList ++ sequence condition ++ "; then ".toList ++ sequence body
      ++ (if rest.isEmpty then otherwise else "; else ".toList ++ branches otherwise rest)
      ++ "; fi".toList

def cases : List (List Word × List Command) → Str
  | [] => []
  | (patterns, body) :: rest =>
    (patterns.head?.map word).getD [] ++ ") ".toList ++ sequence body ++ ";; ".toList ++ cases rest

/-- The text of a command. -/
def command : Command → Str
  | .simple _ _ ws rs => words ws ++ rs.flatMap fun r => ' ' :: redirect r
  | .pipeline cs => pipe cs
  | .negate c => '!' :: command c
  | .and a b => command a ++ " && ".toList ++ command b
  | .or a b => command a ++ " || ".toList ++ command b
  | .background _ c => command c
  | .block body => sequence body
  | .subshell _ body => '(' :: sequence body ++ [')']
  | .redirected _ c _ => command c
  | .conditional bs none => branches [] bs
  | .conditional bs (some cs) => branches ("; else ".toList ++ sequence cs) bs
  | .loop onSuccess condition body =>
    (if onSuccess then "while ".toList else "until ".toList) ++ sequence condition ++ "; do ".toList
      ++ sequence body ++ "; done".toList
  | .each _ name items body =>
    "for ".toList ++ name ++ " in ".toList ++ (match items with
      | some ws => words ws
      | none => "\"$\x7b@\x7d\"".toList) ++ "; do ".toList ++ sequence body ++ "; done".toList
  | .choose _ w items => "case ".toList ++ word w ++ " in ".toList ++ cases items ++ "esac".toList
  | .define _ name _ => name ++ "() \x7b ... \x7d".toList

end

end Transcripts.Shell.Listing
