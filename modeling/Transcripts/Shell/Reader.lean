import Transcripts.Shell.Source

/-!
# Reading scripts

A script is read line by line, so that what stands after the last line that is run is never looked at.
Inside a compound command the end of a line ends nothing but the current command.
-/
namespace Transcripts.Shell

open Parse

/-- Whether a character ends a word. -/
def isMeta (c : Char) : Bool := [' ', '\t', '\n', ';', '&', '|', '<', '>', '(', ')'].contains c

/-! ## Words -/

/-- Where a part of a word stands. -/
inductive Position where
  | bare
  /-- Between double quotes. -/
  | double
  /-- In a parameter's braces. -/
  | brace (quoted : Bool)
  /-- In an arithmetic expression, inside some parentheses. -/
  | arithmetic (depth : Nat)
  /-- In a text inside the script. -/
  | here
deriving Repr, DecidableEq

namespace Position

def quoted : Position → Bool
  | bare => false
  | brace q => q
  | _ => true

/-- Whether a word ends before some character. -/
def ends (p : Position) (c : Char) : Bool :=
  match p with
  | bare => isMeta c
  | double => c == '"'
  | brace _ => c == '\x7d'
  | _ => false

/-- What is wrong if the script ends here. -/
def unfinished? : Position → Option String
  | bare => none
  | here => none
  | double => some "Unterminated quoted string"
  | brace _ => some "Missing '\x7d'"
  | arithmetic _ => some "Missing '))'"

/-- Whether a backslash before a character takes the character's meaning away. -/
def escapes (p : Position) (c : Char) : Bool :=
  match p with
  | bare => true
  | brace false => true
  | double => ['$', '\x60', '"', '\\'].contains c
  | brace true => ['$', '\x60', '"', '\\', '\x7d'].contains c
  | _ => ['$', '\x60', '\\'].contains c

/-- Whether quotes are quotes. -/
def hasQuotes : Position → Bool
  | bare => true
  | double => true
  | brace _ => true
  | _ => false

/-- Whether a character is no more than itself inside a word. -/
def isOrdinary (p : Position) (c : Char) : Bool :=
  !p.ends c && !(['\\', '\'', '"', '$', '\x60', '(', ')'].contains c)

end Position

/-- The operator after a parameter's name in braces. -/
def parameterOp : Parse ParamOp := do
  let alsoEmpty ← accept ':'
  match ← peek with
  | some '-' => skip 1; return .default alsoEmpty
  | some '=' => skip 1; return .assign alsoEmpty
  | some '?' => skip 1; return .require alsoEmpty
  | some '+' => skip 1; return .alternative alsoEmpty
  | some '#' =>
    if alsoEmpty then return .invalid
    skip 1; return .dropStart (← accept '#')
  | some '%' =>
    if alsoEmpty then return .invalid
    skip 1; return .dropEnd (← accept '%')
  | some '\x7d' =>
    if alsoEmpty then
      skip 1
      return .invalid
    else return .value
  | _ => return .invalid

/-- The rest of a redirection's operator, after its first sign. -/
def redirectOp (fd : Option Nat) (first : Char) : Parse Token := do
  if first = '>' then
    let token (op : RedirectOp) : Token := .redirect (fd.getD 1) op false
    if ← accept '>' then return token .append
    if ← accept '|' then return token .clobber
    if ← accept '&' then return token .copyOut
    return token .output
  else
    let token (op : RedirectOp) (tabs : Bool) : Token := .redirect (fd.getD 0) op tabs
    if ← accept '<' then
      if ← accept '-' then return token .here true
      return token .here false
    if ← accept '&' then return token .copyIn false
    if ← accept '>' then return token .both false
    return token .input false

/-- The token that is given by signs. -/
def signToken (c : Char) : Parse (Option Token) := do
  let one (second : Char) (two one : Token) : Parse (Option Token) := do
    skip 1
    if ← accept second then return some two
    return some one
  match c with
  | '\n' => skip 1; return some .newline
  | '&' => one '&' .both .ampersand
  | '|' => one '|' .either .bar
  | ';' => one ';' .double .semicolon
  | '(' => skip 1; return some .open_
  | ')' => skip 1; return some .close
  | _ => return none

/-- Passes over blanks and a comment, and tells whether an alias has ended that lets the next word be
one. -/
def blanks : Nat → Parse Bool
  | 0 => return false
  | fuel + 1 => do
    let (s, goesOn) := (← get).endFrames
    set s
    match ← peek with
    | some ' ' => do
      skip 1
      return goesOn || (← blanks fuel)
    | some '\t' => do
      skip 1
      return goesOn || (← blanks fuel)
    | some '#' => do
      let _ ← run (· != '\n')
      return goesOn || (← blanks fuel)
    | _ => return goesOn

/-- How a token is read: whether ends of lines are passed over, and whether words may be keywords or
aliases. -/
structure Manner where
  lines : Bool := false
  keywords : Bool := false
  aliases : Bool := false

/-- Where a command may start, also on a later line. -/
def Manner.command : Manner := ⟨true, true, true⟩

/-- Reads the same token once more. -/
def push (t : Token) : Parse Unit := modify ({ · with pushed := some t })

/-- Refuses a token. -/
def refuse {α : Type} (t : Token) : Parse α := fail (t.name ++ " unexpected")

/-- Refuses a token where another one has to be. -/
def refuseFor {α : Type} (t : Token) (other : String) : Parse α :=
  fail (String.ofList ((t.name ++ " unexpected (expecting " ++ other ++ ")").toList.take 63))

def Token.isKeyword (t : Token) (name : String) : Bool :=
  match t with
  | keyword n => n == name
  | _ => false

/-- Builtin commands that no function can be called by. -/
def reservedNames : List String :=
  [":", ".", "break", "continue", "eval", "exec", "exit", "export", "readonly", "return", "set", "shift",
    "times", "trap", "unset"]

/-- The descriptor that a word stands for where one is copied; none closes it. -/
def isDescriptorWord (w : Word) : Bool :=
  match Word.plain? w with
  | some [c] => c.isDigit || c == '-'
  | some _ => false
  | none => true

/-- Where commands end: with their line, or with the body that they make, which may be empty or not. -/
inductive Reach where
  | line | body | anyBody
deriving Repr, DecidableEq

mutual

/-- The parts of a word up to its end. -/
def parts (p : Position) : Nat → Parse Word
  | 0 => fail "word too long"
  | fuel + 1 => do
    match ← peek with
    | none =>
      match p.unfinished? with
      | some reason => fail reason
      | none => return []
    | some c =>
      if p.ends c then return []
      else if c = '\\' then do
        skip 1
        match ← peekRaw with
        | none => return .text true ['\\'] :: (← parts p fuel)
        | some d =>
          if p.escapes d then do
            skip 1
            return .text true [d] :: (← parts p fuel)
          else return .text true ['\\'] :: (← parts p fuel)
      else if c = '\'' && p.hasQuotes && !p.quoted then do
        skip 1
        let body ← run (· != '\'')
        match ← peekRaw with
        | none => fail "Unterminated quoted string"
        | some _ => do
          skip 1
          return .text true body :: (← parts p fuel)
      else if c = '"' && (p.hasQuotes || p == .brace true) then do
        skip 1
        let body ← parts .double fuel
        skip 1
        return .text true [] :: body ++ (← parts p fuel)
      else if c = '$' then do
        skip 1
        let part ← dollar p.quoted fuel
        return part :: (← parts p fuel)
      else if c = '\x60' then do
        skip 1
        match backquoted p.quoted (← get).rest with
        | none => atEnd (fail "EOF in backquote substitution")
        | some (body, rest) => do
          let s ← get
          let inner ← script fuel { rest := body, line := s.line, aliases := s.aliases }
          skip (s.rest.length - rest.length)
          return .command p.quoted inner :: (← parts p fuel)
      else
        match p with
        | .arithmetic depth =>
          if c = '(' then do
            skip 1
            return .text true [c] :: (← parts (.arithmetic (depth + 1)) fuel)
          else if c = ')' then do
            skip 1
            match depth with
            | 0 => do
              if ← accept ')' then return []
              return .text true [c] :: (← parts p fuel)
            | depth + 1 => return .text true [c] :: (← parts (.arithmetic depth) fuel)
          else do
            let text ← run (Position.isOrdinary p)
            let text ← if text.isEmpty then do
              skip 1
              pure [c] else pure text
            return .text true text :: (← parts p fuel)
        | p => do
          let text ← run (Position.isOrdinary p)
          let text ← if text.isEmpty then do
            skip 1
            pure [c] else pure text
          return .text p.quoted text :: (← parts p fuel)
termination_by structural n => n

/-- What a dollar sign introduces. -/
def dollar (quoted : Bool) : Nat → Parse Part
  | 0 => fail "word too long"
  | fuel + 1 => do
    match ← peek with
    | some '\x7b' => skip 1; braced quoted fuel
    | some '(' => do
      skip 1
      if ← accept '(' then return .arithmetic quoted (← parts (.arithmetic 0) fuel)
      let body ← commands .anyBody fuel
      match ← token {} fuel with
      | .close => return .command quoted body
      | t => refuseFor t "\")\""
    | some c =>
      if isNameStart c then do
        let name ← runJoined isNameChar fuel
        return .param quoted name .value []
      else if c.isDigit || isSpecial c then do
        skip 1
        return .param quoted [c] .value []
      else return .text true ['$']
    | none => return .text true ['$']
termination_by structural n => n

/-- A parameter in braces, after the opening one. -/
def braced (quoted : Bool) : Nat → Parse Part
  | 0 => fail "word too long"
  | fuel + 1 => do
    let finish (name : Str) (op : ParamOp) (word : Word) : Parse Part := do
      match ← peek with
      | some '\x7d' => do
        skip 1
        return .param quoted name op word
      | _ => fail "Missing '\x7d'"
    let bad (name : Str) : Parse Part := do
      let word ← parts (.brace quoted) fuel
      finish name .invalid word
    match ← peek with
    | none => fail "Missing '\x7d'"
    | some c =>
      let named (name : Str) : Parse Part := do
        let op ← parameterOp
        let word ← match op with
          | .value => pure []
          | .dropStart _ => parts (.brace false) fuel
          | .dropEnd _ => parts (.brace false) fuel
          | _ => parts (.brace quoted) fuel
        finish name op word
      if isNameStart c then named (← runJoined isNameChar fuel)
      else if c.isDigit then named (← runJoined Char.isDigit fuel)
      else if c = '\x7d' then bad []
      else if c = '#' then do
        skip 1
        match ← peek with
        | none => fail "Missing '\x7d'"
        | some '\x7d' => named ['#']
        | some d =>
          if isNameChar d then do
            let name ← runJoined isNameChar fuel
            if (← peek) = some '\x7d' then finish name .length []
            else bad name
          else do
            let rest := (← get).rest.drop 1
            if rest.head? = some '\x7d' then do
              skip 1
              if isSpecial d then finish [d] .length [] else bad [d]
            else named ['#']
      else if isSpecial c then do
        skip 1
        named [c]
      else bad []
termination_by structural n => n

/-- All commands of a text. -/
def script (fuel : Nat) (s : Source) : Parse (List Command) :=
  match fuel with
  | 0 => fail "script too long"
  | fuel + 1 =>
    match (do
        let body ← commands .anyBody fuel
        match ← token {} fuel with
        | .finish => return body
        | t => refuse t : Parse (List Command)) s with
    | .ok (body, _) => return body
    | .error e => throw e
termination_by structural fuel

/-- The next token as it stands. -/
def rawToken : Nat → Parse (Token × Bool)
  | 0 => fail "script too long"
  | fuel + 1 => do
    match (← get).pushed with
    | some t => do
      modify ({ · with pushed := none })
      return (t, false)
    | none => do
      let goesOn ← blanks rounds
      match ← peek with
      | none => return (.finish, goesOn)
      | some c =>
        match ← signToken c with
        | some t => return (t, goesOn)
        | none =>
          if c = '<' ∨ c = '>' then do
            skip 1
            return (← redirectOp none c, goesOn)
          else do
            let w ← parts .bare fuel
            match w, (← get).rest with
            | [.text false [d]], e :: _ =>
              if d.isDigit && (e == '<' || e == '>') then do
                skip 1
                return (← redirectOp (some (d.toNat - '0'.toNat)) e, goesOn)
              else return (.word w, goesOn)
            | _, _ => return (.word w, goesOn)
termination_by structural n => n

/-- The next token: words may be keywords, or stand for other text. -/
def token (m : Manner) : Nat → Parse Token
  | 0 => fail "script too long"
  | fuel + 1 => do
    let (t, goesOn) ← rawToken fuel
    match t with
    | .newline => if m.lines then token m fuel else return t
    | .word w =>
      match Word.plain? w with
      | none => return t
      | some text =>
        let name := String.ofList text
        if m.keywords && keywords.contains name then return .keyword name
        else if m.aliases || goesOn then
          match (← get).alias? text with
          | some value => do
            modify fun s => s.expandAlias text value
            token { m with aliases := true } fuel
          | none => return t
        else return t
    | _ => return t
termination_by structural n => n

/-- Commands up to where they end: of one line, of a body, or of a body that may be empty. -/
def commands (reach : Reach) : Nat → Parse (List Command)
  | 0 => fail "script too long"
  | fuel + 1 => do
    let t ← token {} fuel
    match t with
    | .newline =>
      if reach = .line then return []
      commands reach fuel
    | .finish => do
      push t
      if reach = .body then refuse t
      return []
    | _ => do
      push t
      let t ← token .command fuel
      push t
      if reach == .anyBody && t.endsList then return []
      let line := (← get).line
      let c ← andOr fuel
      let t ← token {} fuel
      let c := match t with
        | .ampersand => .background line c
        | _ => c
      match t with
      | .newline => push t; return c :: (← moreCommands reach fuel)
      | .finish => push t; return c :: (← moreCommands reach fuel)
      | .ampersand => return c :: (← moreCommands reach fuel)
      | .semicolon => return c :: (← moreCommands reach fuel)
      | t => do
        if reach = .line then refuse t
        push t
        return [c]
termination_by structural n => n

/-- Commands after a first one. -/
def moreCommands (reach : Reach) : Nat → Parse (List Command)
  | 0 => fail "script too long"
  | fuel + 1 => do
    let t ← token {} fuel
    match t with
    | .newline => if reach = .line then return [] else commands .anyBody fuel
    | .finish => do
      push t
      return []
    | _ => do
      push t
      if reach = .line then lineCommands fuel else commands .anyBody fuel
termination_by structural n => n

/-- Commands of the same line. -/
def lineCommands : Nat → Parse (List Command)
  | 0 => fail "script too long"
  | fuel + 1 => commands .line fuel
termination_by structural n => n

/-- Pipelines between which success decides. -/
def andOr : Nat → Parse Command
  | 0 => fail "script too long"
  | fuel + 1 => do
    let first ← pipeline {} fuel
    moreAndOr first fuel
termination_by structural n => n

def moreAndOr (first : Command) : Nat → Parse Command
  | 0 => fail "script too long"
  | fuel + 1 => do
    match ← token {} fuel with
    | .both => do
      let c ← pipeline .command fuel
      moreAndOr (.and first c) fuel
    | .either => do
      let c ← pipeline .command fuel
      moreAndOr (.or first c) fuel
    | t => do
      push t
      return first
termination_by structural n => n

def pipeline (m : Manner) : Nat → Parse Command
  | 0 => fail "script too long"
  | fuel + 1 => do
    let t ← token m fuel
    let negated := t.isKeyword "!"
    if negated then do
      let t ← token ⟨false, true, true⟩ fuel
      push t
    else push t
    let c ← command {} fuel
    let cs ← pipedCommands fuel
    let c := if cs.isEmpty then c else .pipeline (c :: cs)
    return if negated then .negate c else c
termination_by structural n => n

def pipedCommands : Nat → Parse (List Command)
  | 0 => fail "script too long"
  | fuel + 1 => do
    match ← token {} fuel with
    | .bar => do
      let c ← command .command fuel
      return c :: (← pipedCommands fuel)
    | t => do
      push t
      return []
termination_by structural n => n

/-- Passes over a keyword that has to come next. -/
def expect (m : Manner) (name : String) : Nat → Parse Unit
  | 0 => fail "script too long"
  | fuel + 1 => do
    let t ← token m fuel
    if t.isKeyword name then return ()
    refuseFor t ("\"" ++ name ++ "\"")
termination_by structural n => n

def command (m : Manner) : Nat → Parse Command
  | 0 => fail "script too long"
  | fuel + 1 => do
    let line := (← get).line
    let t ← token m fuel
    match t with
    | .keyword "if" => do
      let branches ← branch fuel
      withRedirects line branches fuel
    | .keyword "while" => do
      let condition ← commands .body fuel
      expect {} "do" fuel
      let body ← commands .body fuel
      expect {} "done" fuel
      withRedirects line (.loop true condition body) fuel
    | .keyword "until" => do
      let condition ← commands .body fuel
      expect {} "do" fuel
      let body ← commands .body fuel
      expect {} "done" fuel
      withRedirects line (.loop false condition body) fuel
    | .keyword "for" => do
      let c ← forCommand line fuel
      withRedirects line c fuel
    | .keyword "case" => do
      match ← token {} fuel with
      | .word w => do
        expect .command "in" fuel
        let cases ← caseItems fuel
        withRedirects line (.choose line w cases) fuel
      | t => refuseFor t "word"
    | .open_ => do
      let body ← commands .body fuel
      match ← token {} fuel with
      | .close => withRedirects line (.subshell line body) fuel
      | t => refuseFor t "\")\""
    | .keyword "\x7b" => do
      let body ← commands .body fuel
      expect {} "\x7d" fuel
      withRedirects line (.block body) fuel
    | .word _ => do
      push t
      simpleCommand fuel
    | .redirect .. => do
      push t
      simpleCommand fuel
    | t => refuse t
termination_by structural n => n

/-- The branches of a condition. -/
def branch : Nat → Parse Command
  | 0 => fail "script too long"
  | fuel + 1 => do
    let (branches, otherwise) ← branches fuel
    return .conditional branches otherwise
termination_by structural n => n

def branches : Nat → Parse (List (List Command × List Command) × Option (List Command))
  | 0 => fail "script too long"
  | fuel + 1 => do
    let condition ← commands .body fuel
    expect {} "then" fuel
    let body ← commands .body fuel
    match ← token {} fuel with
    | .keyword "elif" => do
      let (more, otherwise) ← branches fuel
      return ((condition, body) :: more, otherwise)
    | .keyword "else" => do
      let otherwise ← commands .body fuel
      expect {} "fi" fuel
      return ([(condition, body)], some otherwise)
    | .keyword "fi" => return ([(condition, body)], none)
    | t => refuseFor t "\"fi\""
termination_by structural n => n

/-- The words up to what is no word. -/
def wordList : Nat → Parse (List Word × Token)
  | 0 => fail "script too long"
  | fuel + 1 => do
    match ← token {} fuel with
    | .word w => do
      let (ws, t) ← wordList fuel
      return (w :: ws, t)
    | t => return ([], t)
termination_by structural n => n

def forCommand (line : Nat) : Nat → Parse Command
  | 0 => fail "script too long"
  | fuel + 1 => do
    match ← token {} fuel with
    | .word w =>
      match Word.plain? w with
      | some name =>
        if !isName name then fail "Bad for loop variable"
        let t ← token .command fuel
        let words ← (if t.isKeyword "in" then do
            let (ws, t) ← wordList fuel
            match t with
            | .newline => pure (some ws)
            | .semicolon => pure (some ws)
            | t => refuse t
          else do
            match t with
            | .semicolon => pure none
            | t => do
              push t
              pure none : Parse (Option (List Word)))
        expect .command "do" fuel
        let body ← commands .body fuel
        expect {} "done" fuel
        return .each line name words body
      | none => fail "Bad for loop variable"
    | _ => fail "Bad for loop variable"
termination_by structural n => n

/-- The patterns of a choice, from the first one on. -/
def casePatterns (t : Token) : Nat → Parse (List Word)
  | 0 => fail "script too long"
  | fuel + 1 => do
    let w : Word := match t with
      | .word w => w
      | .keyword name => [.text false name.toList]
      | t => [.text false t.name.toList]
    match ← token {} fuel with
    | .bar => do
      let t ← token {} fuel
      return w :: (← casePatterns t fuel)
    | .close => return [w]
    | t => refuseFor t "\")\""
termination_by structural n => n

def caseItems : Nat → Parse (List (List Word × List Command))
  | 0 => fail "script too long"
  | fuel + 1 => do
    let t ← token ⟨true, true, false⟩ fuel
    if t.isKeyword "esac" then return []
    let t ← match t with
      | .open_ => token {} fuel
      | t => pure t
    let patterns ← casePatterns t fuel
    let body ← commands .anyBody fuel
    let t ← token ⟨true, true, false⟩ fuel
    if t.isKeyword "esac" then return [(patterns, body)]
    match t with
    | .double => return (patterns, body) :: (← caseItems fuel)
    | t => refuseFor t "\";;\""
termination_by structural n => n

/-- The redirections behind a command. -/
def withRedirects (line : Nat) (c : Command) : Nat → Parse Command
  | 0 => fail "script too long"
  | fuel + 1 => do
    let rs ← redirectList fuel
    return if rs.isEmpty then c else .redirected line c rs
termination_by structural n => n

def redirectList : Nat → Parse (List Redirect)
  | 0 => fail "script too long"
  | fuel + 1 => do
    match ← token ⟨false, true, true⟩ fuel with
    | .redirect fd op tabs => do
      let r ← redirect fd op tabs fuel
      return r :: (← redirectList fuel)
    | t => do
      push t
      return []
termination_by structural n => n

/-- The target of a redirection. -/
def redirect (fd : Nat) (op : RedirectOp) (tabs : Bool) : Nat → Parse Redirect
  | 0 => fail "script too long"
  | fuel + 1 => do
    match ← token {} fuel with
    | .word w =>
      if op = .here then do
        let (stop, quoted) := Word.literal w
        let body ← takeHere stop tabs
        if quoted then return .mk fd op [.text true body]
        let s ← get
        match parts .here fuel { rest := body, line := s.line + 1, aliases := s.aliases } with
        | .ok (w, _) => return .mk fd op w
        | .error e => throw e
      else
        let copies := op == .copyIn || op == .copyOut
        if copies && !isDescriptorWord w then fail "Bad fd number"
        return .mk fd op w
    | t => refuse t
termination_by structural n => n

/-- A command of words, with what stands in front of them and among them. -/
def simpleCommand : Nat → Parse Command
  | 0 => fail "script too long"
  | fuel + 1 => do
    let line := (← get).line
    simpleParts line true [] [] [] fuel
termination_by structural n => n

def simpleParts (line : Nat) (first : Bool) (assigns : List (Str × Word)) (words : List Word)
    (redirects : List Redirect) : Nat → Parse Command
  | 0 => fail "script too long"
  | fuel + 1 => do
    match ← token ⟨false, false, first⟩ fuel with
    | .word w =>
      match if first then Word.assignment? w else none with
      | some a => simpleParts line true (assigns ++ [a]) words redirects fuel
      | none => simpleParts line false assigns (words ++ [w]) redirects fuel
    | .redirect fd op tabs => do
      let r ← redirect fd op tabs fuel
      simpleParts line first assigns words (redirects ++ [r]) fuel
    | .open_ =>
      match words with
      | [w] =>
        if assigns.isEmpty && redirects.isEmpty then do
          match ← token {} fuel with
          | .close =>
            match Word.plain? w with
            | some name =>
              if !isName name || reservedNames.contains (String.ofList name) then
                fail "Bad function name"
              let line := (← get).line
              let body ← command .command fuel
              return .define line name body
            | none => fail "Bad function name"
          | t => refuseFor t "\")\""
        else do
          push .open_
          return .simple line assigns words redirects
      | _ => do
        push .open_
        return .simple line assigns words redirects
    | t => do
      push t
      return .simple line assigns words redirects
termination_by structural n => n

end

namespace Source

/-- More than all steps of reading a text. -/
def fuel (s : Source) : Nat :=
  40 * (s.rest.length + (s.aliases.foldl (fun n a => n + a.2.length) 0) * (s.aliases.length + 1)) + 400

/-- Whether the end of the text has been seen. -/
def atEnd (s : Source) : Bool :=
  match s.pushed with
  | some .finish => true
  | _ => false

/-- The commands of the next line, and what follows it; none at the end. -/
def next (s : Source) : Except ReadFault (Option (List Command × Source)) :=
  match (do
      match ← token {} s.fuel with
      | .finish => return none
      | .newline => return some []
      | t => do
        push t
        return some (← commands .line s.fuel) : Parse (Option (List Command))) { s with pushed := none } with
  | .ok (some cs, s) => .ok (some (cs, s))
  | .ok (none, _) => .ok none
  | .error f => .error f

/-- The word that a text is, between quotes of its own. -/
def quotedWord (text : Str) : Option Word :=
  let s : Source := { rest := text }
  match parts .here s.fuel s with
  | .ok (w, _) => some w
  | .error _ => none

end Source

end Transcripts.Shell
