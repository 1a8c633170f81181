import Fanout.Text.Scan

namespace Fanout.Shell

/-- A part of a word. What stands in double quotes is not split when it is replaced. -/
inductive Piece where
  | plain (text : List Char)
  | quoted (text : List Char)
  | parameter (name : List Char) (isQuoted : Bool)
  | output (script : List Char) (isQuoted : Bool)
  | value (term : List Char)
deriving DecidableEq, Inhabited

abbrev Word := List Piece

inductive Target where
  | file (name : Word)
  | stream (n : Nat)
  | closed
deriving DecidableEq, Inhabited

structure Redirection where
  stream : Nat
  target : Target
deriving DecidableEq, Inhabited

inductive Script where
  | nothing
  | simple (words : List Word)
  | redirected (script : Script) (redirections : List Redirection)
  | sequence (first second : Script)
  | provided (expected : Bool) (first second : Script)
  | negated (script : Script)
  | piped (first second : Script)
  | background (script : Script)
  | apart (script : Script)
  | choice (test yes no : Script)
  | loop (expected : Bool) (test body : Script)
  | each (name : List Char) (words : List Word) (body : Script)
deriving Inhabited

namespace Script

def isNameChar (c : Char) : Bool := c.isAlphanum || c == '_'

def isBlank (c : Char) : Bool := c == ' ' || c == '\t'

def isDelimiter (c : Char) : Bool := isBlank c || "\n;&|()<>".toList.contains c

def untilClosed (depth : Nat) : Scan (List Char) := fun text => go depth text
where
  go : Nat → List Char → Option (List Char × List Char)
    | _, [] => none
    | depth, c :: rest =>
      if c = ')' then
        if depth ≤ 1 then some ([], rest) else (go (depth - 1) rest).map fun p => (c :: p.1, p.2)
      else (go (if c = '(' then depth + 1 else depth) rest).map fun p => (c :: p.1, p.2)

def specialParameters : List Char := "?$#@*!-".toList

def backquote : Char := '\x60'

def openBrace : Char := '\x7b'

def closeBrace : Char := '\x7d'

def dollar (isQuoted : Bool) : Scan Piece := do
  if ← Scan.accept ['(', '('] then
    let term ← untilClosed 2
    return .value term.dropLast
  else if ← Scan.accept ['('] then return .output (← untilClosed 1) isQuoted
  else if ← Scan.accept [openBrace] then
    let name ← Scan.someOf (· != closeBrace)
    Scan.expect [closeBrace]
    return .parameter name isQuoted
  else
    match ← Scan.next with
    | some c =>
      if specialParameters.contains c || c.isDigit then
        return .parameter [← Scan.any] isQuoted
      else if isNameChar c then return .parameter (← Scan.many isNameChar) isQuoted
      else return .quoted ['$']
    | none => return .quoted ['$']

def betweenBackquotes (isQuoted : Bool) : Scan Piece := do
  let script ← Scan.many (· != backquote)
  Scan.expect [backquote]
  return .output script isQuoted

def quotedPiece : Scan (Option Piece) := do
  match ← get with
  | '"' :: _ | [] => return none
  | '$' :: rest => set rest; some <$> dollar true
  | '\\' :: c :: rest =>
    set rest
    return some (.quoted (if c = '\n' then []
      else if c = '"' || c = '\\' || c = '$' || c = backquote then [c] else ['\\', c]))
  | c :: rest =>
    set rest
    if c = backquote then some <$> betweenBackquotes true else return some (.quoted [c])

def wordPiece : Scan (Option Word) := do
  match ← get with
  | [] => return none
  | '\'' :: rest =>
    set rest
    let inside ← Scan.many (· != '\'')
    Scan.expect ['\'']
    return some [.quoted inside]
  | '"' :: rest =>
    set rest
    let inside ← Scan.collect quotedPiece
    Scan.expect ['"']
    return some (.quoted [] :: inside)
  | '$' :: rest => set rest; return some [← dollar false]
  | ['\\'] => set ([] : List Char); return some [.quoted ['\\']]
  | '\\' :: c :: rest => set rest; return some (if c = '\n' then [] else [.quoted [c]])
  | c :: rest =>
    if isDelimiter c then return none
    else if c = backquote then set rest; return some [← betweenBackquotes false]
    else set rest; return some [.plain [c]]

def word : Scan Word := List.flatten <$> Scan.collect wordPiece

def comment : Scan Unit := do
  if ← Scan.startsWith ['#'] then
    let _ ← Scan.many (· != '\n')

def blanks : Scan Unit := do
  let _ ← Scan.many isBlank
  comment

def gap : Scan Unit := do
  let _ ← Scan.collect (do
    blanks
    return if ← Scan.accept ['\n'] then some () else none)

def begins (text : List Char) (keyword : String) : Bool :=
  keyword.toList.isPrefixOf text && ((text.drop keyword.length).head?.all isDelimiter)

def accept (keyword : String) : Scan Bool := do
  blanks
  if begins (← get) keyword then Scan.accept keyword.toList else return false

def expect (keyword : String) : Scan Unit := do guard (← accept keyword)

def closers : List String :=
  ["then", "else", "elif", "fi", "do", "done", String.singleton closeBrace]

def atEnd : Scan Bool := fun text =>
  some (text.head?.all (· == ')') || closers.any (begins text), text)

def redirection : Scan (Option Redirection) := do
  blanks
  let text ← get
  let digits := text.takeWhile Char.isDigit
  set (text.dropWhile Char.isDigit)
  let stream (default : Nat) :=
    if digits.isEmpty then default else Scan.valueOfDigits 10 digits
  let target : Scan Target := do
    if ← Scan.accept ['&'] then
      if ← Scan.accept ['-'] then return .closed
      else return .stream (Scan.valueOfDigits 10 (← Scan.someOf Char.isDigit))
    else
      blanks
      let name ← word
      guard !name.isEmpty
      return .file name
  if ← Scan.accept ['>', '>'] then return some ⟨stream 1, ← target⟩
  else if ← Scan.accept ['>'] then return some ⟨stream 1, ← target⟩
  else if ← Scan.accept ['<'] then return some ⟨stream 0, ← target⟩
  else set text; return none

def withRedirections (script : Script) : Scan Script := do
  let redirections ← Scan.collect redirection
  return if redirections.isEmpty then script else .redirected script redirections

def simpleCommand : Scan Script := do
  let parts ← Scan.collect (α := Word ⊕ Redirection) (do
    match ← redirection with
    | some r => return some (.inr r)
    | none =>
      let w ← word
      return if w.isEmpty then none else some (.inl w))
  guard !parts.isEmpty
  let words := parts.filterMap Sum.getLeft?
  let redirections := parts.filterMap Sum.getRight?
  return if redirections.isEmpty then .simple words else .redirected (.simple words) redirections

mutual

def command : Nat → Scan Script
  | 0 => failure
  | fuel + 1 => do
    blanks
    if ← Scan.accept ['('] then
      let body ← commands fuel
      Scan.expect [')']
      withRedirections (.apart body)
    else if ← accept (String.singleton openBrace) then
      let body ← commands fuel
      expect (String.singleton closeBrace)
      withRedirections body
    else if ← accept "if" then withRedirections (← branches fuel)
    else if ← accept "while" then withRedirections (← loopBody fuel true)
    else if ← accept "until" then withRedirections (← loopBody fuel false)
    else if ← accept "for" then
      blanks
      let name ← Scan.someOf isNameChar
      expect "in"
      let words ← Scan.collect (do
        blanks
        let w ← word
        return if w.isEmpty then none else some w)
      let _ ← Scan.accept [';']
      gap
      withRedirections (.each name words (← doBody fuel))
    else
      guard !(← atEnd)
      simpleCommand

def branches : Nat → Scan Script
  | 0 => failure
  | fuel + 1 => do
    let test ← commands fuel
    expect "then"
    let yes ← commands fuel
    if ← accept "elif" then return .choice test yes (← branches fuel)
    else if ← accept "else" then
      let no ← commands fuel
      expect "fi"
      return .choice test yes no
    else
      expect "fi"
      return .choice test yes .nothing

def loopBody : Nat → Bool → Scan Script
  | 0, _ => failure
  | fuel + 1, expected => do
    let test ← commands fuel
    return .loop expected test (← doBody fuel)

def doBody : Nat → Scan Script
  | 0 => failure
  | fuel + 1 => do
    expect "do"
    let body ← commands fuel
    expect "done"
    return body

def pipeline : Nat → Scan Script
  | 0 => failure
  | fuel + 1 => do
    if ← accept "!" then return .negated (← pipeline fuel)
    let first ← command fuel
    blanks
    if ← Scan.startsWith ['|', '|'] then return first
    else if ← Scan.accept ['|'] then
      gap
      return .piped first (← pipeline fuel)
    else return first

def chain : Nat → Script → Scan Script
  | 0, _ => failure
  | fuel + 1, first => do
    blanks
    let onSuccess ← Scan.accept ['&', '&']
    let onFailure ← if onSuccess then pure false else Scan.accept ['|', '|']
    if onSuccess || onFailure then
      gap
      let second ← pipeline fuel
      chain fuel (.provided onSuccess first second)
    else return first

def commands : Nat → Scan Script
  | 0 => failure
  | fuel + 1 => do
    gap
    if ← atEnd then return .nothing
    let first ← chain fuel (← pipeline fuel)
    blanks
    if ← Scan.accept ['&'] then return .sequence (.background first) (← commands fuel)
    else if ← Scan.accept [';'] then return .sequence first (← commands fuel)
    else if ← Scan.accept ['\n'] then return .sequence first (← commands fuel)
    else return first

end

/-- Reads a script. Each level of the grammar takes one unit of fuel, each character at most
a few of them. -/
def ofText? (text : List Char) : Option Script :=
  match (commands (8 * text.length + 8)).run text with
  | some (script, []) => some script
  | _ => none

end Script

end Fanout.Shell
