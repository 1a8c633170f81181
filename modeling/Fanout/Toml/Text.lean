import Fanout.Toml.Blank

namespace Fanout.Toml

def numbered (n : Nat) : Scan Char := do
  let text ← get
  let digits := text.take n
  guard (digits.length == n && digits.all fun d => (hexValue? d).isSome)
  let number := Scan.valueOfDigits 16 digits
  guard (decide number.isValidChar)
  set (text.drop n)
  pure (Char.ofNat number)

def escaped : Scan Char := do
  match ← Scan.any with
  | 'b' => pure '\x08'
  | 't' => pure '\t'
  | 'n' => pure '\n'
  | 'f' => pure '\x0c'
  | 'r' => pure '\r'
  | '"' => pure '"'
  | '\\' => pure '\\'
  | 'u' => numbered 4
  | 'U' => numbered 8
  | _ => failure

def textChar (quote : Char) : Scan (Option Char) := do
  let c ← Scan.any
  if c == quote then return none
  if c == '\\' && quote == '"' then return some (← escaped)
  guard (isPlain c)
  pure (some c)

def lineText (quote : Char) : Scan String := String.ofList <$> Scan.collect (textChar quote)

def skipLines : List Char → List Char
  | '\r' :: '\n' :: rest => skipLines rest
  | c :: rest => if isSpace c || c == '\n' then skipLines rest else c :: rest
  | [] => []

def skipLineEnd : Scan Bool := fun text =>
  match text.dropWhile isSpace with
  | '\n' :: rest => some (true, skipLines rest)
  | '\r' :: '\n' :: rest => some (true, skipLines rest)
  | _ => some (false, text)

def linesPart (quote : Char) : Scan (Option (List Char)) := do
  let run := ((← get).takeWhile (· == quote)).length
  if run == 3 then
    Scan.expect (List.replicate 3 quote)
    return none
  guard (run < 6)
  if ← newline then return some ['\n']
  let c ← Scan.any
  if c == '\\' && quote == '"' then
    if ← skipLineEnd then return some []
    return some [← escaped]
  guard (isPlain c)
  pure (some [c])

def linesText (quote : Char) : Scan String := do
  discard newline
  return String.ofList (← Scan.collect (linesPart quote)).flatten

def text (quote : Char) : Scan String := do
  if ← Scan.accept (List.replicate 3 quote) then linesText quote
  else
    Scan.expect [quote]
    lineText quote

end Fanout.Toml
