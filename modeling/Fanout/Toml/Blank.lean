import Fanout.Text.Scan

namespace Fanout.Toml

def isPlain (c : Char) : Bool := c == '\t' || (' ' ≤ c && c ≠ '\x7f')

def isSpace (c : Char) : Bool := c == ' ' || c == '\t'

def spaces : Scan Unit := discard (Scan.many isSpace)

def newline : Scan Bool := do
  if ← Scan.accept ['\n'] then return true
  Scan.accept ['\r', '\n']

def lineEnd : Scan Unit := do
  spaces
  if ← Scan.accept ['#'] then discard (Scan.many isPlain)
  unless ← newline do guard (← get).isEmpty

def skipGap (inComment : Bool) : List Char → Option (List Char)
  | [] => some []
  | '\n' :: rest => skipGap false rest
  | '\r' :: '\n' :: rest => skipGap false rest
  | c :: rest =>
    if inComment then
      if isPlain c then skipGap true rest else none
    else if isSpace c then skipGap false rest
    else if c == '#' then skipGap true rest
    else some (c :: rest)

def gap : Scan Unit := fun text => (skipGap false text).map ((), ·)

end Fanout.Toml
