import QueryHints.Text.Printable

namespace QueryHints.Text

def hexDigit (n : Nat) : Char :=
  if n < 10 then Char.ofNat (48 + n) else Char.ofNat (87 + n)

def hexDigits : (width : Nat) → Nat → List Char
  | 0, _ => []
  | width + 1, n => hexDigits width (n / 16) ++ [hexDigit (n % 16)]

def quoteFor (s : Text) : Char :=
  if s.contains (Letter.ofChar '\'') && !s.contains (Letter.ofChar '"') then '"' else '\''

def quoteLetter (quote : Char) (c : Letter) : List Char :=
  if c = quote || c = '\\' then ['\\', c.toChar]
  else if c = '\t' then ['\\', 't']
  else if c = '\n' then ['\\', 'n']
  else if c = '\r' then ['\\', 'r']
  else if isPrintable c then [c.toChar]
  else if c.code < 0x100 then '\\' :: 'x' :: hexDigits 2 c.code
  else if c.code < 0x10000 then '\\' :: 'u' :: hexDigits 4 c.code
  else '\\' :: 'U' :: hexDigits 8 c.code

def quoted (s : Text) : String :=
  let quote := quoteFor s
  String.ofList (quote :: s.flatMap (quoteLetter quote) ++ [quote])

end QueryHints.Text
