import StaticHost.Text.Unprintable
import StaticHost.Text.Combining

/-!
Quoted text: a text on one line, between double quotes, from which it can be read back.

A quote and a backslash take a backslash; line feed, carriage return, tab and NUL are `\n`, `\r`,
`\t` and `\0`; a combining or unprintable character is written as its code point in hexadecimal,
between braces after `\u`.
-/

namespace StaticHost.Text.Quoted

def numbered (c : Char) : List Char :=
  ['\\', 'u', '\x7b'] ++ Nat.toDigits 16 c.toNat ++ ['\x7d']

def escape (c : Char) : List Char :=
  if c = '\x00' then ['\\', '0']
  else if c = '\t' then ['\\', 't']
  else if c = '\r' then ['\\', 'r']
  else if c = '\n' then ['\\', 'n']
  else if c = '\\' then ['\\', '\\']
  else if c = '"' then ['\\', '"']
  else if isCombining c then numbered c
  else if isPrintable c then [c]
  else numbered c

/-- The written form of a text, quotes included. -/
def encode (text : List Char) : List Char :=
  '"' :: text.flatMap escape ++ ['"']

end StaticHost.Text.Quoted

namespace StaticHost

def quoted (s : String) : String :=
  String.ofList (Text.Quoted.encode s.toList)

end StaticHost
