import Switchboard.Text.Concealed

/-!
# Quoted — a text between double quotes, as a person can read it

Inside the quotes a backslash and a double quote carry a backslash, NUL, TAB, LF and
CR have letters of their own, and every other concealed character is spelled as
`\u`, an opening brace, its number in lower-case hexadecimal and a closing brace. All
else, the single quote included, stands for itself.
-/

namespace Switchboard.Quoted

/-- A character as it stands between quotation marks. -/
def spell (c : Char) : List Char :=
  if c = '\x00' then ['\\', '0']
  else if c = '\t' then ['\\', 't']
  else if c = '\r' then ['\\', 'r']
  else if c = '\n' then ['\\', 'n']
  else if c = '"' ∨ c = '\\' then ['\\', c]
  else if Concealed.isConcealed c then
    ['\\', 'u', '\x7b'] ++ Nat.toDigits 16 c.toNat ++ ['\x7d']
  else [c]

/-- A text between quotation marks, on one line. -/
def quote (s : String) : String :=
  String.ofList ('"' :: s.toList.flatMap spell ++ ['"'])

end Switchboard.Quoted
