import TreeQuery.Text.Hidden

/- Text between quotation marks on one line: marks and backslashes stand behind a
   backslash, and characters that do not show are written as escapes. -/
set_option autoImplicit false

namespace TreeQuery.Text

def controlLetters : List (Char × Char) :=
  [('\t', 't'), ('\n', 'n'), ('\r', 'r'), ('\x00', '0')]

def escapeChar (c : Char) : Text :=
  if c = '\x22' || c = '\\' then ['\\', c]
  else match controlLetters.lookup c with
    | some letter => ['\\', letter]
    | none =>
        if isHidden c then "\\u\x7b".toList ++ Nat.toDigits 16 c.toNat ++ ['\x7d']
        else [c]

def quoted (text : Text) : Text :=
  ['\x22'] ++ text.flatMap escapeChar ++ ['\x22']

end TreeQuery.Text
