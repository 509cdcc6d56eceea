-- SUMMARY: Text in double quotes, as messages and log events show it.
import HistorySearch.Text.Hex
import HistorySearch.Text.Unprintable

/-!
# Quoted text

A message shows foreign text between double quotes so that its ends and its invisible
characters can be seen: quotes and backslashes get a backslash, the usual control characters a
letter, and other unprintable characters their code point.
-/

namespace HistorySearch.Quoted

def showChar (c : Char) : List Char :=
  if c = '"' then ['\\', '"']
  else if c = '\\' then ['\\', '\\']
  else if c = '\n' then ['\\', 'n']
  else if c = '\r' then ['\\', 'r']
  else if c = '\t' then ['\\', 't']
  else if c = Char.ofNat 0 then ['\\', '0']
  else if Unprintable.isUnprintable c then
    ['\\', 'u', '\x7b'] ++ Hex.lowerDigits c.toNat ++ ['\x7d']
  else [c]

def quoted (s : String) : String :=
  String.ofList ('"' :: s.toList.flatMap showChar ++ ['"'])

end HistorySearch.Quoted
