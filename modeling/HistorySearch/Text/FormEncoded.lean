-- SUMMARY: Name-value pairs as form-urlencoded text.
import HistorySearch.Text.Percent

/-!
# Form-urlencoded pairs

The format of query strings and posted forms: pairs joined by `&`, each a name and a value
around `=`, with a space written as `+` and other special characters percent-encoded. Reading is
total: empty pieces are skipped, a piece without `=` is a name with an empty value, and octets
that are not UTF-8 become replacement characters.
-/

namespace HistorySearch.FormEncoded

abbrev Pair := String × String

/-! ## Writing -/

/-- The characters that stand for themselves. -/
def isPlain (c : Char) : Bool :=
  c.isAlphanum || c = '*' || c = '-' || c = '.' || c = '_'

def encodeChar (c : Char) : List Char :=
  if isPlain c then [c] else if c = ' ' then ['+'] else Percent.char c

/-- Encodes a name or a value. -/
def encode (cs : List Char) : List Char :=
  cs.flatMap encodeChar

def writePair (p : Pair) : List Char :=
  encode p.1.toList ++ '=' :: encode p.2.toList

def writeChars (ps : List Pair) : List Char :=
  ['&'].intercalate (ps.map writePair)

def write (ps : List Pair) : String :=
  String.ofList (writeChars ps)

/-! ## Reading -/

def spaceOfPlus (b : UInt8) : UInt8 :=
  if b = 0x2B then 0x20 else b

def decode (bs : List UInt8) : String :=
  String.ofList (Utf8.decode (Percent.decode (bs.map spaceOfPlus)))

/-- Reads a piece between two `&`: the name ends at the first `=`. -/
def readPair (bs : List UInt8) : Pair :=
  (decode (bs.takeWhile (· != 0x3D)), decode ((bs.dropWhile (· != 0x3D)).drop 1))

def readOctets (bs : List UInt8) : List Pair :=
  ((bs.splitOn 0x26).filter (!·.isEmpty)).map readPair

def read (s : String) : List Pair :=
  readOctets (Utf8.encode s.toList)

end HistorySearch.FormEncoded
