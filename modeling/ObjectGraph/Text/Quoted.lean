import ObjectGraph.Text.Escaped

/-!
# Quoted texts — a text between quotation marks

A quotation mark, a backslash and the common control characters have short escapes; every other
character that cannot show as itself is written by its code point.

* `Text.quote` — the quoted form of a text.
-/

namespace ObjectGraph
namespace Text

/-- The code point in hexadecimal digits, for instance `\x5cu\x7b301\x7d`. -/
def codeEscape (c : Char) : List Char :=
  '\\' :: 'u' :: '\x7b' :: Nat.toDigits 16 c.toNat ++ ['\x7d']

def quoteChar (c : Char) : List Char :=
  match c with
  | '\x00' => ['\\', '0']
  | '\t' => ['\\', 't']
  | '\r' => ['\\', 'r']
  | '\n' => ['\\', 'n']
  | '"' => ['\\', '"']
  | '\\' => ['\\', '\\']
  | c => if isEscaped c then codeEscape c else [c]

def quote (text : String) : String :=
  String.ofList ('"' :: text.toList.flatMap quoteChar ++ ['"'])

end Text
end ObjectGraph
