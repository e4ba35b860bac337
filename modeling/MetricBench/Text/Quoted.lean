import MetricBench.Text.Hex
import MetricBench.Unicode.Property

/-!
# Quoted text in messages

A message shows a piece of input between double quotes.  The quote, the backslash and the common
controls are escaped by a backslash; every other character that has no shape of its own, or that
would attach to its neighbour, is shown by its code point.
-/

namespace MetricBench.Text

/-- How one character is shown between quotes. -/
def quoteChar (c : Char) : List Char :=
  match c with
  | '"' => ['\\', '"']
  | '\\' => ['\\', '\\']
  | '\n' => ['\\', 'n']
  | '\r' => ['\\', 'r']
  | '\t' => ['\\', 't']
  | '\x00' => ['\\', '0']
  | c =>
    if Unicode.isPrintable c && !Unicode.graphemeExtend.contains c then [c]
    else '\\' :: 'u' :: '\x7b' :: hexDigits c.toNat ++ ['\x7d']

/-- A text between double quotes, with what a reader could not see made visible. -/
def quote (text : String) : String :=
  .ofList ('"' :: text.toList.flatMap quoteChar ++ ['"'])

end MetricBench.Text
