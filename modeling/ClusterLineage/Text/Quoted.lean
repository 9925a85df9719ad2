import ClusterLineage.Text.Escape
import ClusterLineage.Text.Printable

/-!
# Quoted strings

`quoted` shows a text between quotation marks: single ones, unless the text holds a single mark and
no double one.  Backslashes, the mark itself and all codes that are not printable are escaped, the
last by name or by their number in the shortest of three widths.
-/

namespace ClusterLineage.Text

/-- The mark around a quoted text. -/
def quoteMark (cs : List Code) : Code :=
  if cs.contains '\'' && !cs.contains '\"' then '\"' else '\''

/-- The escape of a code in the shortest width. -/
def shortestEscape (code : Nat) : List Char :=
  if code < 0x100 then byteEscape code
  else if code < 0x10000 then unitEscape code
  else longEscape code

/-- A code inside a quoted text. -/
def quotedCode (mark c : Code) : List Code :=
  if c = mark || c = '\\' then ['\\', c]
  else if c = '\t' then ['\\', 't']
  else if c = '\n' then ['\\', 'n']
  else if c = '\r' then ['\\', 'r']
  else if isPrintable c then [c]
  else (shortestEscape c.toNat).map .ofChar

/-- A text between quotation marks, with escapes. -/
def quoted (t : Text) : Text :=
  let mark := quoteMark t.codes
  ⟨mark :: t.codes.flatMap (quotedCode mark) ++ [mark]⟩

end ClusterLineage.Text
