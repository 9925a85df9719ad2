/-!
# Lines of a text

Line ends, and the line and column of a place in a text.
-/

namespace ClusterLineage.Text

/-- Writes every line end, be it a carriage return, a line feed or one after the other, as a line
feed. -/
def unifyLineEnds : List Char → List Char
  | [] => []
  | '\r' :: '\n' :: rest => '\n' :: unifyLineEnds rest
  | c :: rest => (if c = '\r' then '\n' else c) :: unifyLineEnds rest

/-- A place in a text: lines and columns count from one, characters from zero. -/
structure Place where
  line : Nat
  column : Nat
  offset : Nat
  deriving DecidableEq, Repr

/-- The place reached after reading some characters from the start of a text. -/
def Place.after (read : List Char) : Place where
  line := read.count '\n' + 1
  column := (read.reverse.takeWhile (· ≠ '\n')).length + 1
  offset := read.length

end ClusterLineage.Text
