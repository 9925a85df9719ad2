import ClusterLineage.Json.Basic
import ClusterLineage.Decimal.Binary64
import ClusterLineage.Text.Lines

/-!
# Reading JSON

`Json.parse` reads one JSON value from a text, or says what is wrong and where.  Besides the
standard it takes `NaN`, `Infinity` and `-Infinity`, a repeated member replaces the value of the
first, and half a pair of escapes stands for a surrogate.  Every step takes the characters that are
left and gives back those after what it has read; a flaw tells how many are left at the place it is
reported for.  A reader has limits, and gives up on a text as soon as it goes beyond them.
-/

namespace ClusterLineage.Json

/-- What can be wrong with a JSON text. -/
inductive Flaw where
  | byteOrderMark
  | noValue
  | noMemberName
  | noColon
  | noComma
  | extraData
  | controlCharacter
  | unterminatedString
  | unknownEscape
  | brokenUnicodeEscape
  deriving DecidableEq, Repr

/-- The wording of a flaw. -/
def Flaw.message : Flaw → String
  | .byteOrderMark => "Unexpected UTF-8 BOM (decode using utf-8-sig)"
  | .noValue => "Expecting value"
  | .noMemberName => "Expecting property name enclosed in double quotes"
  | .noColon => "Expecting ':' delimiter"
  | .noComma => "Expecting ',' delimiter"
  | .extraData => "Extra data"
  | .controlCharacter => "Invalid control character at"
  | .unterminatedString => "Unterminated string starting at"
  | .unknownEscape => "Invalid \\escape"
  | .brokenUnicodeEscape => "Invalid \\uXXXX escape"

/-- What a reader takes at most. -/
structure Limits where
  /-- How many digits a whole number may have. -/
  digits : Nat := 4300
  /-- How many arrays and objects may lie within each other. -/
  depth : Nat := 983
  deriving DecidableEq, Repr

/-- How a text goes beyond a limit. -/
inductive Excess where
  /-- A whole number has more digits than the limit. -/
  | digits (count limit : Nat)
  /-- An array lies deeper than the limit. -/
  | arrayDepth
  /-- An object lies deeper than the limit. -/
  | objectDepth
  deriving DecidableEq, Repr

/-- The wording of an excess. -/
def Excess.message : Excess → String
  | .digits count limit =>
    "Exceeds the limit (" ++ toString limit ++ " digits) for integer string conversion: " ++
      "value has " ++ toString count ++ " digits; use sys.set_int_max_str_digits() to increase " ++
      "the limit"
  | .arrayDepth =>
    "maximum recursion depth exceeded while decoding a JSON array from a unicode string"
  | .objectDepth =>
    "maximum recursion depth exceeded while decoding a JSON object from a unicode string"

/-- Why a step of reading gives up. -/
inductive Fault where
  /-- The text has a flaw; so many characters are left at its place. -/
  | flaw (flaw : Flaw) (left : Nat)
  /-- The text goes beyond a limit. -/
  | excess (e : Excess)
  deriving DecidableEq, Repr

/-- What a step of reading gives: a result and the characters left, or a fault. -/
abbrev Reading (α : Type) := Except Fault (α × List Char)

/-- A flaw at the characters that are left. -/
def faultAt {α : Type} (flaw : Flaw) (left : List Char) : Except Fault α :=
  .error (.flaw flaw left.length)

/-- Blanks that may stand between the parts of a JSON text. -/
def isBlank (c : Char) : Bool :=
  c == ' ' || c == '\t' || c == '\n' || c == '\r'

/-- What is left after blanks. -/
def skipBlanks (cs : List Char) : List Char :=
  cs.dropWhile isBlank

/-- The value of a hexadecimal digit. -/
def hexValue? (c : Char) : Option Nat :=
  if '0' ≤ c && c ≤ '9' then some (c.toNat - '0'.toNat)
  else if 'a' ≤ c && c ≤ 'f' then some (c.toNat - 'a'.toNat + 10)
  else if 'A' ≤ c && c ≤ 'F' then some (c.toNat - 'A'.toNat + 10)
  else none

/-- The number that some first characters write in hexadecimal, after digits already read. -/
def hexFrom? : Nat → Nat → List Char → Option Nat
  | 0, code, _ => some code
  | _ + 1, _, [] => none
  | width + 1, code, c :: rest =>
    match hexValue? c with
    | some digit => hexFrom? width (code * 16 + digit) rest
    | none => none

/-- The code that the first four characters write in hexadecimal. -/
def hexCode? (cs : List Char) : Option Code :=
  (hexFrom? 4 0 cs).map .ofNat

/-- The code of a pair of surrogates. -/
def pairCode (high low : Code) : Code :=
  .ofNat (0x10000 + (high.toNat - 0xD800) * 0x400 + (low.toNat - 0xDC00))

/-- Reads the digits of an escape by code, `u` and what follows, and with it the second half of a
pair.  The closing quote has to be still to come, so the text may not end with the digits. -/
def readUnicodeEscape (escape : List Char) : Reading Code :=
  let digits := escape.drop 1
  let rest := digits.drop 4
  if rest.isEmpty then faultAt .brokenUnicodeEscape escape
  else
    match hexCode? digits with
    | none => faultAt .brokenUnicodeEscape escape
    | some high =>
      if high.isHighSurrogate && !(rest.drop 6).isEmpty && rest.take 2 == ['\\', 'u'] then
        match hexCode? (rest.drop 2) with
        | none => faultAt .brokenUnicodeEscape (rest.drop 1)
        | some low =>
          if low.isLowSurrogate then .ok (pairCode high low, rest.drop 6) else .ok (high, rest)
      else .ok (high, rest)

/-- The character that a one-letter escape stands for. -/
def simpleEscape? : Char → Option Char
  | '\"' => some '\"'
  | '\\' => some '\\'
  | '/' => some '/'
  | 'b' => some '\x08'
  | 'f' => some '\x0c'
  | 'n' => some '\n'
  | 'r' => some '\r'
  | 't' => some '\t'
  | _ => none

/-- Reads an escape, given what follows its backslash; `opening` is what was left at the opening
quote of the string. -/
def readEscape (opening escape : List Char) : Reading Code :=
  match escape with
  | [] => faultAt .unterminatedString opening
  | 'u' :: _ => readUnicodeEscape escape
  | c :: rest =>
    match simpleEscape? c with
    | some c => .ok (c, rest)
    | none => .error (.flaw .unknownEscape (escape.length + 1))

/-- Reads a string from behind its opening quote, after the codes already read, the last first.
Each step reads at least one character, so more fuel than characters is enough. -/
def readCodes (opening : List Char) : Nat → List Char → List Code → Reading Text
  | 0, _, _ => faultAt .unterminatedString opening
  | _ + 1, [], _ => faultAt .unterminatedString opening
  | fuel + 1, c :: rest, read =>
    if c = '\"' then .ok (⟨read.reverse⟩, rest)
    else if c = '\\' then
      match readEscape opening rest with
      | .error fault => .error fault
      | .ok (c, rest) => readCodes opening fuel rest (c :: read)
    else if c.toNat < 0x20 then faultAt .controlCharacter (c :: rest)
    else readCodes opening fuel rest (.ofChar c :: read)

/-- Reads a string, if there is one; what is missing otherwise is for the caller to say. -/
def readString (fuel : Nat) (missing : Flaw) (cs : List Char) : Reading Text :=
  match cs with
  | '\"' :: rest => readCodes cs fuel rest []
  | cs => faultAt missing cs

/-- The number that decimal digits write. -/
def digitsValue (digits : List Char) : Nat :=
  digits.foldl (fun n c => n * 10 + (c.toNat - '0'.toNat)) 0

/-- Splits off the whole part of a number: a zero, or digits that do not start with one. -/
def splitWhole? (cs : List Char) : Option (List Char × List Char) :=
  match cs with
  | [] => none
  | c :: rest =>
    if c = '0' then some (['0'], rest)
    else if c.isDigit then some (cs.span Char.isDigit)
    else none

/-- Splits off a point and the digits after it, if there are any. -/
def splitFraction (cs : List Char) : List Char × List Char :=
  match cs with
  | '.' :: rest =>
    match rest.span Char.isDigit with
    | ([], _) => ([], cs)
    | split => split
  | _ => ([], cs)

/-- Splits off an exponent, if the mark and the sign are followed by digits. -/
def splitExponent (cs : List Char) : Option Int × List Char :=
  match cs with
  | c :: rest =>
    if c = 'e' || c = 'E' then
      let negative := rest.head? == some '-'
      let unsigned := if negative || rest.head? == some '+' then rest.drop 1 else rest
      match unsigned.span Char.isDigit with
      | ([], _) => (none, cs)
      | (digits, rest) =>
        (some (if negative then -(digitsValue digits : Int) else digitsValue digits), rest)
    else (none, cs)
  | [] => (none, cs)

/-- Reads a number.  One with a fraction or an exponent is floating, any other is whole. -/
def readNumber (limits : Limits) (cs : List Char) : Reading Json :=
  let negative := cs.head? == some '-'
  match splitWhole? (if negative then cs.drop 1 else cs) with
  | none => faultAt .noValue cs
  | some (whole, rest) =>
    let (fraction, rest) := splitFraction rest
    let (exponent, rest) := splitExponent rest
    if fraction.isEmpty && exponent.isNone then
      if limits.digits < whole.length then .error (.excess (.digits whole.length limits.digits))
      else
        let n := digitsValue whole
        .ok (.int (if negative then -n else n), rest)
    else
      let digits := digitsValue (whole ++ fraction)
      .ok (.float (Decimal.nearest negative digits (exponent.getD 0 - fraction.length)), rest)

/-- The words that stand for values. -/
def words : List (List Char × Json) :=
  [("null".toList, .null), ("true".toList, .bool true), ("false".toList, .bool false),
   ("NaN".toList, .float (0 / 0)), ("Infinity".toList, .float (1 / 0)),
   ("-Infinity".toList, .float (-1 / 0))]

/-- Reads a word or a number. -/
def readScalar (limits : Limits) (cs : List Char) : Reading Json :=
  match words.find? fun (word, _) => word.isPrefixOf cs with
  | some (word, value) => .ok (value, cs.drop word.length)
  | none => readNumber limits cs

mutual

/-- Reads a value, within which so many arrays and objects may lie within each other.  A level of
nesting takes two calls and at least one character, so fuel for twice the characters is enough. -/
def readValue (limits : Limits) : Nat → Nat → List Char → Reading Json
  | 0, _, cs => faultAt .noValue cs
  | fuel + 1, depth, cs =>
    match cs with
    | '\"' :: _ =>
      match readString fuel .noValue cs with
      | .error fault => .error fault
      | .ok (s, rest) => .ok (.str s, rest)
    | '[' :: rest =>
      if depth = 0 then .error (.excess .arrayDepth)
      else
        match skipBlanks rest with
        | ']' :: rest => .ok (.arr [], rest)
        | rest => readItems limits fuel (depth - 1) rest []
    | '\x7b' :: rest =>
      if depth = 0 then .error (.excess .objectDepth)
      else
        match skipBlanks rest with
        | '\x7d' :: rest => .ok (.obj [], rest)
        | rest => readMembers limits fuel (depth - 1) rest []
    | cs => readScalar limits cs

/-- Reads the items of an array up to its end, after those already read, the last first. -/
def readItems (limits : Limits) : Nat → Nat → List Char → List Json → Reading Json
  | 0, _, cs, _ => faultAt .noValue cs
  | fuel + 1, depth, cs, read =>
    match readValue limits fuel depth cs with
    | .error fault => .error fault
    | .ok (item, rest) =>
      match skipBlanks rest with
      | ']' :: rest => .ok (.arr (item :: read).reverse, rest)
      | ',' :: rest => readItems limits fuel depth (skipBlanks rest) (item :: read)
      | rest => faultAt .noComma rest

/-- Reads the members of an object up to its end, after those already read. -/
def readMembers (limits : Limits) :
    Nat → Nat → List Char → List (Text × Json) → Reading Json
  | 0, _, cs, _ => faultAt .noMemberName cs
  | fuel + 1, depth, cs, read =>
    match readString fuel .noMemberName cs with
    | .error fault => .error fault
    | .ok (name, rest) =>
      match skipBlanks rest with
      | ':' :: rest =>
        match readValue limits fuel depth (skipBlanks rest) with
        | .error fault => .error fault
        | .ok (value, rest) =>
          let read := setMember name value read
          match skipBlanks rest with
          | '\x7d' :: rest => .ok (.obj read, rest)
          | ',' :: rest => readMembers limits fuel depth (skipBlanks rest) read
          | rest => faultAt .noComma rest
      | rest => faultAt .noColon rest

end

/-- What is wrong with a JSON text, and where. -/
structure LocatedFlaw where
  flaw : Flaw
  place : Text.Place
  deriving DecidableEq, Repr

/-- The wording of a flaw with its place. -/
def LocatedFlaw.message (f : LocatedFlaw) : String :=
  f.flaw.message ++ ": line " ++ toString f.place.line ++ " column " ++ toString f.place.column ++
    " (char " ++ toString f.place.offset ++ ")"

/-- Why a JSON text is not read. -/
inductive ReadError where
  | malformed (f : LocatedFlaw)
  | beyondLimits (e : Excess)
  deriving DecidableEq, Repr

/-- Reads a text that holds one value and nothing else. -/
def readDocument (limits : Limits) (cs : List Char) : Except Fault Json :=
  if cs.head? == some '\uFEFF' then faultAt .byteOrderMark cs
  else
    match readValue limits (2 * cs.length + 2) limits.depth (skipBlanks cs) with
    | .error fault => .error fault
    | .ok (value, rest) =>
      match skipBlanks rest with
      | [] => .ok value
      | rest => faultAt .extraData rest

/-- Reads the one value of a JSON text. -/
def parse (limits : Limits) (cs : List Char) : Except ReadError Json :=
  match readDocument limits cs with
  | .ok value => .ok value
  | .error (.flaw flaw left) => .error (.malformed ⟨flaw, .after (cs.take (cs.length - left))⟩)
  | .error (.excess e) => .error (.beyondLimits e)

end ClusterLineage.Json
