import Criteria.Yaml.Timestamp

/-!
# Tags

A tag is the address of a kind of values. Scalars in quotes and blocks are texts; for a scalar
without them the text decides: it may look like nothing, a truth value, an integer in one of five
notations, a fraction in one of three, a date or time, the sign of a merged mapping or that of a
default value.

`Tag.ofPlain` is that decision. It only looks at the form: a text may look like an integer and
denote none.
-/

namespace Criteria.Yaml.Tag

/-- The address that the names of the standard tags follow. -/
def standard (name : String) : String := "tag:yaml.org,2002:" ++ name

/-- The texts for nothing. -/
def nullWords : List String := ["", "~", "null", "Null", "NULL"]

/-- The texts for true and false. -/
def truthWords : List String :=
  ["yes", "Yes", "YES", "true", "True", "TRUE", "on", "On", "ON",
    "no", "No", "NO", "false", "False", "FALSE", "off", "Off", "OFF"]

def dropSign : List Char → List Char
  | '+' :: cs | '-' :: cs => cs
  | cs => cs

def isDigitOrBar (c : Char) : Bool := c.isDigit || c == '_'

/-- Whether the characters are a digit and further digits or underscores. -/
def isRun (cs : List Char) : Bool := cs.head?.any Char.isDigit && cs.all isDigitOrBar

/-- Whether the characters are digits of a base, or underscores, and not none. -/
def areDigits (p : Char → Bool) (cs : List Char) : Bool :=
  !cs.isEmpty && cs.all fun c => p c || c == '_'

/-- One or two digits below sixty. -/
def isSixtieth : List Char → Bool
  | [a] => a.isDigit
  | [a, b] => '0' ≤ a && a ≤ '5' && b.isDigit
  | _ => false

/-- The parts between colons. -/
def splitColons : List Char → List (List Char)
  | [] => [[]]
  | c :: cs =>
    match splitColons cs with
    | [] => [[c]]
    | part :: parts => if c == ':' then [] :: part :: parts else (c :: part) :: parts

/-- Whether an unsigned text looks like an integer: binary, hexadecimal, octal, decimal, or decimal
parts to base sixty. -/
def isNatural (cs : List Char) : Bool :=
  match cs with
  | ['0'] => true
  | '0' :: 'b' :: ds => areDigits (fun c => c == '0' || c == '1') ds
  | '0' :: 'x' :: ds =>
    areDigits (fun c => c.isDigit || ('a' ≤ c && c ≤ 'f') || ('A' ≤ c && c ≤ 'F')) ds
  | '0' :: ds => areDigits (fun c => '0' ≤ c && c ≤ '7') ds
  | _ =>
    match splitColons cs with
    | first :: parts => isRun first && parts.all isSixtieth
    | [] => false

/-- Whether the characters are a signed exponent after its letter, or nothing. -/
def isExponent : List Char → Bool
  | [] => true
  | e :: sign :: ds =>
    (e == 'e' || e == 'E') && (sign == '+' || sign == '-') && !ds.isEmpty && ds.all Char.isDigit
  | _ => false

/-- Whether a text looks like a fraction: with a point and perhaps an exponent, with parts to base
sixty and a point, or as a word. -/
def isFraction (cs : List Char) : Bool :=
  let body := dropSign cs
  let whole := body.takeWhile (· != '.')
  match body.dropWhile (· != '.') with
  | '.' :: places =>
    let word := String.ofList places
    let isPointed :=
      if whole.isEmpty then body.length == cs.length && places.head?.any Char.isDigit
      else isRun whole
    let isSixtieths := match splitColons whole with
      | first :: part :: parts => isRun first && (part :: parts).all isSixtieth
      | _ => false
    (isPointed && isExponent (places.dropWhile isDigitOrBar))
      || (isSixtieths && places.all isDigitOrBar)
      || (whole.isEmpty && ["inf", "Inf", "INF"].contains word)
      || (String.ofList cs == "." ++ word && ["nan", "NaN", "NAN"].contains word)
  | _ => false

/-- Whether a text looks like a date or a time; a date alone has two digits for month and day. -/
def isTimestamp (cs : List Char) : Bool :=
  (Timestamp.ofChars? cs).any fun t => t.time.isSome || t.isPadded

/-- The name of the tag that characters suggest. -/
def suggested (cs : List Char) : String :=
  let text := String.ofList cs
  if truthWords.contains text then "bool"
  else if isFraction cs then "float"
  else if isNatural (dropSign cs) then "int"
  else if text = "<<" then "merge"
  else if nullWords.contains text then "null"
  else if isTimestamp cs then "timestamp"
  else if text = "=" then "value"
  else "str"

/-- The tag that a text suggests. A line break at its end does not count. -/
def ofPlain (text : String) : String :=
  let cs := text.toList
  match cs.getLast? with
  | some '\n' => standard (if cs.length = 1 then "str" else suggested cs.dropLast)
  | _ => standard (suggested cs)

end Criteria.Yaml.Tag
