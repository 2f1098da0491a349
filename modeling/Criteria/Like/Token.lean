/-!
# Text patterns

A pattern is a text in which `%` stands for any run of characters, `_` for any one character, and a
backslash makes the next character stand for itself; a backslash at the very end stands for itself.

* `Like.tokens` reads a pattern, `Like.Token.matchAll` says which texts it fits.
* `Like.regex` writes a pattern as a regular expression, in which every character that has a meaning
  there is escaped.
-/

namespace Criteria.Like

/-- The parts of a pattern. -/
inductive Token where
  | anyRun
  | anyOne
  | literal (c : Char)
  deriving DecidableEq, Repr

/-- The parts of a pattern; `escaped` says that the character before was an unpaired backslash. -/
def tokensFrom (escaped : Bool) : List Char → List Token
  | [] => if escaped then [.literal '\\'] else []
  | c :: cs =>
    if escaped then .literal c :: tokensFrom false cs
    else if c = '\\' then tokensFrom true cs
    else if c = '%' then .anyRun :: tokensFrom false cs
    else if c = '_' then .anyOne :: tokensFrom false cs
    else .literal c :: tokensFrom false cs

/-- The parts of a pattern. -/
def tokens (pattern : String) : List Token := tokensFrom false pattern.toList

/-- Whether some suffix of the text satisfies `p`. -/
def anySuffix (p : List Char → Bool) : List Char → Bool
  | [] => p []
  | c :: cs => p (c :: cs) || anySuffix p cs

/-- Whether the tokens fit the whole of a text. -/
def Token.matchAll : List Token → List Char → Bool
  | [], cs => cs.isEmpty
  | .anyRun :: ts, cs => anySuffix (matchAll ts) cs
  | .anyOne :: _, [] => false
  | .anyOne :: ts, _ :: cs => matchAll ts cs
  | .literal _ :: _, [] => false
  | .literal c :: ts, d :: cs => c == d && matchAll ts cs

/-- Whether the text fits the pattern. -/
def fits (pattern text : String) : Bool := Token.matchAll (tokens pattern) text.toList

/-- The characters that have a meaning in a regular expression, blanks among them. -/
def isSpecial (c : Char) : Bool :=
  "()[]\x7b\x7d?*+-|^$\\.&~# \t\n\r\x0b\x0c".toList.contains c

/-- A character that stands for itself in a regular expression. -/
def escapeChar (c : Char) : List Char := if isSpecial c then ['\\', c] else [c]

/-- A text that stands for itself in a regular expression. -/
def escape (s : String) : String := String.ofList (s.toList.flatMap escapeChar)

/-- The regular expression for one token. -/
def Token.regex : Token → List Char
  | .anyRun => ['.', '*']
  | .anyOne => ['.']
  | .literal c => escapeChar c

/-- The regular expression that fits the same texts as the pattern. -/
def regex (pattern : String) : String := String.ofList ((tokens pattern).flatMap Token.regex)

end Criteria.Like
