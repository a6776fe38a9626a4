import RecordEngine.Declaration.Literal
import RecordEngine.Text.Blank
/-!
The pieces of a written declaration.

A text is first cut into lexemes: words, marks, literals and brackets. Blanks and comments part
words and leave nothing behind. Then the lexemes are put together into tokens, where brackets and
all that they enclose are one token, so that a mark inside brackets is never taken for one outside.
-/

set_option autoImplicit false

namespace RecordEngine

namespace Declaration

inductive Bracket where
  | paren
  | square
  | curly
  deriving DecidableEq, Repr

/-- A piece of a declaration. -/
inductive Token where
  /-- A word, with the mark `r#` in front if it has one. -/
  | word (name : String)
  /-- A punctuation mark; `joined` tells that another one follows at once. -/
  | mark (c : Char) (joined : Bool)
  | literal (value : Literal)
  /-- Brackets with what they enclose. -/
  | group (bracket : Bracket) (inner : List Token)

/-- What a text is cut into. -/
inductive Lexeme where
  | single (token : Token)
  | opening (bracket : Bracket)
  | closing (bracket : Bracket)

namespace Lexeme

/-! ## Words -/

/-- The words that cannot have a mark in front. -/
def unmarkable : List String := ["_", "super", "self", "Self", "crate"]

/-- A word, which may have a mark in front. -/
def word? : List Char → Option (String × List Char)
  | 'r' :: '#' :: cs => do
    let (name, rest) ← Text.identifier? cs
    if unmarkable.contains (String.ofList name) then none
    else return ("r#" ++ String.ofList name, rest)
  | cs => (Text.identifier? cs).map fun (name, rest) => (String.ofList name, rest)

/-- The beginnings of literals; what has one of them and is no literal is no word either. -/
def literalBeginnings : List (List Char) :=
  ["r\"", "r#\"", "r##", "b\"", "b'", "br\"", "br#", "c\"", "cr\"", "cr#"].map String.toList

/-! ## Marks -/

def marks : List Char := "~!@#$%^&*-=+|;:,<.>/?'".toList

/-- Whether a text begins with a mark; the slash of a comment is none. -/
def beginsMark : List Char → Bool
  | '/' :: '/' :: _ => false
  | '/' :: '*' :: _ => false
  | c :: _ => marks.contains c
  | [] => false

/-- Whether a single quote stands in front of a label: a word and no quote after it. -/
def isLabel (cs : List Char) : Bool :=
  match word? cs with
  | some (name, rest) =>
    match rest with
    | '\'' :: _ => false
    | '#' :: _ => name.startsWith "r#"
    | _ => true
  | none => false

def mark? : List Char → Option (Token × List Char)
  | [] => none
  | c :: rest =>
    if c = '\'' then if isLabel rest then some (.mark c true, rest) else none
    else if beginsMark (c :: rest) then some (.mark c (beginsMark rest), rest)
    else none

/-! ## Comments -/

/-- The rest of a line, and what follows it from its end on. -/
def lineRest : List Char → List Char × List Char
  | [] => ([], [])
  | '\n' :: cs => ([], '\n' :: cs)
  | '\r' :: '\n' :: cs => ([], '\n' :: cs)
  | c :: cs => let (line, rest) := lineRest cs; (c :: line, rest)

/-- What follows a comment in brackets, so many of which are open. -/
def afterComment? : Nat → List Char → Option (List Char)
  | depth, '/' :: '*' :: cs => afterComment? (depth + 1) cs
  | depth, '*' :: '/' :: cs => if depth ≤ 1 then some cs else afterComment? (depth - 1) cs
  | depth, _ :: cs => afterComment? depth cs
  | _, [] => none

/-- The annotation that a comment stands for if it documents what follows it. -/
def documentation : List Lexeme :=
  [.single (.mark '#' false), .single (.group .square [.word "doc"])]

/-- The annotation that a comment stands for if it documents what it stands in. -/
def innerDocumentation : List Lexeme :=
  [.single (.mark '#' false), .single (.mark '!' false), .single (.group .square [.word "doc"])]

/-- What a comment leaves behind, given what stands after its first two characters. -/
def ofComment (beginning : Char) : List Char → List Lexeme
  | '!' :: _ => innerDocumentation
  | c :: d :: _ => if c = beginning ∧ d ≠ beginning ∧ d ≠ '/' then documentation else []
  | [c] => if c = beginning then documentation else []
  | [] => []

/-- Whether a carriage return stands anywhere but in front of a line end. -/
def hasLoneReturn : List Char → Bool
  | [] => false
  | '\r' :: '\n' :: cs => hasLoneReturn cs
  | '\r' :: _ => true
  | _ :: cs => hasLoneReturn cs

/-- A comment by what stands after its first two characters; one that documents something has no
lone carriage return. -/
def comment? (beginning : Char) (content : List Char) : Option (List Lexeme) :=
  let found := ofComment beginning content
  if !found.isEmpty && hasLoneReturn content then none else some found

/-! ## Cutting a text -/

def bracket? (c : Char) : Option Lexeme :=
  match c with
  | '(' => some (.opening .paren)
  | ')' => some (.closing .paren)
  | '[' => some (.opening .square)
  | ']' => some (.closing .square)
  | '\x7b' => some (.opening .curly)
  | '\x7d' => some (.closing .curly)
  | _ => none

/-- A literal, a mark or a word, tried in this order. -/
def token? (cs : List Char) : Option (Token × List Char) :=
  match Literal.read? cs with
  | some (value, rest) => some (.literal value, rest)
  | none =>
    match mark? cs with
    | some found => some found
    | none =>
      if literalBeginnings.any (·.isPrefixOf cs) then none
      else (word? cs).map fun (name, rest) => (.word name, rest)

/-- The sign of an error, which is a literal: without a blank in it, it is no comment in
parentheses. -/
def errorSign : List Char := "(/*ERROR*/)".toList

/-- What the first characters of a text leave behind, and what follows them. -/
def next? : List Char → Option (List Lexeme × List Char)
  | '/' :: '/' :: cs =>
    let (line, rest) := lineRest cs
    (comment? '/' line).map fun found => (found, rest)
  | '/' :: '*' :: cs => do
    let rest ← afterComment? 1 cs
    return (← comment? '*' (cs.take (cs.length - rest.length)), rest)
  | cs =>
    match cs with
    | [] => none
    | c :: rest =>
      if Text.isBlank c then some ([], rest)
      else if errorSign.isPrefixOf cs then
        some ([.single (.literal .other)], cs.drop errorSign.length)
      else
        match bracket? c with
        | some lexeme => some ([lexeme], rest)
        | none => (token? cs).map fun (token, rest) => ([.single token], rest)

/-- The lexemes of a text. `fuel` bounds its length. -/
def all? : Nat → List Char → Option (List Lexeme)
  | _, [] => some []
  | 0, _ => none
  | fuel + 1, cs => do
    let (found, rest) ← next? cs
    return found ++ (← all? fuel rest)

end Lexeme

namespace Token

/-- Puts lexemes together. `stack` holds the brackets not closed yet, innermost first, each with the
tokens in front of it, and `before` the tokens since the innermost; tokens stand last first. -/
def assemble? : List (Bracket × List Token) → List Token → List Lexeme → Option (List Token)
  | [], before, [] => some before.reverse
  | _ :: _, _, [] => none
  | stack, before, .single token :: rest => assemble? stack (token :: before) rest
  | stack, before, .opening bracket :: rest => assemble? ((bracket, before) :: stack) [] rest
  | [], _, .closing _ :: _ => none
  | (bracket, outer) :: stack, before, .closing closed :: rest =>
    if bracket = closed then assemble? stack (.group bracket before.reverse :: outer) rest
    else none

/-- The tokens of a text, if it can be cut into lexemes and its brackets match. -/
def read? (text : String) : Option (List Token) := do
  assemble? [] [] (← Lexeme.all? text.toList.length text.toList)

def isComma : Token → Bool
  | mark ',' _ => true
  | _ => false

end Token

end Declaration

end RecordEngine
