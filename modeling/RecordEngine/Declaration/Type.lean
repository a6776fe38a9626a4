import RecordEngine.Declaration.Token
/-!
The written form of a type, as far as a version field needs it.

A version is a whole number. Its type is written plainly, or it is an option of one written plainly,
`Option` being the last segment of any path.
-/

set_option autoImplicit false

namespace RecordEngine

namespace Declaration

/-- What follows the angle bracket that closes as many as are open; the point of an arrow closes
none. -/
def afterAngles : Nat → List Token → Option (List Token)
  | _, [] => none
  | depth, .mark '-' true :: .mark '>' _ :: rest => afterAngles depth rest
  | depth, .mark '<' _ :: rest => afterAngles (depth + 1) rest
  | depth, .mark '>' _ :: rest => if depth ≤ 1 then some rest else afterAngles (depth - 1) rest
  | depth, _ :: rest => afterAngles depth rest

/-- Words that begin a type that is no path. -/
def typeKeywords : List String := ["dyn", "impl", "fn", "for", "unsafe", "extern"]

/-- What follows the arguments in parentheses of a segment, with the type they give if that is in
parentheses too. -/
def afterResult : List Token → List Token
  | .mark '-' true :: .mark '>' _ :: .group .paren _ :: rest => rest
  | rest => rest

/-- What follows the arguments of a segment, if it has any. -/
def afterArguments? : List Token → Option (List Token)
  | .mark '<' _ :: inner => afterAngles 1 inner
  | .mark ':' true :: .mark ':' _ :: .mark '<' _ :: inner => afterAngles 1 inner
  | .mark ':' true :: .mark ':' _ :: .group .paren _ :: rest => some (afterResult rest)
  | .group .paren _ :: rest => some (afterResult rest)
  | rest => some rest

/-- The last segment of a path: its name, and all that follows the name. `fuel` bounds the number of
segments. -/
def lastSegment : Nat → List Token → Option (String × List Token)
  | fuel + 1, .word name :: rest =>
    match afterArguments? rest with
    | some (.mark ':' true :: .mark ':' _ :: more) => lastSegment fuel more
    | _ => some (name, rest)
  | _, _ => none

/-- The last segment of a type that is a path, of any kind. -/
def pathEnd (tokens : List Token) : Option (String × List Token) :=
  let fuel := tokens.length
  match tokens with
  | .mark ':' true :: .mark ':' _ :: rest => lastSegment fuel rest
  | .mark '<' _ :: inner =>
    match afterAngles 1 inner with
    | some (.mark ':' true :: .mark ':' _ :: rest) => lastSegment fuel rest
    | _ => none
  | .word name :: _ => if typeKeywords.contains name then none else lastSegment fuel tokens
  | _ => none

/-- The two whole-number types, by their plain names. -/
def integerNames : List String := ["i64", "i32"]

/-- Whether these tokens are a whole-number type in angle brackets, after which a comma may stand. -/
def isAngledInteger : List Token → Bool
  | [.mark '<' _, .word name, .mark '>' _] => integerNames.contains name
  | [.mark '<' _, .word name, .mark ',' _, .mark '>' _] => integerNames.contains name
  | _ => false

/-- Whether these tokens, after the name of a segment, are the one argument of a whole-number
type. -/
def isIntegerArgument : List Token → Bool
  | .mark ':' true :: .mark ':' _ :: rest => isAngledInteger rest
  | tokens => isAngledInteger tokens

/-- Whether a version can be of this type: a whole-number type by its plain name, or an option of
one under any path. -/
def isVersionType (tokens : List Token) : Bool :=
  match tokens with
  | [.word name] => integerNames.contains name
  | _ =>
    match pathEnd tokens with
    | some ("Option", arguments) => isIntegerArgument arguments
    | _ => false

end Declaration

end RecordEngine
