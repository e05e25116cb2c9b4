import CrateScaffold.Text.Quoted

/-!
Tokens of a template: literal text, the ends of tags, and inside tags names, numbers, strings and
marks. What is wrong with a source is found while reading, so a fault is a token too.
-/

namespace CrateScaffold.Template

inductive Mark where
  | doubleSlash | doubleStar | equal | notEqual | greaterEqual | lessEqual
  | plus | minus | slash | star | percent | tilde | greater | less | assign
  | openBracket | closeBracket | openParen | closeParen | openBrace | closeBrace
  | dot | colon | pipe | comma | semicolon
  deriving DecidableEq, Repr

def marks : List (Mark × Text) := [
  (.doubleSlash, "//"), (.doubleStar, "**"), (.equal, "=="), (.notEqual, "!="),
  (.greaterEqual, ">="), (.lessEqual, "<="), (.plus, ['+']), (.minus, ['-']), (.slash, ['/']),
  (.star, ['*']), (.percent, ['%']), (.tilde, ['~']), (.greater, ['>']), (.less, ['<']),
  (.assign, ['=']), (.openBracket, ['[']), (.closeBracket, [']']), (.openParen, ['(']),
  (.closeParen, [')']), (.openBrace, ['{']), (.closeBrace, ['}']), (.dot, ['.']),
  (.colon, [':']), (.pipe, ['|']), (.comma, [',']), (.semicolon, [';'])]

def Mark.text (m : Mark) : Text := (marks.lookup m).getD []

def Mark.closer? : Mark → Option Mark
  | .openBracket => some .closeBracket
  | .openParen => some .closeParen
  | .openBrace => some .closeBrace
  | _ => none

def Mark.isCloser : Mark → Bool
  | .closeBracket | .closeParen | .closeBrace => true
  | _ => false

inductive EscapeFault where
  | two | four | eight | range | name | uncovered
  deriving DecidableEq, Repr

def EscapeFault.message : EscapeFault → Text
  | .two => "truncated \\xXX escape"
  | .four => "truncated \\uXXXX escape"
  | .eight => "truncated \\UXXXXXXXX escape"
  | .range => "illegal Unicode character"
  | .name => "malformed \\N character escape"
  | .uncovered => "not covered"

structure Opening where
  tag : Text
  ends : List Text
  deriving DecidableEq, Repr

inductive SyntaxFault where
  | character (c : Char) (position : Nat)
  | closer (m : Mark)
  | mismatch (m expected : Mark)
  | openComment
  | openRaw
  | badName
  | badEscape (f : EscapeFault)
  | ended (expected : Text)
  | expected (expected found : Text)
  | unexpected (found : Text)
  | noExpression (found : Text)
  | noMember
  | badTarget (kind : Text)
  | noTag
  | chainedTest
  | unknownTag (tag : Text) (openings : List Opening)
  | unclosed (openings : List Opening)
  | tooDeep
  | uncovered
  deriving DecidableEq, Repr

def SyntaxFault.ofEscape : EscapeFault → SyntaxFault
  | .uncovered => .uncovered
  | f => .badEscape f

def orList (tags : List Text) : Text := Text.joinWith " or " (tags.map Text.quote)

def lookedFor (name : Option Text) : List Opening → Text
  | [] => []
  | o :: os =>
    let nested := name.any fun n => (o :: os).any (·.ends.contains n)
    let intro : Text := if nested then
      " You probably made a nesting mistake. Jinja is expecting this tag, but currently " ++
        "looking for "
    else " Jinja was looking for the following tags: "
    intro ++ orList o.ends ++ ". The innermost block that needs to be closed is " ++
      Text.quote o.tag ++ "."

def SyntaxFault.message : SyntaxFault → Text
  | .character c position =>
    "unexpected char " ++ Text.quote [c] ++ " at " ++ Text.ofNat position
  | .closer m => "unexpected '" ++ m.text ++ "'"
  | .mismatch m e => "unexpected '" ++ m.text ++ "', expected '" ++ e.text ++ "'"
  | .openComment => "Missing end of comment tag"
  | .openRaw => "Missing end of raw directive"
  | .badName => "Invalid character in identifier"
  | .badEscape f => f.message
  | .ended e => "unexpected end of template, expected " ++ Text.quote e ++ "."
  | .expected e f => "expected token " ++ Text.quote e ++ ", got " ++ Text.quote f
  | .unexpected f => "unexpected " ++ Text.quote f
  | .noExpression f => "Expected an expression, got " ++ Text.quote f
  | .noMember => "expected name or number"
  | .badTarget kind => "can't assign to " ++ Text.quote kind
  | .noTag => "tag name expected"
  | .chainedTest => "You cannot chain multiple tests with is"
  | .unknownTag tag os => "Encountered unknown tag " ++ Text.quote tag ++ "." ++
      lookedFor (some tag) os
  | .unclosed os => "Unexpected end of template." ++ lookedFor none os
  | .tooDeep => "nesting too deep"
  | .uncovered => "not covered"

inductive Symbol where
  | text (s : Text)
  | printBegin
  | printEnd
  | blockBegin
  | blockEnd
  | name (n : Text)
  | int (n : Nat)
  | float (x : Float)
  | string (s : Text)
  | mark (m : Mark)
  | fault (f : SyntaxFault)
  | eof

def printEndText : Text := "end of print statement"

def blockEndText : Text := "end of statement block"

def Symbol.description : Symbol → Text
  | .text _ => "template data / text"
  | .printBegin => "begin of print statement"
  | .printEnd => printEndText
  | .blockBegin => "begin of statement block"
  | .blockEnd => blockEndText
  | .name n => n
  | .int _ => "integer"
  | .float _ => "float"
  | .string _ => "string"
  | .mark m => m.text
  | .fault _ => "fault"
  | .eof => "end of template"

structure Token where
  symbol : Symbol
  line : Nat

end CrateScaffold.Template
