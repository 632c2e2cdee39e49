/-! Places in a YAML text, and what can be wrong with it. -/

namespace SatClient.Yaml

/-- A place in a text: characters before it, lines before it, and characters before it on its
line.
-/
structure Mark where
  index : Nat
  line : Nat
  column : Nat
  deriving DecidableEq, Repr, Inhabited

namespace Mark

def start : Mark := ⟨0, 0, 0⟩

/-- Whether a place is where every text starts; such a place is not mentioned. -/
def isStart (mark : Mark) : Bool := mark.line == 0 && mark.column == 0

def text (mark : Mark) : String :=
  "line " ++ toString (mark.line + 1) ++ " column " ++ toString (mark.column + 1)

def suffix (mark : Mark) : String :=
  if mark.isStart then "" else " at " ++ mark.text

def advance (mark : Mark) (count : Nat) : Mark :=
  { mark with index := mark.index + count, column := mark.column + count }

def newline (mark : Mark) (count : Nat) : Mark := ⟨mark.index + count, mark.line + 1, 0⟩

end Mark

/-- What was found, or was not. -/
inductive Problem where
  | badStart
  | noColon
  | valueNotAllowed
  | keyNotAllowed
  | entryNotAllowed
  | unknownDirective
  | noDirectiveName
  | badDirectiveName
  | noCommentOrBreak
  | noVersionDot
  | longVersion
  | noVersionNumber
  | noSpace
  | noSpaceOrBreak
  | noAnchorName
  | noClosingAngle
  | noExclamation
  | noTagUri
  | noOctet
  | badLeadingOctet
  | badTrailingOctet
  | zeroIndentation
  | tabInIndentation
  | documentIndicator
  | endOfStream
  | unknownEscape
  | noHexNumber
  | badEscapeCode
  | flowColon
  | tabViolation
  | noDocumentStart
  | duplicateVersion
  | duplicateTag
  | incompatibleVersion
  | undefinedHandle
  | noNodeContent
  | noDash
  | noKey
  | noCommaOrBracket
  | noCommaOrBrace
  deriving DecidableEq, Repr

def Problem.text : Problem → String
  | badStart => "found character that cannot start any token"
  | noColon => "could not find expected ':'"
  | valueNotAllowed => "mapping values are not allowed in this context"
  | keyNotAllowed => "mapping keys are not allowed in this context"
  | entryNotAllowed => "block sequence entries are not allowed in this context"
  | unknownDirective => "found unknown directive name"
  | noDirectiveName => "could not find expected directive name"
  | badDirectiveName => "found unexpected non-alphabetical character"
  | noCommentOrBreak => "did not find expected comment or line break"
  | noVersionDot => "did not find expected digit or '.' character"
  | longVersion => "found extremely long version number"
  | noVersionNumber => "did not find expected version number"
  | noSpace => "did not find expected whitespace"
  | noSpaceOrBreak => "did not find expected whitespace or line break"
  | noAnchorName => "did not find expected alphabetic or numeric character"
  | noClosingAngle => "did not find the expected '>'"
  | noExclamation => "did not find expected '!'"
  | noTagUri => "did not find expected tag URI"
  | noOctet => "did not find URI escaped octet"
  | badLeadingOctet => "found an incorrect leading UTF-8 octet"
  | badTrailingOctet => "found an incorrect trailing UTF-8 octet"
  | zeroIndentation => "found an indentation indicator equal to 0"
  | tabInIndentation => "found a tab character where an indentation space is expected"
  | documentIndicator => "found unexpected document indicator"
  | endOfStream => "found unexpected end of stream"
  | unknownEscape => "found unknown escape character"
  | noHexNumber => "did not find expected hexdecimal number"
  | badEscapeCode => "found invalid Unicode character escape code"
  | flowColon => "found unexpected ':'"
  | tabViolation => "found a tab character that violates indentation"
  | noDocumentStart => "did not find expected <document start>"
  | duplicateVersion => "found duplicate %YAML directive"
  | duplicateTag => "found duplicate %TAG directive"
  | incompatibleVersion => "found incompatible YAML document"
  | undefinedHandle => "found undefined tag handle"
  | noNodeContent => "did not find expected node content"
  | noDash => "did not find expected '-' indicator"
  | noKey => "did not find expected key"
  | noCommaOrBracket => "did not find expected ',' or ']'"
  | noCommaOrBrace => "did not find expected ',' or '\x7d'"

/-- What was being read when a problem turned up. -/
inductive Activity where
  | nextToken
  | simpleKey
  | directive
  | versionDirective
  | tagDirective
  | tagDirectiveText
  | anchor
  | reference
  | tag
  | tagText
  | blockScalar
  | quotedScalar
  | quotedText
  | plainScalar
  | node
  | blockNode
  | flowNode
  | blockSequence
  | blockMapping
  | flowSequence
  | flowMapping
  deriving DecidableEq, Repr

def Activity.text : Activity → String
  | nextToken => "while scanning for the next token"
  | simpleKey => "while scanning a simple key"
  | directive => "while scanning a directive"
  | versionDirective => "while scanning a %YAML directive"
  | tagDirective => "while scanning a %TAG directive"
  | tagDirectiveText => "while parsing a %TAG directive"
  | anchor => "while scanning an anchor"
  | reference => "while scanning an alias"
  | tag => "while scanning a tag"
  | tagText => "while parsing a tag"
  | blockScalar => "while scanning a block scalar"
  | quotedScalar => "while scanning a quoted scalar"
  | quotedText => "while parsing a quoted scalar"
  | plainScalar => "while scanning a plain scalar"
  | node => "while parsing a node"
  | blockNode => "while parsing a block node"
  | flowNode => "while parsing a flow node"
  | blockSequence => "while parsing a block collection"
  | blockMapping => "while parsing a block mapping"
  | flowSequence => "while parsing a flow sequence"
  | flowMapping => "while parsing a flow mapping"

structure Begun where
  activity : Activity
  mark : Mark
  deriving DecidableEq, Repr

inductive Fault where
  /-- A character that no YAML text may hold, after some bytes. -/
  | control (offset : Nat)
  | malformed (problem : Problem) (mark : Mark) (begun : Option Begun)
  deriving DecidableEq, Repr

/-- A problem at a place, while something else was being read from another. -/
def Fault.within (problem : Problem) (mark : Mark) (activity : Activity) (start : Mark) : Fault :=
  .malformed problem mark (some ⟨activity, start⟩)

/-- What is said about the thing begun: where it was, unless the problem is at that place. -/
def Begun.suffix (begun : Begun) (mark : Mark) : String :=
  ", " ++ begun.activity.text
    ++ if begun.mark.line = mark.line ∧ begun.mark.column = mark.column then ""
      else begun.mark.suffix

def Fault.message : Fault → String
  | control offset =>
      "control characters are not allowed"
        ++ if offset = 0 then "" else " at position " ++ toString offset
  | malformed problem mark begun =>
      problem.text ++ mark.suffix ++ (begun.map (·.suffix mark)).getD ""

end SatClient.Yaml
