/-! What went wrong, and below it the causes, each the cause of the one before. -/

namespace SatClient

/-- A failure with its causes. -/
structure Explanation where
  message : String
  causes : List String
  deriving DecidableEq, Repr

namespace Explanation

/-- A failure without a cause. -/
def plain (message : String) : Explanation := ⟨message, []⟩

def within (message : String) (cause : Explanation) : Explanation :=
  ⟨message, cause.message :: cause.causes⟩

/-- A text whose first line has something in front, and the others a margin. -/
def indented (front margin text : String) : String :=
  front ++ ("\n" ++ margin).intercalate (text.splitOn "\n")

def numbered (index : Nat) : List String → String
  | [] => ""
  | cause :: rest =>
      let number := toString index
      "\n" ++ indented ("".pushn ' ' (5 - number.length) ++ number ++ ": ") "       " cause
        ++ numbered (index + 1) rest

/-- The lines below the message: causes are numbered where there are several. -/
def causesText : List String → String
  | [] => ""
  | [cause] => "\n\nCaused by:\n" ++ indented "    " "    " cause
  | causes => "\n\nCaused by:" ++ numbered 0 causes

def text (explanation : Explanation) : String :=
  explanation.message ++ causesText explanation.causes

end Explanation

end SatClient
