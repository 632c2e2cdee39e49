/-! Colours for a terminal, as escape codes around a text. -/

namespace SatClient

/-- The environment variables that the program looks at, by name. -/
structure Environment where
  values : List (String × String)
  deriving DecidableEq, Repr, Inhabited

def Environment.get? (env : Environment) (name : String) : Option String :=
  (env.values.find? (·.1 == name)).map (·.2)

/-- The colours in use, each for a purpose. -/
inductive Color where
  | red
  | green
  | yellow
  | blue
  | magenta
  | cyan
  deriving DecidableEq, Repr

def Color.code : Color → Nat
  | red => 31
  | green => 32
  | yellow => 33
  | blue => 34
  | magenta => 35
  | cyan => 36

/-- A text between the code that switches a style on and the one that ends all styles. -/
def styled (code : Nat) (text : String) : String :=
  "\x1b[" ++ toString code ++ "m" ++ text ++ "\x1b[0m"

/-- Whether escape codes are written. -/
structure Paint where
  enabled : Bool
  deriving DecidableEq, Repr

namespace Paint

/-- Colours are off when `NO_COLOR` is set to anything, and on a dumb terminal. -/
def ofEnvironment (env : Environment) : Paint :=
  ⟨(env.get? "NO_COLOR").isNone && env.get? "TERM" != some "dumb"⟩

def color (paint : Paint) (color : Color) (text : String) : String :=
  if paint.enabled then styled color.code text else text

def success (paint : Paint) (text : String) : String := paint.color .green text

def error (paint : Paint) (text : String) : String := paint.color .red text

def warning (paint : Paint) (text : String) : String := paint.color .yellow text

def info (paint : Paint) (text : String) : String := paint.color .blue text

def name (paint : Paint) (name : String) : String := paint.color .cyan name

end Paint

end SatClient
