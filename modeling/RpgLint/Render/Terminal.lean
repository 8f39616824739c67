import RpgLint.Failure
import RpgLint.Text.Letters

/-!
# What is shown on a terminal

Texts are coloured where colours are wanted.  A failure or a warning is shown on a line of its own,
with what lies behind it and a hint below.

## Main definitions

* `Colour`, `paint` — the escape sequences in use, and a text in a colour.
* `Diagnostic` — what is shown, and `Diagnostic.render` its text.
* `Failure.diagnostic`, `Failure.warning` — a failure as an error or as a warning.
-/

namespace RpgLint

/-- A way to show a text on a terminal. -/
inductive Colour
  | red
  | green
  | yellow
  | cyan
  | bold
  | dim
  deriving DecidableEq, Repr

/-- The sequence that switches the colour on. -/
def Colour.sequence : Colour → String
  | red => "\x1b[31m"
  | green => "\x1b[32m"
  | yellow => "\x1b[33m"
  | cyan => "\x1b[36m"
  | bold => "\x1b[1m"
  | dim => "\x1b[2m"

/-- The sequence that switches all colours off. -/
def colourReset : String := "\x1b[0m"

/-- The text in colours that are switched on one after another, where colours are wanted. -/
def paint (wanted : Bool) (colours : List Colour) (text : String) : String :=
  if wanted then String.join (colours.map Colour.sequence) ++ text ++ colourReset else text

/-- What is shown about an error or a warning. -/
structure Diagnostic where
  /-- Heading of an error; a warning has none. -/
  heading : Option String
  /-- What is wrong. -/
  message : String
  /-- What lies behind it. -/
  detail : Option String := none
  /-- What to do. -/
  hint : Option String := none
  deriving DecidableEq, Repr

/-- The text of a diagnostic. -/
def Diagnostic.render (coloured : Bool) (diagnostic : Diagnostic) : String :=
  let label := match diagnostic.heading with
    | some heading => paint coloured [.bold, .red] s!"✖ {heading}:"
    | none => paint coloured [.bold, .yellow] "⚠ Warning:"
  unlines
    ([label ++ " " ++ diagnostic.message] ++
      (diagnostic.detail.map fun detail => "  " ++ paint coloured [.dim] ("× " ++ detail)).toList ++
      (diagnostic.hint.map fun hint =>
        "  " ++ paint coloured [.cyan] "help:" ++ " " ++ hint).toList)

namespace Failure

/-- The failure as an error. -/
def diagnostic (failure : Failure) : Diagnostic :=
  { heading := some failure.heading
    message := failure.message
    detail := failure.detail?
    hint := failure.hint? }

/-- The failure as a warning, without a hint. -/
def warning (failure : Failure) : Diagnostic :=
  { heading := none, message := failure.message, detail := failure.detail? }

end Failure

end RpgLint
