import ApiTypes.CommandLine.Invocation
import ApiTypes.Text.Whole

/-!
# Colors

* `Ink` — the colors that texts are printed in, by what the texts are.
* `Palette` — the choice of colors for a terminal; `Palette.paint` is a text in its color.
-/

namespace ApiTypes.CommandLine

/-- What a colored text is. -/
inductive Ink where
  | timestamp
  | primary
  | accent
  | success
  | label
  | value
  deriving DecidableEq, Repr

/-- The background of a terminal. -/
inductive Theme where
  | dark
  | light
  deriving DecidableEq, Repr

/-- A color: its parts of red, green and blue. -/
structure Rgb where
  red : Nat
  green : Nat
  blue : Nat
  deriving DecidableEq, Repr

/-- The color of a text on a background. -/
def Ink.color : Ink → Theme → Rgb
  | .timestamp, .dark => ⟨118, 166, 166⟩
  | .timestamp, .light => ⟨92, 62, 38⟩
  | .primary, .dark => ⟨191, 126, 4⟩
  | .primary, .light => ⟨70, 42, 25⟩
  | .accent, .dark => ⟨166, 84, 55⟩
  | .accent, .light => ⟨211, 99, 70⟩
  | .success, .dark => ⟨118, 166, 166⟩
  | .success, .light => ⟨34, 142, 90⟩
  | .label, .dark => ⟨217, 164, 4⟩
  | .label, .light => ⟨176, 103, 66⟩
  | .value, .dark => ⟨242, 211, 56⟩
  | .value, .light => ⟨199, 146, 76⟩

/-- What a terminal tells about itself. -/
structure Terminal where
  /-- Whether it wants no colors at all. -/
  refusesColor : Bool := false
  /-- The numbers of its colors, the background last, with semicolons between them. -/
  colors : Option String := none
  deriving DecidableEq, Repr

/-- The background of a terminal: light if its number is 8 or more, and dark if it is unknown. -/
def Terminal.theme (t : Terminal) : Theme :=
  let background := t.colors.bind fun colors =>
    (Text.splitOnChar ';' colors.toList).getLast?.bind fun part => Text.whole? (String.ofList part)
  match background with
  | some n => if 8 ≤ n ∧ n < 256 then .light else .dark
  | none => .dark

/-- The colors for a terminal. -/
structure Palette where
  /-- Whether texts are colored. -/
  isOn : Bool
  theme : Theme
  /-- Whether even the change back to the usual color is left out. -/
  isPlain : Bool := false
  deriving DecidableEq, Repr

namespace Palette

/-- The colors that options ask for.  The output is no terminal, so there are colors only when they
are always wanted. -/
def ofOptions (options : SharedOptions) (terminal : Terminal) : Palette :=
  { isOn := options.color = .always
    theme := match options.theme with
      | .dark => .dark
      | .light => .light
      | .auto => terminal.theme
    isPlain := terminal.refusesColor }

/-- A command to the terminal. -/
def escape (code : String) : String :=
  "\x1b[" ++ code ++ "m"

/-- The code of the usual color. -/
def usual (p : Palette) : String :=
  if p.isPlain then "" else "39"

/-- The code of a color. -/
def code (p : Palette) (ink : Ink) : String :=
  if p.isPlain || !p.isOn then p.usual
  else
    let color := ink.color p.theme
    "38;2;" ++ color.red.repr ++ ";" ++ color.green.repr ++ ";" ++ color.blue.repr

/-- A text in its color, and the usual color after it. -/
def paint (p : Palette) (ink : Ink) (text : String) : String :=
  escape (p.code ink) ++ text ++ escape p.usual

end Palette

end ApiTypes.CommandLine
