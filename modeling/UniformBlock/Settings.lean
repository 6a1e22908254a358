/-!
# Settings

The two conventions by which uniforms are placed in a block, how blocks are laid out
and compiled, and the text form in which settings are kept.
-/

namespace UniformBlock

/-- The layout rules that a uniform block follows. -/
inductive Convention where
  /-- Fixed rows of sixteen bytes. -/
  | std140
  /-- A size and an alignment for each type. -/
  | wgsl
  deriving DecidableEq, Repr

namespace Convention

/-- The name of a convention. -/
def name : Convention → String
  | std140 => "std140"
  | wgsl => "wgsl"

/-- Read the name of a convention. -/
def ofName? (text : String) : Option Convention :=
  if text = "std140" then some std140
  else if text = "wgsl" then some wgsl
  else none

@[simp]
theorem ofName?_name (convention : Convention) : ofName? convention.name = some convention := by
  cases convention <;> simp [ofName?, name]

end Convention

/-- The choices made for one kind of block. -/
structure Settings where
  convention : Convention := .std140
  /-- Whether an array refuses a short value before anything is written. -/
  checkValueLengths : Bool := true
  /-- Whether every layout is recorded as a chart. -/
  logLayouts : Bool := false
  deriving DecidableEq, Repr

namespace Settings

/-- The settings as TOML text. -/
def render (settings : Settings) : String :=
  "convention = \"" ++ settings.convention.name ++ "\"\n" ++
    "check_value_lengths = " ++ toString settings.checkValueLengths ++ "\n" ++
    "log_layouts = " ++ toString settings.logLayouts ++ "\n"

end Settings

end UniformBlock
