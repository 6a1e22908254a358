import UniformBlock.Layout.Conventions
import UniformBlock.Plan
import UniformBlock.Settings

/-!
# The block compiler

Settings together with size tables and specialists: everything that is needed
to lay out declarations and to compile the result into a plan.
-/

namespace UniformBlock

/-- What layouts and plans are made from.  The direct writers always follow the
convention of the settings. -/
structure Compiler where
  settings : Settings := {}
  specialists : List Specialist := Specialist.standard
  baseSizes : BaseSizes := .standard
  alignSizes : AlignSizes := .standard

namespace Compiler

/-- The compiler of a convention, with everything else as usual. -/
def ofConvention (convention : Convention) : Compiler where
  settings := { convention }

/-- The layout of a list of declarations. -/
def layout (compiler : Compiler) (declarations : List Declaration) : Attempt Layout :=
  match compiler.settings.convention with
  | .std140 => compiler.baseSizes.layout declarations
  | .wgsl => compiler.alignSizes.layout declarations

/-- The array writers of the convention. -/
def arrayWriters (compiler : Compiler) : ArrayWriters :=
  match compiler.settings.convention with
  | .std140 => compiler.baseSizes.arrayWriters compiler.settings.checkValueLengths
  | .wgsl => compiler.alignSizes.arrayWriters compiler.settings.checkValueLengths

/-- The writers of the convention. -/
def dispatch (compiler : Compiler) : Dispatch where
  specialists := compiler.specialists
  direct := .ofConvention compiler.settings.convention
  arrays := compiler.arrayWriters

/-- Compile placed uniforms into a plan. -/
def compile (compiler : Compiler) (elements : List Element) : Attempt Plan :=
  Plan.compile compiler.dispatch elements

/-- Lay out declarations and compile the result. -/
def compileDeclarations (compiler : Compiler) (declarations : List Declaration) :
    Attempt (Layout × Plan) :=
  match compiler.layout declarations with
  | .error error => .error error
  | .ok layout => (compiler.compile layout.elements).map fun plan => (layout, plan)

end Compiler

end UniformBlock
