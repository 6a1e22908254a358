import UniformBlock.Settings
import UniformBlock.Toml.Document

/-!
# Reading settings

Settings are a TOML table.  A missing entry has its default, and entries that
are not settings are ignored; an entry of the wrong type refuses the table.
-/

namespace UniformBlock

/-- Where settings stand: in a document of their own, or among the entries of a
block description. -/
inductive SettingsPlace where
  | document
  | block
  deriving DecidableEq, Repr

/-- Whether a value carries nothing, as the content of a named convention.  A
document of its own also allows an empty array there. -/
def SettingsPlace.isNothing (place : SettingsPlace) : Toml.Value → Bool
  | .table [] => true
  | .array [] => place = .document
  | _ => false

/-- The convention that a value names: by its name, or as a table with the name
as its only key and nothing under it. -/
def Convention.ofToml? (place : SettingsPlace) : Toml.Value → Option Convention
  | .text name => ofName? name
  | .table [(name, content)] => if place.isNothing content then ofName? name else none
  | _ => none

namespace Settings

/-- An entry of a table, or a default when the table does not have it. -/
def entryOr {Result : Type} (entries : Toml.Entries) (name : String)
    (read : Toml.Value → Option Result) (default : Result) : Option Result :=
  match entries.lookup name with
  | none => some default
  | some value => read value

/-- The settings in a table. -/
def ofToml? (place : SettingsPlace) (entries : Toml.Entries) : Option Settings := do
  let standard : Settings := {}
  return {
    convention :=
      ← entryOr entries "convention" (Convention.ofToml? place) standard.convention
    checkValueLengths :=
      ← entryOr entries "check_value_lengths" Toml.Value.truth? standard.checkValueLengths
    logLayouts := ← entryOr entries "log_layouts" Toml.Value.truth? standard.logLayouts }

/-- Read settings from the text of a document. -/
def parse (text : String) : Option Settings :=
  (Toml.parse text).bind (ofToml? .document)

end Settings

end UniformBlock
