/-
**Pattern registries.**

A registry maps pattern names to fragments: the built-in table with further entries layered over
it, which may take the place of built-in ones. A name that it does not know means the catch-all.

* `Registry.fragment`: the fragment that a name means.
-/

import GrokEvents.Grok.Builtin
import GrokEvents.Grok.Token
import GrokEvents.Value.Shown

namespace GrokEvents.Grok

/-- Why a table of patterns is refused. -/
inductive RegistryError where
  | invalidName (name : Value)
  | fragmentNotText (name : Text)

namespace RegistryError

/-- The text of a refusal. -/
def message : RegistryError → Text
  | .invalidName name =>
    name.message "Invalid pattern name ".toList ": must match ^[A-Z0-9_]+$".toList
  | .fragmentNotText name =>
    "Pattern ".toList ++ Text.quoted name ++ ": fragment must be a string".toList

end RegistryError

/-- Patterns by name. -/
structure Registry where
  entries : Entries Text Text
deriving DecidableEq, Repr

/-- Whether a text is accepted as a pattern name: one line break may follow the name. -/
def acceptsName (text : Text) : Bool :=
  isName (if text.getLast? = some '\n' then text.dropLast else text)

namespace Registry

/-- The registry of the built-in patterns alone. -/
def builtin : Registry :=
  ⟨Builtin.entries⟩

/-- The name of the catch-all. -/
def fallbackName : Text := "DATA".toList

/-- The fragment under a name, if it is known. -/
def get? (registry : Registry) (name : Text) : Option Text :=
  Entries.get? name registry.entries

/-- Whether a name is known. -/
def has (registry : Registry) (name : Text) : Bool :=
  Entries.has name registry.entries

/-- The fragment under a name, or the catch-all's. -/
def fragment (registry : Registry) (name : Text) : Text :=
  ((registry.get? name).or (registry.get? fallbackName)).getD []

/-- The names in the order of their code points. -/
def sortedNames (registry : Registry) : List Text :=
  (Entries.keys registry.entries).mergeSort Text.le

/-- One entry of a table, once it is known to be good. The name is judged first. -/
def checkEntry : Value × Value → Except RegistryError (Text × Text)
  | (.text name, fragment) =>
    if acceptsName name then
      match fragment with
      | .text fragment => .ok (name, fragment)
      | _ => .error (.fragmentNotText name)
    else .error (.invalidName (.text name))
  | (name, _) => .error (.invalidName name)

/-- The built-in patterns with further ones layered over them. -/
def layered (patterns : List (Text × Text)) : Registry :=
  ⟨Entries.extend Builtin.entries patterns⟩

/-- The built-in patterns with a table layered over them, if all its entries are good. -/
def ofTable (table : List (Value × Value)) : Except RegistryError Registry :=
  (table.mapM checkEntry).map layered

/-- The entries of a registry as a table. -/
def toTable (registry : Registry) : List (Value × Value) :=
  registry.entries.map fun entry => (.text entry.1, .text entry.2)

/-- The registry with a table layered over it. The merged table is judged as a whole, in order. -/
def extend (registry : Registry) (table : List (Value × Value)) :
    Except RegistryError Registry :=
  ofTable (table.foldl (fun merged entry => Value.putEntry entry.1 entry.2 merged)
    registry.toTable)

end Registry

end GrokEvents.Grok
