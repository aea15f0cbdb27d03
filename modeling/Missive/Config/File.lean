import Missive.Config
import Missive.Toml.Document
/-!
# Configuration files

A configuration may be kept in a TOML document with two settings, `runtime_crate` and `imports`,
which lie over the defaults.

* `Config.Overlay` -- what a document sets;
* `Config.Overlay.ofDocument?` -- refuses all other settings, and a setting that is made twice;
* `Config.read?` -- the configuration of a document.
-/

namespace Missive.Config

/-- The table of imports in a document. -/
structure ImportTable where
  entries : List (String × String)
  /-- Whether single entries may still be added from outside of the table. -/
  extensible : Bool

/-- What the lines of a document have set so far. -/
structure Overlay where
  runtime : Option String
  imports : Option ImportTable
  /-- Whether the following lines belong to the table of imports. -/
  inImports : Bool

namespace Overlay

/-- The key of the runtime path. -/
def runtimeKey : String := "runtime_crate"

/-- The key of the table of imports. -/
def importsKey : String := "imports"

/-- The overlay that sets nothing. -/
def empty : Overlay := ⟨none, none, false⟩

/-- Opens the table of imports, which must not have been opened before. -/
def openImports (o : Overlay) (entries : List (String × String)) (extensible inside : Bool) :
    Option Overlay :=
  match o.imports with
  | some _ => none
  | none => some { o with imports := some ⟨entries, extensible⟩, inImports := inside }

/-- Adds an entry to the table of imports. -/
def addImport (o : Overlay) (table : ImportTable) (package path : String) : Overlay :=
  { o with imports := some { table with entries := table.entries ++ [(package, path)] } }

/-- An assignment in the table of imports. -/
def assignImport? (o : Overlay) : List String → Toml.Setting → Option Overlay
  | [package], .text path => o.imports.map fun table => o.addImport table package path
  | _, _ => none

/-- An assignment in front of all tables. -/
def assign? (o : Overlay) : List String → Toml.Setting → Option Overlay
  | [key], .text s =>
    if key = runtimeKey ∧ o.runtime = none then some { o with runtime := some s } else none
  | [key], .table entries => if key = importsKey then o.openImports entries false false else none
  | [key, package], .text path =>
    if key = importsKey then
      match o.imports with
      | none => o.openImports [(package, path)] true false
      | some table => if table.extensible then some (o.addImport table package path) else none
    else none
  | _, _ => none

/-- The effect of a line. -/
def line? (o : Overlay) : Toml.Line → Option Overlay
  | .header path => if path = [importsKey] then o.openImports [] false true else none
  | .assignment path value =>
    if o.inImports then o.assignImport? path value else o.assign? path value

/-- What a document sets. -/
def ofDocument? (doc : Toml.Document) : Option Overlay :=
  doc.foldlM line? empty

/-- The configuration with these settings over the defaults. -/
def config (o : Overlay) : Config :=
  let base := withRuntime (o.runtime.getD standardRuntime)
  match o.imports with
  | none => base
  | some table => { base with imports := base.imports.insertAll table.entries }

end Overlay

/-- The configuration that a TOML document describes. -/
def read? (text : String) : Option Config := do
  let doc ← Toml.Document.read? text
  (Overlay.ofDocument? doc).map Overlay.config

end Missive.Config
