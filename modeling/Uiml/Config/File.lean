import Uiml.Asset.Files
import Uiml.Config.Basic
import Uiml.Toml.Document

/-!
# Configuration files

Settings are written as a TOML document. Each setting may be given once, by its own name and with a
value of its own type; what is not given keeps its default. The settings that are read must be in
range.

## Main definitions

* `Config.ofDocument?` — the settings of a document
* `Config.parse`, `Config.load` — settings from a text and from a file
-/

namespace Uiml.Config

/-- Why there are no settings. -/
inductive FileError where
  | unreadable (path : String) (fault : ReadFault)
  /-- The text is no TOML document, or gives a setting that there is not, or one of the wrong
  type. -/
  | malformed
  | refused (fault : Fault)
  deriving DecidableEq

/-- The wording of an error. -/
def FileError.message : FileError → String
  | .unreadable path fault => s!"failed to read {path}: {fault.message}"
  | .malformed => "malformed config"
  | .refused fault => fault.message

/-! ### Values -/

/-- A value that is a number. -/
def single? : Toml.Value → Option Float32
  | .integer n => some (Single.ofInt n)
  | .float x => some (Double.toSingle x)
  | _ => none

/-- A value that is a natural number. -/
def natural? : Toml.Value → Option Nat
  | .integer (.ofNat n) => some n
  | _ => none

/-- Adds an address to the settings. -/
def withAddress (config : Config) (address location : String) : Config :=
  { config with addressables := config.addressables.insert address location }

/-- Adds the addresses of a table, which are single keys with strings as their values. -/
def withAddresses? : Config → List (List String × Toml.Value) → Option Config
  | config, [] => some config
  | config, ([address], .string location) :: rest =>
    withAddresses? (config.withAddress address location) rest
  | _, _ => none

/-- The address that a moment in time in the place of addresses is the location of. -/
def momentAddress : String := "$__toml_private_datetime"

/-! ### Settings -/

/-- Gives one setting, or an address, a value. -/
def assign? (config : Config) : List String → Toml.Value → Option Config
  | ["root_tag"], .string s => some { config with rootTag := s }
  | ["clear_on_load"], .boolean b => some { config with clearOnLoad := b }
  | ["strict_attributes"], .boolean b => some { config with strictAttributes := b }
  | ["slot_count"], v => (natural? v).map fun n => { config with slotCount := n }
  | ["default_duration"], v => (single? v).map fun x => { config with defaultDuration := x }
  | ["bounce_scale"], v => (single? v).map fun x => { config with bounceScale := x }
  | ["screen_size"], .array (width :: height :: _) => do
    return { config with screenSize := ⟨← single? width, ← single? height⟩ }
  | ["resource_root"], .string s => some { config with resourceRoot := s }
  | ["http_timeout_secs"], v => (natural? v).map fun n => { config with httpTimeoutSeconds := n }
  | ["addressables"], .table entries => config.withAddresses? entries
  | ["addressables"], .moment text => some (config.withAddress momentAddress text)
  | ["addressables", address], .string location => some (config.withAddress address location)
  | _, _ => none

/-- The entries of a document, with the name of the table of addresses before the keys under its
header. There is no other header, and this one only if no entry before it gives addresses. -/
def entries? (document : Toml.Document) : Option (List (List String × Toml.Value)) :=
  let own := document.takeWhile fun statement => statement.entry?.isSome
  match document.drop own.length with
  | [] => document.mapM Toml.Statement.entry?
  | .table ["addressables"] :: rest => do
    let own ← own.mapM Toml.Statement.entry?
    let addresses ← rest.mapM Toml.Statement.entry?
    if own.any fun entry => entry.1.head? = some "addressables" then none
    else return own ++ addresses.map fun entry => ("addressables" :: entry.1, entry.2)
  | _ => none

/-- The settings of a document. -/
def ofDocument? (document : Toml.Document) : Option Config := do
  let entries ← entries? document
  if Toml.independent (entries.map Prod.fst) then
    entries.foldlM (fun config entry => config.assign? entry.1 entry.2) {}
  else none

/-! ### Texts and files -/

/-- The settings that a text writes. -/
def parse (source : String) : Except FileError Config :=
  match (Toml.read? source).bind ofDocument? with
  | none => .error .malformed
  | some config =>
    match config.validate with
    | .error fault => .error (.refused fault)
    | .ok () => .ok config

/-- The settings that a file writes. -/
def load (files : Files) (path : String) : Except FileError Config :=
  match files.readText path with
  | .error fault => .error (.unreadable path fault)
  | .ok source => parse source

end Uiml.Config
