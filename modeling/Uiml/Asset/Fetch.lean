import Uiml.Asset.Files
import Uiml.Config.Basic
import Uiml.Scene.Style

/-!
# Fetching assets

The bytes of an asset come from a file, from a bundle in memory, from the directory of logical
resources, or from where a managed address leads. There is no network: what would be requested from
a server fails.

## Main definitions

* `SourceKind` — where bytes come from
* `Assets` — all that bytes can come from
* `Assets.resourcePaths`, `Assets.readResource` — where a logical resource is, and what it holds
* `Assets.fetch` — the bytes of an asset
-/

namespace Uiml

/-- Where the bytes of an asset come from. -/
inductive SourceKind where
  | localFile
  | bundledAsset
  | logicalResource
  | remoteUrl
  | managedAddress
  deriving DecidableEq, Repr, Inhabited

namespace SourceKind

/-- How the value is shown. -/
def label : SourceKind → String
  | .localFile => "LocalFile"
  | .bundledAsset => "BundledAsset"
  | .logicalResource => "LogicalResourcePath"
  | .remoteUrl => "RemoteUrl"
  | .managedAddress => "ManagedAddressable"

instance : Keyword SourceKind where
  what := "source kind"
  words :=
    [("localfile", .localFile), ("file", .localFile), ("bundledasset", .bundledAsset),
      ("bundle", .bundledAsset), ("logicalresourcepath", .logicalResource),
      ("resource", .logicalResource), ("remoteurl", .remoteUrl), ("url", .remoteUrl),
      ("managedaddressable", .managedAddress), ("address", .managedAddress)]
  label := label

end SourceKind

/-- Why there is no picture. -/
inductive FetchError where
  | unreadable (path : String) (fault : ReadFault)
  | resourceNotFound (name : String)
  | missingBundle (name : String)
  | unknownAddress (address : String)
  | request (url : String)
  | undecodable
  deriving DecidableEq, Repr

/-- The wording of a failure. -/
def FetchError.message : FetchError → String
  | .unreadable path fault => s!"failed to read {path}: {fault.message}"
  | .resourceNotFound name => s!"no resource '{name}' (tried .png, .jpg, .jpeg)"
  | .missingBundle name => s!"no bundled asset '{name}'"
  | .unknownAddress address => s!"unknown address '{address}'"
  | .request url => s!"http request for {url} failed"
  | .undecodable => "decode failed"

/-- All that the bytes of assets can come from. -/
structure Assets where
  files : Files := {}
  bundles : Table String (List UInt8) := {}
  resourceRoot : String
  addressables : Table String String := {}
  deriving Inhabited

namespace Assets

/-- The assets that a configuration speaks of. -/
def ofConfig (config : Config) (files : Files) (bundles : Table String (List UInt8)) : Assets :=
  { files, bundles, resourceRoot := config.resourceRoot, addressables := config.addressables }

/-- The extensions that are tried, in this order, for a resource that is not there as named. -/
def probedExtensions : List String := ["png", "jpg", "jpeg"]

/-- The bytes of a file. -/
def readFile (assets : Assets) (path : String) : Except FetchError (List UInt8) :=
  (assets.files.read path).mapError (.unreadable path)

/-- The paths that a logical resource can be at, in the order in which they are tried: its name, if
that has an extension, and then its name with each of the probed extensions. -/
def resourcePaths (assets : Assets) (name : String) : List String :=
  let base := Path.join assets.resourceRoot (Path.relative name)
  (if (Path.extension? base).isSome then [base] else []) ++
    probedExtensions.map (Path.withExtension base)

/-- The bytes of a logical resource: of the first file among its paths. -/
def readResource (assets : Assets) (name : String) : Except FetchError (List UInt8) :=
  match (assets.resourcePaths name).find? assets.files.isFile with
  | some path => assets.readFile path
  | none => .error (.resourceNotFound name)

/-- Whether a location is that of a server. -/
def isUrl (location : String) : Bool :=
  "http://".toList.isPrefixOf location.toList || "https://".toList.isPrefixOf location.toList

/-- The bytes of an asset. -/
def fetch (assets : Assets) (kind : SourceKind) (source : String) :
    Except FetchError (List UInt8) :=
  match kind with
  | .localFile => assets.readFile source
  | .bundledAsset =>
    match assets.bundles.get? source with
    | some bytes => .ok bytes
    | none => .error (.missingBundle source)
  | .logicalResource => assets.readResource source
  | .remoteUrl => .error (.request source)
  | .managedAddress =>
    match assets.addressables.get? source with
    | none => .error (.unknownAddress source)
    | some location =>
      if isUrl location then .error (.request location) else assets.readResource location

/-- The paths that the bytes of an asset can be read from. -/
def paths (assets : Assets) (kind : SourceKind) (source : String) : List String :=
  match kind with
  | .localFile => [source]
  | .bundledAsset | .remoteUrl => []
  | .logicalResource => assets.resourcePaths source
  | .managedAddress =>
    match assets.addressables.get? source with
    | none => []
    | some location => if isUrl location then [] else assets.resourcePaths location

end Assets

end Uiml
