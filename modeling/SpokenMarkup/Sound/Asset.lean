import SpokenMarkup.Disk.Basic

set_option autoImplicit false

namespace SpokenMarkup

structure Asset where
  id : String
  path : Path
  /-- The extension it was found under, in lower case. -/
  format : String
deriving DecidableEq, Repr

def Asset.isWave (asset : Asset) : Bool :=
  asset.format = "wav"

abbrev AssetFinder := String → Disk → Option Asset

/-- Sounds kept as `<folder>/<id>.<format>`, the preferred format first. -/
structure AssetFolder where
  folder : Path
  formats : List String

namespace AssetFolder

/-- Formats are looked up in lower case. -/
def ofFormats (folder : Path) (formats : List String) : AssetFolder :=
  ⟨folder, formats.map String.toLower⟩

def candidate (assets : AssetFolder) (id format : String) : Asset :=
  ⟨id, assets.folder.join (id ++ "." ++ format), format⟩

/-- An id that could lead out of the folder has no sound. -/
def find? (assets : AssetFolder) (id : String) (disk : Disk) : Option Asset :=
  if Path.isPlainName id then
    (assets.formats.map (assets.candidate id)).find? fun asset => disk.isFile asset.path
  else none

end AssetFolder

end SpokenMarkup
