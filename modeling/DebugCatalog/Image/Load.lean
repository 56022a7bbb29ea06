import DebugCatalog.Image.Elf
import DebugCatalog.Image.MachO
import DebugCatalog.Image.Pe

/-!
# Loading images

The first bytes of a file say which format it may have.  A file that does not
keep what they promise, or promises nothing, becomes a raw image.
-/

namespace DebugCatalog.Image

/-- Fewer bytes have no format. -/
def minimalSize : Nat := 16

/-- What the headers of a file say, going by its first bytes. -/
def recognize (b : ByteArray) : Option Headers := do
  if b.size < minimalSize then none
  else
    let magic ← Bytes.number? b .big 4 0
    if magic = 0x7f454c46 then (Elf.parse b).map Elf.File.headers
    else if magic >>> 16 = 0x4d5a then (Pe.parse b).map Pe.File.headers
    else (MachO.parse b).map MachO.File.headers

/-- The image of the given bytes, as read from `path`. -/
def load (name : String) (path : Option String) (b : ByteArray) : Image :=
  { (recognize b).getD .raw with name, path, bytes := b }

/-- The image of bytes held in memory. -/
def ofBytes (name : String) (b : ByteArray) : Image :=
  load name none b

end DebugCatalog.Image
