import Uiml.Image.Bmp
import Uiml.Image.Png

/-!
# Decoding pictures

The bytes of a file tell by their start in which of the known formats it is.
-/

namespace Uiml

/-- What comes of bytes in one of the known formats. -/
def Decoding.ofBytes (bytes : List UInt8) : Decoding :=
  match Png.decode bytes with
  | .refused => ((Bmp.decode? bytes).map .picture).getD .refused
  | decoding => decoding

end Uiml
