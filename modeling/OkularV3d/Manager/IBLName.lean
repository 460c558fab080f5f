import Mathlib.Data.List.DropRight

/-!
# Image names of the IBL library

The image name in a document's header selects a directory of the image library. It comes from
an untrusted file, so it is normalised (`normalizeIBLName`) and checked (`iblNameOK`) before any
path is built from it. A name is a `std::string`, here its list of bytes.

* `normalizeIBLName` takes away what the code takes away in front of the name and behind it.
* `iblNameOK` is the check, character by character and component by component.

What they are for is in `OkularV3d.Manager.IBLConfinement`; what names find on the disk is in
`OkularV3d.Manager.IBLLookup`.
-/

namespace OkularV3d

/-- A `std::string`: its bytes. -/
abbrev ByteString := List UInt8

namespace ByteString

/-- The byte `'/'`. -/
def slash : UInt8 := 0x2f

/-- The byte `'\\'`. -/
def backslash : UInt8 := 0x5c

/-- The byte `'%'`. -/
def percent : UInt8 := 0x25

/-- The path component `".."`. -/
def dotDot : ByteString := [0x2e, 0x2e]

/-- `name.find_last_of('/')`, or `none` for `npos`. -/
def findLastSlash (name : ByteString) : Option Nat :=
  (name.reverse.findIdx? (· == slash)).map fun i => name.length - 1 - i

/-- The components `iblNameOK` walks: the text between separators of either kind, the last one
up to the end of the name. `cur` is the component read so far, reversed. -/
def componentsFrom (cur : ByteString) : ByteString → List ByteString
  | [] => [cur.reverse]
  | c :: rest =>
    if c = slash ∨ c = backslash then cur.reverse :: componentsFrom [] rest
    else componentsFrom (c :: cur) rest

/-- All components of a name. -/
def components (name : ByteString) : List ByteString := componentsFrom [] name

end ByteString

open ByteString

/-- `normalizeIBLName`: an absolute name is cut to what follows its last slash, then trailing
slashes are dropped. -/
def normalizeIBLName (imageName : ByteString) : ByteString :=
  let name :=
    if imageName.head? = some slash then
      match findLastSlash imageName with
      | some lastSlash => if lastSlash ≠ 0 then imageName.drop (lastSlash + 1) else imageName.drop 1
      | none => imageName
    else imageName
  name.rdropWhile (· == slash)

/-- `iblNameOK`: no `'%'`, no control character, no leading separator and no `".."`
component. -/
def iblNameOK (name : ByteString) : Bool :=
  !name.contains percent &&
  !name.any (fun c => c < 0x20 || c == 0x7f) &&
  !(name.head?.any fun c => c == slash || c == backslash) &&
  !(components name).contains dotDot

end OkularV3d
