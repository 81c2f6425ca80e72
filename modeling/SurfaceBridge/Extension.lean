import SurfaceBridge.Enumeration
import SurfaceBridge.Label

/-! Instance extensions: the fixed-size records that name them, the ones the driver advertises, and the
names under which the native driver knows them. -/
namespace SurfaceBridge

/-- A record with a name field of fixed size, padded with zeros. -/
structure ExtensionProperties where
  name : Vector UInt8 256
  version : UInt32
  deriving DecidableEq

namespace ExtensionProperties

/-- The record of a name; all but the first 255 bytes of a longer name are dropped. -/
def ofLabel (label : Label) (version : UInt32) : ExtensionProperties where
  name := Vector.ofFn fun i => if i.val < 255 then label.bytes[i.val]?.getD 0 else 0
  version := version

/-- The name that the record holds. -/
def label (properties : ExtensionProperties) : Label := Label.ofBytes properties.name.toList

end ExtensionProperties

/-- An extension and the revision of it that is advertised. -/
structure Extension where
  label : Label
  version : UInt32

namespace Extension

def surface : Label := .ofText "VK_KHR_surface"
def win32Surface : Label := .ofText "VK_KHR_win32_surface"
def xlibSurface : Label := .ofText "VK_KHR_xlib_surface"

/-- The instance extensions that the host sees. -/
def advertised : List Extension := [⟨surface, 1⟩, ⟨win32Surface, 1⟩]

def properties (extension : Extension) : ExtensionProperties :=
  .ofLabel extension.label extension.version

/-- The host's name and the native name of each extension that has two. -/
def substitutions : List (Label × Label) := [(win32Surface, xlibSurface)]

/-- The name under which the native driver knows an extension. -/
def nativeName (label : Label) : Label :=
  match substitutions.find? (·.1 = label) with
  | some (_, native) => native
  | none => label

end Extension
end SurfaceBridge
