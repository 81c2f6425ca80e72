import SurfaceBridge.Extension
import SurfaceBridge.Notice

/-! Enumeration of the advertised extensions into a caller's buffer. -/
namespace SurfaceBridge.Extension

/-- The records of all advertised extensions, in table order. -/
def records : List ExtensionProperties := advertised.map properties

/-- Overwrites the front of a buffer with as many records as fit. -/
def overwrite (records buffer : List ExtensionProperties) : List ExtensionProperties :=
  records.take buffer.length ++ buffer.drop records.length

/-- The answer, the buffer afterwards and the notices. Without a buffer the answer is the total; a layer's
name is refused, and then the buffer is left alone. -/
def enumerate (layer : Option Label) (buffer : Option (List ExtensionProperties)) :
    Except DriverError Enumeration × Option (List ExtensionProperties) × List Notice :=
  match layer, buffer with
  | some label, _ => (.error .layerNotPresent, buffer, [.layerRejected label])
  | none, none => (.ok (.complete (.ofNat records.length)), none, [])
  | none, some room =>
    let copied := min room.length records.length
    let answer :=
      if copied < records.length then Enumeration.incomplete (.ofNat copied) else .complete (.ofNat copied)
    (.ok answer, some (overwrite records room), [.enumerated answer copied])

end SurfaceBridge.Extension
