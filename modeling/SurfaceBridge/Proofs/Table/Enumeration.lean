import SurfaceBridge.Table
import SurfaceBridge.Proofs.Extension.Record
import SurfaceBridge.Proofs.Text.Encoding
import Mathlib.Data.List.Forall2

/-! Enumeration of the extensions through the table. A layer's name is refused before anything else, then a missing
place for the count; what is written otherwise is the count, and the front of the caller's array, where records of the
surface extensions' names and versions stand afterwards. -/
namespace SurfaceBridge

namespace Extension

/-- The names and versions that a host is told, in order. -/
def told : List (String × UInt32) := [("VK_KHR_surface", 1), ("VK_KHR_win32_surface", 1)]

/-- The records hold the names, in UTF-8, and the versions, one record for each entry. -/
def Lists (records : List ExtensionProperties) (entries : List (String × UInt32)) : Prop :=
  List.Forall₂ (fun record entry => record.Holds entry.1.toUTF8.data.toList entry.2) records entries

/-- The array afterwards, when it had a room at its front: the records that fit into the room, and the rest as it
was. -/
structure Fills (room : Nat) (before after : List ExtensionProperties) : Prop where
  length : after.length = before.length
  records : Lists (after.take (min room told.length)) (told.take room)
  rest : ∀ k, min room told.length ≤ k → after[k]? = before[k]?

/-- The record of an extension that is named by a text. -/
theorem holds_properties {text : String} (whole : '\x00' ∉ text.toList) (fits : text.toUTF8.data.toList.length ≤ 255)
    (version : UInt32) : (properties ⟨.ofText text, version⟩).Holds text.toUTF8.data.toList version := by
  have bytes := Label.bytes_ofText whole
  rw [← bytes] at fits ⊢
  exact ExtensionProperties.holds_ofLabel _ version fits

/-- The advertised records are those that a host is to be told. -/
theorem lists_records : Lists records told :=
  .cons (holds_properties (by decide) (by decide) 1) (.cons (holds_properties (by decide) (by decide) 1) .nil)

@[simp] theorem length_records : records.length = told.length := lists_records.length_eq

/-- How an array of records is answered for a room of so many. -/
def answer (room : Nat) : Enumeration :=
  if min room records.length < records.length then .incomplete (.ofNat (min room records.length))
  else .complete (.ofNat (min room records.length))

/-- There are not too many extensions for a count. -/
theorem toNat_ofNat_total {n : Nat} (few : n ≤ told.length) : (UInt32.ofNat n).toNat = n := by
  have total : told.length < UInt32.size := by decide
  exact UInt32.toNat_ofNat_of_lt' (Nat.lt_of_le_of_lt few total)

theorem count_answer (room : Nat) : (answer room).count.toNat = min room told.length := by
  have count : (answer room).count = .ofNat (min room told.length) := by
    rw [answer, length_records]
    split <;> rfl
  rw [count, toNat_ofNat_total (Nat.min_le_right ..)]

theorem code_answer (room : Nat) :
    (answer room).code = if room < told.length then .incomplete else .success := by
  have short : min room told.length < told.length ↔ room < told.length := by omega
  simp only [answer, length_records, short]
  split <;> rfl

/-- The room's part behind the records, followed by what is behind the room, is all that is behind the records that
fit. -/
private theorem drop_take_append_drop {α : Type} (items : List α) (room total : Nat) :
    (items.take room).drop total ++ items.drop room = items.drop (min room total) := by
  rcases Nat.le_total room total with short | long
  · have none_behind : (items.take room).length ≤ total := by
      rw [List.length_take]
      omega
    rw [Nat.min_eq_left short, List.drop_eq_nil_of_le none_behind, List.nil_append]
  · have behind : items.drop room = (items.drop total).drop (room - total) := by
      rw [List.drop_drop, Nat.add_sub_cancel' long]
    rw [Nat.min_eq_right long, List.drop_take, behind, List.take_append_drop]

theorem length_overwrite (records buffer : List ExtensionProperties) :
    (overwrite records buffer).length = buffer.length := by
  rw [overwrite, List.length_append, List.length_take, List.length_drop]
  omega

theorem overwrite_append_drop {items : List ExtensionProperties} {room : Nat} (fits : room ≤ items.length) :
    overwrite records (items.take room) ++ items.drop room =
      records.take room ++ items.drop (min room told.length) := by
  rw [overwrite, List.length_take_of_le fits, List.append_assoc, drop_take_append_drop, length_records]

theorem fills {items : List ExtensionProperties} {room : Nat} (fits : room ≤ items.length) :
    Fills room items (records.take room ++ items.drop (min room told.length)) := by
  have front : (records.take room).length = min room told.length := by
    rw [List.length_take, length_records]
  refine ⟨?_, ?_, ?_⟩
  · rw [List.length_append, front, List.length_drop]
    omega
  · rw [List.take_left' front]
    exact List.forall₂_take room lists_records
  · intro k behind
    rw [List.getElem?_append_right (front ▸ behind), front, List.getElem?_drop]
    congr 1
    omega

end Extension

namespace Driver

/-- With a place for the count the table answers as the enumeration of the array's part does, and the rest of the
array stays behind that part. -/
theorem serve_eq_enumerate (driver : Driver) (answers : Answers) (layer : Option Label) (count : UInt32)
    (items : Option (List ExtensionProperties)) :
    let place : ArrayPlace ExtensionProperties := ⟨some count, items⟩
    let direct := Extension.enumerate layer place.room
    (driver.serve (.enumerateExtensions layer place) answers).result = match direct.1 with
      | .ok answer => .records answer.code
        ⟨some answer.count, items.map fun items => direct.2.1.getD [] ++ items.drop count.toNat⟩
      | .error e => .records e.code place := by
  cases layer with
  | some label => rfl
  | none =>
    cases items with
    | none => rfl
    | some items =>
      let front := Extension.overwrite Extension.records (items.take count.toNat)
      have behind : items.drop front.length = items.drop count.toNat := by
        rw [Extension.length_overwrite, List.length_take]
        rcases Nat.le_total count.toNat items.length with fits | short
        · rw [Nat.min_eq_left fits]
        · rw [Nat.min_eq_right short, List.drop_length, List.drop_eq_nil_of_le short]
      show TableReply.records (Extension.answer (items.take count.toNat).length).code
        ⟨_, some (front ++ items.drop front.length)⟩ = _
      rw [behind]
      rfl

theorem serve_of_room (driver : Driver) (answers : Answers) (count : UInt32) {items : List ExtensionProperties}
    (fits : count.toNat ≤ items.length) :
    (driver.serve (.enumerateExtensions none ⟨some count, some items⟩) answers).result =
      .records (if count.toNat < Extension.told.length then .incomplete else .success)
        ⟨some (Extension.answer count.toNat).count, some (Extension.records.take count.toNat ++
          items.drop (min count.toNat Extension.told.length))⟩ := by
  have room : (items.take count.toNat).length = count.toNat := List.length_take_of_le fits
  rw [serve_eq_enumerate]
  show TableReply.records (Extension.answer (items.take count.toNat).length).code
    ⟨some (Extension.answer (items.take count.toNat).length).count,
      some (Extension.overwrite Extension.records (items.take count.toNat) ++ items.drop count.toNat)⟩ = _
  rw [room, Extension.code_answer, Extension.overwrite_append_drop fits]

/-- Whatever pointers the caller passes: a layer's name is refused with nothing written, and else a missing place for
the count. Without an array the count becomes the total. An array gets the records that fit, in order, nothing behind
them changes, and the count says how many were written. So asking for the count first gives a count with which the
whole list is written; and the table answers as the enumeration itself does for every room. -/
theorem enumeration_across_table (driver : Driver) (answers : Answers) :
    let total := Extension.told.length
    let ask := fun layer place => driver.serve (.enumerateExtensions layer place) answers
    (∀ layer place, (ask layer place).driver = driver ∧ (ask layer place).events = []) ∧
    (∀ layer place, (ask (some layer) place).result = .records .layerNotPresent place) ∧
    (∀ items, (ask none ⟨none, items⟩).result = .records .initializationFailed ⟨none, items⟩) ∧
    (∀ count, (ask none ⟨some count, none⟩).result = .records .success ⟨some (.ofNat total), none⟩) ∧
    (∀ count items, count.toNat ≤ items.length → ∃ written filled,
      (ask none ⟨some count, some items⟩).result =
        .records (if count.toNat < total then .incomplete else .success) ⟨some written, some filled⟩ ∧
      written.toNat = min count.toNat total ∧ Extension.Fills count.toNat items filled) ∧
    (∃ needed, (∀ count, (ask none ⟨some count, none⟩).result = .records .success ⟨some needed, none⟩) ∧
      ∀ count items, needed ≤ count → count.toNat ≤ items.length → ∃ records,
        (ask none ⟨some count, some items⟩).result =
          .records .success ⟨some needed, some (records ++ items.drop total)⟩ ∧
        Extension.Lists records Extension.told) ∧
    ∀ layer count items,
      let place : ArrayPlace ExtensionProperties := ⟨some count, items⟩
      let direct := Extension.enumerate layer place.room
      (ask layer place).result = match direct.1 with
        | .ok answer => .records answer.code
          ⟨some answer.count, items.map fun items => direct.2.1.getD [] ++ items.drop count.toNat⟩
        | .error e => .records e.code place := by
  intro total ask
  refine ⟨fun _ _ => ⟨rfl, rfl⟩, fun _ _ => rfl, ?_, fun _ => rfl, ?_, ?_, driver.serve_eq_enumerate answers⟩
  · intro items
    cases items <;> rfl
  · intro count items fits
    exact ⟨_, _, driver.serve_of_room answers count fits, Extension.count_answer _, Extension.fills fits⟩
  · refine ⟨.ofNat total, fun _ => rfl, fun count items enough fits => ?_⟩
    have needed := Extension.toNat_ofNat_total (Nat.le_refl total)
    have whole : total ≤ count.toNat := needed ▸ UInt32.le_iff_toNat_le.mp enough
    have written : (Extension.answer count.toNat).count = .ofNat total :=
      UInt32.toNat_inj.mp (by rw [Extension.count_answer, Nat.min_eq_right whole, needed])
    refine ⟨Extension.records, ?_, Extension.lists_records⟩
    show (driver.serve _ answers).result = _
    rw [driver.serve_of_room answers count fits, if_neg (Nat.not_lt.mpr whole), written,
      Nat.min_eq_right whole, List.take_of_length_le (by rwa [Extension.length_records])]

end Driver
end SurfaceBridge
