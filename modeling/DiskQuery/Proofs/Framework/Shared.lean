import DiskQuery.Framework.Service
import DiskQuery.Proofs.Store.Query
import DiskQuery.Proofs.Text.Utf16

/-!
# Worlds for both services

The reference store and the framework keep the same things in different forms:
names as texts or as bytes, texts as characters or as UTF-16 code units.  A
shared world is what both can express, without the faults that only a store can
be told to make.  It gives a world to each service.

There are two groups.

* Worlds.  The disk of a name and the value of a key are found in one world if
  they are found in the other.
* Texts.  Both services size a text alike, and a copy leaves the same buffer
  (`World.copyText_eq_copyUnits`).
-/

namespace DiskQuery.Shared

/-! ## Worlds -/

/-- A value of a description. -/
inductive Value where
  | boolean (truth : Bool)
  | text (content : String)
  | number
deriving DecidableEq, Repr

namespace Value

/-- The value as a store keeps it. -/
def store : Value → Store.Value
  | boolean truth => .boolean truth
  | text content => .text content
  | number => .number

/-- The value as the framework keeps it. -/
def framework : Value → Framework.Value
  | boolean truth => .boolean truth
  | text content => .text (Text.Utf16.encode content.toList)
  | number => .number

end Value

/-- The entries of a description. -/
abbrev Entries := List (Key × Value)

namespace Entries

/-- The entries as a store keeps them. -/
def store (entries : Entries) : List (Key × Store.Value) :=
  entries.map fun entry => (entry.1, entry.2.store)

/-- The entries as the framework keeps them. -/
def framework (entries : Entries) : Framework.Entries :=
  entries.map fun entry => (some (Framework.keyString entry.1), entry.2.framework)

/-- The value of a key.  A later entry hides the earlier ones of its key. -/
def value? (entries : Entries) (key : Key) : Option Value :=
  (entries.reverse.find? fun entry => entry.1 == key).map Prod.snd

theorem lastValue?_store (entries : Entries) (key : Key) :
    Store.lastValue? entries.store key = (entries.value? key).map Value.store := by
  unfold Store.lastValue? store value?
  rw [← List.map_reverse, List.find?_map, Option.map_map, Option.map_map]
  rfl

theorem valueOf?_framework (entries : Entries) (key : Key) :
    Framework.valueOf? entries.framework (Framework.keyString key) =
      (entries.value? key).map Value.framework := by
  unfold Framework.valueOf? framework value?
  rw [← List.map_reverse]
  induction entries.reverse with
  | nil => rfl
  | cons entry rest ih =>
    rw [List.map_cons, List.lookup_cons, List.find?_cons, ih]
    by_cases hkey : entry.1 = key
    · rw [hkey, beq_self_eq_true, beq_self_eq_true]
      rfl
    · have hother : (some (Framework.keyString key) == some (Framework.keyString entry.1)) =
          false :=
        beq_false_of_ne fun hsame => hkey (Framework.keyString_inj (Option.some.inj hsame)).symm
      rw [hother, beq_false_of_ne hkey]

end Entries

/-- A disk.  An absent description is one that no service can give now. -/
structure Disk where
  name : String
  description : Option Entries
deriving DecidableEq, Repr

namespace Disk

/-- The disk as a store keeps it. -/
def store (disk : Disk) : Store.Entry :=
  ⟨disk.name, disk.description.map Entries.store⟩

/-- The disk as the framework keeps it. -/
def framework (disk : Disk) : Framework.Device :=
  ⟨Text.Utf8.encode disk.name.toList, disk.description.map Entries.framework⟩

end Disk

/-- What both services know. -/
structure World where
  disks : List Disk := []
  /-- No session can be had. -/
  unavailable : Bool := false
deriving DecidableEq, Repr

namespace World

/-- The world of a store that makes no faults of its own. -/
def store (world : World) : Store.World where
  disks := world.disks.map Disk.store
  unavailable := world.unavailable

/-- The world of the framework. -/
def framework (world : World) : Framework.World where
  devices := world.disks.map Disk.framework
  unavailable := world.unavailable

/-- The disk of a name.  A later disk hides the earlier ones of its name. -/
def disk? (world : World) (name : String) : Option Disk :=
  world.disks.reverse.find? fun disk => disk.name == name

theorem disk?_store (world : World) (name : String) :
    world.store.disk? name = (world.disk? name).map Disk.store := by
  unfold Store.World.disk? store disk?
  rw [← List.map_reverse, List.find?_map]
  rfl

theorem description?_store (world : World) (name : String) :
    world.store.description? name =
      (world.disk? name).bind fun disk => disk.description.map Entries.store := by
  rw [Store.World.description?, disk?_store, Option.bind_map]
  rfl

theorem device?_of_text (world : World) {name : DeviceName} {text : String}
    (h : name.text = .ok text) :
    world.framework.device? name.bytes = (world.disk? text).map Disk.framework := by
  unfold Framework.World.device? framework disk?
  rw [← List.map_reverse, List.find?_map]
  congr 2
  funext disk
  exact Store.encode_beq_of_text h disk.name

theorem device?_of_defect (world : World) {name : DeviceName} {defect : Text.Utf8.Defect}
    (h : name.text = .error defect) : world.framework.device? name.bytes = none := by
  unfold Framework.World.device? framework
  rw [List.find?_eq_none]
  intro device hmem
  obtain ⟨disk, -, rfl⟩ := List.mem_map.1 (List.mem_reverse.1 hmem)
  exact ne_true_of_eq_false (Store.encode_beq_of_defect h disk.name)

end World

/-! ## Texts -/

/-- Both services size a text alike. -/
theorem World.maxSize_eq_maximumSize (world : World) (length : Int) :
    Store.maxSize world.store length = Framework.maximumSize length := rfl

/-- A copy of a text leaves the same buffer in both services. -/
theorem World.copyText_eq_copyUnits (world : World) (content : String) (buffer : List UInt8) :
    Store.copyText world.store (.text content) buffer =
      Framework.copyUnits (Text.Utf16.encode content.toList) buffer := by
  have hbytes : Framework.cString? (Text.Utf16.encode content.toList) =
      some (Text.Utf8.encode content.toList ++ [0]) := by
    rw [Framework.cString?, Text.Utf16.decode_encode]
    rfl
  have hlength : (Text.Utf8.encode content.toList ++ [0]).length =
      (Text.Utf8.encode content.toList).length + 1 := List.length_append
  have hcopies : ¬(world.store.copyFails = true) := Bool.false_ne_true
  have hends : world.store.copyUnterminated = false := rfl
  unfold Store.copyText Framework.copyUnits
  simp only [Store.Value.bytes?, Store.Value.isTerminated, hbytes, hlength, hcopies, hends,
    false_or, if_true, Bool.false_eq_true, if_false]
  by_cases hfits : (Text.Utf8.encode content.toList).length + 1 ≤ buffer.length
  · rw [if_pos hfits, if_neg (by omega), List.drop_drop, List.append_assoc]
    rfl
  · rw [if_neg hfits, if_pos (by omega)]

end DiskQuery.Shared
