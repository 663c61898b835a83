import SpokenMarkup.Disk.Basic
import SpokenMarkup.Fault

set_option autoImplicit false

namespace SpokenMarkup

inductive Reply (α : Type) where
  | done (value : α)
  | failed (fault : Fault)
  /-- The engine broke down and cannot be relied on any more. -/
  | crashed
deriving Repr

/-- A voice engine whose state is a `V`. Its calls may also change the disk. -/
structure Voice (V : Type) where
  /-- The speaker whose voice is loaded. -/
  active : V → Option String
  /-- Loads the voice of a speaker. -/
  activate : String → V → Disk → Reply Unit × V × Disk
  /-- Speaks a text with the voice that is loaded. -/
  utter : String → V → Disk → Reply ByteArray × V × Disk

end SpokenMarkup
