import RecordMapping.Text.Run

/-!
Characters with the Unicode property White_Space.  The zero-width space and the byte order mark are
not among them; the no-break spaces and the next-line control are.
-/

namespace RecordMapping
namespace Text

def blankRuns : List Run := [
  ⟨0x9, 0xD, 1⟩, ⟨0x20, 0x20, 1⟩, ⟨0x85, 0x85, 1⟩, ⟨0xA0, 0xA0, 1⟩, ⟨0x1680, 0x1680, 1⟩,
  ⟨0x2000, 0x200A, 1⟩, ⟨0x2028, 0x2029, 1⟩, ⟨0x202F, 0x202F, 1⟩, ⟨0x205F, 0x205F, 1⟩,
  ⟨0x3000, 0x3000, 1⟩]

def isBlank (c : Char) : Bool := Run.anyCovers blankRuns c.toNat

end Text
end RecordMapping
