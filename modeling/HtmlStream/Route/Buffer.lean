/-!
Buffers: text is held back until enough of it is pending, so that a consumer gets fewer and longer
chunks. A threshold of zero holds nothing back.
-/
namespace HtmlStream

structure TextBuffer where
  /-- How many characters have to be pending before they are released. -/
  threshold : Nat
  pending : String

namespace TextBuffer

def empty (threshold : Nat) : TextBuffer := ⟨threshold, ""⟩

/-- Add text; what is released, if anything, and the buffer after it. -/
def accept (buffer : TextBuffer) (text : String) : Option String × TextBuffer :=
  let pending := buffer.pending ++ text
  if buffer.threshold ≤ pending.length then (some pending, empty buffer.threshold)
  else (none, { buffer with pending })

def remainder? (buffer : TextBuffer) : Option String :=
  if buffer.pending.isEmpty then none else some buffer.pending

end TextBuffer
end HtmlStream
