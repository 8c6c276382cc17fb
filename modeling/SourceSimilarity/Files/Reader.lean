/-!
# Readers

Bytes that are read from a position on. Looking at the front of a file to see whether it is text
must not lose that front, so sniffing ends by going back to the start.
-/

namespace SourceSimilarity.Files

/-- How many leading bytes tell whether a content is binary. -/
def sniffLength : Nat :=
  512

/-- A NUL among the leading bytes marks a content as binary. -/
def looksBinary (content : ByteArray) : Bool :=
  (content.extract 0 sniffLength).data.contains 0

/-- A content and the position that the next read starts from. It may lie behind the end. -/
structure Reader where
  content : ByteArray
  position : Nat

namespace Reader

/-- A reader at the start of a content. -/
def ofContent (content : ByteArray) : Reader :=
  ⟨content, 0⟩

/-- Read up to `count` bytes. -/
def read (reader : Reader) (count : Nat) : ByteArray × Reader :=
  let bytes := reader.content.extract reader.position (reader.position + count)
  (bytes, { reader with position := reader.position + bytes.size })

/-- Go back to the start. -/
def rewind (reader : Reader) : Reader :=
  { reader with position := 0 }

/-- Read all that is left. -/
def readToEnd (reader : Reader) : ByteArray :=
  reader.content.extract reader.position reader.content.size

/-- Look for a NUL in what a reader gives next, then rewind it. -/
def sniffBinary (reader : Reader) : Bool × Reader :=
  let (header, reader) := reader.read sniffLength
  (looksBinary header, reader.rewind)

end Reader

end SourceSimilarity.Files
