import TermScore.Failure
import TermScore.Text.Utf8
import TermScore.Words

/-!
# Documents

A document is a file of which the words have been counted.
-/

namespace TermScore

structure Document where
  path : Path
  words : WordCounts

namespace Document

def ofText (split : Split) (path : Path) (text : String) : Document :=
  ⟨path, WordCounts.ofText split text⟩

/-- Reads a file. Bytes that are no text are replaced, so only a file that cannot be read is no
document. -/
def read (files : Files) (split : Split) (path : Path) : Except Failure Document :=
  match files.read path with
  | .ok data => .ok (ofText split path (Text.Utf8.decodeLossy data.bytes))
  | .error cause => .error (.readDocument path cause)

/-- The file name without directories. -/
def name (d : Document) : String :=
  d.path.displayName

/-- No word was found. -/
def isBlank (d : Document) : Bool :=
  d.words.wordCount == 0

/-- The counts that queries look terms up in. -/
def counts (d : Document) : Counts :=
  d.words.models

end Document

end TermScore
