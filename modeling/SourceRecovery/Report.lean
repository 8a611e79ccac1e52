import SourceRecovery.Boxed
import SourceRecovery.Generator

/-!
# Failure reports

A report shows the line of output on which generation stopped, with a marker in place of the missing
text and a label under the marker.
-/

namespace SourceRecovery.Report

/-- Stands for the text that could not be written. -/
def marker : String := "<?>"

/-- Where the marker stands in the text of the report. It begins after the characters that were
written, and its bytes are counted for its length: all its characters are of one byte. -/
def labelled (f : Failure) : Stretch :=
  ⟨f.written.length, f.written.length + marker.utf8ByteSize⟩

def notice (colours : Bool) (f : Failure) : Notice where
  colours
  name := f.location
  text := f.written ++ marker
  span := labelled f
  code := f.error.code
  message := f.error.message
  label := ⟨labelled f, "generation stopped here"⟩
  help? := f.error.help?
  note? := f.error.cause?

/-- A setup that never ran and a sink that refused text have no code to point into and are reported
in one line. -/
def renderWith (layout : Layout) (colours : Bool) (f : Failure) : String :=
  match f.error with
  | .precondition reason => "Invalid generator setup: " ++ reason ++ "\n"
  | .write => "Output error in " ++ f.location ++ ": " ++ f.error.message ++ "\n"
  | _ => layout.draw (notice colours f)

def render : Bool → Failure → String := renderWith .boxed

end SourceRecovery.Report
