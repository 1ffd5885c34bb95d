import NodeHistory.Date.Found
import NodeHistory.Event
import NodeHistory.Json.Text
import NodeHistory.Text.Blank

/-!
Events from decoded records. Fields that are absent or null take their defaults, numbers and the
like are read as texts, and a single text stands for a list of one. The time is a date text, for
which there is a reader, or a count of seconds since the start of 1970.
-/

namespace NodeHistory

namespace Stamp

/-- Seconds from the start of 1970; `none` outside the years 1 to 9999. -/
def ofSeconds? (micros : Int) (shown : String) : Option Stamp :=
  (Time.Instant.ofMicros? (micros + Time.Instant.epoch)).map (⟨·, shown⟩)

/-- The stamp of a date text that is not blank. -/
def ofText? (dates : Date.Reader) (text : String) : Except Date.DateError (Option Stamp) :=
  let shown := Text.trimmed text
  if shown = "" then .ok none
  else (dates text).moment?.map fun t? => t?.map (⟨·, shown⟩)

def ofJson? (dates : Date.Reader) : Json → Except Date.DateError (Option Stamp)
  | .int n => .ok (ofSeconds? (n * 1000000) (toString n))
  | .real x => .ok (x.micros?.bind fun micros => ofSeconds? micros x.text)
  | .text s => ofText? dates s
  | _ => .ok none

end Stamp

namespace Event

def ofRecord (dates : Date.Reader) (record : Json.Members) (filePath : String) :
    Except Date.DateError Event := do
  let stamp ← Stamp.ofJson? dates (record.get "timestamp")
  return {
    stamp
    provenance := {
      filePath
      fileType := (record.get "file_type").asText
      addresses := (record.get "ips").asTexts
      hashes := (record.get "hashes").asTexts
      names := (record.get "names").asTexts
      version := (record.get "version").asText }
    message := (record.get "message").asText
    raw := (record.get "raw").asText
    pattern := (record.get "pattern").asText }

end Event

end NodeHistory
