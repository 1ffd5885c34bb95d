/-!
Where an event comes from and what its node was known as at that point. The identity lists run
from the oldest entry to the newest, so the last entry is the one in force. A provenance from a
later segment inherits the identity that an earlier segment of the same node has established.
-/

namespace NodeHistory

structure Provenance where
  filePath : String := ""
  fileType : String := ""
  addresses : List String := []
  hashes : List String := []
  names : List String := []
  version : String := ""
deriving DecidableEq, Repr

namespace Provenance

/-- The kinds of file whose times set a node's clock; the empty kind is that of untagged files. -/
def authoritativeFileTypes : List String := ["error.log", ""]

def authoritative (p : Provenance) : Bool := authoritativeFileTypes.contains p.fileType

/-- Each value once, where it first occurs. -/
def joinDistinct (earlier later : List String) : List String := (earlier ++ later).eraseDups

/-- Earlier identities come first, and the version is filled in where none is known. The file
stays that of the later provenance. -/
def inherit (later earlier : Provenance) : Provenance :=
  { later with
    addresses := joinDistinct earlier.addresses later.addresses
    hashes := joinDistinct earlier.hashes later.hashes
    names := joinDistinct earlier.names later.names
    version := if later.version = "" then earlier.version else later.version }

end Provenance

end NodeHistory
