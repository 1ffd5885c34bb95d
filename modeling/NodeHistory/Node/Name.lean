import NodeHistory.Node.NameBook
import NodeHistory.Provenance
import NodeHistory.Text.Path

/-!
The name under which a node is shown. The easiest name to read is taken: the last one that the
node gave itself, else the name known for its last address or that address, else the first known
name of one of its hashes or its last hash, else the name of the segment's file.
-/

namespace NodeHistory.Provenance

open Time

/-- A name that says something; an empty one is passed over. -/
def nonEmpty? (name : Option String) : Option String := name.filter (· ≠ "")

def hashName? (p : Provenance) (at? : Option Instant) (book? : Option NameBook) : Option String :=
  p.hashes.findSome? fun hash => nonEmpty? (book?.bind (·.name? (.hash hash) at?))

def addressName (address : String) (at? : Option Instant) (book? : Option NameBook) : String :=
  (nonEmpty? (book?.bind (·.name? (.address address) at?))).getD address

def nodeName (p : Provenance) (at? : Option Instant) (book? : Option NameBook) : String :=
  match p.names.getLast?, p.addresses.getLast? with
  | some name, _ => name
  | none, some address => addressName address at? book?
  | none, none =>
    ((p.hashName? at? book?).or p.hashes.getLast?).getD (Text.Path.baseName p.filePath)

end NodeHistory.Provenance
