/-!
Control sequences of terminals: an escape, a bracket, parameters and a letter. They colour text
or move the cursor, and a text that is not meant for a terminal is better without them.
-/

namespace NodeHistory.Text

def escape : Char := '\x1b'

/-- Characters between the bracket and the letter that ends a sequence. -/
def isSequenceParameter (c : Char) : Bool := c.isDigit || c = ';' || c = '?'

/-- The text without its control sequences. What only begins like one stays. -/
def withoutSequences (text : List Char) : List Char :=
  go [] text
where
  /-- `begun` is a sequence part way through, last character first. -/
  go (begun : List Char) : List Char → List Char
    | [] => begun.reverse
    | c :: rest =>
      if c = escape then begun.reverse ++ go [c] rest
      else match begun with
      | [] => c :: go [] rest
      | [_] => if c = '[' then go (c :: begun) rest else begun.reverse ++ c :: go [] rest
      | _ =>
        if isSequenceParameter c then go (c :: begun) rest
        else if c.isAlpha then go [] rest
        else begun.reverse ++ c :: go [] rest

end NodeHistory.Text
