import NodeHistory.Date.Reader
import NodeHistory.Proofs.Segment.Lines

/-!
Lines that put an end to the reading of a segment. Whatever a line holds, it is passed over, skipped
or added, unless it goes beyond a limit of records before any fault in it is met. Main statement:
where no time fails to be read, a segment is read to its end just if no line does so. A line that
does holds more opening brackets than may be nested or more than `longestNumber` digits in a row.
-/

namespace NodeHistory

namespace Text

/-- A text without an end of line is one line. -/
theorem fileLines_of_plain {text : List Char} (hfilled : text ≠ [])
    (hplain : ∀ c ∈ text, isFileLineEnd c = false) : fileLines text = [text] := by
  have hgo (line text : List Char) (hfilled : line.reverse ++ text ≠ [])
      (hplain : ∀ c ∈ text, isFileLineEnd c = false) :
      linesBy.go isFileLineEnd line text = [line.reverse ++ text] := by
    fun_induction linesBy.go isFileLineEnd line text
    case case1 line hempty => simp [List.isEmpty_iff.mp hempty] at hfilled
    case case2 line hline => simp
    case case3 | case4 => exact absurd (hplain '\r' (by simp)) (by decide)
    case case5 hend ih => simp [hplain _ List.mem_cons_self] at hend
    case case6 line c rest hrest hend ih =>
      simpa using ih (by simp) fun d hd => hplain d (List.mem_cons_of_mem c hd)
  exact hgo [] text hfilled hplain

theorem trim_of_plain {text : List Char} (hplain : ∀ c ∈ text, isBlank c = false) :
    trim text = text := by
  have hfront : text.dropWhile isBlank = text :=
    List.dropWhile_eq_self_iff.mpr fun hl => by simp [hplain _ (List.getElem_mem hl)]
  rw [trim_eq_rdropWhile, hfront]
  exact List.rdropWhile_eq_self_iff.mpr fun hl => by simp [hplain _ (List.getLast_mem hl)]

theorem decode_brackets (n : Nat) :
    Utf8.decode (List.replicate n 0x5b) = List.replicate n '[' := by
  unfold Utf8.decode
  induction n with
  | zero => rfl
  | succ n ih =>
    rw [List.replicate_succ, List.replicate_succ, ← ih]
    rfl

end Text

namespace Segment

open Text

variable {d : Decoding} {access : FileAccess} {path : String} {bytes : List UInt8}

theorem linesOf_brackets {n : Nat} (hn : 0 < n) :
    linesOf (List.replicate n 0x5b) = [List.replicate n '['] := by
  have hplain : ∀ c ∈ List.replicate n '[', isFileLineEnd c = false := by
    simp [isFileLineEnd]
  rw [linesOf, decode_brackets, fileLines_of_plain (by simp; omega) hplain]

def isUndated (d : Decoding) (line : List Char) : Bool :=
  match Json.read d.nesting (trim line) with
  | .ok (.object members) => !(Stamp.ofJson? d.dates (Json.Members.get members "timestamp")).isOk
  | _ => false

theorem isUndated_iff {line : List Char} : isUndated d line = true ↔ Undated d line := by
  unfold isUndated Undated
  cases Json.read d.nesting (trim line) with
  | error error => simp
  | ok value =>
    cases value with
    | object members =>
      cases hstamp : Stamp.ofJson? d.dates (Json.Members.get members "timestamp") <;>
        simp [hstamp, Except.isOk, Except.toBool]
    | _ => simp

instance (d : Decoding) (line : List Char) : Decidable (Undated d line) :=
  decidable_of_iff _ isUndated_iff

theorem read_isOk_iff (readable : access (Path.normalised path) = .ok bytes)
    (dated : ∀ line ∈ linesOf bytes, ¬ Undated d line) :
    (∃ t, (read d access path).2 = .ok t) ↔
      ∀ line ∈ linesOf bytes, ¬ Json.Overtaxes d.nesting (trim line) := by
  have hrule : ({} : Timeline).rule = .samePattern := rfl
  rw [read_eq readable, addLines_isOk_iff 1 hrule]
  refine forall₂_congr fun line hline => ?_
  rw [← not_iff_not, ← faulty_iff, ofText_eq_faulty_iff, not_not]
  exact or_iff_left (dated line hline)

/-- A line of brackets that goes beyond the limit on nesting is the only obstacle in its file. -/
theorem brackets_overtax {n : Nat} (hn : d.nesting < n) :
    (∀ line ∈ linesOf (List.replicate n 0x5b), ¬ Undated d line) ∧
      ∃ line ∈ linesOf (List.replicate n 0x5b), Json.Overtaxes d.nesting (trim line) := by
  have hplain : ∀ c ∈ List.replicate n '[', isBlank c = false := by
    intro c hc
    rw [List.eq_of_mem_replicate hc]
    decide
  have hovertaxes : Json.Overtaxes d.nesting (trim (List.replicate n '[')) := by
    rw [trim_of_plain hplain]
    exact Json.overtaxes_brackets hn
  rw [linesOf_brackets (Nat.zero_lt_of_lt hn)]
  refine ⟨?_, _, List.mem_singleton_self _, hovertaxes⟩
  rintro line hline ⟨members, -, hread, -⟩
  obtain rfl := List.mem_singleton.mp hline
  obtain ⟨error, herror, -⟩ := Json.overtaxes_iff.mp hovertaxes
  cases hread.symm.trans herror

/-- The limits of records, as limits of lines. -/
theorem overtaxes_bounds {line : List Char} (h : Json.Overtaxes d.nesting (trim line)) :
    d.nesting < line.countP Json.Token.isOpening ∨
      ∃ digits, digits <:+: line ∧ (∀ c ∈ digits, c.isDigit = true) ∧
        longestNumber < digits.length := by
  obtain hdeep | ⟨digits, hwithin, hdigits, hlong⟩ := h.bounds
  · exact .inl (Nat.lt_of_lt_of_le hdeep (trim_isInfix line).sublist.countP_le)
  · exact .inr ⟨digits, hwithin.trans (trim_isInfix line), hdigits, hlong⟩

/-- Where no time fails to be read, a segment is read to its end just if no line goes beyond a limit
of records, and then every line is noise or gives one event. -/
theorem read_to_end_iff (readable : access (Path.normalised path) = .ok bytes)
    (dated : ∀ line ∈ linesOf bytes, ¬ Undated d line) :
    ((∃ t, (read d access path).2 = .ok t) ↔
      ∀ line ∈ linesOf bytes, ¬ Json.Overtaxes d.nesting (trim line)) ∧
    (∀ t, (read d access path).2 = .ok t →
      (read d access path).1 = warnings d (Path.normalised path) 1 (linesOf bytes) ∧
      Timeline.folded ((linesOf bytes).filterMap (event? d (Path.normalised path))) = .ok t ∧
      ∀ line ∈ linesOf bytes, Noise d line ∨ (event? d (Path.normalised path) line).isSome) ∧
    ∀ line ∈ linesOf bytes, Json.Overtaxes d.nesting (trim line) →
      d.nesting < line.countP Json.Token.isOpening ∨
        ∃ digits, digits <:+: line ∧ (∀ c ∈ digits, c.isDigit = true) ∧
          longestNumber < digits.length := by
  refine ⟨read_isOk_iff readable dated, fun t ht => ?_, fun _ _ => overtaxes_bounds⟩
  have hrule : ({} : Timeline).rule = .samePattern := rfl
  rw [read_eq readable] at ht ⊢
  have hread := (addLines_isOk_iff 1 hrule).mp ⟨t, ht⟩
  obtain ⟨u, hadded, hlines⟩ := addLines_eq 1 hrule hread
  rw [hlines] at ht ⊢
  obtain rfl : u = t := Except.ok.inj ht
  exact ⟨rfl, hadded, hread⟩

/-- A list, a blank line and a record with its time. -/
theorem short_lines_read_to_end :
    let d : Decoding := ⟨990, Date.reader ⟨Time.Instant.epoch, by decide⟩⟩
    let record := "\x7b\"timestamp\": \"2024-03-01 10:00:00\"\x7d"
    let bytes := ("[]\n \n" ++ record ++ "\n").toUTF8.toList
    let path := Path.normalised "n/e.log"
    (∀ line ∈ linesOf bytes, ¬ Undated d line) ∧
      ∃ t, read d (fun _ => .ok bytes) "n/e.log" = ([.skipped path 1 .notObject], .ok t) := by
  intro d record bytes path
  have hlines : linesOf bytes = [['[', ']'], [' '], record.toList] := by decide +kernel
  have hreasons : reason? d ['[', ']'] = some .notObject ∧ reason? d [' '] = none ∧
      reason? d record.toList = none := by
    decide +kernel
  have dated : ∀ line ∈ linesOf bytes, ¬ Undated d line := by decide +kernel
  have hshort : ∀ line ∈ linesOf bytes, line.length ≤ 50 := by decide +kernel
  obtain ⟨hends, hread, hbounds⟩ :=
    @read_to_end_iff d (fun _ => .ok bytes) "n/e.log" bytes rfl dated
  have hwithin : ∀ line ∈ linesOf bytes, ¬ Json.Overtaxes d.nesting (trim line) := by
    intro line hline hovertaxes
    have hlength := hshort line hline
    obtain hdeep | ⟨digits, hinfix, -, hlong⟩ := hbounds line hline hovertaxes
    · have hcount := List.countP_le_length (p := Json.Token.isOpening) (l := line)
      have hlimit : d.nesting = 990 := rfl
      omega
    · have hdigits := hinfix.length_le
      simp only [longestNumber] at hlong
      omega
  obtain ⟨t, ht⟩ := hends.mpr hwithin
  obtain ⟨hnotices, -, -⟩ := hread t ht
  have hwarnings : warnings d path 1 (linesOf bytes) = [.skipped path 1 .notObject] := by
    simp [hlines, warnings, List.zipIdx, hreasons]
  exact ⟨dated, t, Prod.ext (hnotices.trans hwarnings) ht⟩

/-- Whatever nesting is allowed and however dates are read, one bracket too many is the end. -/
theorem not_every_line_passed : ¬ ∃ d : Decoding,
    ∀ (access : FileAccess) (path : String) (bytes : List UInt8),
      access (Path.normalised path) = .ok bytes → (∀ line ∈ linesOf bytes, ¬ Undated d line) →
        ∃ t, (read d access path).2 = .ok t := by
  rintro ⟨d, hall⟩
  obtain ⟨dated, line, hline, hovertaxes⟩ := brackets_overtax (Nat.lt_succ_self d.nesting)
  have hread := hall (fun _ => .ok (List.replicate (d.nesting + 1) 0x5b)) "e.log" _ rfl dated
  exact (read_isOk_iff rfl dated).mp hread line hline hovertaxes

end Segment

end NodeHistory
