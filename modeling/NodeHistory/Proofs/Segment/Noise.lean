import NodeHistory.Date.Reader
import NodeHistory.Proofs.Segment.Lines

/-!
Noise in a segment. Blank lines and lines that are skipped leave no trace in the timeline, wherever
they stand: within a run of repetitions, before it or behind it. They only count when the lines are
numbered. Main statement: two files that are the same but for noise are read alike, each with the
warnings of its own noise.
-/

namespace NodeHistory.Segment

open Text

variable {d : Decoding} {path : String} {one other : List (List Char)} {t : Timeline}

/-- Two rows of lines are the same but for noise. -/
inductive NoiseApart (d : Decoding) : List (List Char) → List (List Char) → Prop
  | nil : NoiseApart d [] []
  | shared {line : List Char} {one other : List (List Char)} (rest : NoiseApart d one other) :
      NoiseApart d (line :: one) (line :: other)
  | left {line : List Char} {one other : List (List Char)} (noise : Noise d line)
      (rest : NoiseApart d one other) : NoiseApart d (line :: one) other
  | right {line : List Char} {one other : List (List Char)} (noise : Noise d line)
      (rest : NoiseApart d one other) : NoiseApart d one (line :: other)

/-- A line that both files have is read alike, whatever its number. -/
theorem addLines_shared {line : List Char} {first second : Nat}
    (hrest : ∀ t first second,
      (addLines d path first one t).2 = (addLines d path second other t).2) :
    (addLines d path first (line :: one) t).2 = (addLines d path second (line :: other) t).2 := by
  cases hkind : Line.ofText d path line with
  | blank => simpa only [addLines, hkind] using hrest t _ _
  | skipped reason => simpa only [addLines, hkind] using hrest t _ _
  | faulty error => simp only [addLines, hkind]
  | event e =>
    cases hadd : t.add e with
    | error refusal => simp only [addLines, hkind, hadd]
    | ok u => simpa only [addLines, hkind, hadd] using hrest u _ _

theorem NoiseApart.addLines_eq (h : NoiseApart d one other) (first second : Nat) :
    (addLines d path first one t).2 = (addLines d path second other t).2 := by
  induction h generalizing first second t with
  | nil => rfl
  | shared _ ih => exact addLines_shared fun _ first second => ih first second
  | left hnoise _ ih =>
    rw [addLines_noise first hnoise]
    exact ih (first + 1) second
  | right hnoise _ ih =>
    rw [addLines_noise second hnoise]
    exact ih first (second + 1)

/-- All lines of the one file are read if all lines of the other are. -/
theorem NoiseApart.read_all (h : NoiseApart d one other)
    (hread : ∀ line ∈ one, Noise d line ∨ (event? d path line).isSome) :
    ∀ line ∈ other, Noise d line ∨ (event? d path line).isSome := by
  induction h with
  | nil => exact hread
  | shared _ ih =>
    obtain ⟨hline, hlines⟩ := List.forall_mem_cons.mp hread
    exact List.forall_mem_cons.mpr ⟨hline, ih hlines⟩
  | left _ _ ih => exact ih (List.forall_mem_cons.mp hread).2
  | right hnoise _ ih => exact List.forall_mem_cons.mpr ⟨.inl hnoise, ih hread⟩

/-- Noise gives no events, so both files give the same ones. -/
theorem NoiseApart.events_eq (h : NoiseApart d one other) :
    one.filterMap (event? d path) = other.filterMap (event? d path) := by
  induction h with
  | nil => rfl
  | shared _ ih => rw [List.filterMap_cons, List.filterMap_cons, ih]
  | left hnoise _ ih => rw [List.filterMap_cons_none (event?_of_noise hnoise), ih]
  | right hnoise _ ih => rw [List.filterMap_cons_none (event?_of_noise hnoise), ih]

/-- Two files that are the same but for noise come to the same end. Where each other line gives an
event, these are the same events in both files, and both are read as the timeline that is folded
from them, with one warning for each line of noise that is not blank. -/
theorem noise_changes_warnings_only {access access' : FileAccess} {bytes bytes' : List UInt8}
    (readable : access (Path.normalised path) = .ok bytes)
    (readable' : access' (Path.normalised path) = .ok bytes')
    (apart : NoiseApart d (linesOf bytes) (linesOf bytes')) :
    (read d access path).2 = (read d access' path).2 ∧
    ((∀ line ∈ linesOf bytes, Noise d line ∨ (event? d (Path.normalised path) line).isSome) →
      (linesOf bytes).filterMap (event? d (Path.normalised path)) =
          (linesOf bytes').filterMap (event? d (Path.normalised path)) ∧
        ∃ t, Timeline.folded ((linesOf bytes).filterMap (event? d (Path.normalised path))) = .ok t ∧
          read d access path = (warnings d (Path.normalised path) 1 (linesOf bytes), .ok t) ∧
          read d access' path = (warnings d (Path.normalised path) 1 (linesOf bytes'), .ok t)) := by
  have hends : (addLines d (Path.normalised path) 1 (linesOf bytes) {}).2 =
      (addLines d (Path.normalised path) 1 (linesOf bytes') {}).2 := apart.addLines_eq 1 1
  have hrule : ({} : Timeline).rule = .samePattern := rfl
  rw [read_eq readable, read_eq readable']
  refine ⟨hends, fun hread => ⟨apart.events_eq, ?_⟩⟩
  obtain ⟨t, hfolded, hone⟩ := addLines_eq 1 hrule hread
  obtain ⟨u, -, hother⟩ := addLines_eq 1 hrule (apart.read_all hread)
  rw [hone, hother] at hends
  obtain rfl : t = u := Except.ok.inj hends
  exact ⟨t, hfolded, hone, hother⟩

/-- Blank and skipped lines before a run of three repetitions, within it and behind it. The run
keeps its first event, with the one between the ends to its account, and its last. -/
theorem run_with_noise_read_alike :
    let d : Decoding := ⟨990, Date.reader ⟨Time.Instant.epoch, by decide⟩⟩
    let record := "\x7b\"message\": \"up\"\x7d"
    let quiet := (record ++ "\n\r\n[]\r" ++ record ++ "\n" ++ record).toUTF8.toList
    let loud := ("?\n" ++ record ++ "\n" ++ record ++ "\n \n" ++ record ++ "\n0\n").toUTF8.toList
    let path := Path.normalised "n/e.log"
    NoiseApart d (linesOf quiet) (linesOf loud) ∧
    (∀ line ∈ linesOf quiet, Noise d line ∨ (event? d path line).isSome) ∧
    ∃ t, (t.events.map fun e => (e.message, e.count)) = [("up", 2), ("up", 1)] ∧
      read d (fun _ => .ok quiet) "n/e.log" = ([.skipped path 3 .notObject], .ok t) ∧
      read d (fun _ => .ok loud) "n/e.log" =
        ([.skipped path 1 .notJson, .skipped path 6 .notObject], .ok t) := by
  intro d record quiet loud path
  have hquiet : linesOf quiet =
      [record.toList, [], ['[', ']'], record.toList, record.toList] := by
    decide +kernel
  have hloud : linesOf loud =
      [['?'], record.toList, record.toList, [' '], record.toList, ['0']] := by
    decide +kernel
  have hrecord : (event? d path record.toList).isSome := by decide +kernel
  have hreasons : reason? d record.toList = none ∧ reason? d [] = none ∧
      reason? d [' '] = none ∧ reason? d ['?'] = some .notJson ∧
      reason? d ['[', ']'] = some .notObject ∧ reason? d ['0'] = some .notObject := by
    decide +kernel
  obtain ⟨hnone, hempty, hblank, hword, hlist, hnumber⟩ := hreasons
  have apart : NoiseApart d (linesOf quiet) (linesOf loud) := by
    rw [hquiet, hloud]
    refine .right (.inr (by simp [hword])) (.shared ?_)
    refine .left (.inl (by simp)) (.left (.inr (by simp [hlist])) (.shared ?_))
    exact .right (.inl (by simp [isBlank])) (.shared (.right (.inr (by simp [hnumber])) .nil))
  have hread : ∀ line ∈ linesOf quiet, Noise d line ∨ (event? d path line).isSome := by
    simp [hquiet, hrecord, Noise, hlist]
  obtain ⟨-, hall⟩ := @noise_changes_warnings_only d "n/e.log" (fun _ => .ok quiet)
    (fun _ => .ok loud) quiet loud rfl rfl apart
  obtain ⟨-, t, hfolded, hone, hother⟩ := hall hread
  have hcounts : ((Timeline.folded ((linesOf quiet).filterMap (event? d path))).map fun t =>
      t.events.map fun e => (e.message, e.count)) = .ok [("up", 2), ("up", 1)] := by
    decide +kernel
  rw [hfolded] at hcounts
  have hfirst : warnings d path 1 (linesOf quiet) = [.skipped path 3 .notObject] := by
    simp [hquiet, warnings, List.zipIdx, hnone, hempty, hlist]
  have hsecond : warnings d path 1 (linesOf loud) =
      [.skipped path 1 .notJson, .skipped path 6 .notObject] := by
    simp [hloud, warnings, List.zipIdx, hnone, hblank, hword, hnumber]
  exact ⟨apart, hread, t, Except.ok.inj hcounts, hfirst ▸ hone, hsecond ▸ hother⟩

end NodeHistory.Segment
