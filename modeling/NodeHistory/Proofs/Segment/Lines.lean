import Mathlib.Data.List.DropRight
import NodeHistory.Proofs.Json.Limits
import NodeHistory.Proofs.Timeline.RepeatRuns
import NodeHistory.Segment.Reader

/-!
What reading a segment makes of its lines. A line that is neither blank nor a record is worth a
warning, which tells its number and the reason; a record makes one event. Unless a line puts an end
to the reading, the warnings are those of all lines and the timeline is folded from all events, in
the order of the file.
-/

namespace NodeHistory

namespace Timeline

/-- The rule that segments are read under compares any events. -/
theorem add_samePattern {t : Timeline} (hrule : t.rule = .samePattern) (e : Event) :
    ∃ u, t.add e = .ok u ∧ u.rule = .samePattern := by
  unfold add
  rw [hrule]
  split
  next latest counted earlier hreverse =>
    simp only [RepeatRule.samePattern, RepeatRule.ofTest, bind, Except.bind, pure, Except.pure]
    split
    · exact ⟨_, rfl, hrule⟩
    · exact ⟨_, rfl, hrule⟩
  next => exact ⟨_, rfl, hrule⟩

end Timeline

namespace Text

theorem trim_eq_rdropWhile (text : List Char) :
    trim text = (text.dropWhile isBlank).rdropWhile isBlank := rfl

theorem trim_isInfix (text : List Char) : trim text <:+: text := by
  rw [trim_eq_rdropWhile]
  exact (List.rdropWhile_prefix _ _).isInfix.trans (List.dropWhile_suffix isBlank).isInfix

theorem trim_eq_nil_iff {text : List Char} : trim text = [] ↔ ∀ c ∈ text, isBlank c = true := by
  rw [trim_eq_rdropWhile, List.rdropWhile_eq_nil_iff]
  constructor
  · intro hblank
    cases hleft : text.dropWhile isBlank with
    | nil => exact List.dropWhile_eq_nil_iff.mp hleft
    | cons c rest =>
      have hc := hblank c (hleft ▸ List.mem_cons_self)
      have hplain := List.head_dropWhile_not isBlank (l := text) (by simp [hleft])
      simp [hleft, hc] at hplain
  · intro hblank c hc
    exact hblank c ((List.dropWhile_suffix isBlank).mem hc)

end Text

namespace Segment

open Text

/-- The lines of a file, without the characters that end them. -/
def linesOf (bytes : List UInt8) : List (List Char) := fileLines (Utf8.decode bytes)

/-- Why a line is skipped with a warning; `none` for a blank line and one that is not skipped. -/
def reason? (d : Decoding) (line : List Char) : Option SkippedLine :=
  if trim line = [] then none
  else match Json.read d.nesting (trim line) with
  | .error (.malformed _ _) => some .notJson
  | .error _ | .ok (.object _) => none
  | .ok _ => some .notObject

/-- The event of a line that holds a record. -/
def event? (d : Decoding) (path : String) (line : List Char) : Option Event :=
  match Json.read d.nesting (trim line) with
  | .ok (.object members) => (Event.ofRecord d.dates members path).toOption
  | _ => none

/-- The warnings of lines that are numbered from a first one on. -/
def warnings (d : Decoding) (path : String) (first : Nat) (lines : List (List Char)) :
    List Notice :=
  (lines.zipIdx first).filterMap fun (line, number) =>
    (reason? d line).map (.skipped path number)

/-- A line without an event, blank or skipped. -/
def Noise (d : Decoding) (line : List Char) : Prop :=
  (∀ c ∈ line, isBlank c = true) ∨ (reason? d line).isSome

variable {d : Decoding} {path : String} {line : List Char} {lines : List (List Char)} {t : Timeline}

/-- A time that fails to be read stands in the record of a line. -/
def Undated (d : Decoding) (line : List Char) : Prop :=
  ∃ (members : Json.Members) (error : Date.DateError),
    Json.read d.nesting (trim line) = .ok (.object members) ∧
      Stamp.ofJson? d.dates (members.get "timestamp") = .error error

/-- What a line holds, by what the decoder makes of it. -/
theorem ofText_kinds (d : Decoding) (path : String) (line : List Char) :
    (Line.ofText d path line = .blank ↔ trim line = []) ∧
    (∀ reason, Line.ofText d path line = .skipped reason ↔ reason? d line = some reason) ∧
    (∀ e, Line.ofText d path line = .event e ↔ event? d path line = some e) ∧
    ((∃ error, Line.ofText d path line = .faulty error) ↔
      Json.Overtaxes d.nesting (trim line) ∨ Undated d line) := by
  unfold Line.ofText reason? event? Undated
  rw [Json.overtaxes_iff]
  by_cases hblank : trim line = []
  · simp [hblank, Json.read_nil]
  · cases hread : Json.read d.nesting (trim line) with
    | error error => cases error <;> simp [hblank, hread]
    | ok value =>
      cases value with
      | object members =>
        cases hstamp : Stamp.ofJson? d.dates (Json.Members.get members "timestamp") <;>
          simp [hblank, hread, Event.ofRecord, hstamp, bind, Except.bind, pure, Except.pure,
            Except.toOption]
      | _ => simp [hblank, hread]

theorem ofText_eq_blank_iff : Line.ofText d path line = .blank ↔ ∀ c ∈ line, isBlank c = true :=
  (ofText_kinds d path line).1.trans trim_eq_nil_iff

theorem ofText_eq_skipped_iff {reason : SkippedLine} :
    Line.ofText d path line = .skipped reason ↔ reason? d line = some reason :=
  (ofText_kinds d path line).2.1 reason

theorem ofText_eq_event_iff {e : Event} :
    Line.ofText d path line = .event e ↔ event? d path line = some e :=
  (ofText_kinds d path line).2.2.1 e

/-- A line puts an end to the reading if it goes beyond a limit of records or if its time is a text
whose reading fails. -/
theorem ofText_eq_faulty_iff : (∃ error, Line.ofText d path line = .faulty error) ↔
    Json.Overtaxes d.nesting (trim line) ∨ Undated d line :=
  (ofText_kinds d path line).2.2.2

theorem noise_iff (path : String) : Noise d line ↔
    Line.ofText d path line = .blank ∨ ∃ reason, Line.ofText d path line = .skipped reason := by
  simp [Noise, ofText_eq_blank_iff, ofText_eq_skipped_iff, Option.isSome_iff_exists]

theorem event?_isSome_iff :
    (event? d path line).isSome ↔ ∃ e, Line.ofText d path line = .event e := by
  simp [ofText_eq_event_iff, Option.isSome_iff_exists]

/-- A line is noise, or it gives an event, or it puts an end to the reading. -/
theorem faulty_iff : (∃ error, Line.ofText d path line = .faulty error) ↔
    ¬ (Noise d line ∨ (event? d path line).isSome) := by
  rw [noise_iff path, event?_isSome_iff]
  cases Line.ofText d path line <;> simp

theorem event?_of_noise (hnoise : Noise d line) : event? d path line = none := by
  rw [← Option.not_isSome_iff_eq_none, event?_isSome_iff]
  rintro ⟨e, hevent⟩
  obtain hblank | ⟨reason, hskipped⟩ := (noise_iff path).mp hnoise
  · cases hevent.symm.trans hblank
  · cases hevent.symm.trans hskipped

/-! ### Lines one after another -/

theorem warnings_cons (first : Nat) : warnings d path first (line :: lines) =
    ((reason? d line).map (Notice.skipped path first)).toList ++
      warnings d path (first + 1) lines := by
  simp only [warnings, List.zipIdx_cons, List.filterMap_cons]
  cases reason? d line <;> rfl

theorem addLines_noise (number : Nat) (hnoise : Noise d line) :
    addLines d path number (line :: lines) t =
      (((reason? d line).map (Notice.skipped path number)).toList ++
        (addLines d path (number + 1) lines t).1, (addLines d path (number + 1) lines t).2) := by
  obtain hblank | hreason := hnoise
  · have hkind : Line.ofText d path line = .blank := ofText_eq_blank_iff.mpr hblank
    have hnone : reason? d line = none := by
      rw [reason?, if_pos (trim_eq_nil_iff.mpr hblank)]
    rw [addLines, hkind, hnone]
    rfl
  · obtain ⟨reason, hreason⟩ := Option.isSome_iff_exists.mp hreason
    have hkind : Line.ofText d path line = .skipped reason := ofText_eq_skipped_iff.mpr hreason
    rw [addLines, hkind, hreason]
    rfl

theorem addLines_event {u : Timeline} {e : Event} (number : Nat)
    (hevent : event? d path line = some e) (hadd : t.add e = .ok u) :
    addLines d path number (line :: lines) t = addLines d path (number + 1) lines u := by
  have hkind : Line.ofText d path line = .event e := ofText_eq_event_iff.mpr hevent
  rw [addLines, hkind]
  simp only [hadd]

theorem reason?_of_event {e : Event} (hevent : event? d path line = some e) :
    reason? d line = none := by
  cases hreason : reason? d line with
  | none => rfl
  | some reason =>
    have hnoise : Noise d line := .inr (by simp [hreason])
    simp [event?_of_noise hnoise] at hevent

/-- What comes of lines that are all noise or events. -/
theorem addLines_eq (number : Nat) (hrule : t.rule = .samePattern)
    (hread : ∀ line ∈ lines, Noise d line ∨ (event? d path line).isSome) :
    ∃ u, t.addAll (lines.filterMap (event? d path)) = .ok u ∧
      addLines d path number lines t = (warnings d path number lines, .ok u) := by
  induction lines generalizing number t with
  | nil => exact ⟨t, rfl, rfl⟩
  | cons line lines ih =>
    obtain ⟨hline, hlines⟩ := List.forall_mem_cons.mp hread
    obtain hnoise | hevent := hline
    · obtain ⟨u, hadded, hrest⟩ := ih (number + 1) hrule hlines
      refine ⟨u, by rw [List.filterMap_cons_none (event?_of_noise hnoise), hadded], ?_⟩
      rw [addLines_noise number hnoise, warnings_cons, hrest]
    · obtain ⟨e, hevent⟩ := Option.isSome_iff_exists.mp hevent
      obtain ⟨v, hadd, hkept⟩ := Timeline.add_samePattern hrule e
      obtain ⟨u, hadded, hrest⟩ := ih (number + 1) hkept hlines
      refine ⟨u, ?_, ?_⟩
      · rw [List.filterMap_cons_some hevent, Timeline.addAll_cons hadd, hadded]
      · rw [addLines_event number hevent hadd, warnings_cons, hrest, reason?_of_event hevent]
        rfl

/-- Reading comes to an end with a timeline just where no line puts an end to it before. -/
theorem addLines_isOk_iff (number : Nat) (hrule : t.rule = .samePattern) :
    (∃ u, (addLines d path number lines t).2 = .ok u) ↔
      ∀ line ∈ lines, Noise d line ∨ (event? d path line).isSome := by
  constructor
  · intro hok
    induction lines generalizing number t with
    | nil => simp
    | cons line lines ih =>
      by_cases hnoise : Noise d line
      · rw [addLines_noise number hnoise] at hok
        exact List.forall_mem_cons.mpr ⟨.inl hnoise, ih (number + 1) hrule hok⟩
      · cases hevent : event? d path line with
        | some e =>
          obtain ⟨u, hadd, hkept⟩ := Timeline.add_samePattern hrule e
          rw [addLines_event number hevent hadd] at hok
          exact List.forall_mem_cons.mpr ⟨.inr (by simp [hevent]), ih (number + 1) hkept hok⟩
        | none =>
          obtain ⟨error, hkind⟩ : ∃ error, Line.ofText d path line = .faulty error :=
            faulty_iff.mpr (by simp [hnoise, hevent])
          rw [addLines, hkind] at hok
          obtain ⟨u, hok⟩ := hok
          cases hok
  · intro hread
    obtain ⟨u, -, hlines⟩ := addLines_eq number hrule hread
    exact ⟨u, by rw [hlines]⟩

theorem read_eq {access : FileAccess} {bytes : List UInt8}
    (readable : access (Path.normalised path) = .ok bytes) :
    read d access path = addLines d (Path.normalised path) 1 (linesOf bytes) {} := by
  simp only [read, readable]
  rfl

end Segment

end NodeHistory
