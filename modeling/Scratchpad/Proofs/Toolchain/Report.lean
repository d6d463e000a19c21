import Mathlib.Data.List.Forall2
import Scratchpad.Proofs.Text.Lines
import Scratchpad.Toolchain.Report

/-!
# What a compiler wrote

The lines of a compiler are those of its output that say something, trimmed and without its directory
(`spells_linesOf`). A report sorts them: each is an error, a warning or neither, and none is lost
(`sorts_ofLines`).

Two texts can be reported as one. The report is then the one after the other exactly if no line of the
second continues a line of the first (`ofOutput_append_iff`): otherwise two lines have become one, and
a report holds as many lines as it was made from (`size_ofLines`).
-/

namespace Scratchpad

namespace Report

/-! ## Lines -/

/-- A line as it is reported. -/
def told (dir raw : String) : String :=
  Text.delete (dir ++ "/") (Text.trim raw)

/-- `lines` are the lines of an output that are not blank, without the blanks at their ends and then
without the leftmost non-overlapping occurrences of the directory and a slash. -/
def Spells (dir output : String) (lines : List String) : Prop :=
  List.Forall₂
    (fun raw line => ∃ core, Text.Trims raw core ∧
      Text.Deletes (dir ++ "/").toList core.toList line.toList)
    ((Text.lines output).filter fun raw => !Text.isBlankText raw) lines

theorem linesOf_eq_spoken (dir output : String) :
    linesOf dir output = (Text.spoken output).map (Text.delete (dir ++ "/")) :=
  rfl

theorem linesOf_eq_told (dir output : String) :
    linesOf dir output =
      ((Text.lines output).filter fun raw => !Text.isBlankText raw).map (told dir) := by
  have hblank : ((· != "") ∘ Text.trim) = fun raw => !Text.isBlankText raw := by
    funext raw
    rw [Function.comp_apply, Bool.eq_iff_iff, bne_iff_ne, ne_eq, Text.trim_eq_empty_iff]
    simp
  rw [linesOf, List.filter_map, List.map_map, hblank]
  rfl

theorem spells_linesOf (dir output : String) : Spells dir output (linesOf dir output) := by
  have hslash : dir ++ "/" ≠ "" := by simp
  rw [Spells, linesOf_eq_told, List.forall₂_map_right_iff, List.forall₂_same]
  intro raw _
  exact ⟨Text.trim raw, Text.trims_trim raw, Text.deletes_delete hslash _⟩

/-! ## Sorting lines -/

/-- What a line of a compiler is. -/
inductive Severity where
  | error
  | warning
  | other
  deriving DecidableEq, Repr

/-- A line that holds the word between a colon and a blank, or starts with it. -/
def Tells (word line : String) : Prop :=
  (∃ before after, line = before ++ (": " ++ word ++ " ") ++ after) ∨
    ∃ rest, line = word ++ " " ++ rest

theorem isDiagnostic_iff {word line : String} : isDiagnostic word line = true ↔ Tells word line := by
  rw [isDiagnostic, Bool.or_eq_true, Text.contains_iff, Text.startsWith_iff, Tells]

instance (word line : String) : Decidable (Tells word line) :=
  decidable_of_iff _ isDiagnostic_iff

def listed (report : Report) : Severity → List String
  | .error => report.errors
  | .warning => report.warnings
  | .other => report.other

/-- Every place among the lines is given to exactly one list of the report, which keeps their order:
errors first, then warnings, and then what is left. -/
def Sorts (lines : List String) (report : Report) : Prop :=
  ∃ place : Fin lines.length → Severity,
    (∀ i, place i = .error ↔ Tells "error" (lines.get i)) ∧
    (∀ i, place i = .warning ↔ ¬ Tells "error" (lines.get i) ∧ Tells "warning" (lines.get i)) ∧
    ∀ severity, report.listed severity =
      ((List.finRange lines.length).filter fun i => place i = severity).map lines.get

def severityOf (line : String) : Severity :=
  if Tells "error" line then .error else if Tells "warning" line then .warning else .other

theorem severityOf_eq_error {line : String} : severityOf line = .error ↔ Tells "error" line := by
  unfold severityOf
  split_ifs <;> simp_all

theorem severityOf_eq_warning {line : String} :
    severityOf line = .warning ↔ ¬ Tells "error" line ∧ Tells "warning" line := by
  unfold severityOf
  split_ifs <;> simp_all

theorem severityOf_eq_other {line : String} :
    severityOf line = .other ↔ ¬ Tells "error" line ∧ ¬ Tells "warning" line := by
  unfold severityOf
  split_ifs <;> simp_all

theorem listed_ofLines (lines : List String) (severity : Severity) :
    (ofLines lines).listed severity = lines.filter fun line => severityOf line = severity := by
  cases severity with
  | error =>
    refine List.filter_congr fun line _ => ?_
    rw [Bool.eq_iff_iff, decide_eq_true_iff, severityOf_eq_error, isDiagnostic_iff]
  | warning =>
    refine List.filter_congr fun line _ => ?_
    rw [Bool.eq_iff_iff, decide_eq_true_iff, severityOf_eq_warning, ← isDiagnostic_iff,
      ← isDiagnostic_iff]
    simp
  | other =>
    refine List.filter_congr fun line _ => ?_
    rw [Bool.eq_iff_iff, decide_eq_true_iff, severityOf_eq_other, ← isDiagnostic_iff,
      ← isDiagnostic_iff]
    simp

theorem sorts_ofLines (lines : List String) : Sorts lines (ofLines lines) := by
  refine ⟨fun i => severityOf (lines.get i), fun i => severityOf_eq_error,
    fun i => severityOf_eq_warning, fun severity => ?_⟩
  calc (ofLines lines).listed severity
      = lines.filter fun line => severityOf line = severity := listed_ofLines lines severity
    _ = ((List.finRange lines.length).map lines.get).filter fun line =>
          severityOf line = severity := by rw [List.map_get_finRange]
    _ = ((List.finRange lines.length).filter fun i => severityOf (lines.get i) = severity).map
          lines.get := List.filter_map ..

theorem errors_ofLines (lines : List String) :
    (ofLines lines).errors = lines.filter fun line => severityOf line = .error :=
  listed_ofLines lines .error

theorem warnings_ofLines (lines : List String) :
    (ofLines lines).warnings = lines.filter fun line => severityOf line = .warning :=
  listed_ofLines lines .warning

theorem other_ofLines (lines : List String) :
    (ofLines lines).other = lines.filter fun line => severityOf line = .other :=
  listed_ofLines lines .other

theorem mem_errors_ofLines {lines : List String} {line : String} :
    line ∈ (ofLines lines).errors ↔ line ∈ lines ∧ Tells "error" line := by
  rw [errors_ofLines, List.mem_filter, decide_eq_true_iff, severityOf_eq_error]

theorem all_warnings_iff {lines : List String} :
    (ofLines lines).errors = [] ∧ (ofLines lines).other = [] ↔
      ∀ line ∈ lines, ¬ Tells "error" line ∧ Tells "warning" line := by
  rw [errors_ofLines, other_ofLines, List.filter_eq_nil_iff, List.filter_eq_nil_iff,
    ← forall₂_and]
  refine forall₂_congr fun line _ => ?_
  rw [← severityOf_eq_warning]
  cases severityOf line <;> simp

/-! ## Two texts as one -/

/-- One report after another, list by list. -/
instance : Append Report where
  append first second :=
    ⟨first.errors ++ second.errors, first.warnings ++ second.warnings, first.other ++ second.other⟩

def size (report : Report) : Nat :=
  report.errors.length + report.warnings.length + report.other.length

theorem ofLines_append (first second : List String) :
    ofLines (first ++ second) = ofLines first ++ ofLines second := by
  unfold ofLines
  simp only [List.filter_append]
  rfl

theorem size_append (first second : Report) : (first ++ second).size = first.size + second.size := by
  change (first.errors ++ second.errors).length + (first.warnings ++ second.warnings).length +
    (first.other ++ second.other).length = _
  simp only [List.length_append, size]
  omega

theorem size_ofLines (lines : List String) : (ofLines lines).size = lines.length := by
  induction lines with
  | nil => rfl
  | cons line lines ih =>
    have hone : (ofLines [line]).size = 1 := by
      rw [size, errors_ofLines, warnings_ofLines, other_ofLines]
      cases hline : severityOf line <;> simp [hline]
    rw [← List.singleton_append, ofLines_append, size_append, hone, ih, List.length_append,
      List.length_singleton]

theorem linesOf_append (dir s t : String) :
    linesOf dir (s ++ t) =
      linesOf dir (Text.ended s) ++ linesOf dir (Text.unfinished s ++ Text.opening t) ++
        linesOf dir (Text.afterOpening t) := by
  simp only [linesOf_eq_spoken, Text.spoken_append s t, List.map_append]

theorem linesOf_append_of_parted (dir : String) {s t : String} (hparted : Text.Parted s t) :
    linesOf dir (s ++ t) = linesOf dir s ++ linesOf dir t := by
  simp only [linesOf_eq_spoken, Text.spoken_append_of_parted hparted, List.map_append]

/-- **Two texts are reported one after the other exactly if their lines are not mixed.** -/
theorem ofOutput_append_iff (dir s t : String) :
    ofOutput dir (s ++ t) = ofOutput dir s ++ ofOutput dir t ↔ Text.Parted s t := by
  constructor
  · intro hreports
    by_contra hmixed
    have hlength := Text.length_spoken_append hmixed
    have hsize := congrArg size hreports
    simp only [size_append, ofOutput, size_ofLines, linesOf_eq_spoken, List.length_map] at hsize
    rw [List.length_append] at hlength
    omega
  · intro hparted
    simp only [ofOutput, linesOf_append_of_parted dir hparted, ofLines_append]

theorem told_mem_linesOf {dir output raw word : String} (hraw : raw ∈ Text.lines output)
    (htells : Tells word (told dir raw)) : told dir raw ∈ linesOf dir output := by
  rw [linesOf_eq_told]
  refine List.mem_map_of_mem (List.mem_filter.mpr ⟨hraw, ?_⟩)
  cases hblank : Text.isBlankText raw with
  | false => rfl
  | true =>
    have hnothing : told dir raw = "" := by
      rw [told, Text.trim_eq_empty_iff.mpr hblank]
      rfl
    rw [hnothing] at htells
    rcases htells with ⟨before, after, hline⟩ | ⟨rest, hline⟩
    · have hlist := congrArg String.toList hline
      simp at hlist
    · have hlist := congrArg String.toList hline
      simp at hlist

end Report

end Scratchpad
