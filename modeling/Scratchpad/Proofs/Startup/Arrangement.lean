import Scratchpad.Startup.Plan

/-!
# The order of options

Options may be given in any order: what the command line comes to depends only on which switches occur in
it, and on the values of each setting in their own order (`Arranges`). While words are read, the option
that was met last may still wait to be noted, so what has been read is what the progress comes to once that
one is noted (`Reached`). One option more keeps this up (`Reached.read_entry`), hence all of them do
(`read_entries`). The first word that is no option and no value ends the options, and the words from there
on are left as they are (`Reached.read_code`).
-/

namespace Scratchpad.Options

/-- An option as it is written, by its long or its short name. -/
inductive Entry where
  | verbose (long : Bool)
  | typeInfo
  | setting (named : Setting) (long : Bool) (value : String)
  deriving DecidableEq, Repr

/-- The name of a setting as it is written. -/
def Setting.word : Setting → Bool → String
  | .framework, true => "--framework"
  | .framework, false => "-F"
  | .reference, true => "--ref"
  | .reference, false => "-R"
  | .using, true => "--using"
  | .using, false => "-U"

namespace Entry

def words : Entry → List String
  | .verbose true => ["--verbose"]
  | .verbose false => ["-v"]
  | .typeInfo => ["-t"]
  | .setting named long value => [named.word long, value]

def isVerbose : Entry → Bool
  | .verbose _ => true
  | _ => false

def isTypeInfo : Entry → Bool
  | .typeInfo => true
  | _ => false

def value? (wanted : Setting) : Entry → Option String
  | .setting named _ value => if named = wanted then some value else none
  | _ => none

/-- The value of an option, if it has one, does not look like an option. -/
def Plain : Entry → Prop
  | .setting _ _ value => Text.startsWith "-" value = false
  | _ => True

end Entry

/-- The options are the chosen ones in some order: each switch once if it is chosen, the framework once if
one is chosen, and the values of the references and of the usings in the order in which they are
chosen. -/
structure Arranges (entries : List Entry) (chosen : Options) : Prop where
  verbose : entries.countP Entry.isVerbose = chosen.verbose.toNat
  typeInfo : entries.countP Entry.isTypeInfo = chosen.typeInfo.toNat
  framework : entries.filterMap (Entry.value? .framework) = chosen.framework.toList
  references : entries.filterMap (Entry.value? .reference) = chosen.references
  usings : entries.filterMap (Entry.value? .using) = chosen.usings

/-! ## Reading words -/

namespace Progress

theorem bind_ok_eq (result : Except Stop Progress) :
    (result.bind fun progress => .ok progress) = result := by
  cases result <;> rfl

theorem read_short {word : String} (c : Char) (hword : word.toList = ['-', c]) (hc : c ≠ '-')
    (progress : Progress) (rest : List String) :
    progress.read (word :: rest) =
      (progress.readShort [c]).bind fun progress => progress.read rest := by
  rw [read, hword]
  split
  · simp_all
  · simp_all
  · rename_i hsplit
    obtain ⟨rfl, rfl⟩ : c = _ ∧ [] = _ := by simpa using hsplit
    rfl
  · simp_all

theorem read_long {word : String} (long : List Char) (hword : word.toList = '-' :: '-' :: long)
    (hlong : long ≠ []) (progress : Progress) (rest : List String) :
    progress.read (word :: rest) =
      (progress.readLong (String.ofList long)).bind fun progress => progress.read rest := by
  rw [read, hword]
  split
  · simp_all
  · rename_i hsplit
    obtain rfl : long = _ := by simpa using hsplit
    rfl
  · rename_i hdash hsplit
    obtain ⟨rfl, rfl⟩ : '-' = _ ∧ long = _ := by simpa using hsplit
    exact absurd rfl hdash
  · simp_all

theorem read_verbose (long : Bool) (progress : Progress) (rest : List String) :
    progress.read ((Entry.verbose long).words ++ rest) =
      (progress.turnOn .verbose).bind fun progress => progress.read rest := by
  cases long with
  | true => exact read_long "verbose".toList rfl (by decide) progress rest
  | false =>
    have hread : progress.readShort ['v'] = progress.turnOn .verbose := bind_ok_eq _
    exact hread ▸ read_short 'v' rfl (by decide) progress rest

theorem read_typeInfo (progress : Progress) (rest : List String) :
    progress.read (Entry.typeInfo.words ++ rest) =
      (progress.turnOn .typeInfo).bind fun progress => progress.read rest := by
  have hread : progress.readShort ['t'] = progress.turnOn .typeInfo := bind_ok_eq _
  exact hread ▸ read_short 't' rfl (by decide) progress rest

theorem read_setting (named : Setting) (long : Bool) (progress : Progress) (rest : List String) :
    progress.read (named.word long :: rest) =
      (progress.meet named none).bind fun progress => progress.read rest := by
  cases named <;> cases long
  · exact read_short 'F' rfl (by decide) progress rest
  · exact read_long "framework".toList rfl (by decide) progress rest
  · exact read_short 'R' rfl (by decide) progress rest
  · exact read_long "ref".toList rfl (by decide) progress rest
  · exact read_short 'U' rfl (by decide) progress rest
  · exact read_long "using".toList rfl (by decide) progress rest

theorem read_plain {word : String} (hword : Text.startsWith "-" word = false) (progress : Progress)
    (rest : List String) :
    progress.read (word :: rest) =
      match progress.waiting with
      | some (named, none) => read { progress with waiting := some (named, some word) } rest
      | _ => progress.conclude (word :: rest) := by
  have hdash : ∀ cs, word.toList ≠ '-' :: cs := by
    intro cs hcs
    simp [Text.startsWith, hcs] at hword
  rw [read]
  split
  · exact absurd ‹_› (hdash _)
  · exact absurd ‹_› (hdash _)
  · exact absurd ‹_› (hdash _)
  · rfl

/-! ## What has been read -/

/-- The options so far come to `options`, once the one that waits to be noted is. -/
structure Reached (progress : Progress) (options : Options) : Prop where
  valued : ∀ named, progress.waiting ≠ some (named, none)
  finished : ∃ noted, progress.finish = .ok noted ∧ noted.waiting = none ∧ noted.options = options

theorem reached_start : Reached {} {} :=
  ⟨by simp, {}, rfl, rfl, rfl⟩

theorem reached_of_noted {progress : Progress} (hwaiting : progress.waiting = none) :
    Reached progress progress.options := by
  refine ⟨by simp [hwaiting], progress, ?_, hwaiting, rfl⟩
  rw [finish, hwaiting]

theorem Reached.conclude {progress : Progress} {options : Options}
    (hreached : progress.Reached options) (code : List String) :
    progress.conclude code = .ok { options with code } := by
  obtain ⟨noted, hfinish, -, rfl⟩ := hreached.finished
  rw [Progress.conclude, hfinish]
  rfl

theorem Reached.read_code {progress : Progress} {options : Options}
    (hreached : progress.Reached options) {code : List String}
    (hcode : ∀ word ∈ code.head?, Text.startsWith "-" word = false) :
    progress.read code = .ok { options with code } := by
  cases code with
  | nil => exact hreached.conclude []
  | cons word rest =>
    rw [read_plain (hcode word rfl), ← hreached.conclude (word :: rest)]
    split
    · rename_i named hwaiting
      exact absurd hwaiting (hreached.valued named)
    · rfl

end Progress

namespace Entry

def addTo : Entry → Options → Options
  | .verbose _, options => { options with verbose := true }
  | .typeInfo, options => { options with typeInfo := true }
  | .setting .framework _ value, options => { options with framework := some value }
  | .setting .reference _ value, options =>
    { options with references := options.references ++ [value] }
  | .setting .using _ value, options => { options with usings := options.usings ++ [value] }

/-- The option has not been given before, if it may be given only once. -/
def Fits (options : Options) : Entry → Prop
  | .verbose _ => options.verbose = false
  | .typeInfo => options.typeInfo = false
  | .setting .framework _ _ => options.framework = none
  | _ => True

end Entry

namespace Progress

theorem waiting_give (progress : Progress) (option : Named) :
    (progress.give option).waiting = progress.waiting := by
  unfold give
  split <;> rfl

theorem Reached.turnOn {progress : Progress} {options : Options}
    (hreached : progress.Reached options) (switch : Switch) (update : Options → Options)
    (hturn : ∀ noted : Progress, noted.finish = .ok noted → noted.options = options →
      noted.turnOn switch = .ok { noted.give (.switch switch) with options := update options }) :
    ∃ after, progress.turnOn switch = .ok after ∧ after.Reached (update options) := by
  obtain ⟨noted, hfinish, hwaiting, hoptions⟩ := hreached.finished
  have hagain : noted.finish = .ok noted := by rw [finish, hwaiting]
  have hsame : progress.turnOn switch = noted.turnOn switch := by
    rw [Progress.turnOn, Progress.turnOn, hfinish, hagain]
  refine ⟨_, hsame.trans (hturn noted hagain hoptions), reached_of_noted ?_⟩
  exact (waiting_give noted _).trans hwaiting

theorem note_of_fits {progress : Progress} {named : Setting} {long : Bool} {value : String}
    (hwaiting : progress.waiting = none)
    (hfits : (Entry.setting named long value).Fits progress.options) :
    ∃ noted, progress.note named value = .ok noted ∧ noted.waiting = none ∧
      noted.options = (Entry.setting named long value).addTo progress.options := by
  have hgive : ∀ option, (progress.give option).waiting = none := fun option =>
    (waiting_give progress option).trans hwaiting
  cases named with
  | framework =>
    have hnone : progress.options.framework = none := hfits
    simp [note, hnone, hgive, Entry.addTo]
  | _ => simp [note, hgive, Entry.addTo]

theorem Reached.read_entry {progress : Progress} {options : Options}
    (hreached : progress.Reached options) {entry : Entry} (hfits : entry.Fits options)
    (hplain : entry.Plain) :
    ∃ after : Progress, (∀ rest, progress.read (entry.words ++ rest) = after.read rest) ∧
      after.Reached (entry.addTo options) := by
  cases entry with
  | verbose long =>
    obtain ⟨after, hturn, hafter⟩ := hreached.turnOn .verbose (Entry.verbose long).addTo (by
      intro noted hfinish hoptions
      have hoff : options.verbose = false := hfits
      simp [Progress.turnOn, hfinish, hoff, Entry.addTo, hoptions, bind, Except.bind])
    refine ⟨after, fun rest => ?_, hafter⟩
    rw [read_verbose, hturn]
    rfl
  | typeInfo =>
    obtain ⟨after, hturn, hafter⟩ := hreached.turnOn .typeInfo (Entry.typeInfo).addTo (by
      intro noted hfinish hoptions
      have hoff : options.typeInfo = false := hfits
      simp [Progress.turnOn, hfinish, hoff, Entry.addTo, hoptions, bind, Except.bind])
    refine ⟨after, fun rest => ?_, hafter⟩
    rw [read_typeInfo, hturn]
    rfl
  | setting named long value =>
    obtain ⟨before, hfinish, hwaiting, rfl⟩ := hreached.finished
    have hmeet : progress.meet named none =
        .ok { before with waiting := some (named, none) } := by
      simp [meet, hfinish, bind, Except.bind]
    refine ⟨{ before with waiting := some (named, some value) }, fun rest => ?_, ?_⟩
    · rw [Entry.words, List.cons_append, read_setting, hmeet]
      exact read_plain hplain _ _
    · -- the option is noted when the next one is met, or at the end
      refine ⟨by simp, ?_⟩
      have hbefore : { before with waiting := none } = before := by rw [← hwaiting]
      rw [finish]
      dsimp only
      rw [hbefore]
      exact note_of_fits hwaiting hfits

end Progress

/-! ## All options -/

/-- What has been read and what is still to come make up the chosen options. -/
structure Remaining (options : Options) (entries : List Entry) (chosen : Options) : Prop where
  verbose : entries.countP Entry.isVerbose + options.verbose.toNat = chosen.verbose.toNat
  typeInfo : entries.countP Entry.isTypeInfo + options.typeInfo.toNat = chosen.typeInfo.toNat
  framework : options.framework.toList ++ entries.filterMap (Entry.value? .framework) =
    chosen.framework.toList
  references : options.references ++ entries.filterMap (Entry.value? .reference) =
    chosen.references
  usings : options.usings ++ entries.filterMap (Entry.value? .using) = chosen.usings

theorem Remaining.fits {options chosen : Options} {entry : Entry} {entries : List Entry}
    (hremaining : Remaining options (entry :: entries) chosen) : entry.Fits options := by
  cases entry with
  | verbose long =>
    have hcount := hremaining.verbose
    have hchosen := chosen.verbose.toNat_le
    rw [List.countP_cons_of_pos rfl] at hcount
    exact Bool.toNat_eq_zero.mp (by omega)
  | typeInfo =>
    have hcount := hremaining.typeInfo
    have hchosen := chosen.typeInfo.toNat_le
    rw [List.countP_cons_of_pos rfl] at hcount
    exact Bool.toNat_eq_zero.mp (by omega)
  | setting named long value =>
    cases named with
    | framework =>
      have hvalues : options.framework.toList ++ value :: entries.filterMap (Entry.value? .framework)
          = chosen.framework.toList := hremaining.framework
      have hlength := congrArg List.length hvalues
      have hchosen : chosen.framework.toList.length ≤ 1 := by cases chosen.framework <;> simp
      rw [List.length_append, List.length_cons] at hlength
      have hempty : options.framework.toList = [] := List.length_eq_zero_iff.mp (by omega)
      exact Option.toList_eq_nil_iff.mp hempty
    | _ => trivial

theorem Remaining.tail {options chosen : Options} {entry : Entry} {entries : List Entry}
    (hremaining : Remaining options (entry :: entries) chosen) :
    Remaining (entry.addTo options) entries chosen := by
  have hfits := hremaining.fits
  obtain ⟨hverbose, htypeInfo, hframework, hreferences, husings⟩ := hremaining
  rw [List.countP_cons] at hverbose htypeInfo
  rw [List.filterMap_cons] at hframework hreferences husings
  cases entry with
  | verbose long =>
    have hoff : options.verbose = false := hfits
    refine ⟨?_, htypeInfo, hframework, hreferences, husings⟩
    simpa [Entry.isVerbose, Entry.addTo, hoff] using hverbose
  | typeInfo =>
    have hoff : options.typeInfo = false := hfits
    refine ⟨hverbose, ?_, hframework, hreferences, husings⟩
    simpa [Entry.isTypeInfo, Entry.addTo, hoff] using htypeInfo
  | setting named long value =>
    cases named with
    | framework =>
      have hnone : options.framework = none := hfits
      refine ⟨hverbose, htypeInfo, ?_, hreferences, husings⟩
      simpa [Entry.value?, Entry.addTo, hnone] using hframework
    | reference =>
      refine ⟨hverbose, htypeInfo, hframework, ?_, husings⟩
      simpa [Entry.value?, Entry.addTo] using hreferences
    | _ =>
      refine ⟨hverbose, htypeInfo, hframework, hreferences, ?_⟩
      simpa [Entry.value?, Entry.addTo] using husings

theorem Remaining.eq {options chosen : Options} (hremaining : Remaining options [] chosen)
    (code : List String) : { options with code } = { chosen with code } := by
  obtain ⟨hverbose, htypeInfo, hframework, hreferences, husings⟩ := hremaining
  have hbool : ∀ a b : Bool, a.toNat = b.toNat → a = b := by decide
  have hv : options.verbose = chosen.verbose := hbool _ _ (by simpa using hverbose)
  have ht : options.typeInfo = chosen.typeInfo := hbool _ _ (by simpa using htypeInfo)
  have hf : options.framework = chosen.framework := by
    have hhead := congrArg List.head? hframework
    simpa using hhead
  have hr : options.references = chosen.references := by simpa using hreferences
  have hu : options.usings = chosen.usings := by simpa using husings
  rw [hv, ht, hf, hr, hu]

theorem Arranges.remaining {entries : List Entry} {chosen : Options}
    (harranges : Arranges entries chosen) : Remaining {} entries chosen := by
  refine ⟨?_, ?_, ?_, ?_, ?_⟩
  · simp [harranges.verbose]
  · simp [harranges.typeInfo]
  · simp [harranges.framework]
  · simp [harranges.references]
  · simp [harranges.usings]

theorem read_entries {entries : List Entry} {chosen : Options} (code : List String)
    (hcode : ∀ word ∈ code.head?, Text.startsWith "-" word = false)
    (hplain : ∀ entry ∈ entries, entry.Plain) :
    ∀ {progress : Progress} {options : Options}, progress.Reached options →
      Remaining options entries chosen →
      progress.read (entries.flatMap Entry.words ++ code) = .ok { chosen with code } := by
  induction entries with
  | nil =>
    intro progress options hreached hremaining
    rw [← hremaining.eq code]
    exact hreached.read_code hcode
  | cons entry entries ih =>
    intro progress options hreached hremaining
    obtain ⟨after, hread, hafter⟩ :=
      hreached.read_entry hremaining.fits (hplain entry List.mem_cons_self)
    rw [List.flatMap_cons, List.append_assoc, hread]
    exact ih (fun e he => hplain e (List.mem_cons_of_mem _ he)) hafter hremaining.tail

/-! ## Setting up the settings -/

def extend (options : Options) (settings : Settings) : Settings :=
  { settings with
    references := settings.references ++ options.references
    usings := settings.usings ++ options.usings
    verbose := options.verbose
    typeInfo := options.typeInfo }

theorem run_get_bind {α : Type} (f : Settings → ExceptT Failure (StateM Settings) α)
    (settings : Settings) : (get >>= f).run.run settings = (f settings).run.run settings :=
  rfl

theorem applyTo_eq (options : Options) (settings : Settings) :
    options.applyTo settings =
      match options.framework with
      | none => (.ok (), options.extend settings)
      | some tag =>
        match settings.switch tag with
        | .ok switched => (.ok (), options.extend switched)
        | .error failure => (.error failure, settings) := by
  unfold applyTo apply
  cases options.framework with
  | none => rfl
  | some tag =>
    dsimp only
    rw [run_get_bind]
    cases settings.switch tag <;> rfl

theorem applyTo_default_known {options : Options} {framework : Framework}
    (hknown : Framework.ofTag? (options.framework.getD Settings.default.tag) = some framework) :
    options.applyTo .default =
      (.ok (),
        { tag := options.framework.getD Settings.default.tag
          framework
          usings := framework.defaultUsings ++ options.usings
          references := framework.defaultReferences ++ options.references
          verbose := options.verbose
          typeInfo := options.typeInfo }) := by
  rw [applyTo_eq]
  cases htag : options.framework with
  | none =>
    rw [htag] at hknown
    obtain rfl : Framework.v40 = framework := Option.some.inj hknown
    rfl
  | some tag =>
    rw [htag, Option.getD_some] at hknown
    simp [Settings.switch, hknown, extend]

theorem applyTo_default_unknown {options : Options}
    (hunknown : Framework.ofTag? (options.framework.getD Settings.default.tag) = none) :
    ∃ failure, options.applyTo .default = (.error failure, .default) := by
  rw [applyTo_eq]
  cases htag : options.framework with
  | none =>
    rw [htag] at hunknown
    cases hunknown
  | some tag =>
    rw [htag, Option.getD_some] at hunknown
    simp [Settings.switch, hunknown]

/-- **Options may come in any order, and code is left as it is.** Every arrangement of chosen options, in
front of words of which the first does not look like an option, is read as these options with these words as
the code. Applied to the settings at the start, they add their references and usings to those of the chosen
framework, wherever it stood among them; with an unknown framework they fail and change nothing. -/
theorem parse_arrangement (chosen : Options) {entries : List Entry} {code : List String}
    (harranges : Arranges entries chosen) (hplain : ∀ entry ∈ entries, entry.Plain)
    (hcode : ∀ word ∈ code.head?, Text.startsWith "-" word = false) :
    let options : Options := { chosen with code }
    let tag := chosen.framework.getD Settings.default.tag
    parse (entries.flatMap Entry.words ++ code) = .ok options ∧
      options.command? = (if code = [] then none else some (" ".intercalate code)) ∧
      (∀ framework, Framework.ofTag? tag = some framework →
        options.applyTo .default =
          (.ok (),
            { tag, framework
              usings := framework.defaultUsings ++ chosen.usings
              references := framework.defaultReferences ++ chosen.references
              verbose := chosen.verbose
              typeInfo := chosen.typeInfo })) ∧
      (Framework.ofTag? tag = none →
        ∃ failure, options.applyTo .default = (.error failure, .default)) := by
  intro options tag
  refine ⟨?_, ?_, fun framework hknown => ?_, fun hunknown => ?_⟩
  · exact read_entries code hcode hplain Progress.reached_start harranges.remaining
  · simp [command?, options]
  · exact applyTo_default_known hknown
  · exact applyTo_default_unknown hunknown

/-- A framework between the references, and code that looks like options. -/
theorem parse_arrangement_mixed :
    let entries : List Entry :=
      [.setting .reference false "A.dll", .typeInfo, .setting .framework true "v2.0",
        .verbose true, .setting .using false "", .setting .reference true "B.dll"]
    let words := ["-R", "A.dll", "-t", "--framework", "v2.0", "--verbose", "-U", "", "--ref", "B.dll",
      "e", "-v", "--"]
    let options : Options :=
      { verbose := true, typeInfo := true, framework := some "v2.0",
        references := ["A.dll", "B.dll"], usings := [""], code := ["e", "-v", "--"] }
    entries.flatMap Entry.words ++ ["e", "-v", "--"] = words ∧ parse words = .ok options ∧
      options.command? = some "e -v --" ∧
      (options.applyTo .default).2.references = ["System.dll", "A.dll", "B.dll"] := by
  intro entries words options
  have harranges : Arranges entries options :=
    ⟨by decide, by decide, by decide, by decide, by decide⟩
  have hplain : ∀ entry ∈ entries, entry.Plain := by
    simp only [entries, List.forall_mem_cons, List.not_mem_nil, false_implies, implies_true, and_true,
      Entry.Plain]
    decide
  have hcode : ∀ word ∈ ["e", "-v", "--"].head?, Text.startsWith "-" word = false := by decide
  obtain ⟨hparse, hcommand, happly, -⟩ := parse_arrangement options harranges hplain hcode
  refine ⟨by decide, hparse, hcommand.trans (by decide), ?_⟩
  rw [happly .v20 (by decide)]
  decide

end Scratchpad.Options
