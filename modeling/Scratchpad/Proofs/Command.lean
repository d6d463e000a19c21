import Scratchpad.Command
import Scratchpad.Proofs.Text.Ends

/-!
# Commands and their texts

Many texts stand for a command, and `render` picks one of them. A text that starts with a `Lead` is read
by it (`parseTrimmed_lead`), and one that does not is a bare word or code (`parseTrimmed_evaluate`). Reading
is a retraction: the command of a text is `Canonical` (`canonical_parse`), and a canonical command is read
back from its own text (`parse_render`).
-/

namespace Scratchpad.Command

open Text (ClearStart ClearEnd isBlank startsWith)

def onOff (on : Bool) : String :=
  if on then "on" else "off"

/-- The text of a command in its documented form. -/
def render : Command → String
  | .help => "help"
  | .verbose on => "verbose " ++ onOff on
  | .typeInfo on => "typeinfo " ++ onOff on
  | .list => "list"
  | .run => "run"
  | .addUsing namespaceName => "using " ++ namespaceName
  | .listUsings => "listusing"
  | .addReference reference => "ref " ++ reference
  | .listReferences => "listref"
  | .time code => "time " ++ code
  | .whileInput code => "whileinput " ++ code
  | .exit => "exit"
  | .evaluate code => code
  | .reset .program => "clear"
  | .reset (.framework tag) => "framework " ++ tag
  | .reset .usings => "clearusing"
  | .reset .references => "clearref"

/-- The commands without an argument, as they are written. -/
def bareWords : List String :=
  ["help", "list", "clear", "run", "listusing", "clearusing", "listref", "clearref", "exit"]

/-- What the text of a command with an argument starts with. -/
def leads : List String :=
  ["verbose", "typeinfo", "framework ", "using ", "ref ", "time ", "whileinput "]

/-- A command that some text stands for. -/
@[irreducible] def Canonical : Command → Prop
  | .reset (.framework argument) | .addUsing argument | .addReference argument =>
    argument ≠ "" ∧ ClearStart isBlank argument ∧ ClearEnd isBlank argument
  | .time code | .whileInput code => code ≠ "" ∧ ClearEnd isBlank code
  | .evaluate code =>
    (ClearStart isBlank code ∧ ClearEnd isBlank code) ∧
      code ∉ bareWords ∧ ∀ lead ∈ leads, startsWith lead code = false
  | _ => True

/-! ## From texts to commands -/

/-- The commands with an argument. -/
inductive Lead where
  | verbose
  | typeInfo
  | framework
  | addUsing
  | addReference
  | time
  | whileInput

namespace Lead

def text : Lead → String
  | verbose => "verbose"
  | typeInfo => "typeinfo"
  | framework => "framework "
  | addUsing => "using "
  | addReference => "ref "
  | time => "time "
  | whileInput => "whileinput "

/-- The command that an argument stands for behind the lead. -/
def command (argument : String) : Lead → Command
  | verbose => .verbose (isYes argument)
  | typeInfo => .typeInfo (isYes argument)
  | framework => .reset (.framework (Text.trim argument))
  | addUsing => .addUsing (Text.trim argument)
  | addReference => .addReference (Text.trim argument)
  | time => .time argument
  | whileInput => .whileInput argument

theorem exists_of_mem_leads {word : String} (hword : word ∈ leads) : ∃ lead : Lead, word = lead.text := by
  simp only [leads, List.mem_cons, List.not_mem_nil, or_false] at hword
  rcases hword with rfl | rfl | rfl | rfl | rfl | rfl | rfl
  exacts [⟨verbose, rfl⟩, ⟨typeInfo, rfl⟩, ⟨framework, rfl⟩, ⟨addUsing, rfl⟩, ⟨addReference, rfl⟩,
    ⟨time, rfl⟩, ⟨whileInput, rfl⟩]

end Lead

section Append

variable {lead argument : String}

theorem lead_append_ne {word : String} (hword : startsWith lead word = false) :
    lead ++ argument ≠ word := by
  rintro rfl
  rw [← Text.dropLead?_eq_none_iff, Text.dropLead?_append] at hword
  cases hword

theorem dropLead?_lead_append {other : String} (hother : startsWith other lead = false)
    (hlead : startsWith lead other = false) : Text.dropLead? other (lead ++ argument) = none := by
  rw [Text.dropLead?_eq_none_iff, Bool.eq_false_iff]
  intro hstarts
  have hprefix : other.toList <+: (lead ++ argument).toList := List.isPrefixOf_iff_prefix.mp hstarts
  rw [String.toList_append] at hprefix
  -- two leads of one text are comparable
  rcases List.prefix_or_prefix_of_prefix hprefix (List.prefix_append _ _) with h | h
  · exact Bool.eq_false_iff.mp hother (List.isPrefixOf_iff_prefix.mpr h)
  · exact Bool.eq_false_iff.mp hlead (List.isPrefixOf_iff_prefix.mpr h)

theorem argument_of_clearEnd (hend : ClearEnd isBlank (lead ++ argument))
    (hlead : ¬ ClearEnd isBlank lead) : argument ≠ "" ∧ ClearEnd isBlank argument := by
  -- without an argument the text would end in the blank of its lead
  have hne : argument ≠ "" := by
    rintro rfl
    rw [String.append_empty] at hend
    exact hlead hend
  exact ⟨hne, (Text.clearEnd_append lead hne).mp hend⟩

theorem trimmed_of_clearEnd (hend : ClearEnd isBlank (lead ++ argument))
    (hlead : ¬ ClearEnd isBlank lead) :
    Text.trim argument ≠ "" ∧ ClearStart isBlank (Text.trim argument) ∧
      ClearEnd isBlank (Text.trim argument) := by
  obtain ⟨hne, hargument⟩ := argument_of_clearEnd hend hlead
  exact ⟨Text.trim_ne_empty hne hargument, Text.clearStart_trim argument, Text.clearEnd_trim argument⟩

end Append

theorem parseTrimmed_lead (lead : Lead) (argument : String) :
    parseTrimmed (lead.text ++ argument) = lead.command argument := by
  -- no bare word starts with a lead, and of two leads neither starts with the other
  cases lead <;>
    simp (disch := decide) [Lead.text, Lead.command, parseTrimmed, lead_append_ne,
      dropLead?_lead_append, Text.dropLead?_append]

theorem parseTrimmed_evaluate {code : String} (hwords : code ∉ bareWords)
    (hleads : ∀ lead ∈ leads, startsWith lead code = false) :
    parseTrimmed code = .evaluate code := by
  have hnone : ∀ lead ∈ leads, Text.dropLead? lead code = none := fun lead hlead =>
    Text.dropLead?_eq_none_iff.mpr (hleads lead hlead)
  have hne : ∀ word ∈ bareWords, code ≠ word := fun word hword hcode => hwords (hcode ▸ hword)
  simp (disch := decide) only [parseTrimmed, hnone, hne, if_false]

theorem Lead.canonical_command (lead : Lead) {argument : String}
    (hend : ClearEnd isBlank (lead.text ++ argument)) : (lead.command argument).Canonical := by
  unfold Canonical
  cases lead with
  | verbose => trivial
  | typeInfo => trivial
  | framework => exact trimmed_of_clearEnd hend (by decide)
  | addUsing => exact trimmed_of_clearEnd hend (by decide)
  | addReference => exact trimmed_of_clearEnd hend (by decide)
  | time => exact argument_of_clearEnd hend (by decide)
  | whileInput => exact argument_of_clearEnd hend (by decide)

theorem canonical_bareWord {word : String} (hword : word ∈ bareWords) :
    (parseTrimmed word).Canonical := by
  unfold Canonical
  simp only [bareWords, List.mem_cons, List.not_mem_nil, or_false] at hword
  rcases hword with rfl | rfl | rfl | rfl | rfl | rfl | rfl | rfl | rfl <;> trivial

theorem canonical_parseTrimmed {s : String} (hstart : ClearStart isBlank s)
    (hend : ClearEnd isBlank s) : (parseTrimmed s).Canonical := by
  by_cases hleads : ∀ lead ∈ leads, startsWith lead s = false
  · by_cases hwords : s ∈ bareWords
    · exact canonical_bareWord hwords
    · rw [parseTrimmed_evaluate hwords hleads]
      unfold Canonical
      exact ⟨⟨hstart, hend⟩, hwords, hleads⟩
  · push Not at hleads
    obtain ⟨word, hword, hstarts⟩ := hleads
    obtain ⟨lead, rfl⟩ := Lead.exists_of_mem_leads hword
    rw [ne_eq, ← Text.dropLead?_eq_none_iff] at hstarts
    obtain ⟨argument, hargument⟩ := Option.ne_none_iff_exists'.mp hstarts
    obtain rfl := Text.dropLead?_eq_some_iff.mp hargument
    rw [parseTrimmed_lead]
    exact lead.canonical_command hend

theorem canonical_parse (text : String) : (parse text).Canonical := by
  rw [parse]
  exact canonical_parseTrimmed (Text.clearStart_trim text) (Text.clearEnd_trim text)

/-! ## From commands to texts -/

theorem parse_eq_parseTrimmed {s : String} (hstart : ClearStart isBlank s)
    (hend : ClearEnd isBlank s) : parse s = parseTrimmed s := by
  rw [parse, Text.trim_eq_self hstart hend]

theorem parse_lead (lead : Lead) {argument : String} (hargument : argument ≠ "")
    (hend : ClearEnd isBlank argument) : parse (lead.text ++ argument) = lead.command argument := by
  have hlead : lead.text ≠ "" ∧ ClearStart isBlank lead.text := by
    cases lead <;> decide
  rw [parse_eq_parseTrimmed ((Text.clearStart_append hlead.1 argument).mpr hlead.2)
    ((Text.clearEnd_append lead.text hargument).mpr hend), parseTrimmed_lead]

theorem parse_render {command : Command} (hcanonical : command.Canonical) :
    parse (render command) = command := by
  unfold Canonical at hcanonical
  cases command with
  | verbose on => cases on <;> decide
  | typeInfo on => cases on <;> decide
  | addUsing argument =>
    obtain ⟨hne, hstart, hend⟩ := hcanonical
    exact (parse_lead .addUsing hne hend).trans
      (congrArg Command.addUsing (Text.trim_eq_self hstart hend))
  | addReference argument =>
    obtain ⟨hne, hstart, hend⟩ := hcanonical
    exact (parse_lead .addReference hne hend).trans
      (congrArg Command.addReference (Text.trim_eq_self hstart hend))
  | time code =>
    obtain ⟨hne, hend⟩ := hcanonical
    exact parse_lead .time hne hend
  | whileInput code =>
    obtain ⟨hne, hend⟩ := hcanonical
    exact parse_lead .whileInput hne hend
  | evaluate code =>
    obtain ⟨⟨hstart, hend⟩, hwords, hleads⟩ := hcanonical
    rw [render, parse_eq_parseTrimmed hstart hend, parseTrimmed_evaluate hwords hleads]
  | reset what =>
    cases what with
    | framework argument =>
      obtain ⟨hne, hstart, hend⟩ := hcanonical
      exact (parse_lead .framework hne hend).trans
        (congrArg (fun tag => Command.reset (.framework tag)) (Text.trim_eq_self hstart hend))
    | program => decide
    | usings => decide
    | references => decide
  | _ => decide

/-- **Reading a command is a retraction onto the canonical ones.** The text of what was read is read as the
same command again, the commands that texts stand for are exactly the canonical ones, and these are
exactly the commands that are read back from their own texts. -/
theorem parse_retracts_onto_canonical :
    (∀ text, parse (render (parse text)) = parse text) ∧
      (∀ command, (∃ text, parse text = command) ↔ command.Canonical) ∧
      ∀ command, parse (render command) = command ↔ command.Canonical := by
  have himage : ∀ {text command}, parse text = command → command.Canonical := by
    rintro text command rfl
    exact canonical_parse text
  refine ⟨fun text => parse_render (canonical_parse text), fun command => ⟨?_, ?_⟩,
    fun command => ⟨himage, parse_render⟩⟩
  · rintro ⟨text, htext⟩
    exact himage htext
  · intro hcanonical
    exact ⟨render command, parse_render hcanonical⟩

end Scratchpad.Command
