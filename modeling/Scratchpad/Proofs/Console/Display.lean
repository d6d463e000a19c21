import Scratchpad.Proofs.Console.History
import Scratchpad.Proofs.Console.Twins

/-!
# Switches only change what is shown

Two sessions that differ in one switch are run on the same replies. Their consoles stay alike
(`Console.Twins`): each exchange comes to the same at both (`Twins.hear`), by the simulation of desks
in `Twins`. A switch has a say in one place only, where an evaluation is shown. There it decides
whether an aside is written: the warnings in front of the result, or the type in front of the value
(`SameBut.display`). So the transcripts are the same event by event, but for the asides of the
evaluations of the run (`SameBut`, `sameBut_run`). The switch may be turned in the middle of a run;
from then on both have it alike, and an aside is in both or in none.
-/

namespace Scratchpad

variable {E : Engine} {site : Site}

/-- The evaluation that was shown in an exchange, if its line led to one. -/
def Exchange.evaluation? (site : Site) (exchange : Exchange E) : Option Evaluation :=
  exchange.command?.bind (exchange.console.desk.evaluation? site)

/-! ## Two consoles side by side -/

/-- Two consoles that are alike but for a switch. -/
structure Console.Twins (hidden : Option Switch) (related : List Event → List Event → Prop)
    (left right : Console E) : Prop where
  desk : left.desk.Twins hidden related right.desk
  draft : left.draft = right.draft
  phase : left.phase = right.phase

namespace Console.Twins

variable {hidden : Option Switch} {related related' : List Event → List Event → Prop}
  {left right : Console E}

theorem isClosed (htwins : left.Twins hidden related right) : left.isClosed = right.isClosed := by
  rw [Console.isClosed, Console.isClosed, htwins.phase]

theorem mono (htwins : left.Twins hidden related right) (himp : ∀ l r, related l r → related' l r) :
    left.Twins hidden related' right :=
  { htwins with desk := htwins.desk.mono himp }

theorem close (htwins : left.Twins hidden related right) :
    (left.close site).Twins hidden related (right.close site) := by
  obtain ⟨hresult, hdesk⟩ := Action.Parallel.flush site _ _ htwins.desk
  exact ⟨hdesk, htwins.draft, congrArg Phase.closed hresult⟩

theorem proceed (htwins : left.Twins hidden related right) :
    (left.proceed site).Twins hidden related (right.proceed site) := by
  rw [Console.proceed, Console.proceed, htwins.desk.session.exited]
  split
  · exact htwins.close
  · exact { htwins with phase := rfl }

variable (haccepts : ∀ stream n, site.refusal stream n = none) (hkept : Transcript.Kept related)

include haccepts hkept

theorem conclude (htwins : left.Twins hidden related right) (result : Except Failure Unit) :
    (conclude site left result).Twins hidden related (conclude site right result) := by
  cases result with
  | ok _ => exact htwins.proceed
  | error failure =>
    have hreported := htwins.desk.written hkept .err [failure.report]
    rw [Console.conclude, Console.conclude, Action.perform_writeLines_accepted (haccepts .err),
      Action.perform_writeLines_accepted (haccepts .err)]
    exact proceed ⟨hreported, rfl, htwins.phase⟩

theorem hear_unread (htwins : left.Twins hidden related right) (hphase : left.phase = .ready)
    {reply : Option Reply} (hreply : ∀ text, reply ≠ some (.line text)) :
    (left.hear site reply).Twins hidden related (right.hear site reply) := by
  have hphase' : right.phase = .ready := htwins.phase.symm.trans hphase
  have hprompted := htwins.desk.note hkept (.prompted mainPrompt)
  rcases reply with _ | text | why
  · rw [hear_end hphase, hear_end hphase']
    exact close ⟨hprompted, htwins.draft, htwins.phase⟩
  · exact absurd rfl (hreply text)
  · have hreported := hprompted.written hkept .err ["Input error: " ++ why]
    rw [hear_failed hphase, hear_failed hphase', Action.perform_writeLines_accepted (haccepts .err),
      Action.perform_writeLines_accepted (haccepts .err)]
    exact close ⟨hreported, htwins.draft, htwins.phase⟩

theorem hear_line (hkept' : Transcript.Kept related') (htwins : left.Twins hidden related right)
    (hphase : left.phase = .ready) {text : String}
    (hshowing : Desk.Showing related related' left.desk right.desk
      (Exchange.evaluation? site ⟨left, some (.line text)⟩)) :
    (left.hear site (some (.line text))).Twins hidden related'
      (right.hear site (some (.line text))) := by
  have hphase' : right.phase = .ready := htwins.phase.symm.trans hphase
  have hprompted := htwins.desk.note hkept (.prompted mainPrompt)
  rw [Exchange.evaluation?, Exchange.command?_line hphase] at hshowing
  rw [Console.hear_line hphase, Console.hear_line hphase', ← htwins.draft]
  rcases hprompted.feed haccepts hkept hkept' ⟨hshowing.none, hshowing.some⟩ with
    ⟨rest, result, leftAfter, rightAfter, hleft, hright, hafter⟩ | ⟨rest, reset, hleft, hright, hasked⟩
  · rw [hleft, hright]
    refine conclude haccepts hkept' ?_ result
    exact ⟨hafter, rfl, htwins.phase⟩
  · rw [hleft, hright]
    exact ⟨hasked, rfl, rfl⟩

/-- **An exchange comes to the same at either console.** -/
theorem hear (hkept' : Transcript.Kept related') (htwins : left.Twins hidden related right)
    (hopen : left.isClosed = false) (reply : Option Reply)
    (hshowing : Desk.Showing related related' left.desk right.desk
      (Exchange.evaluation? site ⟨left, reply⟩)) :
    (left.hear site reply).Twins hidden related' (right.hear site reply) := by
  cases hphase : left.phase with
  | closed result => simp [Console.isClosed, hphase] at hopen
  | confirming reset =>
    have hphase' : right.phase = .confirming reset := htwins.phase.symm.trans hphase
    have hnone : Exchange.evaluation? site ⟨left, reply⟩ = none := by
      simp [Exchange.evaluation?, Exchange.command?, Exchange.question?, hphase]
    obtain ⟨hresult, hanswered⟩ := htwins.desk.answer haccepts hkept reset reply
    rw [hear_confirming hphase, hear_confirming hphase', ← hresult]
    refine mono (conclude haccepts hkept ?_ _) (hshowing.none hnone)
    exact ⟨hanswered, htwins.draft, htwins.phase⟩
  | ready =>
    by_cases hreply : ∃ text, reply = some (.line text)
    · obtain ⟨text, rfl⟩ := hreply
      exact hear_line haccepts hkept hkept' htwins hphase hshowing
    · have hunread : ∀ text, reply ≠ some (.line text) := fun text h => hreply ⟨text, h⟩
      have hnone : Exchange.evaluation? site ⟨left, reply⟩ = none := by
        rw [Exchange.evaluation?, Exchange.command?_of_ne_line hunread, Option.bind_none]
      exact (hear_unread haccepts hkept htwins hphase hunread).mono (hshowing.none hnone)

end Console.Twins

/-! ## Asides -/

namespace Switch

def isOn (settings : Settings) : Switch → Bool
  | .verbose => settings.verbose
  | .typeInfo => settings.typeInfo

def set (on : Bool) (settings : Settings) : Switch → Settings
  | .verbose => { settings with verbose := on }
  | .typeInfo => { settings with typeInfo := on }

/-- The stream that a switch shows something on. -/
def stream : Switch → Stream
  | .verbose => .err
  | .typeInfo => .out

/-- What a switch shows of an evaluation: its warnings, or the type of its value if that has one. -/
def lines (evaluation : Evaluation) : Switch → List String
  | .verbose => evaluation.warnings
  | .typeInfo => evaluation.value.typeName?.toList

/-- What is written right after that: the value, and for the warnings its type too if that is
wanted. -/
def following (settings : Settings) (evaluation : Evaluation) : Switch → List String
  | .verbose => evaluation.value.resultLines settings.typeInfo
  | .typeInfo => [evaluation.value.format 0]

theorem agreeBut_set (switch : Switch) (on : Bool) (settings : Settings) :
    settings.AgreeBut (some switch) (switch.set on settings) := by
  cases switch <;> constructor <;> simp [set]

end Switch

def Desk.turned (switch : Switch) (on : Bool) (desk : Desk E) : Desk E :=
  { desk with
    session := { desk.session with settings := switch.set on desk.session.settings } }

/-- Lines that each of two transcripts may have or not, and the lines of the output that follow them in
both. -/
structure Aside where
  lines : List String
  following : List String
  inLeft : Bool
  inRight : Bool

/-- The aside of two exchanges, if they show an evaluation. -/
def Aside.of? (switch : Switch) (site : Site) (exchange exchange' : Exchange E) : Option Aside :=
  (exchange.evaluation? site).map fun evaluation =>
    { lines := switch.lines evaluation
      following := switch.following exchange.console.desk.session.settings evaluation
      inLeft := switch.isOn exchange.console.desk.session.settings
      inRight := switch.isOn exchange'.console.desk.session.settings }

def Transcript.ofLines (stream : Stream) (lines : List String) : List Event :=
  lines.map fun line => .wrote stream (line ++ "\n")

/-- Two transcripts that are the same event by event, but for asides on a stream. -/
inductive Transcript.SameBut (stream : Stream) : List Aside → List Event → List Event → Prop where
  | nil : SameBut stream [] [] []
  | event {asides : List Aside} {left right : List Event} (event : Event)
      (hsame : SameBut stream asides left right) :
      SameBut stream asides (left ++ [event]) (right ++ [event])
  | aside {asides : List Aside} {left right : List Event} (aside : Aside)
      (hsame : SameBut stream asides left right) :
      SameBut stream (asides ++ [aside])
        (left ++ (ofLines stream (if aside.inLeft then aside.lines else []) ++
          ofLines .out aside.following))
        (right ++ (ofLines stream (if aside.inRight then aside.lines else []) ++
          ofLines .out aside.following))

namespace Transcript.SameBut

variable {stream : Stream} {asides : List Aside} {left right : List Event}

theorem kept (stream : Stream) (asides : List Aside) : Kept (SameBut stream asides) :=
  fun _ _ event hsame => .event event hsame

theorem refl (stream : Stream) (transcript : List Event) :
    SameBut stream [] transcript transcript := by
  simpa using (kept stream []).append .nil transcript

theorem filterMap_eq {α : Type} {view : Event → Option α}
    (hview : ∀ text, view (.wrote stream text) = none) (hsame : SameBut stream asides left right) :
    left.filterMap view = right.filterMap view := by
  have hlines : ∀ lines, (ofLines stream lines).filterMap view = [] := by
    intro lines
    rw [List.filterMap_eq_nil_iff, ofLines, List.forall_mem_map]
    exact fun line _ => hview _
  induction hsame with
  | nil => rfl
  | event event hsame ih => rw [List.filterMap_append, List.filterMap_append, ih]
  | aside aside hsame ih => simp only [List.filterMap_append, hlines, ih]

end Transcript.SameBut

theorem Value.resultLines_eq (typeInfo : Bool) (value : Value) :
    value.resultLines typeInfo =
      (if typeInfo then value.typeName?.toList else []) ++ [value.format 0] := by
  cases value <;> cases typeInfo <;> rfl

theorem Transcript.SameBut.display {switch : Switch} {asides : List Aside} {left right : List Event}
    (hsame : SameBut switch.stream asides left right) (evaluation : Evaluation)
    {first second : Settings} (hagree : first.AgreeBut (some switch) second) :
    SameBut switch.stream
      (asides ++ [⟨switch.lines evaluation, switch.following first evaluation, switch.isOn first,
        switch.isOn second⟩])
      (left ++ evaluation.display first) (right ++ evaluation.display second) := by
  cases switch with
  | verbose =>
    have htypeInfo : first.typeInfo = second.typeInfo := hagree.typeInfo (by simp)
    have haside := SameBut.aside ⟨evaluation.warnings, evaluation.value.resultLines first.typeInfo,
      first.verbose, second.verbose⟩ hsame
    simp only [Evaluation.display, ← htypeInfo]
    exact haside
  | typeInfo =>
    have hverbose : first.verbose = second.verbose := hagree.verbose (by simp)
    have hwarned := (kept Switch.typeInfo.stream asides).append hsame
      (ofLines .err (if first.verbose then evaluation.warnings else []))
    have haside := SameBut.aside ⟨evaluation.value.typeName?.toList, [evaluation.value.format 0],
      first.typeInfo, second.typeInfo⟩ hwarned
    simp only [Evaluation.display, Value.resultLines_eq, ← hverbose, List.map_append,
      ← List.append_assoc]
    simp only [← List.append_assoc] at haside
    exact haside

/-! ## Whole runs -/

namespace Console

def asides (switch : Switch) (site : Site) (log log' : List (Exchange E)) : List Aside :=
  (List.zipWith (Aside.of? switch site) log log').reduceOption

variable {switch : Switch} {left right : Console E}

@[simp] theorem asides_nil (log : List (Exchange E)) : asides switch site [] log = [] :=
  rfl

theorem asides_cons (exchange exchange' : Exchange E) (log log' : List (Exchange E)) :
    asides switch site (exchange :: log) (exchange' :: log') =
      (Aside.of? switch site exchange exchange').toList ++ asides switch site log log' := by
  rw [asides, List.zipWith_cons_cons]
  cases Aside.of? switch site exchange exchange' <;> rfl

theorem sameBut_of_isClosed {noted : List Aside}
    (htwins : left.Twins (some switch) (Transcript.SameBut switch.stream noted) right)
    (hclosed : left.isClosed = true) (replies : List Reply) :
    (left.run site replies).2 = (right.run site replies).2 ∧
      (left.run site replies).1.Twins (some switch)
        (Transcript.SameBut switch.stream (noted ++ asides switch site
          (left.exchanges site replies) (right.exchanges site replies)))
        (right.run site replies).1 := by
  have hclosed' : right.isClosed = true := htwins.isClosed.symm.trans hclosed
  rw [run_of_isClosed hclosed, run_of_isClosed hclosed', exchanges_of_isClosed hclosed,
    exchanges_of_isClosed hclosed', asides_nil, List.append_nil]
  exact ⟨rfl, htwins⟩

section Accepting

variable (haccepts : ∀ stream n, site.refusal stream n = none)

include haccepts

theorem sameBut_hear {noted : List Aside}
    (htwins : left.Twins (some switch) (Transcript.SameBut switch.stream noted) right)
    (hopen : left.isClosed = false) (reply : Option Reply) :
    (left.hear site reply).Twins (some switch)
      (Transcript.SameBut switch.stream
        (noted ++ (Aside.of? switch site ⟨left, reply⟩ ⟨right, reply⟩).toList))
      (right.hear site reply) := by
  refine htwins.hear haccepts (Transcript.SameBut.kept _ _) (Transcript.SameBut.kept _ _) hopen reply
    ⟨fun hnone l r hsame => ?_, fun evaluation hsome l r hsame => ?_⟩
  · simpa [Aside.of?, hnone] using hsame
  · rw [Aside.of?, hsome]
    exact hsame.display evaluation htwins.desk.session.settings

theorem sameBut_hearEnd {noted : List Aside}
    (htwins : left.Twins (some switch) (Transcript.SameBut switch.stream noted) right)
    (hopen : left.isClosed = false) :
    (left.hearEnd site).Twins (some switch)
      (Transcript.SameBut switch.stream
        (noted ++ asides switch site (left.lastExchanges site) (right.lastExchanges site)))
      (right.hearEnd site) := by
  have hopen' : right.isClosed = false := htwins.isClosed.symm.trans hopen
  have hheard := sameBut_hear haccepts htwins hopen none
  rw [hearEnd, hearEnd, lastExchanges, lastExchanges, hopen, hopen', ← hheard.isClosed]
  cases hnext : (left.hear site none).isClosed with
  | true =>
    rw [hear_of_isClosed hnext, hear_of_isClosed (hheard.isClosed.symm.trans hnext)]
    simpa [asides_cons] using hheard
  | false =>
    -- a question was open, so the end of the input is heard a second time
    have hagain := sameBut_hear haccepts hheard hnext none
    simpa [asides_cons] using hagain

/-- **The same replies come to the same but for asides.** -/
theorem sameBut_run {noted : List Aside}
    (htwins : left.Twins (some switch) (Transcript.SameBut switch.stream noted) right)
    (replies : List Reply) :
    (left.run site replies).2 = (right.run site replies).2 ∧
      (left.run site replies).1.Twins (some switch)
        (Transcript.SameBut switch.stream (noted ++ asides switch site
          (left.exchanges site replies) (right.exchanges site replies)))
        (right.run site replies).1 := by
  induction replies generalizing left right noted with
  | nil =>
    cases hclosed : left.isClosed with
    | true => exact sameBut_of_isClosed htwins hclosed []
    | false => exact ⟨rfl, sameBut_hearEnd haccepts htwins hclosed⟩
  | cons reply replies ih =>
    cases hclosed : left.isClosed with
    | true => exact sameBut_of_isClosed htwins hclosed (reply :: replies)
    | false =>
      have hclosed' : right.isClosed = false := htwins.isClosed.symm.trans hclosed
      have hnext := ih (sameBut_hear haccepts htwins hclosed (some reply))
      rw [run, run, exchanges, exchanges, hclosed, hclosed']
      simpa [asides_cons] using hnext

end Accepting

theorem twins_start (site : Site) (switch : Switch) (on : Bool) (desk : Desk E) :
    (start site desk).Twins (some switch) (Transcript.SameBut switch.stream [])
      (start site (desk.turned switch on)) := by
  have hagree := switch.agreeBut_set on desk.session.settings
  refine Twins.proceed ⟨⟨⟨hagree, rfl, rfl⟩, rfl, ⟨rfl, rfl, rfl⟩, ?_⟩, rfl, rfl⟩
  exact .refl switch.stream desk.transcript

/-- **A switch only changes what is shown of evaluations.** Two sessions that differ in one switch are
given the same replies, and the streams take everything. Then they leave the same replies unread, end
in the same way, with the same program and settings that differ in the switch at most; the same
prompts are shown, the engine is called in the same way, and the other stream gets the same. The
transcripts are the same but for the asides of evaluations, and an aside is in a transcript exactly if
the switch was on in that session at that time. -/
theorem run_same_but_asides (site : Site) (haccepts : ∀ stream n, site.refusal stream n = none)
    (switch : Switch) (on : Bool) (desk : Desk E) (replies : List Reply) :
    let first := start site desk
    let second := start site (desk.turned switch on)
    let left := (first.run site replies).1
    let right := (second.run site replies).1
    (first.run site replies).2 = (second.run site replies).2 ∧
      left.result = right.result ∧
      left.desk.session.program = right.desk.session.program ∧
      left.desk.session.exited = right.desk.session.exited ∧
      left.desk.session.settings.AgreeBut (some switch) right.desk.session.settings ∧
      Transcript.prompts left.desk.transcript = Transcript.prompts right.desk.transcript ∧
      Transcript.calls left.desk.transcript = Transcript.calls right.desk.transcript ∧
      (∀ stream, stream ≠ switch.stream → Transcript.written stream left.desk.transcript =
        Transcript.written stream right.desk.transcript) ∧
      Transcript.SameBut switch.stream
        (asides switch site (first.exchanges site replies) (second.exchanges site replies))
        left.desk.transcript right.desk.transcript := by
  intro first second left right
  obtain ⟨hunread, htwins⟩ := sameBut_run haccepts (twins_start site switch on desk) replies
  have hsame := htwins.desk.transcript
  refine ⟨hunread, ?_, htwins.desk.session.program, htwins.desk.session.exited,
    htwins.desk.session.settings, ?_, ?_, fun stream hstream => ?_, hsame⟩
  · rw [result, result, htwins.phase]
  · exact hsame.filterMap_eq fun _ => rfl
  · rw [Transcript.calls, Transcript.calls, ← List.filterMap_eq_filter]
    exact hsame.filterMap_eq fun _ => rfl
  · rw [Transcript.written, Transcript.written, hsame.filterMap_eq]
    exact fun text => if_neg hstream.symm

end Console

/-- An engine that warns of everything it compiles. -/
def Engine.warning : Engine where
  State := Unit
  Entry := Unit
  compile _ state := (.ok { entry := (), warnings := ["unused"] }, state)
  run _ state := ({ result := .ok .null }, state)

/-- The second session shows the warnings of both snippets, the first one only those of the snippet
after the switch was turned on. -/
theorem Console.run_same_but_asides_script :
    let site : Site := { frameworkDir := "", identifier := fun _ => "", clock := fun _ => 0 }
    let desk : Desk .warning := { engine := () }
    let replies : List Reply := [.line "f()", .line "verbose on", .line "g()"]
    let left := ((start site desk).run site replies).1.desk.transcript
    let right := ((start site (desk.turned .verbose true)).run site replies).1.desk.transcript
    Transcript.written .out left = Transcript.written .out right ∧
      Transcript.written .err left = "unused\n" ∧
      Transcript.written .err right = "unused\nunused\n" := by
  intro site desk replies left right
  obtain ⟨-, -, -, -, -, -, -, hwritten, -⟩ :=
    run_same_but_asides site (fun _ _ => rfl) .verbose true desk replies
  refine ⟨hwritten .out (by decide), ?_⟩
  decide +kernel

end Scratchpad
