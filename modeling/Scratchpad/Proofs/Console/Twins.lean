import Scratchpad.Console.Loop
import Scratchpad.Proofs.Console.Evaluation
import Scratchpad.Proofs.Console.Step

/-!
# Two desks side by side

The same is done at two desks whose sessions agree, except perhaps in a switch that only says what is
shown of results, and whose transcripts are related somehow. Then it comes to the same, and the desks
stay alike (`Twins`), as long as the streams take everything. The relation of the transcripts is a
parameter: it has to be kept when the same event is noted on either side (`Kept`), and what showing an
evaluation does to it is a hypothesis (`Showing`), since only there a switch matters. From snippets
(`twins_runSnippet`) it goes to commands (`twins_execute`) and to lines and answers (`Twins.feed`,
`Twins.answer`). A transcript is never read, so it may be anything before.
-/

namespace Scratchpad

/-- The switches that say what is shown of results. -/
inductive Switch where
  | verbose
  | typeInfo
  deriving DecidableEq

/-- Settings that agree, except perhaps in a hidden switch. -/
structure Settings.AgreeBut (hidden : Option Switch) (left right : Settings) : Prop where
  tag : left.tag = right.tag
  framework : left.framework = right.framework
  usings : left.usings = right.usings
  references : left.references = right.references
  verbose : hidden ≠ some .verbose → left.verbose = right.verbose
  typeInfo : hidden ≠ some .typeInfo → left.typeInfo = right.typeInfo

structure Session.AgreeBut (hidden : Option Switch) (left right : Session) : Prop where
  settings : left.settings.AgreeBut hidden right.settings
  program : left.program = right.program
  exited : left.exited = right.exited

variable {E : Engine} {site : Site}

/-- Two desks that are alike but for a switch. How often a stream was written to does not matter
where everything is taken. -/
structure Desk.Twins (hidden : Option Switch) (related : List Event → List Event → Prop)
    (left right : Desk E) : Prop where
  session : left.session.AgreeBut hidden right.session
  engine : left.engine = right.engine
  tally : left.tally.Alike right.tally
  transcript : related left.transcript right.transcript

/-- A relation of transcripts that is kept when the same event is noted in both. -/
def Transcript.Kept (related : List Event → List Event → Prop) : Prop :=
  ∀ left right event, related left right → related (left ++ [event]) (right ++ [event])

theorem Transcript.Kept.append {related : List Event → List Event → Prop} (hkept : Kept related)
    {left right : List Event} (hrelated : related left right) (events : List Event) :
    related (left ++ events) (right ++ events) := by
  induction events generalizing left right with
  | nil => simpa using hrelated
  | cons event events ih =>
    have hstep := ih (hkept left right event hrelated)
    simpa using hstep

section Twins

variable {hidden : Option Switch} {related related' : List Event → List Event → Prop}
  {left right : Desk E}

namespace Desk.Twins

theorem mono (htwins : left.Twins hidden related right)
    (himp : ∀ l r, related l r → related' l r) : left.Twins hidden related' right :=
  { htwins with transcript := himp _ _ htwins.transcript }

theorem note (hkept : Transcript.Kept related) (htwins : left.Twins hidden related right)
    (event : Event) : (left.note event).Twins hidden related (right.note event) :=
  { htwins with transcript := hkept _ _ event htwins.transcript }

theorem withSession (htwins : left.Twins hidden related right) {first second : Session}
    (hagree : first.AgreeBut hidden second) :
    Twins hidden related { left with session := first } { right with session := second } :=
  { htwins with session := hagree }

theorem written (hkept : Transcript.Kept related) (htwins : left.Twins hidden related right)
    (stream : Stream) (lines : List String) :
    Twins hidden related
      { left with
        tally := left.tally.countWrites stream lines.length
        transcript := left.transcript ++ lines.map fun line => .wrote stream (line ++ "\n") }
      { right with
        tally := right.tally.countWrites stream lines.length
        transcript := right.transcript ++ lines.map fun line => .wrote stream (line ++ "\n") } := by
  have halike := Tally.countWrites_alike left.tally stream lines.length
  have halike' := Tally.countWrites_alike right.tally stream lines.length
  exact ⟨htwins.session, htwins.engine, halike.trans (htwins.tally.trans halike'.symm),
    hkept.append htwins.transcript _⟩

end Desk.Twins

theorem Reset.apply_agree {first second : Session} (hagree : first.AgreeBut hidden second)
    (reset : Reset) :
    (∃ failure, reset.apply first = .error failure ∧ reset.apply second = .error failure) ∨
      ∃ changed changed' : Session, reset.apply first = .ok changed ∧
        reset.apply second = .ok changed' ∧ changed.AgreeBut hidden changed' := by
  cases reset with
  | program => exact Or.inr ⟨_, _, rfl, rfl, { hagree with program := rfl }⟩
  | usings =>
    exact Or.inr ⟨_, _, rfl, rfl, { hagree with settings := { hagree.settings with usings := rfl } }⟩
  | references =>
    exact Or.inr ⟨_, _, rfl, rfl,
      { hagree with settings := { hagree.settings with references := rfl } }⟩
  | framework tag =>
    simp only [apply, Settings.switch]
    cases Framework.ofTag? tag with
    | none => exact Or.inl ⟨_, rfl, rfl⟩
    | some framework =>
      exact Or.inr ⟨_, _, rfl, rfl,
        ⟨⟨rfl, rfl, rfl, rfl, hagree.settings.verbose, hagree.settings.typeInfo⟩, hagree.program,
          hagree.exited⟩⟩

/-! ## The same action at either desk -/

namespace Action

variable {α β : Type}

/-- Two actions that come to the same at desks that are alike, and leave them alike. -/
def Parallel (hidden : Option Switch) (related : List Event → List Event → Prop)
    (first second : Action E α) : Prop :=
  ∀ left right : Desk E, left.Twins hidden related right →
    (first.perform left).1 = (second.perform right).1 ∧
      (first.perform left).2.Twins hidden related (second.perform right).2

theorem Parallel.throw (failure : Failure) :
    Parallel hidden related (MonadExcept.throw failure : Action E α) (MonadExcept.throw failure) :=
  fun _ _ htwins => ⟨rfl, htwins⟩

theorem twins_bind {first second : Action E α} {next next' : α → Action E β}
    (haction : (first.perform left).1 = (second.perform right).1 ∧
      (first.perform left).2.Twins hidden related (second.perform right).2)
    (hnext : ∀ a, Parallel hidden related (next a) (next' a)) :
    ((first >>= next).perform left).1 = ((second >>= next').perform right).1 ∧
      ((first >>= next).perform left).2.Twins hidden related
        ((second >>= next').perform right).2 := by
  obtain ⟨hresult, hafter⟩ := haction
  rw [perform_bind, perform_bind]
  rcases hleft : first.perform left with ⟨result, leftAfter⟩
  rcases hright : second.perform right with ⟨result', rightAfter⟩
  rw [hleft, hright] at hresult hafter
  dsimp only at hresult
  subst hresult
  cases result with
  | error failure => exact ⟨rfl, hafter⟩
  | ok a => exact hnext a _ _ hafter

theorem Parallel.bind {first second : Action E α} {next next' : α → Action E β}
    (haction : Parallel hidden related first second)
    (hnext : ∀ a, Parallel hidden related (next a) (next' a)) :
    Parallel hidden related (first >>= next) (second >>= next') :=
  fun left right htwins => twins_bind (haction left right htwins) hnext

theorem Parallel.session_bind {next next' : Session → Action E β}
    (hnext : ∀ first second : Session, first.AgreeBut hidden second →
      Parallel hidden related (next first) (next' second)) :
    Parallel hidden related (session >>= next) (session >>= next') :=
  fun left right htwins => hnext left.session right.session htwins.session left right htwins

theorem Parallel.setSession {first second : Session} (hagree : first.AgreeBut hidden second) :
    Parallel hidden related (setSession first : Action E Unit) (setSession second) :=
  fun _ _ htwins => ⟨rfl, htwins.withSession hagree⟩

theorem Parallel.setSettings {first second : Settings} (hagree : first.AgreeBut hidden second) :
    Parallel hidden related (setSettings first : Action E Unit) (setSettings second) :=
  fun _ _ htwins =>
    ⟨rfl, htwins.withSession ⟨hagree, htwins.session.program, htwins.session.exited⟩⟩

theorem Parallel.readClock (site : Site) :
    Parallel hidden related (readClock site : Action E Nat) (readClock site) := by
  intro left right htwins
  obtain ⟨hflushes, hidentifiers, hreadings⟩ := htwins.tally
  rw [Action.readClock, perform_ofFun, perform_ofFun]
  dsimp only
  rw [hreadings]
  exact ⟨rfl, { htwins with tally := ⟨hflushes, hidentifiers, rfl⟩ }⟩

theorem Parallel.flush (site : Site) :
    Parallel hidden related (flush site : Action E Unit) (flush site) := by
  intro left right htwins
  obtain ⟨hflushes, hidentifiers, hreadings⟩ := htwins.tally
  rw [Action.flush, perform_ofFun, perform_ofFun]
  dsimp only
  rw [hflushes]
  cases site.flushRefusal right.tally.flushes <;>
    exact ⟨rfl, { htwins with tally := ⟨rfl, hidentifiers, hreadings⟩ }⟩

section Accepting

variable (haccepts : ∀ stream n, site.refusal stream n = none) (hkept : Transcript.Kept related)

include haccepts hkept

theorem Parallel.writeLines (stream : Stream) (lines : List String) :
    Parallel hidden related (writeLines site stream lines : Action E Unit)
      (writeLines site stream lines) := by
  intro left right htwins
  rw [perform_writeLines_accepted (haccepts stream), perform_writeLines_accepted (haccepts stream)]
  exact ⟨rfl, htwins.written hkept stream lines⟩

theorem Parallel.write (stream : Stream) (text : String) :
    Parallel hidden related (write site stream text : Action E Unit) (write site stream text) := by
  intro left right htwins
  have halike := Tally.countWrites_alike left.tally stream 1
  have halike' := Tally.countWrites_alike right.tally stream 1
  rw [perform_write, perform_write, haccepts, haccepts]
  exact ⟨rfl, htwins.session, htwins.engine, halike.trans (htwins.tally.trans halike'.symm),
    hkept _ _ _ htwins.transcript⟩

theorem Parallel.carryOut (reset : Reset) :
    Parallel hidden related (carryOut site reset : Action E Unit) (carryOut site reset) := by
  refine .session_bind fun first second hagree => ?_
  rcases Reset.apply_agree hagree reset with ⟨failure, hfirst, hsecond⟩ | ⟨_, _, hfirst, hsecond, h⟩
  · rw [hfirst, hsecond]
    exact .throw failure
  · rw [hfirst, hsecond]
    exact .bind (.setSession h) fun _ => .writeLines haccepts hkept .out _

theorem Parallel.execute {command : Command} {program : Program}
    (hnone : command.snippet? program = none) :
    Parallel hidden related (execute site command : Action E Unit) (execute site command) := by
  cases command with
  | help => exact .write haccepts hkept .out helpText
  | verbose on =>
    exact .session_bind fun _ _ hagree => .setSettings { hagree.settings with verbose := fun _ => rfl }
  | typeInfo on =>
    exact .session_bind fun _ _ hagree => .setSettings { hagree.settings with typeInfo := fun _ => rfl }
  | list =>
    refine .session_bind fun first second hagree => ?_
    rw [hagree.program]
    exact .writeLines haccepts hkept .out _
  | listUsings =>
    refine .session_bind fun first second hagree => ?_
    rw [hagree.settings.usings]
    exact .writeLines haccepts hkept .out _
  | listReferences =>
    refine .session_bind fun first second hagree => ?_
    rw [hagree.settings.references]
    exact .writeLines haccepts hkept .out _
  | addUsing name =>
    refine .bind (.writeLines haccepts hkept .out _) fun _ => .session_bind fun _ _ hagree => ?_
    exact .setSettings { hagree.settings with usings := congrArg (· ++ [name]) hagree.settings.usings }
  | addReference reference =>
    refine .bind (.writeLines haccepts hkept .out _) fun _ => .session_bind fun _ _ hagree => ?_
    exact .setSettings { hagree.settings with
      references := congrArg (· ++ [reference]) hagree.settings.references }
  | exit =>
    exact .session_bind fun _ _ hagree => .setSession { hagree with exited := rfl }
  | reset what => exact .carryOut haccepts hkept what
  | run => cases hnone
  | time code => cases hnone
  | whileInput code => cases hnone
  | evaluate code => cases hnone

end Accepting

end Action

/-! ## Evaluations -/

/-- The evaluation that is shown when a snippet is run at a desk, if it comes to one. -/
def Desk.shown? (site : Site) (desk : Desk E) (code : String) : Option Evaluation :=
  match site.flushRefusal desk.tally.flushes with
  | some _ => none
  | none => (E.evaluate (desk.job site code) desk.engine).result.toOption

def Desk.evaluation? (site : Site) (desk : Desk E) (command : Command) : Option Evaluation :=
  (command.snippet? desk.session.program).bind (desk.shown? site)

/-- What happens to related transcripts when a snippet is run: they stay related if no evaluation is
shown, and otherwise after what is written to show it. -/
structure Desk.Showing (related related' : List Event → List Event → Prop) (left right : Desk E)
    (shown? : Option Evaluation) : Prop where
  none : shown? = none → ∀ l r, related l r → related' l r
  some : ∀ evaluation, shown? = some evaluation → ∀ l r, related l r →
    related' (l ++ evaluation.display left.session.settings)
      (r ++ evaluation.display right.session.settings)

theorem Desk.Twins.job (htwins : left.Twins hidden related right) (site : Site) (code : String) :
    left.job site code = right.job site code := by
  obtain ⟨-, hframework, husings, hreferences, -, -⟩ := htwins.session.settings
  rw [Desk.job, Desk.job, htwins.tally.identifiers]
  delta Job.ofSnippet SourceUnit.ofBody Settings.resolvedReferences
  rw [hframework, husings, hreferences]

theorem Desk.Twins.outcome (htwins : left.Twins hidden related right) (site : Site)
    (code : String) :
    E.evaluate (left.job site code) left.engine = E.evaluate (right.job site code) right.engine := by
  rw [htwins.job, htwins.engine]

theorem Desk.Twins.evaluated (hkept : Transcript.Kept related)
    (htwins : left.Twins hidden related right) (site : Site) (code : String) :
    (left.evaluated site code).Twins hidden related (right.evaluated site code) := by
  have houtcome := htwins.outcome site code
  obtain ⟨hflushes, hidentifiers, hreadings⟩ := htwins.tally
  refine ⟨htwins.session, congrArg (·.state) houtcome, ⟨?_, ?_, hreadings⟩, ?_⟩
  · exact congrArg (· + 1) hflushes
  · exact congrArg (· + 1) hidentifiers
  · rw [Desk.evaluated, Desk.evaluated, houtcome]
    exact hkept.append htwins.transcript _

namespace Action

variable (haccepts : ∀ stream n, site.refusal stream n = none)

include haccepts

theorem twins_showEvaluation {evaluation : Evaluation} (htwins : left.Twins hidden related right)
    (hshown : ∀ l r, related l r → related' (l ++ evaluation.display left.session.settings)
      (r ++ evaluation.display right.session.settings)) :
    ((showEvaluation site evaluation).perform left).1 =
        ((showEvaluation site evaluation).perform right).1 ∧
      ((showEvaluation site evaluation).perform left).2.Twins hidden related'
        ((showEvaluation site evaluation).perform right).2 := by
  obtain ⟨tally, halike, hleft⟩ := perform_showEvaluation haccepts evaluation left
  obtain ⟨tally', halike', hright⟩ := perform_showEvaluation haccepts evaluation right
  rw [hleft, hright]
  exact ⟨rfl, htwins.session, htwins.engine, halike.symm.trans (htwins.tally.trans halike'),
    hshown _ _ htwins.transcript⟩

/-- **A snippet comes to the same at either desk.** Only showing its value may differ. -/
theorem twins_runSnippet (hkept : Transcript.Kept related) {code : String}
    (htwins : left.Twins hidden related right)
    (hshowing : Desk.Showing related related' left right (left.shown? site code)) :
    ((runSnippet site code).perform left).1 = ((runSnippet site code).perform right).1 ∧
      ((runSnippet site code).perform left).2.Twins hidden related'
        ((runSnippet site code).perform right).2 := by
  have houtcome := htwins.outcome site code
  have hevaluated := htwins.evaluated hkept site code
  rw [Desk.shown?] at hshowing
  rw [perform_runSnippet, perform_runSnippet, ← htwins.tally.flushes, ← houtcome]
  cases hflush : site.flushRefusal left.tally.flushes with
  | some why =>
    rw [hflush] at hshowing
    refine ⟨rfl, ?_⟩
    have hkeep := htwins.mono (hshowing.none rfl)
    exact { hkeep with tally := ⟨rfl, htwins.tally.identifiers, htwins.tally.readings⟩ }
  | none =>
    rw [hflush] at hshowing
    dsimp only at hshowing ⊢
    cases hresult : (E.evaluate (left.job site code) left.engine).result with
    | ok evaluation =>
      rw [hresult] at hshowing
      exact twins_showEvaluation haccepts hevaluated (hshowing.some evaluation rfl)
    | error failure =>
      rw [hresult] at hshowing
      have htold : Parallel hidden related
          (do writeLines site .err failure.detail; throw failure : Action E Unit)
          (do writeLines site .err failure.detail; throw failure) :=
        .bind (.writeLines haccepts hkept .err _) fun _ => .throw failure
      obtain ⟨hsame, hafter⟩ := htold _ _ hevaluated
      exact ⟨hsame, hafter.mono (hshowing.none rfl)⟩

/-- **A command comes to the same at either desk.** -/
theorem twins_execute (hkept : Transcript.Kept related) (hkept' : Transcript.Kept related')
    (command : Command) (htwins : left.Twins hidden related right)
    (hshowing : Desk.Showing related related' left right (left.evaluation? site command)) :
    ((execute site command).perform left).1 = ((execute site command).perform right).1 ∧
      ((execute site command).perform left).2.Twins hidden related'
        ((execute site command).perform right).2 := by
  cases hsnippet : command.snippet? left.session.program with
  | none =>
    obtain ⟨hsame, hafter⟩ := Parallel.execute haccepts hkept hsnippet left right htwins
    refine ⟨hsame, hafter.mono (hshowing.none ?_)⟩
    rw [Desk.evaluation?, hsnippet, Option.bind_none]
  | some code =>
    rw [Desk.evaluation?, hsnippet, Option.bind_some] at hshowing
    cases command with
    | run =>
      rw [execute, perform_session_bind, perform_session_bind, ← htwins.session.program]
      rw [← Option.some.inj hsnippet] at hshowing
      exact twins_runSnippet haccepts hkept htwins hshowing
    | whileInput body =>
      rw [Command.snippet?_whileInput] at hsnippet
      rw [← Option.some.inj hsnippet] at hshowing
      exact twins_runSnippet haccepts hkept htwins hshowing
    | evaluate body =>
      rw [← Option.some.inj hsnippet] at hshowing
      exact twins_runSnippet haccepts hkept htwins hshowing
    | time body =>
      have hread : ∀ desk : Desk E, (readClock site).perform desk =
          (.ok (site.clock desk.tally.readings),
            { desk with tally := { desk.tally with readings := desk.tally.readings + 1 } }) :=
        fun _ => rfl
      have hticked := (Parallel.readClock site left right htwins).2
      rw [hread, hread] at hticked
      rw [← Option.some.inj hsnippet] at hshowing
      rw [execute, perform_bind, perform_bind, hread, hread]
      dsimp only
      rw [htwins.tally.readings] at hticked ⊢
      -- the clock has no influence on what is evaluated and shown
      refine twins_bind (twins_runSnippet haccepts hkept hticked ⟨hshowing.none, hshowing.some⟩) ?_
      exact fun _ => .bind (.readClock site) fun _ => .writeLines haccepts hkept' .out _
    | _ => cases hsnippet

end Action

/-! ## Lines and answers -/

section Accepting

variable (haccepts : ∀ stream n, site.refusal stream n = none)

include haccepts

theorem Desk.Twins.answer (hkept : Transcript.Kept related)
    (htwins : left.Twins hidden related right) (reset : Reset) (reply : Option Reply) :
    (left.answer site reset reply).1 = (right.answer site reset reply).1 ∧
      (left.answer site reset reply).2.Twins hidden related (right.answer site reset reply).2 := by
  have hasked := htwins.note hkept (.prompted reset.question)
  rcases reply with _ | text | why
  · exact ⟨rfl, hasked⟩
  · rw [answer_line, answer_line]
    split
    · exact Action.Parallel.carryOut haccepts hkept reset _ _ hasked
    · exact ⟨rfl, hasked⟩
  · exact ⟨rfl, hasked⟩

/-- **A line comes to the same at either desk.** Both are done with it in the same way, or both ask the
same. -/
theorem Desk.Twins.feed (hkept : Transcript.Kept related) (hkept' : Transcript.Kept related')
    (htwins : left.Twins hidden related right) {draft line : String}
    (hshowing : Desk.Showing related related' left right
      ((Intake.command? draft line).bind (left.evaluation? site))) :
    (∃ rest result leftAfter rightAfter,
      left.feed site draft line = (rest, .done result leftAfter) ∧
        right.feed site draft line = (rest, .done result rightAfter) ∧
        leftAfter.Twins hidden related' rightAfter) ∨
      ∃ rest reset, left.feed site draft line = (rest, .asking reset left) ∧
        right.feed site draft line = (rest, .asking reset right) ∧
        left.Twins hidden related' right := by
  rw [Intake.command?] at hshowing
  cases hintake : Intake.ofLine draft line with
  | ignored =>
    rw [hintake] at hshowing
    rw [Desk.feed, Desk.feed, hintake]
    exact Or.inl ⟨_, _, _, _, rfl, rfl, htwins.mono (hshowing.none rfl)⟩
  | continued rest =>
    rw [hintake] at hshowing
    rw [Desk.feed, Desk.feed, hintake]
    exact Or.inl ⟨_, _, _, _, rfl, rfl, htwins.mono (hshowing.none rfl)⟩
  | edit parsed =>
    rw [hintake] at hshowing
    rw [Desk.feed, Desk.feed, hintake]
    have hkeep := htwins.mono (hshowing.none rfl)
    cases parsed with
    | error failure => exact Or.inl ⟨_, _, _, _, rfl, rfl, hkeep⟩
    | ok edit =>
      have hprogram := congrArg edit.apply htwins.session.program
      exact Or.inl ⟨_, _, _, _, rfl, rfl,
        hkeep.withSession { htwins.session with program := hprogram }⟩
  | command text =>
    rw [hintake] at hshowing
    dsimp only [Option.bind_some] at hshowing
    rw [Desk.feed_command hintake, Desk.feed_command hintake]
    generalize Command.parse text = command at hshowing
    rcases command.reset_or_ne with ⟨reset, rfl⟩ | hne
    · exact Or.inr ⟨_, _, rfl, rfl, htwins.mono (hshowing.none rfl)⟩
    · obtain ⟨hresult, hafter⟩ :=
        Action.twins_execute haccepts hkept hkept' command htwins hshowing
      rw [Desk.submit_of_ne_reset site hne, Desk.submit_of_ne_reset site hne, ← hresult]
      exact Or.inl ⟨_, _, _, _, rfl, rfl, hafter⟩

end Accepting

end Twins

end Scratchpad
