import Scratchpad.Console.Evaluation
import Scratchpad.Console.Transcript

/-!
# What actions do to a desk

How an action made of smaller ones is carried out (`perform_bind`), what the writing actions do
(`perform_write`, `perform_writeLine`, `perform_writeLines_accepted`), and two frames. A `Quiet` action
leaves the session as it is and asks nothing; a `Clerical` one, moreover, does not call the engine.
Writing, flushing, drawing identifiers and reading the clock are clerical; compiling and running are
quiet, and so is everything made of all these; in particular evaluating a snippet is
(`Quiet.runSnippet`), whether it fails or not.
-/

namespace Scratchpad

def Tally.countWrites (tally : Tally) (stream : Stream) : Nat → Tally
  | 0 => tally
  | n + 1 => (tally.countWrite stream).countWrites stream n

/-- Everything but writing was used equally often. -/
structure Tally.Alike (left right : Tally) : Prop where
  flushes : left.flushes = right.flushes
  identifiers : left.identifiers = right.identifiers
  readings : left.readings = right.readings

theorem Tally.Alike.symm {left right : Tally} (halike : left.Alike right) : right.Alike left :=
  ⟨halike.flushes.symm, halike.identifiers.symm, halike.readings.symm⟩

theorem Tally.Alike.trans {a b c : Tally} (hab : a.Alike b) (hbc : b.Alike c) : a.Alike c :=
  ⟨hab.flushes.trans hbc.flushes, hab.identifiers.trans hbc.identifiers,
    hab.readings.trans hbc.readings⟩

theorem Tally.countWrites_alike (tally : Tally) (stream : Stream) (n : Nat) :
    (tally.countWrites stream n).Alike tally := by
  induction n generalizing tally with
  | zero => exact ⟨rfl, rfl, rfl⟩
  | succ n ih =>
    refine (ih (tally.countWrite stream)).trans ?_
    cases stream <;> exact ⟨rfl, rfl, rfl⟩

namespace Action

variable {E : Engine} {α β : Type}

/-! ## Carrying out an action -/

@[simp] theorem perform_pure (a : α) (desk : Desk E) :
    (pure a : Action E α).perform desk = (.ok a, desk) :=
  rfl

@[simp] theorem perform_ofFun (f : Desk E → Except Failure α × Desk E) (desk : Desk E) :
    (ofFun f).perform desk = f desk :=
  rfl

theorem perform_bind (action : Action E α) (next : α → Action E β) (desk : Desk E) :
    (action >>= next).perform desk =
      match action.perform desk with
      | (.ok a, desk) => (next a).perform desk
      | (.error failure, desk) => (.error failure, desk) := by
  change (ExceptT.bindCont next (action.perform desk).1).run (action.perform desk).2 = _
  rcases action.perform desk with ⟨result, after⟩
  cases result <;> rfl

theorem perform_session_bind (next : Session → Action E β) (desk : Desk E) :
    (session >>= next).perform desk = (next desk.session).perform desk :=
  rfl

theorem perform_compile (job : Job) (desk : Desk E) :
    (compile job).perform desk =
      ((E.compile job desk.engine).1,
        { desk with engine := (E.compile job desk.engine).2 }.note (.compiled job)) :=
  rfl

theorem perform_run (entry : E.Entry) (desk : Desk E) :
    (run entry).perform desk =
      ((E.run entry desk.engine).1.result,
        { desk with
          engine := (E.run entry desk.engine).2
          transcript := desk.transcript ++ .ran ::
            (E.run entry desk.engine).1.printed.map fun (stream, text) => .printed stream text }) :=
  rfl

theorem desk_flush (site : Site) (desk : Desk E) :
    ((flush site).perform desk).2 =
      { desk with tally := { desk.tally with flushes := desk.tally.flushes + 1 } } := by
  rw [flush, perform_ofFun]
  cases site.flushRefusal desk.tally.flushes <;> rfl

/-! ## Writing -/

theorem perform_write (site : Site) (stream : Stream) (text : String) (desk : Desk E) :
    (write site stream text).perform desk =
      match site.refusal stream (desk.tally.writes stream) with
      | some why => (.error (.io why), { desk with tally := desk.tally.countWrite stream })
      | none =>
        (.ok (), { desk with tally := desk.tally.countWrite stream }.note (.wrote stream text)) :=
  rfl

theorem perform_writeLine (site : Site) (stream : Stream) (line : String) (desk : Desk E) :
    (writeLines site stream [line]).perform desk =
      match site.refusal stream (desk.tally.writes stream) with
      | some why => (.error (.io why), { desk with tally := desk.tally.countWrite stream })
      | none =>
        (.ok (), { desk with tally := desk.tally.countWrite stream }.note
          (.wrote stream (line ++ "\n"))) := by
  rw [writeLines, perform_bind, perform_write]
  cases site.refusal stream (desk.tally.writes stream) <;> rfl

theorem perform_writeLines_accepted {site : Site} {stream : Stream}
    (haccepts : ∀ n, site.refusal stream n = none) (lines : List String) (desk : Desk E) :
    (writeLines site stream lines).perform desk =
      (.ok (), { desk with
        tally := desk.tally.countWrites stream lines.length
        transcript := desk.transcript ++ lines.map fun line => .wrote stream (line ++ "\n") }) := by
  induction lines generalizing desk with
  | nil => simp [writeLines, Tally.countWrites]
  | cons line lines ih =>
    rw [writeLines, perform_bind, perform_write, haccepts]
    dsimp only
    rw [ih]
    simp [Desk.note, Tally.countWrites]

end Action

theorem Transcript.written_append (stream : Stream) (before events : List Event) :
    written stream (before ++ events) = written stream before ++ written stream events := by
  rw [written, written, written, List.filterMap_append, String.join_append]

theorem Transcript.written_lines (stream : Stream) (lines : List String) :
    written stream (lines.map fun line => .wrote stream (line ++ "\n")) =
      String.join (lines.map (· ++ "\n")) := by
  rw [written, List.filterMap_map]
  congr 1
  induction lines with
  | nil => rfl
  | cons line lines ih => simp [writtenTo, ih]

/-! ## Quiet and clerical actions -/

/-- Between two moments of a desk the session stayed as it was and nothing was asked. -/
structure Desk.Quiet {E : Engine} (before after : Desk E) : Prop where
  session : after.session = before.session
  prompts : Transcript.prompts after.transcript = Transcript.prompts before.transcript

theorem Desk.Quiet.refl {E : Engine} (desk : Desk E) : desk.Quiet desk :=
  ⟨rfl, rfl⟩

theorem Desk.Quiet.trans {E : Engine} {a b c : Desk E} (hab : a.Quiet b) (hbc : b.Quiet c) :
    a.Quiet c :=
  ⟨hbc.session.trans hab.session, hbc.prompts.trans hab.prompts⟩

def Event.isCall : Event → Bool
  | .compiled _ | .ran => true
  | _ => false

def Transcript.calls (transcript : List Event) : List Event :=
  transcript.filter Event.isCall

/-- Between two moments of a desk the engine was not called. -/
structure Desk.Uncalled {E : Engine} (before after : Desk E) : Prop where
  engine : after.engine = before.engine
  calls : Transcript.calls after.transcript = Transcript.calls before.transcript

theorem Desk.Uncalled.trans {E : Engine} {a b c : Desk E} (hab : a.Uncalled b)
    (hbc : b.Uncalled c) : a.Uncalled c :=
  ⟨hbc.engine.trans hab.engine, hbc.calls.trans hab.calls⟩

/-- Between two moments of a desk only texts were written and parts of the site were used. -/
structure Desk.Clerical {E : Engine} (before after : Desk E) : Prop
    extends Desk.Quiet before after, Desk.Uncalled before after

theorem Desk.Clerical.refl {E : Engine} (desk : Desk E) : desk.Clerical desk :=
  ⟨.refl desk, rfl, rfl⟩

theorem Desk.Clerical.trans {E : Engine} {a b c : Desk E} (hab : a.Clerical b)
    (hbc : b.Clerical c) : a.Clerical c :=
  ⟨hab.toQuiet.trans hbc.toQuiet, hab.toUncalled.trans hbc.toUncalled⟩

/-- An event that is no prompt. -/
def Event.isSilent : Event → Bool
  | .prompted _ => false
  | _ => true

theorem Transcript.prompts_append (before events : List Event) :
    prompts (before ++ events) = prompts before ++ prompts events :=
  List.filterMap_append

theorem Transcript.calls_append (before events : List Event) :
    calls (before ++ events) = calls before ++ calls events :=
  List.filter_append ..

theorem Transcript.prompts_append_silent {events : List Event}
    (hevents : ∀ event ∈ events, event.isSilent = true) (before : List Event) :
    prompts (before ++ events) = prompts before := by
  have hnone : prompts events = [] := by
    rw [prompts, List.filterMap_eq_nil_iff]
    intro event hevent
    cases event with
    | prompted text => exact absurd (hevents _ hevent) (by simp [Event.isSilent])
    | _ => rfl
  rw [prompts_append, hnone, List.append_nil]

namespace Action

variable {E : Engine} {α β : Type}

theorem frame_bind (P : Desk E → Desk E → Prop) (htrans : ∀ {a b c}, P a b → P b c → P a c)
    {action : Action E α} {next : α → Action E β}
    (haction : ∀ desk, P desk (action.perform desk).2)
    (hnext : ∀ a desk, P desk ((next a).perform desk).2) (desk : Desk E) :
    P desk ((action >>= next).perform desk).2 := by
  have hfirst := haction desk
  rw [perform_bind]
  rcases hperform : action.perform desk with ⟨result, after⟩
  rw [hperform] at hfirst
  cases result with
  | error failure => exact hfirst
  | ok a => exact htrans hfirst (hnext a after)

/-- An action that leaves the session and the engine alone and asks nothing. -/
def Clerical (action : Action E α) : Prop :=
  ∀ desk : Desk E, desk.Clerical (action.perform desk).2

theorem Clerical.pure (a : α) : Clerical (Pure.pure a : Action E α) :=
  fun desk => .refl desk

theorem Clerical.throw (failure : Failure) : Clerical (MonadExcept.throw failure : Action E α) :=
  fun desk => .refl desk

theorem Clerical.bind {action : Action E α} {next : α → Action E β} (haction : Clerical action)
    (hnext : ∀ a, Clerical (next a)) : Clerical (action >>= next) :=
  frame_bind Desk.Clerical .trans haction hnext

theorem Clerical.session : Clerical (session : Action E Session) :=
  fun desk => .refl desk

theorem Clerical.write (site : Site) (stream : Stream) (text : String) :
    Clerical (write site stream text : Action E Unit) := by
  intro desk
  rw [perform_write]
  cases site.refusal stream (desk.tally.writes stream) with
  | some why => exact ⟨⟨rfl, rfl⟩, rfl, rfl⟩
  | none =>
    have hprompts := Transcript.prompts_append desk.transcript [.wrote stream text]
    have hcalls := Transcript.calls_append desk.transcript [.wrote stream text]
    exact ⟨⟨rfl, hprompts.trans (List.append_nil _)⟩, rfl, hcalls.trans (List.append_nil _)⟩

theorem Clerical.writeLines (site : Site) (stream : Stream) (lines : List String) :
    Clerical (writeLines site stream lines : Action E Unit) := by
  induction lines with
  | nil => exact .pure ()
  | cons line lines ih => exact .bind (.write site stream (line ++ "\n")) fun _ => ih

theorem Clerical.flush (site : Site) : Clerical (flush site : Action E Unit) := by
  intro desk
  rw [desk_flush]
  exact ⟨⟨rfl, rfl⟩, rfl, rfl⟩

theorem Clerical.drawIdentifier (site : Site) : Clerical (drawIdentifier site : Action E String) :=
  fun _ => ⟨⟨rfl, rfl⟩, rfl, rfl⟩

theorem Clerical.readClock (site : Site) : Clerical (readClock site : Action E Nat) :=
  fun _ => ⟨⟨rfl, rfl⟩, rfl, rfl⟩

theorem Clerical.showEvaluation (site : Site) (evaluation : Evaluation) :
    Clerical (showEvaluation site evaluation : Action E Unit) :=
  .bind .session fun _ => .bind (.writeLines site .err _) fun _ => .writeLines site .out _

/-- An action that leaves the session as it is and asks nothing, whether it fails or not. -/
def Quiet (action : Action E α) : Prop :=
  ∀ desk : Desk E, desk.Quiet (action.perform desk).2

theorem Clerical.quiet {action : Action E α} (haction : Clerical action) : Quiet action :=
  fun desk => (haction desk).toQuiet

theorem Quiet.pure (a : α) : Quiet (Pure.pure a : Action E α) :=
  (Clerical.pure a).quiet

theorem Quiet.bind {action : Action E α} {next : α → Action E β} (haction : Quiet action)
    (hnext : ∀ a, Quiet (next a)) : Quiet (action >>= next) :=
  frame_bind Desk.Quiet .trans haction hnext

theorem Quiet.attempt {action : Action E α} (haction : Quiet action) : Quiet (attempt action) :=
  haction

theorem Quiet.session : Quiet (session : Action E Session) :=
  Clerical.session.quiet

theorem Quiet.write (site : Site) (stream : Stream) (text : String) :
    Quiet (write site stream text : Action E Unit) :=
  (Clerical.write site stream text).quiet

theorem Quiet.writeLines (site : Site) (stream : Stream) (lines : List String) :
    Quiet (writeLines site stream lines : Action E Unit) :=
  (Clerical.writeLines site stream lines).quiet

theorem Quiet.readClock (site : Site) : Quiet (readClock site : Action E Nat) :=
  (Clerical.readClock site).quiet

theorem Quiet.compile (job : Job) : Quiet (compile job : Action E (Build E.Entry)) :=
  fun _ => ⟨rfl, Transcript.prompts_append_silent (by simp [Event.isSilent]) _⟩

theorem Quiet.run (entry : E.Entry) : Quiet (run entry : Action E Value) := by
  intro desk
  refine ⟨rfl, Transcript.prompts_append_silent (fun event hevent => ?_) desk.transcript⟩
  rcases List.mem_cons.mp hevent with rfl | hprinted
  · rfl
  · obtain ⟨⟨stream, text⟩, -, rfl⟩ := List.mem_map.mp hprinted
    rfl

theorem Quiet.evaluate (site : Site) (snippet : String) :
    Quiet (evaluate site snippet : Action E Evaluation) :=
  .bind .session fun _ => .bind (Clerical.drawIdentifier site).quiet fun _ =>
    .bind (.compile _) fun _ => .bind (.run _) fun _ => .pure _

/-- **Evaluating a snippet changes nothing in the session and reads no input.** -/
theorem Quiet.runSnippet (site : Site) (snippet : String) :
    Quiet (runSnippet site snippet : Action E Unit) := by
  refine .bind (Clerical.flush site).quiet fun _ =>
    .bind (.attempt (.evaluate site snippet)) fun result => ?_
  cases result with
  | ok evaluation => exact (Clerical.showEvaluation site evaluation).quiet
  | error failure =>
    exact (Clerical.bind (.writeLines site .err _) fun _ => .throw failure).quiet

end Action

end Scratchpad
