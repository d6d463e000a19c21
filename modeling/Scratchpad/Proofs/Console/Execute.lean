import Scratchpad.Console.Execute
import Scratchpad.Proofs.Console.Action

/-!
# What commands do to a session

`Command.effect` is what a command does to the session when it succeeds. `executed` says all that
carrying out a command can do to it: the effect, if it succeeds; nothing, if it fails; and the
effect as well, if a reset was carried out and only its acknowledgement could not be written.
No command asks anything while it is carried out, since a reset is taken to be agreed to.
-/

namespace Scratchpad

/-! ## Answers -/

theorem toLower_eq_y (c : Char) : c.toLower = 'y' ↔ c = 'y' ∨ c = 'Y' := by
  constructor
  · intro h
    by_cases hupper : c.val ≥ 'A'.val ∧ c.val ≤ 'Z'.val
    · have hlower : c.toLower.val = c.val + ('a'.val - 'A'.val) :=
        congrArg Char.val (dif_pos hupper)
      have hhigh : c.val.toNat ≤ 90 := UInt32.le_iff_toNat_le.mp hupper.2
      have hval : (c.val.toNat + 32) % 2 ^ 32 = 121 :=
        congrArg UInt32.toNat (hlower.symm.trans (congrArg Char.val h))
      refine Or.inr (Char.ext (UInt32.toNat_inj.mp ?_))
      change c.val.toNat = 89
      omega
    · have hsame : c.toLower = c := dif_neg hupper
      exact Or.inl (hsame.symm.trans h)
  · rintro (rfl | rfl) <;> rfl

theorem isAffirmative_iff (answer : String) :
    isAffirmative answer = true ↔ answer = "y" ∨ answer = "Y" := by
  have hsingle : isAffirmative answer = true ↔ answer.toList = ['y'] ∨ answer.toList = ['Y'] := by
    rw [isAffirmative, beq_iff_eq]
    cases answer.toList with
    | nil => simp
    | cons c cs => cases cs <;> simp [toLower_eq_y]
  rw [hsingle, ← String.toList_inj, ← String.toList_inj]
  rfl

/-! ## Effects -/

/-- What a command does to the session when it succeeds. -/
def Command.effect (session : Session) : Command → Session
  | .verbose on => { session with settings := { session.settings with verbose := on } }
  | .typeInfo on => { session with settings := { session.settings with typeInfo := on } }
  | .addUsing name => { session with settings := session.settings.addUsing name }
  | .addReference reference =>
    { session with settings := session.settings.addReference reference }
  | .exit => { session with exited := true }
  | .reset what =>
    match what.apply session with
    | .ok changed => changed
    | .error _ => session
  | .help | .list | .run | .listUsings | .listReferences | .time _ | .whileInput _
  | .evaluate _ => session

theorem Command.reset_or_ne (command : Command) :
    (∃ reset, command = .reset reset) ∨ ∀ reset, command ≠ .reset reset := by
  cases command with
  | reset what => exact Or.inl ⟨what, rfl⟩
  | _ => exact Or.inr fun _ h => by cases h

/-- The snippet that a command evaluates, if it evaluates one, with the text of the loop spelled out. -/
def Command.snippet? (program : Program) : Command → Option String
  | .run => some program.source
  | .time code | .evaluate code => some code
  | .whileInput code =>
    some ("string input; Console.Write(\"while> \"); " ++
      "while ((input = Console.ReadLine()) != null && input != \"\") \x7b " ++ code ++
      "; Console.Write(\"while> \"); \x7d")
  | _ => none

theorem Command.snippet?_whileInput (program : Program) (code : String) :
    (Command.whileInput code).snippet? program = some (Snippet.whileInput code) := by
  have hhead : "string input; Console.Write(\"while> \"); " ++
      "while ((input = Console.ReadLine()) != null && input != \"\") \x7b " =
      "string input; Console.Write(\"while> \"); while ((input = Console.ReadLine()) != null && " ++
        "input != \"\") \x7b " := by
    decide +kernel
  exact congrArg (fun head => some (head ++ code ++ "; Console.Write(\"while> \"); \x7d")) hhead

/-- The acknowledgement of a reset could not be written: the reset was possible, and the stream
refused what was written to it next. -/
structure Reset.Unacknowledged {E : Engine} (site : Site) (reset : Reset) (before : Desk E)
    (failure : Failure) (after : Session) : Prop where
  applied : reset.apply before.session = .ok after
  refused : ∃ why, site.refusal .out before.tally.writesToOut = some why ∧ failure = .io why

/-- All that carrying out a command can do to the session, and that it asks nothing. -/
structure Command.Executed {E : Engine} (site : Site) (command : Command) (before : Desk E)
    (result : Except Failure Unit) (after : Desk E) : Prop where
  succeeded : result = .ok () → after.session = command.effect before.session
  failed : ∀ failure, result = .error failure → after.session = before.session ∨
    ∃ reset, command = .reset reset ∧ reset.Unacknowledged site before failure after.session
  prompts : Transcript.prompts after.transcript = Transcript.prompts before.transcript

theorem Command.Executed.session_eq {E : Engine} {site : Site} {command : Command}
    {before after : Desk E} {result : Except Failure Unit}
    (hexecuted : command.Executed site before result after) :
    after.session = before.session ∨ after.session = command.effect before.session := by
  cases result with
  | ok _ => exact Or.inr (hexecuted.succeeded rfl)
  | error failure =>
    rcases hexecuted.failed failure rfl with hsame | ⟨reset, rfl, hreset⟩
    · exact Or.inl hsame
    · rw [Command.effect, hreset.applied]
      exact Or.inr rfl

theorem Reset.apply_ok {reset : Reset} {session changed : Session}
    (happly : reset.apply session = .ok changed) :
    changed.exited = session.exited ∧
      changed.program = if reset = .program then {} else session.program := by
  cases reset with
  | framework tag =>
    cases hswitch : session.settings.switch tag with
    | error failure => simp [apply, hswitch, Except.map] at happly
    | ok settings =>
      simp only [apply, hswitch, Except.map, Except.ok.injEq] at happly
      simp [← happly]
  | _ =>
    simp only [apply, Except.ok.injEq] at happly
    simp [← happly]

namespace Action

variable {E : Engine} (site : Site)

theorem Quiet.executed {action : Action E Unit} (haction : Quiet action) {command : Command}
    (heffect : ∀ session, command.effect session = session) (desk : Desk E) :
    command.Executed site desk (action.perform desk).1 (action.perform desk).2 where
  succeeded _ := by rw [heffect, (haction desk).session]
  failed _ _ := Or.inl (haction desk).session
  prompts := (haction desk).prompts

theorem executed_after_line {command : Command} (line : String) (change : Settings → Settings)
    (heffect : ∀ session : Session,
      command.effect session = { session with settings := change session.settings })
    (desk : Desk E) :
    let action : Action E Unit := do
      writeLines site .out [line]
      let session ← session
      setSettings (change session.settings)
    command.Executed site desk (action.perform desk).1 (action.perform desk).2 := by
  intro action
  have hperform : action.perform desk =
      match (writeLines site .out [line]).perform desk with
      | (.ok _, after) =>
        (.ok (), { after with
          session := { after.session with settings := change after.session.settings } })
      | (.error failure, after) => (.error failure, after) := by
    rw [perform_bind]
    rcases (writeLines site .out [line]).perform desk with ⟨result, after⟩
    cases result <;> rfl
  have hquiet := Quiet.writeLines site .out [line] desk
  rw [hperform]
  rcases hwrite : (writeLines site .out [line]).perform desk with ⟨result, after⟩
  rw [hwrite] at hquiet
  cases result with
  | error failure =>
    exact ⟨fun h => by simp at h, fun _ _ => Or.inl hquiet.session, hquiet.prompts⟩
  | ok _ =>
    refine ⟨fun _ => ?_, fun _ h => by simp at h, hquiet.prompts⟩
    rw [heffect, ← hquiet.session]

theorem perform_carryOut (reset : Reset) (desk : Desk E) :
    (carryOut site reset).perform desk =
      match reset.apply desk.session with
      | .error failure => (.error failure, desk)
      | .ok changed =>
        (writeLines site .out [reset.acknowledgement]).perform { desk with session := changed } := by
  rw [carryOut, perform_session_bind]
  cases reset.apply desk.session <;> rfl

theorem executed_reset (reset : Reset) (desk : Desk E) :
    (Command.reset reset).Executed site desk ((carryOut site reset).perform desk).1
      ((carryOut site reset).perform desk).2 := by
  rw [perform_carryOut]
  cases happly : reset.apply desk.session with
  | error failure => exact ⟨fun h => by simp at h, fun _ _ => Or.inl rfl, rfl⟩
  | ok changed =>
    have hquiet := Quiet.writeLines site .out [reset.acknowledgement] { desk with session := changed }
    refine ⟨fun _ => ?_, fun failure hfailure => Or.inr ⟨reset, rfl, ?_, ?_⟩, hquiet.prompts⟩
    · rw [Command.effect, happly]
      exact hquiet.session
    · rw [happly, hquiet.session]
    · dsimp only at hfailure
      rw [perform_writeLine] at hfailure
      cases hrefusal : site.refusal .out desk.tally.writesToOut with
      | none => simp [Tally.writes, hrefusal] at hfailure
      | some why =>
        refine ⟨why, rfl, ?_⟩
        simpa [Tally.writes, hrefusal] using hfailure.symm

/-- **What a command can do.** -/
theorem executed (command : Command) (desk : Desk E) :
    command.Executed site desk ((execute site command).perform desk).1
      ((execute site command).perform desk).2 := by
  cases command with
  | help => exact (Quiet.write site .out helpText).executed site (fun _ => rfl) desk
  | verbose on => exact ⟨fun _ => rfl, fun _ h => (by cases h), rfl⟩
  | typeInfo on => exact ⟨fun _ => rfl, fun _ h => (by cases h), rfl⟩
  | list =>
    exact (Quiet.bind .session fun s => .writeLines site .out s.program.listing).executed site
      (fun _ => rfl) desk
  | run =>
    exact (Quiet.bind .session fun s => .runSnippet site s.program.source).executed site
      (fun _ => rfl) desk
  | addUsing name =>
    exact executed_after_line site ("Using " ++ name) (·.addUsing name) (fun _ => rfl) desk
  | listUsings =>
    exact (Quiet.bind .session fun s => .writeLines site .out s.settings.usings).executed site
      (fun _ => rfl) desk
  | addReference reference =>
    exact executed_after_line site ("Referenced " ++ reference) (·.addReference reference)
      (fun _ => rfl) desk
  | listReferences =>
    exact (Quiet.bind .session fun s => .writeLines site .out s.settings.references).executed site
      (fun _ => rfl) desk
  | time code =>
    exact (Quiet.bind (.readClock site) fun _ => .bind (.runSnippet site code) fun _ =>
      .bind (.readClock site) fun _ => .writeLines site .out _).executed site (fun _ => rfl) desk
  | whileInput code =>
    exact (Quiet.runSnippet site (Snippet.whileInput code)).executed site (fun _ => rfl) desk
  | exit => exact ⟨fun _ => rfl, fun _ h => (by cases h), rfl⟩
  | evaluate code => exact (Quiet.runSnippet site code).executed site (fun _ => rfl) desk
  | reset what => exact executed_reset site what desk

end Action

end Scratchpad
