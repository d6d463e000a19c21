import Scratchpad.Proofs.Console.Step
import Scratchpad.Proofs.Text.Numeral

/-!
# Lines that edit, as they are written

A line that edits is blanks, a token that starts with a digit, and then either a space and a text or only
blanks other than the space (`Spelled`). Every line whose first character other than a blank is a
digit is written in exactly one such way, and the edit is read off it (`spelled_iff`). If the token is
a numeral within the range, feeding the line changes the program at that number and nothing
else (`feed_of_numeral`), otherwise the line is rejected and changes nothing (`feed_of_not_numeral`).

The space is the only blank that ends a token. So a number that is followed by blanks only deletes its
line exactly if no space is among them (`bare_number_deletes_iff`).
-/

namespace Scratchpad

open Text (isBlank isBlankText ClearStart ClearEnd Numeral)

/-! ## Programs that differ at one number -/

/-- `after` is `before` with the given text, or no line, at a number. -/
structure Program.RevisedAt (number : Int) (text : Option String) (before after : Program) : Prop where
  here : after.get? number = text
  elsewhere : ∀ m, m ≠ number → after.get? m = before.get? m
  others : after.lines.filter (·.1 != number) = before.lines.filter (·.1 != number)
  ascending : before.Ascending → after.Ascending

theorem Program.filter_insertLine (number : Int) (text : String) (lines : List (Int × String)) :
    (insertLine number text lines).filter (·.1 != number) = lines.filter (·.1 != number) := by
  induction lines with
  | nil => simp [insertLine]
  | cons line rest ih =>
    obtain ⟨m, t⟩ := line
    rw [insertLine]
    split
    · simp
    · split
      · rename_i hsame
        simp [hsame]
      · rw [List.filter_cons, List.filter_cons, ih]

namespace LineEdit

theorem revisedAt_apply (edit : LineEdit) (program : Program) :
    Program.RevisedAt edit.number edit.text program (edit.apply program) where
  here := by rw [get?_apply, if_pos rfl]
  elsewhere m hm := by rw [get?_apply, if_neg hm]
  others := by
    obtain ⟨number, text⟩ := edit
    cases text with
    | none =>
      change (program.lines.filter (·.1 != number)).filter (·.1 != number) = _
      rw [List.filter_filter]
      simp
    | some text => exact Program.filter_insertLine number text program.lines
  ascending := ascending_apply edit

/-! ## How an edit is written -/

/-- What may stand in the place of the number. -/
structure IsToken (token : String) : Prop where
  starts : ∃ c cs, token.toList = c :: cs ∧ c.isDigit = true
  spaceless : ' ' ∉ token.toList

/-- `Spelled token text line`: after blanks the line has the token, and then a space and the text, or
else only blanks, without a space among them. -/
inductive Spelled (token : String) : Option String → String → Prop
  | withText {lead text : String} (hlead : isBlankText lead = true) (htoken : IsToken token) :
      Spelled token (some text) (lead ++ token ++ " " ++ text)
  | bare {lead trail : String} (hlead : isBlankText lead = true) (htoken : IsToken token)
      (hend : ClearEnd isBlank token) (htrail : isBlankText trail = true)
      (hspace : ' ' ∉ trail.toList) : Spelled token none (lead ++ token ++ trail)

theorem IsToken.ne_empty {token : String} (htoken : IsToken token) : token ≠ "" := by
  obtain ⟨c, cs, hlist, -⟩ := htoken.starts
  rintro rfl
  simp at hlist

theorem IsToken.clearStart {token : String} (htoken : IsToken token) (rest : String) :
    ClearStart isBlank (token ++ rest) := by
  obtain ⟨c, cs, hlist, hdigit⟩ := htoken.starts
  rw [Text.clearStart_append htoken.ne_empty]
  intro d hd
  rw [hlist, List.head?_cons] at hd
  obtain rfl := Option.some.inj hd
  exact Text.isBlank_of_isDigit hdigit

theorem IsToken.trimStart_eq {lead token : String} (hlead : isBlankText lead = true)
    (htoken : IsToken token) (rest : String) :
    Text.trimStart (lead ++ token ++ rest) = token ++ rest := by
  rw [String.append_assoc, Text.trimStart_append hlead (htoken.clearStart rest)]

theorem IsToken.applies {lead token : String} (hlead : isBlankText lead = true)
    (htoken : IsToken token) (rest : String) : applies (lead ++ token ++ rest) = true := by
  obtain ⟨c, cs, hlist, hdigit⟩ := htoken.starts
  rw [LineEdit.applies, htoken.trimStart_eq hlead, String.toList_append, hlist, List.cons_append]
  exact hdigit

theorem Spelled.isToken {token line : String} {text : Option String}
    (hspelled : Spelled token text line) : IsToken token := by
  cases hspelled <;> assumption

theorem Spelled.applies {token line : String} {text : Option String}
    (hspelled : Spelled token text line) : applies line = true := by
  cases hspelled with
  | @withText lead text hlead htoken =>
    rw [String.append_assoc]
    exact htoken.applies hlead (" " ++ text)
  | @bare lead trail hlead htoken hend htrail hspace => exact htoken.applies hlead trail

theorem Spelled.split_eq {token line : String} {text : Option String}
    (hspelled : Spelled token text line) : split line = (token, text) := by
  cases hspelled with
  | @withText lead text hlead htoken =>
    have hsplit : Text.splitFirst? ' ' (token ++ (" " ++ text)) = some (token, text) := by
      rw [← String.append_assoc]
      exact Text.splitFirst?_eq_some_iff.mpr ⟨rfl, htoken.spaceless⟩
    rw [split, String.append_assoc, htoken.trimStart_eq hlead, hsplit]
  | @bare lead trail hlead htoken hend htrail hspace =>
    have hsplit : Text.splitFirst? ' ' (token ++ trail) = none := by
      rw [Text.splitFirst?_eq_none_iff, String.toList_append, List.mem_append]
      exact fun h => h.elim htoken.spaceless hspace
    rw [split, htoken.trimStart_eq hlead, hsplit]
    exact congrArg (·, none) (Text.trimEnd_append hend htrail)

theorem spelled_split {line : String} (happlies : applies line = true) :
    Spelled (split line).1 (split line).2 line := by
  have hstarts := split_of_applies happlies
  obtain ⟨lead, hline, hlead⟩ := Text.exists_append_trimStart line
  cases hsplit : Text.splitFirst? ' ' (Text.trimStart line) with
  | some parts =>
    obtain ⟨token, text⟩ := parts
    have heq : split line = (token, some text) := by rw [split, hsplit]
    obtain ⟨hrest, hspaceless⟩ := Text.splitFirst?_eq_some_iff.mp hsplit
    rw [heq] at hstarts ⊢
    have hspelled : Spelled token (some text) (lead ++ token ++ " " ++ text) :=
      .withText hlead ⟨hstarts, hspaceless⟩
    rw [hline, hrest, ← String.append_assoc, ← String.append_assoc]
    exact hspelled
  | none =>
    have heq : split line = (Text.trimEnd (Text.trimStart line), none) := by rw [split, hsplit]
    have hspaceless := Text.splitFirst?_eq_none_iff.mp hsplit
    rw [heq] at hstarts ⊢
    obtain ⟨trail, hrest, htrail⟩ := Text.exists_trimEnd_append (Text.trimStart line)
    rw [hrest, String.toList_append, List.mem_append, not_or] at hspaceless
    have hspelled : Spelled (Text.trimEnd (Text.trimStart line)) none
        (lead ++ Text.trimEnd (Text.trimStart line) ++ trail) :=
      .bare hlead ⟨hstarts, hspaceless.1⟩ (Text.clearEnd_trimEnd _) htrail hspaceless.2
    rwa [String.append_assoc, ← hrest, ← hline] at hspelled

theorem spelled_iff {token line : String} {text : Option String} :
    Spelled token text line ↔ applies line = true ∧ split line = (token, text) := by
  constructor
  · intro hspelled
    exact ⟨hspelled.applies, hspelled.split_eq⟩
  · rintro ⟨happlies, hsplit⟩
    have hspelled := spelled_split happlies
    rwa [hsplit] at hspelled

/-! ## What is read -/

theorem parse_of_split {token line : String} {text : Option String}
    (hsplit : split line = (token, text)) :
    parse line =
      match Text.readInt32? token with
      | some number => .ok ⟨number, text⟩
      | none => .error (.rejected "LINE001" ("Invalid line number '" ++ token ++ "'")) := by
  delta parse
  rw [hsplit]
  rfl

/-- The token is a numeral within the range of line numbers. -/
def InRange (token : String) : Prop :=
  ∃ n ≤ 2147483647, Numeral n token

theorem Spelled.parse_eq {token line : String} {text : Option String} {n : Nat}
    (hspelled : Spelled token text line) (htoken : Numeral n token) (hn : n ≤ 2147483647) :
    parse line = .ok ⟨n, text⟩ := by
  obtain ⟨c, cs, hlist, hdigit⟩ := hspelled.isToken.starts
  have hread : Text.readInt32? token = some (n : Int) :=
    (Text.readInt32?_eq_some_iff hlist hdigit).mpr ⟨n, rfl, hn, htoken⟩
  rw [parse_of_split hspelled.split_eq, hread]

theorem Spelled.parse_rejects {token line : String} {text : Option String}
    (hspelled : Spelled token text line) (hrange : ¬ InRange token) :
    parse line = .error (.rejected "LINE001" ("Invalid line number '" ++ token ++ "'")) := by
  obtain ⟨c, cs, hlist, hdigit⟩ := hspelled.isToken.starts
  have hread : Text.readInt32? token = none := by
    rw [Option.eq_none_iff_forall_ne_some]
    intro k hk
    obtain ⟨n, -, hn, hnumeral⟩ := (Text.readInt32?_eq_some_iff hlist hdigit).mp hk
    exact hrange ⟨n, hn, hnumeral⟩
  rw [parse_of_split hspelled.split_eq, hread]

theorem isToken_of_numeral {token : String} {n : Nat} (htoken : Numeral n token) :
    IsToken token := by
  refine ⟨htoken.toList_eq_cons, fun hspace => ?_⟩
  have hdigit := htoken.isDigit hspace
  revert hdigit
  decide

theorem clearEnd_of_numeral {token : String} {n : Nat} (htoken : Numeral n token) :
    ClearEnd isBlank token := fun _ hc =>
  Text.isBlank_of_isDigit (htoken.isDigit (List.mem_of_getLast? hc))

theorem not_inRange_append {token blanks : String} (hne : blanks ≠ "")
    (hblanks : isBlankText blanks = true) : ¬ InRange (token ++ blanks) := by
  rintro ⟨n, -, hnumeral⟩
  obtain ⟨c, hc⟩ := List.exists_mem_of_ne_nil blanks.toList (by simpa using hne)
  have hblank : isBlank c = true := List.all_eq_true.mp hblanks c hc
  have hdigit := hnumeral.isDigit (c := c) (by simp [hc])
  rw [Text.isBlank_of_isDigit hdigit] at hblank
  cases hblank

theorem exists_spelled {lead : String} (hlead : isBlankText lead = true) {c : Char}
    (hc : c.isDigit = true) (rest : String) :
    ∃ token text, ∀ token' text', Spelled token' text' (lead ++ String.singleton c ++ rest) ↔
      token' = token ∧ text' = text := by
  have htoken : IsToken (String.singleton c) := by
    refine ⟨⟨c, [], by simp, hc⟩, fun hspace => ?_⟩
    obtain rfl : ' ' = c := by simpa using hspace
    simp at hc
  have happlies := htoken.applies hlead rest
  rcases hsplit : split (lead ++ String.singleton c ++ rest) with ⟨token, text⟩
  refine ⟨token, text, fun token' text' => ?_⟩
  rw [spelled_iff, and_iff_right happlies, hsplit, Prod.mk.injEq]
  exact and_congr eq_comm eq_comm

end LineEdit

/-! ## Feeding -/

namespace Desk

open LineEdit (Spelled InRange)

variable {E : Engine}

/-- Feeding the line succeeds and leaves no draft. It changes the text at a number, and apart from that the
session, the engine and everything that has happened stay as they are. -/
def Revises (site : Site) (draft line : String) (number : Int) (text : Option String)
    (desk : Desk E) : Prop :=
  ∃ program,
    desk.feed site draft line =
        ("", .done (.ok ()) { desk with session := { desk.session with program } }) ∧
      Program.RevisedAt number text desk.session.program program

theorem feed_of_numeral {token line : String} {text : Option String} {n : Nat}
    (hspelled : Spelled token text line) (htoken : Numeral n token) (hn : n ≤ 2147483647)
    (site : Site) (draft : String) (desk : Desk E) : desk.Revises site draft line n text := by
  refine ⟨_, ?_, LineEdit.revisedAt_apply ⟨n, text⟩ desk.session.program⟩
  rw [feed, Intake.ofLine_of_applies hspelled.applies, hspelled.parse_eq htoken hn]

theorem feed_of_not_numeral {token line : String} {text : Option String}
    (hspelled : Spelled token text line) (hrange : ¬ InRange token) (site : Site) (draft : String)
    (desk : Desk E) :
    desk.feed site draft line =
      ("", .done (.error (.rejected "LINE001" ("Invalid line number '" ++ token ++ "'")))
        desk) := by
  rw [feed, Intake.ofLine_of_applies hspelled.applies, hspelled.parse_rejects hrange]

theorem Revises.text_eq {site : Site} {draft line : String} {number : Int}
    {text text' : Option String} {desk : Desk E} (h : desk.Revises site draft line number text)
    (h' : desk.Revises site draft line number text') : text = text' := by
  obtain ⟨program, hfeed, hprogram⟩ := h
  obtain ⟨program', hfeed', hprogram'⟩ := h'
  rw [hfeed] at hfeed'
  injection hfeed' with _ hturn
  injection hturn with _ hdesk
  injection hdesk with hsession
  injection hsession with _ hsame
  rw [← hprogram.here, ← hprogram'.here, hsame]

theorem Revises.feed_ne_error {site : Site} {draft line rest : String} {number : Int}
    {text : Option String} {desk after : Desk E} (h : desk.Revises site draft line number text)
    (failure : Failure) : desk.feed site draft line ≠ (rest, .done (.error failure) after) := by
  obtain ⟨program, hfeed, -⟩ := h
  rw [hfeed]
  simp

/-- **Edits are taken as they are written.** A numeral from `0` to `2147483647`, with any zeros and
blanks in front and with a space behind it, sets its line to exactly the text that follows, blank or
not, and nothing else changes. Every line whose first character other than a blank is a digit has
exactly one token; if that is no numeral within the range, the line is rejected, the failure names the
token, and nothing changes. -/
theorem edits_taken_as_written (site : Site) (draft : String) (desk : Desk E) :
    (∀ (lead token text : String) (n : Nat), isBlankText lead = true → Numeral n token →
      n ≤ 2147483647 →
        desk.Revises site draft (lead ++ token ++ " " ++ text) n (some text)) ∧
    (∀ (lead rest : String) (c : Char), isBlankText lead = true → c.isDigit = true →
      ∃ token text, ∀ token' text', Spelled token' text' (lead ++ String.singleton c ++ rest) ↔
        token' = token ∧ text' = text) ∧
    ∀ (line token : String) (text : Option String), Spelled token text line → ¬ InRange token →
      desk.feed site draft line =
        ("", .done (.error (.rejected "LINE001" ("Invalid line number '" ++ token ++ "'")))
          desk) := by
  refine ⟨fun lead token text n hlead htoken hn => ?_, fun lead rest c hlead hc => ?_,
    fun line token text hspelled hrange => ?_⟩
  · exact feed_of_numeral (.withText hlead (LineEdit.isToken_of_numeral htoken)) htoken hn site
      draft desk
  · exact LineEdit.exists_spelled hlead hc rest
  · exact feed_of_not_numeral hspelled hrange site draft desk

/-- The greatest number is taken with zeros and foreign blanks in front, and the next one is rejected. A
draft is dropped, and a continuation mark at the end of the text belongs to the text. -/
theorem edits_taken_as_written_limit :
    let site : Site := { frameworkDir := "", identifier := fun _ => "", clock := fun _ => 0 }
    let desk : Desk .refusing :=
      { session := { program := ⟨[(7, "a"), (2147483647, "b")]⟩ }, engine := () }
    desk.Revises site "using " ("\t\u3000" ++ "0002147483647" ++ " " ++ " 7 x\\") 2147483647
        (some " 7 x\\") ∧
      desk.feed site "using " ("" ++ "2147483648" ++ " " ++ "x") =
        ("", .done (.error (.rejected "LINE001" "Invalid line number '2147483648'")) desk) := by
  intro site desk
  obtain ⟨htaken, -, hrejected⟩ := edits_taken_as_written site "using " desk
  have hlast : Numeral 2147483647 "0002147483647" := ⟨3, by decide +kernel⟩
  have hnext : Numeral 2147483648 "2147483648" := ⟨0, by decide +kernel⟩
  have hrange : ¬ InRange "2147483648" := by
    rintro ⟨n, hn, hnumeral⟩
    have hread := Text.readDigits?_eq_some_iff.mpr hnumeral.toList_eq
    rw [Text.readDigits?_eq_some_iff.mpr hnext.toList_eq] at hread
    have hsame := Option.some.inj hread
    omega
  constructor
  · exact htaken _ _ _ _ (by decide +kernel) hlast (by decide)
  · exact hrejected _ "2147483648" (some "x")
      (.withText (by decide) (LineEdit.isToken_of_numeral hnext)) hrange

/-! ## Numbers without a text -/

theorem spelled_of_space {lead token before : String} {n : Nat} (hlead : isBlankText lead = true)
    (htoken : Numeral n token) (hbefore : ' ' ∉ before.toList) (after : String) :
    Spelled (token ++ before) (some after) (lead ++ token ++ (before ++ " " ++ after)) := by
  have hsound := LineEdit.isToken_of_numeral htoken
  have hwhole : LineEdit.IsToken (token ++ before) := by
    obtain ⟨c, cs, hlist, hdigit⟩ := hsound.starts
    refine ⟨⟨c, cs ++ before.toList, by simp [hlist], hdigit⟩, ?_⟩
    rw [String.toList_append, List.mem_append]
    exact fun h => h.elim hsound.spaceless hbefore
  have hspelled : Spelled (token ++ before) (some after) (lead ++ (token ++ before) ++ " " ++ after) :=
    .withText hlead hwhole
  simpa only [String.append_assoc] using hspelled

theorem feed_of_space {lead token before after : String} {n : Nat} (hlead : isBlankText lead = true)
    (htoken : Numeral n token) (hn : n ≤ 2147483647)
    (hblanks : isBlankText (before ++ " " ++ after) = true) (hbefore : ' ' ∉ before.toList)
    (site : Site) (draft : String) (desk : Desk E) :
    (before = "" →
      desk.Revises site draft (lead ++ token ++ (before ++ " " ++ after)) n (some after)) ∧
      (before ≠ "" → desk.feed site draft (lead ++ token ++ (before ++ " " ++ after)) =
        ("", .done (.error (.rejected "LINE001"
          ("Invalid line number '" ++ (token ++ before) ++ "'"))) desk)) := by
  have hspelled := spelled_of_space hlead htoken hbefore after
  refine ⟨?_, fun hne => ?_⟩
  · rintro rfl
    rw [String.append_empty] at hspelled
    exact feed_of_numeral hspelled htoken hn site draft desk
  · have hblank : isBlankText before = true := by
      rw [isBlankText, String.toList_append, String.toList_append, List.all_append,
        List.all_append, Bool.and_eq_true, Bool.and_eq_true] at hblanks
      exact hblanks.1.1
    exact feed_of_not_numeral hspelled (LineEdit.not_inRange_append hne hblank) site draft desk

/-- **Which numbers without a text delete their line.** After a numeral within the range, blanks up to
the end of the line leave it a deletion exactly if there is no space among them. A space directly behind
the numeral makes the blanks after it the text of the line. After other blanks it makes them part of the
token, which is rejected. -/
theorem bare_number_deletes_iff {lead token trail : String} {n : Nat}
    (hlead : isBlankText lead = true) (htoken : Numeral n token) (hn : n ≤ 2147483647)
    (htrail : isBlankText trail = true) (site : Site) (draft : String) (desk : Desk E) :
    (desk.Revises site draft (lead ++ token ++ trail) n none ↔ ' ' ∉ trail.toList) ∧
      ∀ before after, trail = before ++ " " ++ after → ' ' ∉ before.toList →
        (before = "" → desk.Revises site draft (lead ++ token ++ trail) n (some after)) ∧
          (before ≠ "" → desk.feed site draft (lead ++ token ++ trail) =
            ("", .done (.error (.rejected "LINE001"
              ("Invalid line number '" ++ (token ++ before) ++ "'"))) desk)) := by
  refine ⟨⟨fun hdeletes hspace => ?_, fun hspace => ?_⟩, ?_⟩
  · cases hsplit : Text.splitFirst? ' ' trail with
    | none => exact Text.splitFirst?_eq_none_iff.mp hsplit hspace
    | some parts =>
      obtain ⟨before, after⟩ := parts
      obtain ⟨rfl, hbefore⟩ := Text.splitFirst?_eq_some_iff.mp hsplit
      obtain ⟨hsets, hrejects⟩ := feed_of_space hlead htoken hn htrail hbefore site draft desk
      by_cases hempty : before = ""
      · cases hdeletes.text_eq (hsets hempty)
      · exact hdeletes.feed_ne_error _ (hrejects hempty)
  · exact feed_of_numeral (.bare hlead (LineEdit.isToken_of_numeral htoken)
      (LineEdit.clearEnd_of_numeral htoken) htrail hspace) htoken hn site draft desk
  · rintro before after rfl hbefore
    exact feed_of_space hlead htoken hn htrail hbefore site draft desk

/-- Foreign blanks around the number, a second space behind it, and a tab before the space. -/
theorem bare_number_deletes_iff_blanks :
    let site : Site := { frameworkDir := "", identifier := fun _ => "", clock := fun _ => 0 }
    let desk : Desk .refusing := { session := { program := ⟨[(10, "a")]⟩ }, engine := () }
    desk.Revises site "" ("\t" ++ "010" ++ "\u3000\t") 10 none ∧
      desk.Revises site "" ("\t" ++ "010" ++ "  ") 10 (some " ") ∧
      desk.feed site "" ("\t" ++ "010" ++ "\t ") =
        ("", .done (.error (.rejected "LINE001" "Invalid line number '010\t'")) desk) := by
  intro site desk
  have hlead : isBlankText "\t" = true := by decide
  have htoken : Numeral 10 "010" := ⟨1, by decide +kernel⟩
  have hn : 10 ≤ 2147483647 := by decide
  refine ⟨?_, ?_, ?_⟩
  · exact (bare_number_deletes_iff hlead htoken hn (by decide) site "" desk).1.mpr (by decide)
  · exact ((bare_number_deletes_iff hlead htoken hn (by decide) site "" desk).2 "" " " (by decide)
      (by decide)).1 rfl
  · exact ((bare_number_deletes_iff hlead htoken hn (by decide) site "" desk).2 "\t" "" (by decide)
      (by decide)).2 (by decide)

/-- A number and one space: the line stays, with no text in it. -/
theorem number_and_space_keeps_line :
    let site : Site := { frameworkDir := "", identifier := fun _ => "", clock := fun _ => 0 }
    let desk : Desk .refusing := { session := { program := ⟨[(10, "a")]⟩ }, engine := () }
    isBlankText "" = true ∧ Numeral 10 "10" ∧ isBlankText " " = true ∧
      desk.Revises site "" ("" ++ "10" ++ " ") 10 (some "") ∧
      ¬ desk.Revises site "" ("" ++ "10" ++ " ") 10 none := by
  intro site desk
  have htoken : Numeral 10 "10" := ⟨0, by decide +kernel⟩
  have hspelled : Spelled "10" (some "") ("" ++ "10" ++ " " ++ "") :=
    .withText (by decide) (LineEdit.isToken_of_numeral htoken)
  rw [String.append_empty] at hspelled
  have hsets : desk.Revises site "" ("" ++ "10" ++ " ") 10 (some "") :=
    feed_of_numeral hspelled htoken (by decide) site "" desk
  refine ⟨by decide, htoken, by decide, hsets, fun hdeletes => ?_⟩
  cases hdeletes.text_eq hsets

end Desk

end Scratchpad
