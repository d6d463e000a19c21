import Scratchpad.Proofs.Text.Ends

/-!
# Words and lines in texts

Looking for a word and deleting it, said without the search: `contains_iff`, `startsWith_iff`, and
`deletes_delete`, by which deleting removes the leftmost occurrences that do not overlap.

The `spoken` lines of a text are the trimmed ones that are not blank. A line feed separates them
(`spoken_append_feed`), whatever stands around it: carriage returns before it are blanks, and an empty
line is not spoken. So a text that is followed by another keeps its spoken lines, except that the
line it leaves unfinished and the opening line of the other become one (`spoken_append`).
-/

namespace Scratchpad.Text

/-! ## Words -/

theorem occursIn_iff {word cs : List Char} : occursIn word cs = true ↔ word <:+: cs := by
  induction cs with
  | nil => simp [occursIn]
  | cons c cs ih =>
    rw [occursIn, Bool.or_eq_true, ih, List.isPrefixOf_iff_prefix, List.infix_cons_iff]

theorem contains_iff {word s : String} :
    contains word s = true ↔ ∃ before after, s = before ++ word ++ after := by
  rw [contains, occursIn_iff]
  constructor
  · rintro ⟨before, after, hs⟩
    refine ⟨String.ofList before, String.ofList after, ?_⟩
    rw [← String.toList_inj]
    simp [hs]
  · rintro ⟨before, after, rfl⟩
    exact ⟨before.toList, after.toList, by simp⟩

theorem startsWith_iff {lead s : String} :
    startsWith lead s = true ↔ ∃ rest, s = lead ++ rest := by
  rw [← Bool.not_eq_false, ← dropLead?_eq_none_iff, ← ne_eq, Option.ne_none_iff_exists']
  simp only [dropLead?_eq_some_iff]

/-- `rest` is `s` without the leftmost non-overlapping occurrences of `word`: the first one is
removed, and then those in what follows it. -/
inductive Deletes (word : List Char) : List Char → List Char → Prop
  | absent {s : List Char} (habsent : ¬ word <:+: s) : Deletes word s s
  | found {before after rest : List Char}
      (hfirst : ∀ early late, before ++ word ++ after = early ++ word ++ late →
        before.length ≤ early.length)
      (hrest : Deletes word after rest) : Deletes word (before ++ word ++ after) (before ++ rest)

theorem Deletes.cons {word s rest : List Char} (hdeletes : Deletes word s rest) {c : Char}
    (hc : ¬ word <+: c :: s) : Deletes word (c :: s) (c :: rest) := by
  cases hdeletes with
  | absent habsent =>
    refine .absent fun hinfix => ?_
    rcases List.infix_cons_iff.mp hinfix with hprefix | htail
    · exact hc hprefix
    · exact habsent htail
  | @found before after rest hfirst hrest =>
    have hfirst' : ∀ early late, c :: before ++ word ++ after = early ++ word ++ late →
        (c :: before).length ≤ early.length := by
      intro early late heq
      cases early with
      | nil => exact absurd ⟨late, heq.symm⟩ hc
      | cons d early =>
        have hlength := hfirst early late (List.cons.inj heq).2
        simp only [List.length_cons]
        omega
    exact .found hfirst' hrest

theorem deletes_deleteFrom {word : List Char} (hword : word ≠ []) (k : Nat) (s : List Char) :
    Deletes word (s.drop k) (deleteFrom word k s) := by
  fun_induction deleteFrom word k s with
  | case1 k =>
    rw [List.drop_nil]
    exact .absent fun hinfix => hword (List.eq_nil_of_infix_nil hinfix)
  | case2 k c s ih => exact ih
  | case3 c s hlead ih =>
    obtain ⟨after, hafter⟩ := List.isPrefixOf_iff_prefix.mp hlead
    -- the first character of the occurrence is gone, the others are still to be dropped
    have hdrop : s.drop (word.length - 1) = after := by
      cases word with
      | nil => exact absurd rfl hword
      | cons d word =>
        obtain ⟨-, rfl⟩ := List.cons.inj hafter
        simp
    rw [hdrop] at ih
    have hfirst : ∀ early late, [] ++ word ++ after = early ++ word ++ late →
        ([] : List Char).length ≤ early.length := fun _ _ _ => Nat.zero_le _
    have hfound := Deletes.found hfirst ih
    rwa [List.nil_append, List.nil_append, hafter] at hfound
  | case4 c s hlead ih =>
    exact ih.cons fun hprefix => hlead (List.isPrefixOf_iff_prefix.mpr hprefix)

theorem deletes_delete {word : String} (hword : word ≠ "") (s : String) :
    Deletes word.toList s.toList (delete word s).toList := by
  have hlist : word.toList ≠ [] := by simpa using hword
  rw [delete, String.toList_ofList]
  exact deletes_deleteFrom hlist 0 s.toList

/-! ## Blanks around a text -/

/-- `core` is `s` without the blanks at both ends. -/
structure Trims (s core : String) : Prop where
  around : ∃ lead trail, s = lead ++ core ++ trail ∧ isBlankText lead ∧ isBlankText trail
  clearStart : ClearStart isBlank core
  clearEnd : ClearEnd isBlank core

theorem trims_trim (s : String) : Trims s (trim s) := by
  refine ⟨?_, clearStart_trim s, clearEnd_trim s⟩
  obtain ⟨lead, hlead, hblankLead⟩ := exists_append_trimStart s
  obtain ⟨trail, htrail, hblankTrail⟩ := exists_trimEnd_append (trimStart s)
  refine ⟨lead, trail, ?_, hblankLead, hblankTrail⟩
  rw [String.append_assoc, trim, ← htrail, ← hlead]

theorem trim_eq_empty_iff {s : String} : trim s = "" ↔ isBlankText s = true := by
  constructor
  · intro hempty
    obtain ⟨lead, trail, hs, hlead, htrail⟩ := (trims_trim s).around
    rw [hempty] at hs
    rw [hs, isBlankText, String.toList_append, String.toList_append]
    simpa [isBlankText] using And.intro hlead htrail
  · intro hblank
    have hall : ∀ c ∈ s.toList, isBlank c = true := List.all_eq_true.mp hblank
    rw [← String.toList_inj, toList_trim, List.dropWhile_eq_nil_iff.mpr hall]
    rfl

theorem trim_append_blank (s : String) {t : String} (ht : isBlankText t = true) :
    trim (s ++ t) = trim s := by
  have hall : ∀ c ∈ t.toList.reverse, isBlank c = true := by
    intro c hc
    exact List.all_eq_true.mp ht c (List.mem_reverse.mp hc)
  have hend : dropEndWhile isBlank (s.toList ++ t.toList) = dropEndWhile isBlank s.toList := by
    unfold dropEndWhile
    rw [List.reverse_append, List.dropWhile_append_of_pos hall]
  rw [← String.toList_inj, toList_trim, toList_trim, dropEndWhile_dropWhile,
    dropEndWhile_dropWhile, String.toList_append, hend]

theorem trim_blank_append {s : String} (hs : isBlankText s = true) (t : String) :
    trim (s ++ t) = trim t := by
  have hall : ∀ c ∈ s.toList, isBlank c = true := List.all_eq_true.mp hs
  rw [← String.toList_inj, toList_trim, toList_trim, String.toList_append,
    List.dropWhile_append_of_pos hall]

/-! ## Lines -/

theorem cutLines_feed (cs : List Char) : cutLines ('\n' :: cs) = [] :: cutLines cs := by
  rw [cutLines]

theorem cutLines_cons {c : Char} {cs : List Char} (hc : c ≠ '\n')
    (hcs : c = '\r' → cs.head? ≠ some '\n') : cutLines (c :: cs) = consLine c (cutLines cs) := by
  rw [cutLines]
  · rintro rest rfl rfl
    exact hcs rfl rfl
  · exact hc

theorem cutLines_append_feed {us : List Char} (hus : '\n' ∉ us) (cs : List Char) :
    ∃ line, cutLines (us ++ '\n' :: cs) = line :: cutLines cs ∧
      (us = line ∨ us = line ++ ['\r']) := by
  induction us with
  | nil => exact ⟨[], cutLines_feed cs, Or.inl rfl⟩
  | cons c us ih =>
    have hc : c ≠ '\n' := fun h => hus (h ▸ List.mem_cons_self)
    have hus' : '\n' ∉ us := fun h => hus (List.mem_cons_of_mem c h)
    by_cases hreturn : c = '\r' ∧ us = []
    · obtain ⟨rfl, rfl⟩ := hreturn
      exact ⟨[], by rw [List.singleton_append, cutLines], Or.inr rfl⟩
    · obtain ⟨line, hcut, hline⟩ := ih hus'
      have hhead : c = '\r' → (us ++ '\n' :: cs).head? ≠ some '\n' := by
        intro hcr
        cases us with
        | nil => exact absurd ⟨hcr, rfl⟩ hreturn
        | cons d us => simpa using fun h : d = '\n' => hus' (h ▸ List.mem_cons_self)
      refine ⟨c :: line, ?_, ?_⟩
      · rw [List.cons_append, cutLines_cons hc hhead, hcut, consLine]
      · rcases hline with rfl | rfl
        · exact Or.inl rfl
        · exact Or.inr rfl

theorem cutLines_of_not_mem {c : Char} {us : List Char} (hus : '\n' ∉ c :: us) :
    cutLines (c :: us) = [c :: us] := by
  induction us generalizing c with
  | nil =>
    have hc : c ≠ '\n' := fun h => hus (h ▸ List.mem_cons_self)
    rw [cutLines_cons hc (by simp), cutLines, consLine]
  | cons d us ih =>
    have hc : c ≠ '\n' := fun h => hus (h ▸ List.mem_cons_self)
    have hus' : '\n' ∉ d :: us := fun h => hus (List.mem_cons_of_mem c h)
    have hd : d ≠ '\n' := fun h => hus' (h ▸ List.mem_cons_self)
    rw [cutLines_cons hc (by simpa using fun _ => hd), ih hus', consLine]

theorem lines_append_feed {u : String} (hu : '\n' ∉ u.toList) (s : String) :
    ∃ line, lines (u ++ "\n" ++ s) = line :: lines s ∧ (u = line ∨ u = line ++ "\r") := by
  obtain ⟨line, hcut, hline⟩ := cutLines_append_feed hu s.toList
  refine ⟨String.ofList line, ?_, ?_⟩
  · have hlist : (u ++ "\n" ++ s).toList = u.toList ++ '\n' :: s.toList := by simp
    rw [lines, hlist, hcut, List.map_cons, lines]
  · rcases hline with hline | hline
    · left
      rw [← String.toList_inj, hline, String.toList_ofList]
    · right
      rw [← String.toList_inj, hline]
      simp

/-- The lines of a text that say something, without the blanks at their ends. -/
def spoken (s : String) : List String :=
  ((lines s).map trim).filter (· != "")

theorem filter_singleton_trim (u : String) :
    [trim u].filter (· != "") = if isBlankText u then [] else [trim u] := by
  by_cases hblank : isBlankText u = true
  · rw [if_pos hblank, trim_eq_empty_iff.mpr hblank]
    rfl
  · have hne : trim u ≠ "" := fun h => hblank (trim_eq_empty_iff.mp h)
    rw [if_neg hblank]
    simp [hne]

theorem spoken_of_not_mem {u : String} (hu : '\n' ∉ u.toList) :
    spoken u = if isBlankText u then [] else [trim u] := by
  cases hlist : u.toList with
  | nil =>
    obtain rfl : u = "" := String.toList_eq_nil_iff.mp hlist
    rfl
  | cons c us =>
    have hlines : lines u = [u] := by
      rw [hlist] at hu
      rw [lines, hlist, cutLines_of_not_mem hu, ← hlist, List.map_singleton, String.ofList_toList]
    rw [spoken, hlines, List.map_singleton, filter_singleton_trim]

theorem spoken_append_first_feed {u : String} (hu : '\n' ∉ u.toList) (s : String) :
    spoken (u ++ "\n" ++ s) = spoken u ++ spoken s := by
  obtain ⟨line, hlines, hline⟩ := lines_append_feed hu s
  have htrim : trim line = trim u := by
    rcases hline with rfl | rfl
    · rfl
    · exact (trim_append_blank line (by decide)).symm
  rw [spoken_of_not_mem hu, ← filter_singleton_trim, ← htrim]
  unfold spoken
  rw [hlines, List.map_cons, ← List.filter_append, List.singleton_append]

theorem spoken_append_feed (s t : String) : spoken (s ++ "\n" ++ t) = spoken s ++ spoken t := by
  -- the line that is being read is kept apart from what is still to come
  have hread : ∀ (cs : List Char) (u : String), '\n' ∉ u.toList →
      spoken (u ++ String.ofList cs ++ "\n" ++ t) = spoken (u ++ String.ofList cs) ++ spoken t := by
    intro cs
    induction cs with
    | nil =>
      intro u hu
      rw [String.ofList_nil, String.append_empty, spoken_append_first_feed hu]
    | cons c cs ih =>
      intro u hu
      by_cases hc : c = '\n'
      · have hcut : String.ofList (c :: cs) = "\n" ++ String.ofList cs := by
          rw [← String.toList_inj]
          simp [hc]
        have hrest := ih "" (by simp)
        rw [String.empty_append] at hrest
        calc spoken (u ++ String.ofList (c :: cs) ++ "\n" ++ t)
            = spoken (u ++ "\n" ++ (String.ofList cs ++ "\n" ++ t)) := by
              simp only [hcut, String.append_assoc]
          _ = spoken u ++ (spoken (String.ofList cs) ++ spoken t) := by
              rw [spoken_append_first_feed hu, hrest]
          _ = spoken (u ++ String.ofList (c :: cs)) ++ spoken t := by
              rw [hcut, ← String.append_assoc, spoken_append_first_feed hu, List.append_assoc]
      · have hmove : u ++ String.ofList (c :: cs) = u ++ String.singleton c ++ String.ofList cs := by
          rw [← String.toList_inj]
          simp
        rw [hmove]
        refine ih _ ?_
        simpa using And.intro hu (Ne.symm hc)
  have hall := hread s.toList "" (by simp)
  rwa [String.empty_append, String.ofList_toList] at hall

/-! ## One text after another -/

/-- The lines of a text that are ended by a line feed, with their line ends. -/
def ended (s : String) : String :=
  String.ofList (s.toList.rdropWhile (· != '\n'))

/-- What follows the last line feed of a text. -/
def unfinished (s : String) : String :=
  String.ofList (s.toList.rtakeWhile (· != '\n'))

/-- What precedes the first line feed of a text. -/
def opening (s : String) : String :=
  String.ofList (s.toList.takeWhile (· != '\n'))

/-- The text from its first line feed on. -/
def afterOpening (s : String) : String :=
  String.ofList (s.toList.dropWhile (· != '\n'))

theorem ended_append_unfinished (s : String) : ended s ++ unfinished s = s := by
  rw [← String.toList_inj, ended, unfinished, String.toList_append, String.toList_ofList,
    String.toList_ofList, List.rdropWhile_append_rtakeWhile]

theorem opening_append_afterOpening (s : String) : opening s ++ afterOpening s = s := by
  rw [← String.toList_inj, opening, afterOpening, String.toList_append, String.toList_ofList,
    String.toList_ofList, List.takeWhile_append_dropWhile]

theorem feed_not_mem_unfinished (s : String) : '\n' ∉ (unfinished s).toList := by
  intro hmem
  rw [unfinished, String.toList_ofList] at hmem
  have hne := List.mem_rtakeWhile_imp hmem
  simp at hne

theorem feed_not_mem_opening (s : String) : '\n' ∉ (opening s).toList := by
  intro hmem
  rw [opening, String.toList_ofList] at hmem
  have hne := List.mem_takeWhile_imp hmem
  simp at hne

theorem ended_cases (s : String) : ended s = "" ∨ ∃ before, ended s = before ++ "\n" := by
  by_cases hnil : s.toList.rdropWhile (· != '\n') = []
  · left
    rw [ended, hnil, String.ofList_nil]
  · right
    have hlast := List.rdropWhile_last_not (· != '\n') s.toList hnil
    refine ⟨String.ofList (s.toList.rdropWhile (· != '\n')).dropLast, ?_⟩
    rw [← String.toList_inj, ended, String.toList_append, String.toList_ofList,
      String.toList_ofList]
    conv_lhs => rw [← List.dropLast_append_getLast hnil]
    simpa using hlast

theorem afterOpening_cases (s : String) :
    afterOpening s = "" ∨ ∃ after, afterOpening s = "\n" ++ after := by
  cases hdrop : s.toList.dropWhile (· != '\n') with
  | nil =>
    left
    rw [afterOpening, hdrop, String.ofList_nil]
  | cons c cs =>
    right
    have hhead : (s.toList.dropWhile (· != '\n')).head? = some c := by rw [hdrop, List.head?_cons]
    have hc := head?_dropWhile hhead
    refine ⟨String.ofList cs, ?_⟩
    rw [← String.toList_inj, afterOpening, hdrop]
    simpa using hc

theorem spoken_ended_append (s t : String) :
    spoken (ended s ++ t) = spoken (ended s) ++ spoken t := by
  rcases ended_cases s with hempty | ⟨before, hbefore⟩
  · rw [hempty, String.empty_append]
    rfl
  · have hend := spoken_append_feed before ""
    rw [String.append_empty] at hend
    rw [hbefore, spoken_append_feed, hend]
    simp [spoken, lines, cutLines]

theorem spoken_append_afterOpening (s t : String) :
    spoken (s ++ afterOpening t) = spoken s ++ spoken (afterOpening t) := by
  rcases afterOpening_cases t with hempty | ⟨after, hafter⟩
  · rw [hempty, String.append_empty]
    simp [spoken, lines, cutLines]
  · have hstart := spoken_append_feed "" after
    rw [String.empty_append] at hstart
    rw [hafter, ← String.append_assoc, spoken_append_feed, hstart]
    rfl

/-- Where two texts meet, the line that the first leaves unfinished and the opening line of the
second are one line. -/
theorem spoken_append (s t : String) :
    spoken (s ++ t) =
      spoken (ended s) ++ spoken (unfinished s ++ opening t) ++ spoken (afterOpening t) := by
  have hjoin : s ++ t = ended s ++ (unfinished s ++ opening t) ++ afterOpening t := by
    conv_lhs => rw [← ended_append_unfinished s, ← opening_append_afterOpening t]
    simp only [String.append_assoc]
  rw [hjoin, spoken_append_afterOpening, spoken_ended_append]

theorem spoken_eq_ended (s : String) : spoken s = spoken (ended s) ++ spoken (unfinished s) := by
  rw [← spoken_ended_append, ended_append_unfinished]

theorem spoken_eq_opening (s : String) :
    spoken s = spoken (opening s) ++ spoken (afterOpening s) := by
  rw [← spoken_append_afterOpening, opening_append_afterOpening]

theorem spoken_append_spoken (s t : String) :
    spoken s ++ spoken t =
      spoken (ended s) ++ (spoken (unfinished s) ++ spoken (opening t)) ++
        spoken (afterOpening t) := by
  rw [spoken_eq_ended s, spoken_eq_opening t]
  simp only [List.append_assoc]

/-- The line that a text leaves unfinished is not mixed with the opening line of what follows it: one
of the two is blank. -/
def Parted (s t : String) : Prop :=
  isBlankText (unfinished s) = true ∨ isBlankText (opening t) = true

theorem spoken_meeting {u o : String} (hu : '\n' ∉ u.toList) (ho : '\n' ∉ o.toList) :
    spoken (u ++ o) =
      if isBlankText u then spoken o else if isBlankText o then spoken u else [trim (u ++ o)] := by
  have huo : '\n' ∉ (u ++ o).toList := by
    rw [String.toList_append, List.mem_append]
    exact fun h => h.elim hu ho
  have hblank : isBlankText (u ++ o) = (isBlankText u && isBlankText o) := by simp [isBlankText]
  rw [spoken_of_not_mem hu, spoken_of_not_mem ho, spoken_of_not_mem huo, hblank]
  cases hblanku : isBlankText u <;> cases hblanko : isBlankText o
  · simp
  · simp [trim_append_blank u hblanko]
  · simp [trim_blank_append hblanku o]
  · simp

theorem spoken_append_of_parted {s t : String} (hparted : Parted s t) :
    spoken (s ++ t) = spoken s ++ spoken t := by
  have hu := feed_not_mem_unfinished s
  have ho := feed_not_mem_opening t
  have hmeet : spoken (unfinished s ++ opening t) =
      spoken (unfinished s) ++ spoken (opening t) := by
    rw [spoken_meeting hu ho, spoken_of_not_mem hu, spoken_of_not_mem ho]
    rcases hparted with hblank | hblank
    · simp [hblank]
    · simp [hblank]
  rw [spoken_append, hmeet, ← spoken_append_spoken s t]

theorem length_spoken_append {s t : String} (hmixed : ¬ Parted s t) :
    (spoken (s ++ t)).length + 1 = (spoken s ++ spoken t).length := by
  obtain ⟨hblanku, hblanko⟩ := not_or.mp hmixed
  have hu := feed_not_mem_unfinished s
  have ho := feed_not_mem_opening t
  rw [spoken_append, spoken_append_spoken s t, spoken_meeting hu ho, spoken_of_not_mem hu,
    spoken_of_not_mem ho, if_neg hblanku, if_neg hblanku, if_neg hblanko, if_neg hblanko]
  simp only [List.length_append, List.length_singleton]
  omega

end Scratchpad.Text
