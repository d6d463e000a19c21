import Mathlib.Data.List.DropRight
import Scratchpad.Text.Blank
import Scratchpad.Text.Cut

/-!
# The ends of texts

Cutting characters off the ends of a text leaves one that has none of them there, and a text that has
none there stays as it is (`dropWhile_eq_self`, `dropEndWhile_eq_self`, `trim_eq_self`). Both ends can be
cut in either order (`dropEndWhile_dropWhile`), and a cut at one end does not see what was cut at it before
another text was put there (`dropWhile_dropWhile_append`, `dropEndWhile_append`).
-/

namespace Scratchpad.Text

variable {p : Char → Bool}

/-- The first character, if there is one, does not satisfy `p`. -/
def ClearStart (p : Char → Bool) (s : String) : Prop :=
  ∀ c ∈ s.toList.head?, p c = false

/-- The last character, if there is one, does not satisfy `p`. -/
def ClearEnd (p : Char → Bool) (s : String) : Prop :=
  ∀ c ∈ s.toList.getLast?, p c = false

instance (p : Char → Bool) (s : String) : Decidable (ClearStart p s) :=
  show Decidable (∀ c ∈ s.toList.head?, p c = false) from Option.decidableForallMem _

instance (p : Char → Bool) (s : String) : Decidable (ClearEnd p s) :=
  show Decidable (∀ c ∈ s.toList.getLast?, p c = false) from Option.decidableForallMem _

theorem clearStart_empty : ClearStart p "" := by
  intro c hc
  simp at hc

theorem clearEnd_empty : ClearEnd p "" := by
  intro c hc
  simp at hc

/-! ## Lists of characters -/

theorem head?_dropWhile {cs : List Char} {c : Char} (hc : (cs.dropWhile p).head? = some c) :
    p c = false := by
  have hhead := List.head?_dropWhile_not p cs
  rw [hc] at hhead
  exact hhead

theorem dropWhile_eq_self {cs : List Char} :
    cs.dropWhile p = cs ↔ ∀ c ∈ cs.head?, p c = false := by
  constructor
  · intro hsame c hc
    rw [← hsame] at hc
    exact head?_dropWhile hc
  · intro hclear
    cases cs with
    | nil => rfl
    | cons c cs =>
      have hc := hclear c rfl
      rw [List.dropWhile_cons_of_neg (by simp [hc])]

theorem dropEndWhile_eq_self {cs : List Char} :
    dropEndWhile p cs = cs ↔ ∀ c ∈ cs.getLast?, p c = false := by
  rw [dropEndWhile, ← List.head?_reverse, ← dropWhile_eq_self, ← List.reverse_inj,
    List.reverse_reverse]

theorem dropEndWhile_idem (p : Char → Bool) (cs : List Char) :
    dropEndWhile p (dropEndWhile p cs) = dropEndWhile p cs :=
  List.rdropWhile_idempotent p cs

theorem dropWhile_dropWhile_append (p : Char → Bool) (xs ys : List Char) :
    (xs.dropWhile p ++ ys).dropWhile p = (xs ++ ys).dropWhile p := by
  rw [List.dropWhile_append, List.dropWhile_append, List.dropWhile_idempotent]

theorem dropEndWhile_append {xs : List Char} (hxs : dropEndWhile p xs = xs) (ys : List Char) :
    dropEndWhile p (xs ++ ys) = xs ++ dropEndWhile p ys := by
  have hreverse : xs.reverse.dropWhile p = xs.reverse := by
    rw [← List.reverse_inj, List.reverse_reverse]
    exact hxs
  unfold dropEndWhile
  rw [List.reverse_append, List.dropWhile_append]
  split
  · rename_i hempty
    rw [List.isEmpty_iff.mp hempty, hreverse]
    simp
  · simp

theorem dropEndWhile_cons {c : Char} (hc : p c = false) (cs : List Char) :
    dropEndWhile p (c :: cs) = c :: dropEndWhile p cs := by
  have hone : dropEndWhile p [c] = [c] := by simp [dropEndWhile, hc]
  exact dropEndWhile_append hone cs

theorem dropEndWhile_dropWhile (p : Char → Bool) (cs : List Char) :
    dropEndWhile p (cs.dropWhile p) = (dropEndWhile p cs).dropWhile p := by
  induction cs with
  | nil => rfl
  | cons c cs ih =>
    cases hc : p c with
    | true =>
      rw [List.dropWhile_cons_of_pos hc, ih]
      -- the first character is cut at the start, or at the end if nothing else is left
      by_cases hall : ∀ d ∈ cs, p d
      · have hcs : dropEndWhile p cs = [] := List.rdropWhile_eq_nil_iff.mpr hall
        have hccs : dropEndWhile p (c :: cs) = [] :=
          List.rdropWhile_eq_nil_iff.mpr (by simpa [hc] using hall)
        rw [hcs, hccs]
      · have hcs : dropEndWhile p cs ≠ [] := fun h => hall (List.rdropWhile_eq_nil_iff.mp h)
        have hccs : dropEndWhile p (c :: cs) = c :: dropEndWhile p cs := by
          unfold dropEndWhile at hcs ⊢
          rw [List.reverse_cons, List.dropWhile_append, if_neg (by simpa using hcs)]
          simp
        rw [hccs, List.dropWhile_cons_of_pos hc]
    | false =>
      rw [List.dropWhile_cons_of_neg (by simp [hc]), dropEndWhile_cons hc,
        List.dropWhile_cons_of_neg (by simp [hc])]

/-! ## Trimmed texts -/

theorem clearStart_trim (s : String) : ClearStart isBlank (trim s) := by
  intro c hc
  rw [toList_trim, dropEndWhile_dropWhile] at hc
  exact head?_dropWhile hc

theorem clearEnd_trimEnd (s : String) : ClearEnd isBlank (trimEnd s) := by
  unfold ClearEnd
  rw [← dropEndWhile_eq_self, toList_trimEnd, dropEndWhile_idem]

theorem clearEnd_trim (s : String) : ClearEnd isBlank (trim s) :=
  clearEnd_trimEnd (trimStart s)

theorem exists_append_trimStart (s : String) :
    ∃ lead, s = lead ++ trimStart s ∧ isBlankText lead = true := by
  refine ⟨String.ofList (s.toList.takeWhile isBlank), ?_, by simp [isBlankText]⟩
  rw [← String.toList_inj, String.toList_append, String.toList_ofList, toList_trimStart,
    List.takeWhile_append_dropWhile]

theorem exists_trimEnd_append (s : String) :
    ∃ trail, s = trimEnd s ++ trail ∧ isBlankText trail = true := by
  refine ⟨String.ofList (s.toList.rtakeWhile isBlank), ?_, ?_⟩
  · rw [← String.toList_inj, String.toList_append, toList_trimEnd, String.toList_ofList]
    exact List.rdropWhile_append_rtakeWhile.symm
  · rw [isBlankText, String.toList_ofList, List.all_eq_true]
    exact fun c hc => List.mem_rtakeWhile_imp hc

theorem trim_eq_self {s : String} (hstart : ClearStart isBlank s) (hend : ClearEnd isBlank s) :
    trim s = s := by
  rw [← String.toList_inj, toList_trim, dropWhile_eq_self.mpr hstart, dropEndWhile_eq_self.mpr hend]

theorem trim_ne_empty {s : String} (hne : s ≠ "") (hend : ClearEnd isBlank s) : trim s ≠ "" := by
  intro htrim
  have hdrop : s.toList.dropWhile isBlank = [] := by
    have hlist := congrArg String.toList htrim
    rwa [toList_trim, dropEndWhile_dropWhile, dropEndWhile_eq_self.mpr hend,
      String.toList_empty] at hlist
  have hall := List.dropWhile_eq_nil_iff.mp hdrop
  have hlist : s.toList ≠ [] := by simpa using hne
  have hlast := hend _ (List.getLast?_eq_some_getLast hlist)
  rw [hall _ (List.getLast_mem hlist)] at hlast
  cases hlast

/-! ## Texts put together -/

theorem clearStart_append {lead : String} (hlead : lead ≠ "") (rest : String) :
    ClearStart p (lead ++ rest) ↔ ClearStart p lead := by
  have hlist : lead.toList ≠ [] := by simpa using hlead
  unfold ClearStart
  rw [String.toList_append, List.head?_append_of_ne_nil _ hlist]

theorem clearEnd_append (lead : String) {rest : String} (hrest : rest ≠ "") :
    ClearEnd p (lead ++ rest) ↔ ClearEnd p rest := by
  have hlist : rest.toList ≠ [] := by simpa using hrest
  unfold ClearEnd
  rw [String.toList_append, List.getLast?_append_of_ne_nil _ hlist]

theorem trimStart_append {lead rest : String} (hlead : isBlankText lead = true)
    (hrest : ClearStart isBlank rest) : trimStart (lead ++ rest) = rest := by
  have hall : ∀ c ∈ lead.toList, isBlank c = true := List.all_eq_true.mp hlead
  rw [← String.toList_inj, toList_trimStart, String.toList_append,
    List.dropWhile_append_of_pos hall, dropWhile_eq_self.mpr hrest]

theorem trimEnd_append {s trail : String} (hs : ClearEnd isBlank s)
    (htrail : isBlankText trail = true) : trimEnd (s ++ trail) = s := by
  have hall : ∀ c ∈ trail.toList, isBlank c = true := List.all_eq_true.mp htrail
  have hnil : dropEndWhile isBlank trail.toList = [] := List.rdropWhile_eq_nil_iff.mpr hall
  rw [← String.toList_inj, toList_trimEnd, String.toList_append,
    dropEndWhile_append (dropEndWhile_eq_self.mpr hs), hnil, List.append_nil]

/-! ## What a text starts with -/

theorem dropLead?_eq_some_iff {lead s rest : String} :
    dropLead? lead s = some rest ↔ s = lead ++ rest := by
  rw [dropLead?, Option.map_eq_some_iff, ← String.toList_inj, String.toList_append]
  constructor
  · rintro ⟨cs, hcs, rfl⟩
    rw [String.toList_ofList, List.isPrefixOf?_eq_some_iff_append_eq.mp hcs]
  · intro hs
    exact ⟨rest.toList, List.isPrefixOf?_eq_some_iff_append_eq.mpr hs.symm, String.ofList_toList⟩

theorem dropLead?_append (lead rest : String) : dropLead? lead (lead ++ rest) = some rest :=
  dropLead?_eq_some_iff.mpr rfl

theorem dropLead?_eq_none_iff {lead s : String} :
    dropLead? lead s = none ↔ startsWith lead s = false := by
  rw [dropLead?, Option.map_eq_none_iff, startsWith, ← List.isSome_isPrefixOf?_eq_isPrefixOf,
    Option.isSome_eq_false_iff, Option.isNone_iff_eq_none]

/-! ## The first place of a character -/

theorem splitFirst?_eq_none_iff {c : Char} {s : String} :
    splitFirst? c s = none ↔ c ∉ s.toList := by
  have hnil : s.toList.dropWhile (· != c) = [] ↔ c ∉ s.toList := by
    rw [List.dropWhile_eq_nil_iff]
    exact ⟨fun h hc => by simpa using h c hc, fun h d hd => by
      simpa using fun hdc : d = c => h (hdc ▸ hd)⟩
  rw [← hnil, splitFirst?]
  split <;> simp_all

theorem splitFirst?_eq_some_iff {c : Char} {s before after : String} :
    splitFirst? c s = some (before, after) ↔
      s = before ++ String.singleton c ++ after ∧ c ∉ before.toList := by
  rw [splitFirst?]
  constructor
  · intro hsplit
    split at hsplit
    · cases hsplit
    · rename_i d cs hdrop
      have hd : d = c := by
        have hhead : (s.toList.dropWhile (· != c)).head? = some d := by rw [hdrop, List.head?_cons]
        simpa using head?_dropWhile hhead
      obtain ⟨rfl, rfl⟩ := Prod.mk.inj (Option.some.inj hsplit)
      refine ⟨?_, fun hc => ?_⟩
      · rw [← String.toList_inj]
        conv_lhs => rw [← List.takeWhile_append_dropWhile (p := (· != c)) (l := s.toList), hdrop, hd]
        simp
      · rw [String.toList_ofList] at hc
        simpa using List.mem_takeWhile_imp hc
  · rintro ⟨rfl, hc⟩
    have hall : ∀ d ∈ before.toList, (d != c) = true := by
      intro d hd
      simpa using fun hdc : d = c => hc (hdc ▸ hd)
    have hlist : (before ++ String.singleton c ++ after).toList =
        before.toList ++ c :: after.toList := by simp
    rw [hlist, List.dropWhile_append_of_pos hall, List.dropWhile_cons_of_neg (by simp),
      List.takeWhile_append_of_pos hall, List.takeWhile_cons_of_neg (by simp)]
    simp

end Scratchpad.Text
