import Mathlib.Data.List.Induction
import Mathlib.Data.Prod.Lex
import Mathlib.Data.String.Basic
import Scratchpad.Text.Numeral

/-!
# Numerals read back

The runs of digits that stand for a number are its own digits with zeros in front (`Numeral`), and there
are no others: reading inverts writing in both directions (`readDigits?_eq_some_iff`). A text that starts
with a digit has no sign, so the 32-bit reader takes exactly the numerals within its range
(`readInt32?_eq_some_iff`).

Numerals of one length compare as their numbers do (`Numeral.sameOrder`), and texts made of several such
parts compare by the first part that differs (`SameOrder.marked`). A number padded with zeros is its
numeral of the given width, or of its own if that is greater (`length_padded`).
-/

namespace Scratchpad.Text

/-- A numeral of `n`: its decimal digits, with any number of zeros in front. -/
def Numeral (n : Nat) (s : String) : Prop :=
  ∃ zeros, s = String.ofList (List.replicate zeros '0') ++ toString n

theorem Numeral.toList_eq {n : Nat} {s : String} (hs : Numeral n s) :
    ∃ zeros, s.toList = List.replicate zeros '0' ++ Nat.toDigits 10 n := by
  obtain ⟨zeros, rfl⟩ := hs
  exact ⟨zeros, by simp⟩

theorem numeral_of_toList {n zeros : Nat} {s : String}
    (hs : s.toList = List.replicate zeros '0' ++ Nat.toDigits 10 n) : Numeral n s := by
  refine ⟨zeros, ?_⟩
  rw [← String.toList_inj, hs]
  simp

/-! ## Digits -/

theorem toNat_of_isDigit {c : Char} (hc : c.isDigit = true) : 48 ≤ c.toNat ∧ c.toNat ≤ 57 :=
  Char.isDigit_iff_toNat.mp hc

theorem digitChar_toNat_sub {c : Char} (hc : c.isDigit = true) :
    (c.toNat - '0'.toNat).digitChar = c := by
  obtain ⟨hlow, hhigh⟩ := toNat_of_isDigit hc
  have hzero : '0'.toNat = 48 := rfl
  apply Char.toNat_inj.mp
  rw [Nat.toNat_digitChar_of_lt_ten (by omega)]
  omega

theorem isDigit_of_mem_digits {zeros n : Nat} {c : Char}
    (hc : c ∈ List.replicate zeros '0' ++ Nat.toDigits 10 n) : c.isDigit = true := by
  rcases List.mem_append.mp hc with hzero | hdigit
  · rw [List.eq_of_mem_replicate hzero]
    rfl
  · exact Nat.isDigit_of_mem_toDigits (by decide) (by decide) hdigit

theorem eq_numeral_of_isDigit {cs : List Char} (hne : cs ≠ [])
    (hdigits : ∀ c ∈ cs, c.isDigit = true) :
    ∃ zeros, cs = List.replicate zeros '0' ++ Nat.toDigits 10 (Nat.ofDigitChars 10 cs 0) := by
  induction cs using List.reverseRecOn with
  | nil => exact absurd rfl hne
  | append_singleton cs c ih =>
    have hc := hdigits c (by simp)
    have hd : c.toNat - '0'.toNat < 10 := by
      obtain ⟨hlow, hhigh⟩ := toNat_of_isDigit hc
      have hzero : '0'.toNat = 48 := rfl
      omega
    have hlast : Nat.toDigits 10 (c.toNat - '0'.toNat) = [c] := by
      rw [Nat.toDigits_of_lt_base hd, digitChar_toNat_sub hc]
    rw [Nat.ofDigitChars_append, Nat.ofDigitChars_cons, Nat.ofDigitChars_nil]
    by_cases hcs : cs = []
    · subst hcs
      exact ⟨0, by rw [Nat.ofDigitChars_nil, Nat.mul_zero, Nat.zero_add, hlast]; rfl⟩
    · obtain ⟨zeros, heq⟩ := ih hcs fun d hd => hdigits d (by simp [hd])
      -- the digits so far are zeros only, and then the last one alone counts, or it goes behind them
      rcases Nat.eq_zero_or_pos (Nat.ofDigitChars 10 cs 0) with hzero | hpos
      · refine ⟨zeros + 1, ?_⟩
        rw [hzero, Nat.toDigits_zero] at heq
        rw [hzero, Nat.mul_zero, Nat.zero_add, hlast, List.replicate_succ', ← heq]
      · refine ⟨zeros, ?_⟩
        rw [← Nat.toDigits_append_toDigits (by decide) hpos hd, hlast, ← List.append_assoc, ← heq]

theorem ofDigitChars_digits (zeros n : Nat) :
    Nat.ofDigitChars 10 (List.replicate zeros '0' ++ Nat.toDigits 10 n) 0 = n := by
  rw [Nat.ofDigitChars_append, Nat.ofDigitChars_replicate_zero, Nat.mul_zero,
    Nat.ofDigitChars_ten_toDigits]

/-- **Reading digits inverts writing them.** -/
theorem readDigits?_eq_some_iff {cs : List Char} {n : Nat} :
    readDigits? cs = some n ↔ ∃ zeros, cs = List.replicate zeros '0' ++ Nat.toDigits 10 n := by
  have hvalue : cs.foldl (fun k c => 10 * k + (c.toNat - '0'.toNat)) 0 = Nat.ofDigitChars 10 cs 0 :=
    Nat.ofDigitChars_eq_foldl.symm
  rw [readDigits?, hvalue]
  constructor
  · intro hread
    split at hread
    · cases hread
    · rename_i hrun
      obtain rfl := Option.some.inj hread
      simp only [Bool.or_eq_true, List.isEmpty_iff, Bool.not_eq_true', not_or,
        Bool.not_eq_false, List.all_eq_true] at hrun
      exact eq_numeral_of_isDigit hrun.1 hrun.2
  · rintro ⟨zeros, hcs⟩
    have hne : cs ≠ [] := by
      rw [hcs]
      exact List.append_ne_nil_of_right_ne_nil _ Nat.toDigits_ne_nil
    have hall : cs.all Char.isDigit = true := by
      rw [List.all_eq_true, hcs]
      exact fun c hc => isDigit_of_mem_digits hc
    rw [if_neg (by simp [hne, hall]), hcs, ofDigitChars_digits]

theorem readDigits?_toList_eq_some_iff {s : String} {n : Nat} :
    readDigits? s.toList = some n ↔ Numeral n s := by
  rw [readDigits?_eq_some_iff]
  constructor
  · rintro ⟨zeros, hlist⟩
    exact numeral_of_toList hlist
  · exact Numeral.toList_eq

/-! ## The 32-bit reader -/

theorem readInt32?_eq_bounded {s : String} {c : Char} {cs : List Char} (hs : s.toList = c :: cs)
    (hc : c.isDigit = true) : readInt32? s = readInt32?.bounded (readDigits? s.toList) := by
  have hminus : c ≠ '-' := by rintro rfl; simp at hc
  have hplus : c ≠ '+' := by rintro rfl; simp at hc
  rw [readInt32?, hs]
  split <;> simp_all

theorem readInt32?_eq_some_iff {s : String} {c : Char} {cs : List Char} (hs : s.toList = c :: cs)
    (hc : c.isDigit = true) {k : Int} :
    readInt32? s = some k ↔ ∃ n : Nat, k = n ∧ n ≤ 2147483647 ∧ Numeral n s := by
  rw [readInt32?_eq_bounded hs hc]
  constructor
  · intro hread
    cases hdigits : readDigits? s.toList with
    | none => simp [hdigits, readInt32?.bounded] at hread
    | some n =>
      rw [hdigits, readInt32?.bounded] at hread
      split at hread
      · rename_i hn
        rw [int32Limit] at hn
        exact ⟨n, (Option.some.inj hread).symm, by omega, readDigits?_toList_eq_some_iff.mp hdigits⟩
      · cases hread
  · rintro ⟨n, rfl, hn, hnumeral⟩
    have hlimit : n < int32Limit := by rw [int32Limit]; omega
    rw [readDigits?_toList_eq_some_iff.mpr hnumeral, readInt32?.bounded, if_pos hlimit]

/-! ## The characters of a numeral -/

theorem Numeral.isDigit {n : Nat} {s : String} (hs : Numeral n s) {c : Char} (hc : c ∈ s.toList) :
    c.isDigit = true := by
  obtain ⟨zeros, hlist⟩ := hs.toList_eq
  rw [hlist] at hc
  exact isDigit_of_mem_digits hc

theorem Numeral.not_mem {n : Nat} {s : String} (hs : Numeral n s) {c : Char} (hc : c.isDigit = false) :
    c ∉ s.toList := by
  intro hmem
  simp [hs.isDigit hmem] at hc

theorem Numeral.toList_eq_cons {n : Nat} {s : String} (hs : Numeral n s) :
    ∃ c cs, s.toList = c :: cs ∧ c.isDigit = true := by
  obtain ⟨zeros, hlist⟩ := hs.toList_eq
  cases hcs : s.toList with
  | nil =>
    rw [hcs] at hlist
    exact absurd hlist.symm (List.append_ne_nil_of_right_ne_nil _ Nat.toDigits_ne_nil)
  | cons c cs =>
    have hmem : c ∈ s.toList := by rw [hcs]; exact List.mem_cons_self
    exact ⟨c, cs, rfl, hs.isDigit hmem⟩

/-! ## Numerals of one length -/

theorem append_lt_append_iff {a b c d : List Char} (hlength : a.length = b.length) :
    a ++ c < b ++ d ↔ a < b ∨ a = b ∧ c < d := by
  induction a generalizing b with
  | nil =>
    obtain rfl := List.eq_nil_of_length_eq_zero hlength.symm
    simp
  | cons x xs ih =>
    cases b with
    | nil => cases hlength
    | cons y ys =>
      have hrest : xs.length = ys.length := by simpa using hlength
      rw [List.cons_append, List.cons_append, List.cons_lt_cons_iff, List.cons_lt_cons_iff, ih hrest,
        List.cons.injEq]
      tauto

theorem digits_compare {cs ds : List Char} (hlength : cs.length = ds.length)
    (hcs : ∀ c ∈ cs, c.isDigit = true) (hds : ∀ d ∈ ds, d.isDigit = true) :
    (cs < ds ↔ Nat.ofDigitChars 10 cs 0 < Nat.ofDigitChars 10 ds 0) ∧
      (cs = ds ↔ Nat.ofDigitChars 10 cs 0 = Nat.ofDigitChars 10 ds 0) := by
  -- the last digit counts once and all before it ten times, so the runs are taken apart at their ends
  induction cs using List.reverseRecOn generalizing ds with
  | nil =>
    obtain rfl := List.eq_nil_of_length_eq_zero hlength.symm
    simp
  | append_singleton cs c ih =>
    rcases List.eq_nil_or_concat ds with rfl | ⟨ds, d, rfl⟩
    · simp at hlength
    · rw [List.concat_eq_append] at hlength hds ⊢
      have hinit : cs.length = ds.length := by simpa using hlength
      obtain ⟨hless, hsame⟩ := ih hinit (fun x hx => hcs x (by simp [hx]))
        (fun x hx => hds x (by simp [hx]))
      obtain ⟨hclow, hchigh⟩ := toNat_of_isDigit (hcs c (by simp))
      obtain ⟨hdlow, hdhigh⟩ := toNat_of_isDigit (hds d (by simp))
      have hzero : '0'.toNat = 48 := rfl
      have hlast : [c] < [d] ↔ c.toNat < d.toNat := by
        rw [List.cons_lt_cons_iff]
        simp [Char.lt_def, UInt32.lt_iff_toNat_lt]
      rw [append_lt_append_iff hinit, hless, hlast, List.append_eq_append_iff_of_size_eq_left hinit, hsame,
        List.singleton_inj, ← Char.toNat_inj, Nat.ofDigitChars_append, Nat.ofDigitChars_append,
        Nat.ofDigitChars_cons, Nat.ofDigitChars_cons, Nat.ofDigitChars_nil, Nat.ofDigitChars_nil]
      omega

theorem Numeral.ofDigitChars_eq {n : Nat} {s : String} (hs : Numeral n s) :
    Nat.ofDigitChars 10 s.toList 0 = n := by
  obtain ⟨zeros, hlist⟩ := hs.toList_eq
  rw [hlist, ofDigitChars_digits]

/-- Two texts of one length compare as `x` and `y` do. -/
structure SameOrder {α : Type} [LT α] (s t : String) (x y : α) : Prop where
  length_eq : s.length = t.length
  lt_iff : s < t ↔ x < y
  eq_iff : s = t ↔ x = y

theorem Numeral.sameOrder {m n : Nat} {s t : String} (hs : Numeral m s) (ht : Numeral n t)
    (hlength : s.length = t.length) : SameOrder s t m n := by
  obtain ⟨hless, hsame⟩ := digits_compare hlength (fun _ => hs.isDigit) (fun _ => ht.isDigit)
  rw [hs.ofDigitChars_eq, ht.ofDigitChars_eq] at hless hsame
  exact ⟨hlength, String.lt_iff_toList_lt.trans hless, String.toList_inj.symm.trans hsame⟩

theorem SameOrder.marked {α β : Type} [LT α] [LT β] {a b c d : String} {x y : α} {z w : β}
    (hfirst : SameOrder a b x y) (mark : String) (hsecond : SameOrder c d z w) :
    SameOrder (a ++ mark ++ c) (b ++ mark ++ d) (toLex (x, z)) (toLex (y, w)) where
  length_eq := by
    rw [String.length_append, String.length_append, String.length_append, String.length_append,
      hfirst.length_eq, hsecond.length_eq]
  lt_iff := by
    have hmark : mark.toList ++ c.toList < mark.toList ++ d.toList ↔ c < d := by
      rw [append_lt_append_iff rfl, String.lt_iff_toList_lt]
      simp
    rw [String.lt_iff_toList_lt]
    simp only [String.toList_append, List.append_assoc]
    rw [append_lt_append_iff hfirst.length_eq, hmark, ← String.lt_iff_toList_lt, String.toList_inj,
      hfirst.lt_iff, hfirst.eq_iff, hsecond.lt_iff, Prod.Lex.toLex_lt_toLex]
  eq_iff := by
    rw [← String.toList_inj]
    simp only [String.toList_append, List.append_assoc]
    rw [List.append_eq_append_iff_of_size_eq_left hfirst.length_eq, List.append_cancel_left_eq,
      String.toList_inj, String.toList_inj, hfirst.eq_iff, hsecond.eq_iff, toLex_inj, Prod.mk.injEq]

/-! ## Padded numbers -/

theorem numeral_padded (width n : Nat) : Numeral n (padded width n) :=
  numeral_of_toList (String.toList_ofList ..)

theorem length_padded (width n : Nat) : (padded width n).length = max width (toString n).length := by
  rw [padded, Nat.toString_eq_ofList_toDigits, String.length_ofList, String.length_ofList,
    List.length_append, List.length_replicate]
  omega

theorem length_toString_le {width n : Nat} (hwidth : 0 < width) (hn : n < 10 ^ width) :
    (toString n).length ≤ width := by
  rw [Nat.toString_eq_ofList_toDigits, String.length_ofList]
  exact (Nat.length_toDigits_le_iff (by decide) hwidth).mpr hn

theorem length_padded_of_lt {width n : Nat} (hwidth : 0 < width) (hn : n < 10 ^ width) :
    (padded width n).length = width := by
  rw [length_padded, max_eq_left (length_toString_le hwidth hn)]

end Scratchpad.Text
