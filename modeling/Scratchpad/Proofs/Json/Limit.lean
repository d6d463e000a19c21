import Mathlib.Data.List.TakeWhile
import Scratchpad.Proofs.Json.Document

/-!
# The limits of the reader

The reader of documents has two limits, and neither changes what it finds. Its loops are bounded by the
length of the text, which suffices because no reader leaves more of a text than there was (`Shrinks`), so
a greater bound comes to the same (`readItems_bound`). The depth it may go to decides only whether a value is
read at all: a value that is read to some depth is read the same to every depth that is not below its own,
and to no other (`settles`). So the value that a text `Spells` tells what is read from it to each depth
(`document?_of_spells`).

Faults are left out here: only what is found counts, which is what `Except.toOption` keeps.
-/

namespace Scratchpad

/-! ## Results without their faults -/

section Result

variable {ε δ α β : Type}

@[simp] theorem toOption_ok (a : α) : (Except.ok a : Except ε α).toOption = some a :=
  rfl

@[simp] theorem toOption_error (fault : ε) : (Except.error fault : Except ε α).toOption = none :=
  rfl

@[simp] theorem toOption_bind (result : Except ε α) (next : α → Except ε β) :
    (result >>= next).toOption = result.toOption.bind fun a => (next a).toOption := by
  cases result <;> rfl

@[simp] theorem toOption_map (result : Except ε α) (f : α → β) :
    (result.map f).toOption = result.toOption.map f := by
  cases result <;> rfl

@[simp] theorem toOption_mapError (result : Except ε α) (f : ε → δ) :
    (result.mapError f).toOption = result.toOption := by
  cases result <;> rfl

theorem bind_eq_ok {result : Except ε α} {next : α → Except ε β} {b : β} :
    result >>= next = .ok b ↔ ∃ a, result = .ok a ∧ next a = .ok b := by
  cases result <;> simp [bind, Except.bind]

end Result

namespace Json

/-! ## Bounds on the text -/

/-- A result leaves no more of the text than there was. -/
def Shrinks {α : Type} (cs : List Char) (result : Except TextFault (α × List Char)) : Prop :=
  ∀ a rest, result = .ok (a, rest) → rest.length ≤ cs.length

section Shrinks

variable {α β : Type} {cs ds : List Char}

theorem shrinks_error (cs : List Char) (fault : TextFault) :
    Shrinks cs (.error fault : Except TextFault (α × List Char)) := by
  intro a rest h
  cases h

theorem shrinks_ok (a : α) (hds : ds.length ≤ cs.length) : Shrinks cs (.ok (a, ds)) := by
  intro b rest h
  cases h
  exact hds

theorem Shrinks.mono {result : Except TextFault (α × List Char)} (hresult : Shrinks ds result)
    (hds : ds.length ≤ cs.length) : Shrinks cs result := by
  intro a rest h
  exact (hresult a rest h).trans hds

theorem shrinks_ite {condition : Prop} [Decidable condition]
    {result result' : Except TextFault (α × List Char)} (hresult : Shrinks cs result)
    (hresult' : Shrinks cs result') : Shrinks cs (if condition then result else result') := by
  by_cases h : condition
  · rwa [if_pos h]
  · rwa [if_neg h]

theorem shrinks_bind {result : Except TextFault α} {next : α → Except TextFault (β × List Char)}
    (hnext : ∀ a, result = .ok a → Shrinks cs (next a)) : Shrinks cs (result >>= next) := by
  intro b rest h
  cases result with
  | error fault => cases h
  | ok a => exact hnext a rfl b rest h

theorem Shrinks.map {result : Except TextFault (α × List Char)} (hresult : Shrinks cs result)
    (f : α → β) : Shrinks cs (result.map fun (a, rest) => (f a, rest)) := by
  intro b rest h
  cases result with
  | error fault => cases h
  | ok found =>
    obtain ⟨a, left⟩ := found
    cases h
    exact hresult a rest rfl

end Shrinks

theorem length_skipGap_le (cs : List Char) : (skipGap cs).length ≤ cs.length :=
  List.length_dropWhile_le _ cs

theorem consChar_ok {c : Char} {result : Except TextFault (List Char × List Char)}
    {text rest : List Char} (h : consChar c result = .ok (text, rest)) :
    ∃ tail, result = .ok (tail, rest) := by
  match result with
  | .ok (cs, left) =>
    simp only [consChar, Except.ok.injEq, Prod.mk.injEq] at h
    exact ⟨cs, by rw [h.2]⟩
  | .error fault => simp [consChar] at h

theorem shrinks_readChars (state : InString) (cs : List Char) :
    Shrinks cs (readChars state cs) := by
  intro text rest h
  fun_induction readChars state cs generalizing text
  all_goals grind [consChar_ok]

theorem shrinks_readString (cs : List Char) : Shrinks cs (readString cs) :=
  (shrinks_readChars .plain cs).map String.ofList

theorem shrinks_readLiteral (value : Json) (letters cs : List Char) :
    Shrinks cs (readLiteral value letters cs) := by
  intro found rest h
  fun_induction readLiteral value letters cs
  all_goals grind

namespace Number

theorem shrinks_readExponent (negative : Bool) (digits : Nat) (exponent : Int) (cs : List Char) :
    Shrinks cs (readExponent negative digits exponent cs) := by
  unfold readExponent
  split
  rename_i down ds hsign
  have hds : ds.length ≤ cs.length := by
    split at hsign
    all_goals
      obtain ⟨-, rfl⟩ := Prod.mk.inj hsign
      simp
  have hrest : (ds.dropWhile Char.isDigit).length ≤ cs.length :=
    (List.length_dropWhile_le _ ds).trans hds
  dsimp only
  split_ifs
  · exact shrinks_error _ _
  · exact shrinks_error _ _
  · exact shrinks_ok _ hrest
  · exact shrinks_ok _ hrest
  · exact shrinks_bind fun number _ => shrinks_ok number hrest
  · exact shrinks_bind fun number _ => shrinks_ok number hrest

theorem shrinks_readScaled (negative : Bool) (digits : Nat) (exponent : Int) (cs : List Char) :
    Shrinks cs (readScaled negative digits exponent cs) := by
  unfold readScaled
  split
  · exact (shrinks_readExponent _ _ _ _).mono (by simp)
  · exact (shrinks_readExponent _ _ _ _).mono (by simp)
  · exact shrinks_bind fun number _ => shrinks_ok number le_rfl

theorem shrinks_readFraction (negative : Bool) (digits : Nat) (exponent : Int) (cs : List Char) :
    Shrinks cs (readFraction negative digits exponent cs) := by
  unfold readFraction
  dsimp only
  split_ifs
  · exact shrinks_error _ _
  · exact (shrinks_readScaled _ _ _ _).mono (List.length_dropWhile_le _ cs)

theorem shrinks_afterWhole (negative : Bool) (digits : Nat) (left rest : List Char) :
    Shrinks rest (readUnsigned.afterWhole negative digits left rest) := by
  unfold readUnsigned.afterWhole
  split
  · exact (shrinks_readFraction _ _ _ _).mono (by simp)
  · exact shrinks_readScaled _ _ _ _
  · exact shrinks_readScaled _ _ _ _
  · split_ifs
    · exact shrinks_ok _ le_rfl
    · exact shrinks_readScaled _ _ _ _

theorem shrinks_readUnsigned (negative : Bool) (cs : List Char) :
    Shrinks cs (readUnsigned negative cs) := by
  unfold readUnsigned
  split
  · split_ifs
    · exact shrinks_error _ _
    · exact (shrinks_afterWhole _ _ _ _).mono (by simp)
  · dsimp only
    split_ifs
    · exact shrinks_error _ _
    · exact (shrinks_afterWhole _ _ _ _).mono (List.length_dropWhile_le _ cs)

end Number

/-! ### Lists and objects -/

def Follow.rest : Follow → List Char
  | .closed rest => rest
  | .more rest => rest

theorem length_firstItem {cs : List Char} {follow : Follow} (h : firstItem cs = .ok follow) :
    follow.rest.length ≤ cs.length := by
  have hgap := length_skipGap_le cs
  unfold firstItem at h
  split at h
  · cases h
  · rename_i rest hclose
    cases h
    rw [hclose] at hgap
    exact Nat.le_of_succ_le hgap
  · cases h
    exact hgap

theorem length_nextItem {cs : List Char} {follow : Follow} (h : nextItem cs = .ok follow) :
    follow.rest.length < cs.length := by
  have hgap := length_skipGap_le cs
  unfold nextItem at h
  split at h
  · cases h
  · rename_i rest hclose
    cases h
    rw [hclose] at hgap
    exact hgap
  · rename_i rest hcomma
    rw [hcomma] at hgap
    split at h <;> cases h
    exact (length_skipGap_le rest).trans_lt hgap
  · cases h

theorem length_firstMember {cs : List Char} {follow : Follow} (h : firstMember cs = .ok follow) :
    follow.rest.length ≤ cs.length := by
  have hgap := length_skipGap_le cs
  unfold firstMember at h
  split at h
  · cases h
  · rename_i rest hclose
    cases h
    rw [hclose] at hgap
    exact Nat.le_of_succ_le hgap
  · rename_i rest hquote
    cases h
    rw [hquote] at hgap
    exact Nat.le_of_succ_le hgap
  · cases h

theorem length_nextMember {cs : List Char} {follow : Follow} (h : nextMember cs = .ok follow) :
    follow.rest.length < cs.length := by
  have hgap := length_skipGap_le cs
  unfold nextMember at h
  split at h
  · cases h
  · rename_i rest hclose
    cases h
    rw [hclose] at hgap
    exact hgap
  · rename_i rest hcomma
    rw [hcomma] at hgap
    have hrest := length_skipGap_le rest
    split at h <;> cases h
    rename_i left hquote
    rw [hquote] at hrest
    exact (Nat.le_of_succ_le hrest).trans_lt hgap
  · cases h

theorem length_skipColon {cs rest : List Char} (h : skipColon cs = .ok rest) :
    rest.length ≤ cs.length := by
  have hgap := length_skipGap_le cs
  unfold skipColon at h
  split at h <;> cases h
  rename_i hcolon
  rw [hcolon] at hgap
  exact Nat.le_of_succ_le hgap

theorem shrinks_readItems {item : List Char → Except TextFault (Json × List Char)}
    (hitem : ∀ cs, Shrinks cs (item cs)) (bound : Nat) (follow : Follow) :
    Shrinks follow.rest (readItems item bound follow) := by
  fun_induction readItems item bound follow with
  | case1 bound rest => exact shrinks_ok _ le_rfl
  | case2 rest => exact shrinks_error _ _
  | case3 bound cs ih =>
    refine shrinks_bind fun (value, ds) hvalue => shrinks_bind fun follow hfollow => ?_
    have hds : ds.length ≤ cs.length := hitem cs value ds hvalue
    have hrest := length_nextItem hfollow
    refine shrinks_bind fun (values, rest) hvalues => shrinks_ok _ ?_
    have hleft := ih follow values rest hvalues
    change rest.length ≤ cs.length
    omega

/-- The members of an object, read from the front to depth `n`. -/
def readMembers (n : Nat) : Nat → Follow → Except TextFault (List (String × Json) × List Char)
  | _, .closed rest => .ok ([], rest)
  | 0, .more _ => .error .endInObject
  | bound + 1, .more cs => do
    let (key, cs) ← readString cs
    let cs ← skipColon cs
    let (value, cs) ← readValue n cs
    let follow ← nextMember cs
    let (members, rest) ← readMembers n bound follow
    .ok ((key, value) :: members, rest)

theorem foldMembers_memberStep (n bound : Nat) (found : List (String × Json)) (follow : Follow) :
    foldMembers id (memberStep n) bound found follow =
      (readMembers n bound follow).map fun (members, rest) => (found ++ members, rest) := by
  induction bound generalizing found follow with
  | zero => cases follow <;> simp [foldMembers, readMembers, Except.map]
  | succ bound ih =>
    cases follow with
    | closed rest => simp [foldMembers, readMembers, Except.map]
    | more cs =>
      rw [foldMembers, readMembers]
      rcases readString cs with fault | ⟨key, afterKey⟩
      · rfl
      rcases hcolon : skipColon afterKey with fault | afterColon
      · simp [memberStep, hcolon, bind, Except.bind, Except.map]
      rcases hread : readValue n afterColon with fault | ⟨value, afterValue⟩
      · simp [memberStep, hcolon, hread, bind, Except.bind, Except.map]
      rcases hnext : nextMember afterValue with fault | follow
      · simp [memberStep, hcolon, hread, hnext, bind, Except.bind, Except.map]
      simp only [memberStep, hcolon, hread, hnext, bind, Except.bind, mapError_ok, ih]
      rcases readMembers n bound follow with fault | ⟨members, rest⟩
      · rfl
      · simp [Except.map]

theorem shrinks_readWith {list object : List Char → Except TextFault (Json × List Char)}
    (hlist : ∀ cs, Shrinks cs (list cs)) (hobject : ∀ cs, Shrinks cs (object cs)) (cs : List Char) :
    Shrinks cs (readWith list object cs) := by
  have hgap := length_skipGap_le cs
  unfold readWith
  split
  · exact shrinks_error _ _
  · rename_i c rest hstart
    rw [hstart] at hgap
    have hrest : rest.length ≤ cs.length := (Nat.le_succ _).trans hgap
    refine shrinks_ite ((shrinks_readLiteral _ _ _).mono hrest) ?_
    refine shrinks_ite ((shrinks_readLiteral _ _ _).mono hrest) ?_
    refine shrinks_ite ((shrinks_readLiteral _ _ _).mono hrest) ?_
    refine shrinks_ite (((Number.shrinks_readUnsigned _ _).map Json.number).mono hrest) ?_
    refine shrinks_ite (((Number.shrinks_readUnsigned _ _).map Json.number).mono hgap) ?_
    refine shrinks_ite (((shrinks_readString _).map Json.string).mono hrest) ?_
    refine shrinks_ite ((hlist _).mono hrest) ?_
    exact shrinks_ite ((hobject _).mono hrest) (shrinks_error _ _)

theorem shrinks_readMembers {n : Nat} (hvalue : ∀ cs, Shrinks cs (readValue n cs)) (bound : Nat)
    (follow : Follow) : Shrinks follow.rest (readMembers n bound follow) := by
  fun_induction readMembers n bound follow with
  | case1 bound rest => exact shrinks_ok _ le_rfl
  | case2 rest => exact shrinks_error _ _
  | case3 bound cs ih =>
    refine shrinks_bind fun (key, afterKey) hkey => shrinks_bind fun afterColon hcolon =>
      shrinks_bind fun (value, afterValue) hread => shrinks_bind fun follow hfollow =>
      shrinks_bind fun (members, rest) hmembers => shrinks_ok _ ?_
    have h1 := shrinks_readString cs key afterKey hkey
    have h2 := length_skipColon hcolon
    have h3 := hvalue afterColon value afterValue hread
    have h4 := length_nextMember hfollow
    have h5 := ih follow members rest hmembers
    change rest.length ≤ cs.length
    omega

theorem readValue_succ (n : Nat) (cs : List Char) :
    readValue (n + 1) cs =
      readWith
        (fun cs => do
          let follow ← firstItem cs
          let (values, rest) ← readItems (readValue n) (cs.length + 1) follow
          .ok (.array values, rest))
        (fun cs => do
          let follow ← firstMember cs
          let (members, rest) ← readMembers n (cs.length + 1) follow
          .ok (.object members, rest)) cs := by
  rw [readValue]
  congr 1
  funext cs
  cases firstMember cs with
  | error fault => rfl
  | ok follow =>
    change Except.bind (foldMembers id (memberStep n) _ [] _) _ =
      Except.bind (readMembers n (cs.length + 1) follow) _
    rw [foldMembers_memberStep]
    cases readMembers n (cs.length + 1) follow <;> rfl

theorem shrinks_readValue (n : Nat) (cs : List Char) : Shrinks cs (readValue n cs) := by
  induction n generalizing cs with
  | zero =>
    rw [readValue]
    exact shrinks_readWith (fun _ => shrinks_error _ _) (fun _ => shrinks_error _ _) cs
  | succ n ih =>
    rw [readValue_succ]
    apply shrinks_readWith
    · intro cs
      refine shrinks_bind fun follow hfollow => shrinks_bind fun found hfound => ?_
      obtain ⟨values, rest⟩ := found
      have hrest := shrinks_readItems ih _ _ values rest hfound
      exact shrinks_ok _ (hrest.trans (length_firstItem hfollow))
    · intro cs
      refine shrinks_bind fun follow hfollow => shrinks_bind fun found hfound => ?_
      obtain ⟨members, rest⟩ := found
      have hrest := shrinks_readMembers ih _ _ members rest hfound
      exact shrinks_ok _ (hrest.trans (length_firstMember hfollow))

theorem readItems_bound {item : List Char → Except TextFault (Json × List Char)}
    (hitem : ∀ cs, Shrinks cs (item cs)) :
    ∀ (bound bound' : Nat) (follow : Follow), follow.rest.length < bound →
      follow.rest.length < bound' → readItems item bound follow = readItems item bound' follow
  | bound, bound', .closed rest, _, _ => by
    rw [readItems, readItems]
  | bound + 1, bound' + 1, .more cs, hbound, hbound' => by
    rw [readItems, readItems]
    rcases hvalue : item cs with fault | ⟨value, ds⟩
    · rfl
    have hds : ds.length ≤ cs.length := hitem cs value ds hvalue
    rcases hnext : nextItem ds with fault | follow
    · simp [hnext, bind, Except.bind]
    have hfollow := length_nextItem hnext
    change cs.length < bound + 1 at hbound
    change cs.length < bound' + 1 at hbound'
    have hsame := readItems_bound hitem bound bound' follow (by omega) (by omega)
    simp only [bind, Except.bind, hnext, hsame]

/-! ## Bounds on the depth -/

theorem opening_cases (cs : List Char) :
    (∃ rest, skipGap cs = '[' :: rest) ∨ (∃ rest, skipGap cs = '{' :: rest) ∨
      ∀ list object, readWith list object cs = readValue 0 cs := by
  rcases hstart : skipGap cs with _ | ⟨c, rest⟩
  · refine .inr (.inr fun list object => ?_)
    simp [readValue, readWith, hstart]
  · by_cases hlist : c = '['
    · exact .inl ⟨rest, by rw [hlist]⟩
    by_cases hobject : c = '{'
    · exact .inr (.inl ⟨rest, by rw [hobject]⟩)
    · refine .inr (.inr fun list object => ?_)
      simp only [readValue, readWith, hstart, beq_iff_eq, if_neg hlist, if_neg hobject]

theorem readValue_of_same {cs : List Char}
    (hsame : ∀ list object, readWith list object cs = readValue 0 cs) (n : Nat) :
    readValue n cs = readValue 0 cs := by
  cases n with
  | zero => rfl
  | succ n => rw [readValue_succ, hsame]

theorem readWith_of_list {cs rest : List Char} (hstart : skipGap cs = '[' :: rest)
    (list object : List Char → Except TextFault (Json × List Char)) :
    readWith list object cs = list rest := by
  simp [readWith, hstart, Char.isDigit]

theorem readWith_of_object {cs rest : List Char} (hstart : skipGap cs = '{' :: rest)
    (list object : List Char → Except TextFault (Json × List Char)) :
    readWith list object cs = object rest := by
  simp [readWith, hstart, Char.isDigit]

theorem readLiteral_ok {value json : Json} {letters cs rest : List Char}
    (h : readLiteral value letters cs = .ok (json, rest)) : json = value := by
  fun_induction readLiteral value letters cs
  all_goals grind

theorem map_ok {α β : Type} {result : Except TextFault (α × List Char)} {f : α → β} {b : β}
    {rest : List Char} (h : (result.map fun (a, rest) => (f a, rest)) = .ok (b, rest)) :
    ∃ a, b = f a := by
  rcases result with fault | ⟨a, left⟩
  · cases h
  · cases h
    exact ⟨a, rfl⟩

theorem readValue_zero_cases {cs rest : List Char} {json : Json}
    (h : readValue 0 cs = .ok (json, rest)) :
    (∃ s ds, json = .string s ∧ skipGap cs = '"' :: ds) ∨ json = .null ∨ (∃ b, json = .bool b) ∨
      ∃ number, json = .number number := by
  unfold readValue readWith at h
  split at h
  · cases h
  · rename_i c ds hstart
    by_cases hn : c == 'n'
    · rw [if_pos hn] at h
      exact .inr (.inl (readLiteral_ok h))
    rw [if_neg hn] at h
    by_cases ht : c == 't'
    · rw [if_pos ht] at h
      exact .inr (.inr (.inl ⟨true, readLiteral_ok h⟩))
    rw [if_neg ht] at h
    by_cases hf : c == 'f'
    · rw [if_pos hf] at h
      exact .inr (.inr (.inl ⟨false, readLiteral_ok h⟩))
    rw [if_neg hf] at h
    split_ifs at h with hminus hdigit hquote
    · exact .inr (.inr (.inr (map_ok h)))
    · exact .inr (.inr (.inr (map_ok h)))
    · obtain ⟨s, hs⟩ := map_ok h
      exact .inl ⟨s, ds, hs, by rw [hstart, eq_of_beq hquote]⟩

theorem depth_of_readValue_zero {cs rest : List Char} {json : Json}
    (h : readValue 0 cs = .ok (json, rest)) : json.depth = 0 := by
  rcases readValue_zero_cases h with ⟨s, ds, rfl, -⟩ | rfl | ⟨b, rfl⟩ | ⟨number, rfl⟩
  all_goals rw [depth]

/-- `Settles n`: what is read to depth `n` is found at the depths that are not below its own, and only
at those. -/
def Settles (n : Nat) : Prop :=
  ∀ cs json rest, readValue n cs = .ok (json, rest) →
    ∀ m, (readValue m cs).toOption = if json.depth ≤ m then some (json, rest) else none

theorem readItems_toOption {n : Nat} (hn : Settles n) (bound : Nat) (follow : Follow) :
    ∀ values rest, readItems (readValue n) bound follow = .ok (values, rest) →
      ∀ m, (readItems (readValue m) bound follow).toOption =
        if itemsDepth values ≤ m then some (values, rest) else none := by
  fun_induction readItems (readValue n) bound follow with
  | case1 bound rest =>
    intro values left h m
    cases h
    simp [readItems, itemsDepth]
  | case2 rest =>
    intro values left h m
    cases h
  | case3 bound cs ih =>
    intro values left h m
    obtain ⟨⟨value, ds⟩, hvalue, h⟩ := bind_eq_ok.mp h
    obtain ⟨follow, hnext, h⟩ := bind_eq_ok.mp h
    obtain ⟨⟨items, rest⟩, hitems, h⟩ := bind_eq_ok.mp h
    cases h
    have hfirst := hn cs value ds hvalue m
    have hothers := ih follow items left hitems m
    simp only [readItems, toOption_bind, hfirst, itemsDepth_cons_le]
    by_cases hdepth : value.depth ≤ m
    · simp only [hdepth, if_true, true_and, Option.bind_some, hnext, toOption_ok, hothers]
      split_ifs <;> rfl
    · simp [hdepth]

theorem readMembers_toOption {n : Nat} (hn : Settles n) (bound : Nat) (follow : Follow) :
    ∀ members rest, readMembers n bound follow = .ok (members, rest) →
      ∀ m, (readMembers m bound follow).toOption =
        if membersDepth members ≤ m then some (members, rest) else none := by
  fun_induction readMembers n bound follow with
  | case1 bound rest =>
    intro members left h m
    cases h
    simp [readMembers, membersDepth]
  | case2 rest =>
    intro members left h m
    cases h
  | case3 bound cs ih =>
    intro members left h m
    obtain ⟨⟨key, afterKey⟩, hkey, h⟩ := bind_eq_ok.mp h
    obtain ⟨afterColon, hcolon, h⟩ := bind_eq_ok.mp h
    obtain ⟨⟨value, afterValue⟩, hvalue, h⟩ := bind_eq_ok.mp h
    obtain ⟨follow, hnext, h⟩ := bind_eq_ok.mp h
    obtain ⟨⟨others, rest⟩, hothers, h⟩ := bind_eq_ok.mp h
    cases h
    have hfirst := hn afterColon value afterValue hvalue m
    have hthen := ih follow others left hothers m
    simp only [readMembers, toOption_bind, hkey, hcolon, toOption_ok, Option.bind_some, hfirst,
      membersDepth_cons_le]
    by_cases hdepth : value.depth ≤ m
    · simp only [hdepth, if_true, true_and, Option.bind_some, hnext, toOption_ok, hthen]
      split_ifs <;> rfl
    · simp [hdepth]

theorem settles_zero : Settles 0 := by
  intro cs json rest h m
  rcases opening_cases cs with ⟨ds, hstart⟩ | ⟨ds, hstart⟩ | hsame
  · rw [readValue, readWith_of_list hstart] at h
    cases h
  · rw [readValue, readWith_of_object hstart] at h
    cases h
  · rw [readValue_of_same hsame m, h, depth_of_readValue_zero h]
    simp

theorem settles_succ {n : Nat} (hn : Settles n) : Settles (n + 1) := by
  intro cs json rest h m
  rcases opening_cases cs with ⟨ds, hstart⟩ | ⟨ds, hstart⟩ | hsame
  · rw [readValue_succ, readWith_of_list hstart] at h
    obtain ⟨follow, hfollow, h⟩ := bind_eq_ok.mp h
    obtain ⟨⟨values, left⟩, hvalues, h⟩ := bind_eq_ok.mp h
    cases h
    cases m with
    | zero => simp [readValue, readWith_of_list hstart, depth]
    | succ m =>
      have hitems := readItems_toOption hn _ _ _ _ hvalues m
      simp only [readValue_succ, readWith_of_list hstart, toOption_bind, hfollow, toOption_ok,
        Option.bind_some, hitems, depth, Nat.add_le_add_iff_right]
      split_ifs <;> rfl
  · rw [readValue_succ, readWith_of_object hstart] at h
    obtain ⟨follow, hfollow, h⟩ := bind_eq_ok.mp h
    obtain ⟨⟨members, left⟩, hmembers, h⟩ := bind_eq_ok.mp h
    cases h
    cases m with
    | zero => simp [readValue, readWith_of_object hstart, depth]
    | succ m =>
      have hothers := readMembers_toOption hn _ _ _ _ hmembers m
      simp only [readValue_succ, readWith_of_object hstart, toOption_bind, hfollow, toOption_ok,
        Option.bind_some, hothers, depth, Nat.add_le_add_iff_right]
      split_ifs <;> rfl
  · rw [readValue_succ, hsame] at h
    exact settles_zero cs json rest h m

/-- **The depth of the reader decides only whether a value is read**, not what is read. -/
theorem settles (n : Nat) : Settles n := by
  induction n with
  | zero => exact settles_zero
  | succ n ih => exact settles_succ ih

/-! ## Texts and their values -/

/-- The whole of a text is read as the value, by a reader that goes deep enough. -/
def Spells (text : String) (json : Json) : Prop :=
  ∃ n rest, readValue n text.toList = .ok (json, rest) ∧ expectEnd rest = .ok ()

/-- The value that the whole of a text is read as to depth `n`. -/
def document? (n : Nat) (text : String) : Option Json :=
  (readValue n text.toList).toOption.bind fun (json, rest) =>
    (expectEnd rest).toOption.map fun _ => json

theorem document?_of_spells {text : String} {json : Json} (h : Spells text json) (n : Nat) :
    document? n text = if json.depth ≤ n then some json else none := by
  obtain ⟨m, rest, hread, hend⟩ := h
  rw [document?, settles m _ _ _ hread n]
  split_ifs <;> simp [hend]

theorem spells_text (document : Document) : Spells (String.ofList document.text) document.json := by
  have hread := readValue_text document document.json.depth []
  rw [List.append_nil, if_pos le_rfl] at hread
  exact ⟨document.json.depth, [], by rw [String.toList_ofList, hread], rfl⟩

end Json

end Scratchpad
