import CompileServer.Proofs.Toml.Texts
import Mathlib.Algebra.Group.Nat.Defs

/-!
# Reading values back

A value is read back from what is written for it, wherever its line or the item of a list ends.
Texts and natural numbers are such values, and so are lists of such values, with every item on
a line of its own.
-/

namespace CompileServer.Toml

/-! ## Natural numbers -/

/-- A character of a class is none of those that are not in it. -/
theorem ne_of_class {p : Char → Bool} {c d : Char} (hc : p c = true) (hd : p d = false) :
    c ≠ d := by
  rintro rfl
  rw [hc] at hd
  cases hd

theorem range_of_isDigit {c : Char} (hdigit : c.isDigit = true) : '0' ≤ c ∧ c ≤ '9' := by
  simpa [Char.isDigit, Char.le_def] using hdigit

theorem digitIn_of_isDigit {c : Char} (hdigit : c.isDigit = true) :
    digitIn 10 c = some (c.toNat - '0'.toNat) := by
  have hrange := range_of_isDigit hdigit
  have hvalue : c.toNat - '0'.toNat < 10 := by
    have hlast : c.toNat ≤ '9'.toNat := hrange.2
    have hzero : '0'.toNat = 48 := rfl
    have hnine : '9'.toNat = 57 := rfl
    omega
  unfold digitIn
  simp only [hrange.1, hrange.2, decide_true, Bool.and_self, if_true, Option.filter, hvalue]

theorem digitsOf_of_isDigit {cs : List Char} (hsome : cs ≠ [])
    (hdigits : ∀ c ∈ cs, c.isDigit = true) :
    digitsOf 10 cs = some (cs.map fun c => c.toNat - '0'.toNat) := by
  induction cs with
  | nil => exact absurd rfl hsome
  | cons c cs ih =>
      obtain ⟨hfirst, hmore⟩ := List.forall_mem_cons.1 hdigits
      cases cs with
      | nil =>
          rw [digitsOf, digitIn_of_isDigit hfirst]
          rfl
      | cons d cs =>
          have hother : d ≠ '_' := by
            rintro rfl
            revert hmore
            simp
          rw [digitsOf, ih (List.cons_ne_nil _ _) hmore, digitIn_of_isDigit hfirst]
          · rfl
          · exact List.cons_ne_nil _ _
          · rintro more hcons
            exact hother (List.cons.inj hcons).1

theorem naturalIn_map (cs : List Char) :
    naturalIn 10 (cs.map fun c => c.toNat - '0'.toNat) = Nat.ofDigitChars 10 cs 0 := by
  rw [naturalIn, List.foldl_map, Nat.ofDigitChars_eq_foldl]
  simp only [Nat.mul_comm]

/-- A number does not start with a zero unless it is zero. -/
theorem head?_natDigits {number : Nat} (hpos : 0 < number) :
    (natDigits number).head? ≠ some '0' := by
  induction number using Nat.strongRecOn with
  | ind number ih =>
      rw [natDigits, Nat.toDigits_eq_if (by decide)]
      split
      · rename_i hsmall
        have hall : ∀ digit < 10, 0 < digit → [digit.digitChar].head? ≠ some '0' := by decide
        exact hall number hsmall hpos
      · rename_i hlarge
        have hhigh := ih (number / 10) (by omega) (by omega)
        rw [natDigits] at hhigh
        rw [List.head?_append]
        cases hfirst : (Nat.toDigits 10 (number / 10)).head? with
        | none => exact absurd (List.head?_eq_none_iff.1 hfirst) Nat.toDigits_ne_nil
        | some c =>
            rw [hfirst] at hhigh
            exact hhigh

theorem isDigit_of_mem_natDigits {number : Nat} {c : Char} (hmem : c ∈ natDigits number) :
    c.isDigit = true :=
  Nat.isDigit_of_mem_toDigits (by decide) (by decide) hmem

theorem plainDigits_natDigits (number : Nat) :
    plainDigits (natDigits number) =
      some ((natDigits number).map fun c => c.toNat - '0'.toNat) := by
  have hdigits : digitsOf 10 (natDigits number) =
      some ((natDigits number).map fun c => c.toNat - '0'.toNat) :=
    digitsOf_of_isDigit Nat.toDigits_ne_nil fun c hmem => isDigit_of_mem_natDigits hmem
  have hzero : ¬ (decide (((natDigits number).map fun c => c.toNat - '0'.toNat).head? = some 0) &&
      decide (1 < (natDigits number).length)) = true := by
    rw [Bool.and_eq_true, decide_eq_true_eq, decide_eq_true_eq]
    rintro ⟨hfirst, hlong⟩
    rw [List.head?_map] at hfirst
    obtain ⟨c, hc, hvalue⟩ := Option.map_eq_some_iff.1 hfirst
    have hdigit := isDigit_of_mem_natDigits (List.mem_of_mem_head? hc)
    have hlow : '0'.toNat ≤ c.toNat := (range_of_isDigit hdigit).1
    have hsame : c = '0' := by
      apply Char.ext
      apply UInt32.toNat_inj.1
      exact Nat.le_antisymm (Nat.sub_eq_zero_iff_le.1 hvalue) hlow
    rcases Nat.eq_zero_or_pos number with rfl | hpos
    · revert hlong
      decide
    · exact head?_natDigits hpos (hsame ▸ hc)
  rw [plainDigits, hdigits]
  exact if_neg hzero

/-- What follows digits stands among the characters that they were read from. -/
theorem subset_of_fixedDigits {count value : Nat} {cs rest : List Char}
    (hread : fixedDigits count cs = some (value, rest)) : rest ⊆ cs := by
  induction count generalizing cs value with
  | zero =>
      cases hread
      exact List.Subset.refl _
  | succ count ih =>
      cases cs with
      | nil => cases hread
      | cons c cs =>
          obtain ⟨digit, -, hread⟩ := Option.bind_eq_some_iff.1 hread
          obtain ⟨⟨low, after⟩, hlow, hread⟩ := Option.bind_eq_some_iff.1 hread
          cases hread
          exact List.subset_cons_of_subset c (ih hlow)

/-- A number is no date and no time. -/
theorem isMoment_of_isDigit {cs : List Char} (hdigits : ∀ c ∈ cs, c.isDigit = true) :
    isMoment cs = false := by
  have hmark : ∀ {count value c more}, fixedDigits count cs = some (value, c :: more) →
      c.isDigit = true :=
    fun hread => hdigits _ (subset_of_fixedDigits hread List.mem_cons_self)
  have hdate : scanDate cs = none := by
    cases hyear : fixedDigits 4 cs with
    | none => simp only [scanDate, hyear, bind, Option.bind]
    | some found =>
        obtain ⟨year, rest⟩ := found
        have hdash : ∀ more, rest ≠ '-' :: more := by
          rintro more rfl
          exact absurd (hmark hyear) (by decide)
        simp only [scanDate, hyear, bind, Option.bind]
  have htime : scanTime cs = none := by
    cases hhour : fixedDigits 2 cs with
    | none => simp only [scanTime, hhour, bind, Option.bind]
    | some found =>
        obtain ⟨hour, rest⟩ := found
        have hcolon : ∀ more, rest ≠ ':' :: more := by
          rintro more rfl
          exact absurd (hmark hhour) (by decide)
        simp only [scanTime, hhour, bind, Option.bind]
  rw [isMoment, hdate, htime]
  rfl

theorem splitAtFirst_eq_self {p : Char → Bool} {cs : List Char} (hnone : ∀ c ∈ cs, p c = false) :
    splitAtFirst p cs = (cs, none) := by
  have hother : ∀ c ∈ cs, (!p c) = true := fun c hmem => by rw [hnone c hmem, Bool.not_false]
  obtain ⟨htake, hdrop⟩ : (cs ++ []).takeWhile (fun c => !p c) = cs ∧
      (cs ++ []).dropWhile (fun c => !p c) = [] := span_append hother fun _ hc => absurd hc (Option.not_mem_none _)
  rw [List.append_nil] at htake hdrop
  rw [splitAtFirst, htake, hdrop]

/-- A character that is no digit does not stand in a number. -/
theorem natDigits_ne {number : Nat} {word : List Char}
    (hword : word.any (fun c => !c.isDigit) = true) : natDigits number ≠ word := by
  rintro rfl
  obtain ⟨c, hmem, hc⟩ := List.any_eq_true.1 hword
  rw [isDigit_of_mem_natDigits hmem] at hc
  cases hc

theorem unsignedNumber_natDigits {number : Nat} (hfits : number < 2 ^ 128) :
    unsignedNumber false (natDigits number) = some (.int number) := by
  have hexponent : ∀ c ∈ natDigits number, (decide (c = 'e') || decide (c = 'E')) = false := by
    intro c hmem
    have hdigit := isDigit_of_mem_natDigits hmem
    rw [Bool.or_eq_false_iff, decide_eq_false_iff_not, decide_eq_false_iff_not]
    exact ⟨ne_of_class hdigit rfl, ne_of_class hdigit rfl⟩
  have hpoint : ∀ c ∈ natDigits number, decide (c = '.') = false := fun c hmem =>
    decide_eq_false (ne_of_class (isDigit_of_mem_natDigits hmem) rfl)
  have hvalue : naturalIn 10 ((natDigits number).map fun c => c.toNat - '0'.toNat) = number := by
    rw [naturalIn_map, natDigits, Nat.ofDigitChars_ten_toDigits]
  simp only [unsignedNumber, splitAtFirst_eq_self hexponent, splitAtFirst_eq_self hpoint,
    plainDigits_natDigits, bind, Option.bind, hvalue, wholeValue, Bool.false_eq_true, if_false]
  exact if_pos hfits

theorem numberOf_natDigits {number : Nat} (hfits : number < 2 ^ 128) :
    numberOf (natDigits number) = some (.int number) := by
  have hsigned : numberOf (natDigits number) = signedNumber false (natDigits number) := by
    unfold numberOf
    split
    iterate 5
      rename_i hcs
      exact absurd hcs (natDigits_ne rfl)
    rfl
  rw [hsigned, signedNumber, if_neg (natDigits_ne (by decide)), if_neg (natDigits_ne (by decide)),
    unsignedNumber_natDigits hfits]

theorem scalarOf_natDigits {number : Nat} (hfits : number < 2 ^ 128) :
    scalarOf (natDigits number) = some (.int number) := by
  have hmoment := isMoment_of_isDigit fun c (hmem : c ∈ natDigits number) =>
    isDigit_of_mem_natDigits hmem
  rw [scalarOf, if_neg (natDigits_ne (by decide)), if_neg (natDigits_ne (by decide)), hmoment,
    if_neg Bool.false_ne_true, numberOf_natDigits hfits]

/-! ## Values -/

/-- Where a value ends: at the end of its line, or of an item of a list. -/
def Ended (rest : List Char) : Prop :=
  ∃ c more, rest = c :: more ∧ (c = '\n' ∨ c = ',' ∨ c = ']')

theorem Ended.unquoted {rest : List Char} (hrest : Ended rest) : Unquoted rest := by
  obtain ⟨c, more, rfl, hend⟩ := hrest
  intro d hd
  cases hd
  rcases hend with rfl | rfl | rfl <;> decide

/-- The first character of a value or a key: no blank, no line end, no comment and no bracket
that closes. -/
def Visible (c : Char) : Prop :=
  isBlank c = false ∧ c ≠ '\n' ∧ c ≠ '\r' ∧ c ≠ '#' ∧ c ≠ ']'

instance (c : Char) : Decidable (Visible c) :=
  inferInstanceAs (Decidable (_ ∧ _))

theorem visible_of_class {p : Char → Bool} {c : Char} (hc : p c = true) (hspace : p ' ' = false)
    (htab : p '\t' = false) (hline : p '\n' = false) (hreturn : p '\r' = false)
    (hcomment : p '#' = false) (hclose : p ']' = false) : Visible c := by
  have hblank : isBlank c = false := by
    simp only [isBlank, ne_of_class hc hspace, ne_of_class hc htab, decide_false, Bool.or_self]
  exact ⟨hblank, ne_of_class hc hline, ne_of_class hc hreturn, ne_of_class hc hcomment,
    ne_of_class hc hclose⟩

theorem visible_of_isDigit {c : Char} (hdigit : c.isDigit = true) : Visible c :=
  visible_of_class hdigit rfl rfl rfl rfl rfl rfl

/-- The value is read back, inside at most `room` more containers, where it ends. -/
structure Legible (room : Nat) (value : Value) : Prop where
  starts : ∃ c more, writeValue value = c :: more ∧ Visible c
  reads : ∀ {fuel rest}, (writeValue value).length < fuel → Ended rest →
    scanValue room fuel (writeValue value ++ rest) = some (value, rest)

theorem endsScalar_of_isDigit {c : Char} (hdigit : c.isDigit = true) : endsScalar c = false := by
  obtain ⟨hblank, hline, hreturn, hcomment, hclose⟩ := visible_of_isDigit hdigit
  have hcomma : c ≠ ',' := ne_of_class hdigit rfl
  have hbrace : c ≠ '\x7d' := ne_of_class hdigit rfl
  simp only [endsScalar, hblank, hline, hreturn, hcomment, hclose, hcomma, hbrace, decide_false,
    Bool.or_self]

theorem scanScalar_natDigits {number : Nat} (hfits : number < 2 ^ 128) {rest : List Char}
    (hrest : Ended rest) : scanScalar (natDigits number ++ rest) = some (.int number, rest) := by
  obtain ⟨c, more, rfl, hend⟩ := hrest
  have hword : ∀ d ∈ natDigits number, (!endsScalar d) = true := fun d hmem => by
    rw [endsScalar_of_isDigit (isDigit_of_mem_natDigits hmem), Bool.not_false]
  have hstop : ∀ d ∈ (c :: more).head?, (!endsScalar d) = false := by
    intro d hd
    cases hd
    rcases hend with rfl | rfl | rfl <;> decide
  have hblank : c ≠ ' ' := by
    rcases hend with rfl | rfl | rfl <;> decide
  obtain ⟨htake, hdrop⟩ := span_append hword hstop
  unfold scanScalar
  rw [htake, hdrop]
  dsimp only
  split
  · rename_i hcs
    exact absurd (List.cons.inj hcs).1 hblank
  · rw [scalarOf_natDigits hfits]
    rfl

theorem legible_number (room : Nat) {number : Nat} (hfits : number < 2 ^ 128) :
    Legible room (.int number) := by
  have hwritten : writeValue (.int number) = natDigits number := rfl
  cases hdigits : natDigits number with
  | nil => exact absurd hdigits Nat.toDigits_ne_nil
  | cons c more =>
      have hdigit : c.isDigit = true := isDigit_of_mem_natDigits (hdigits ▸ List.mem_cons_self)
      constructor
      · exact ⟨c, more, hwritten.trans hdigits, visible_of_isDigit hdigit⟩
      · intro fuel rest hfuel hrest
        obtain ⟨fuel, rfl⟩ := Nat.exists_eq_succ_of_ne_zero (Nat.ne_zero_of_lt hfuel)
        have hscalar := scanScalar_natDigits hfits hrest
        rw [hwritten]
        rw [hdigits, List.cons_append] at hscalar ⊢
        rw [scanValue]
        · exact hscalar
        all_goals
          intro others hcs
          exact ne_of_class hdigit rfl (List.cons.inj hcs).1

/-- A quoted text starts with a quote. -/
theorem exists_writeString_cons (text : String) :
    ∃ c more, writeString text = c :: more ∧ (c = '\x22' ∨ c = '\x27') := by
  unfold writeString
  dsimp only
  cases styleFor text.toList with
  | basic => exact ⟨_, _, rfl, .inl rfl⟩
  | literal => exact ⟨_, _, rfl, .inr rfl⟩
  | longBasic => exact ⟨_, _, rfl, .inl rfl⟩
  | longLiteral => exact ⟨_, _, rfl, .inr rfl⟩

theorem legible_text (room : Nat) (text : String) : Legible room (.str text) := by
  have hwritten : writeValue (.str text) = writeString text := rfl
  obtain ⟨c, more, hstring, hquote⟩ := exists_writeString_cons text
  constructor
  · refine ⟨c, more, hwritten.trans hstring, ?_⟩
    rcases hquote with rfl | rfl <;> decide
  · intro fuel rest hfuel hrest
    obtain ⟨fuel, rfl⟩ := Nat.exists_eq_succ_of_ne_zero (Nat.ne_zero_of_lt hfuel)
    have htext := scanText_writeString text hrest.unquoted
    rw [hwritten]
    rw [hstring, List.cons_append] at htext ⊢
    have hvalue : (Value.str (String.ofList text.toList), rest) = (Value.str text, rest) := by
      rw [String.ofList_toList]
    rcases hquote with rfl | rfl
    all_goals
      rw [scanValue, htext]
      exact congrArg some hvalue

/-! ## Lists -/

theorem skipBlanks_visible {c : Char} (more : List Char) (hvisible : Visible c) :
    skipBlanks (c :: more) = c :: more := by
  rw [skipBlanks, List.dropWhile_cons, hvisible.1, if_neg Bool.false_ne_true]

/-- No space is skipped in front of a character that is visible. -/
theorem skipSpace_visible (fuel : Nat) {c : Char} (more : List Char) (hvisible : Visible c) :
    skipSpace fuel (c :: more) = c :: more := by
  cases fuel with
  | zero => rfl
  | succ fuel =>
      have hline := hvisible.2.1
      have hreturn := hvisible.2.2.1
      have hnone : dropLineEnd (c :: more) = none := dropLineEnd_eq_none fun d hd => by
        cases hd
        exact ⟨hline, hreturn⟩
      rw [skipSpace, skipBlanks_visible more hvisible]
      split
      · rename_i hcs
        exact absurd (List.cons.inj hcs).1 hvisible.2.2.2.1
      · rw [hnone]

theorem skipSpace_item {fuel : Nat} (hfuel : 2 ≤ fuel) {c : Char} (more : List Char)
    (hvisible : Visible c) :
    skipSpace fuel ('\n' :: ("    ".toList ++ c :: more)) = c :: more := by
  obtain ⟨fuel, rfl⟩ := Nat.exists_eq_add_of_le' hfuel
  have hline : skipSpace (fuel + 2) ('\n' :: ("    ".toList ++ c :: more)) =
      skipSpace (fuel + 1) ("    ".toList ++ c :: more) := rfl
  have hblanks : skipSpace (fuel + 1) ("    ".toList ++ c :: more) =
      skipSpace (fuel + 1) (c :: more) := rfl
  rw [hline, hblanks, skipSpace_visible _ more hvisible]

/-- One more item of a list, after the bracket or the comma before it. -/
theorem scanItems_item {room fuel : Nat} {cs more : List Char} {item : Value}
    (hitem : Legible room item) (hfuel : (writeValue item).length < fuel)
    (hstart : skipSpace cs.length cs = writeValue item ++ more) (hmore : Ended more) :
    scanItems room (fuel + 1) cs =
      match skipSpace more.length more with
      | ']' :: rest => some ([item], rest)
      | ',' :: rest => (scanItems room fuel rest).map fun (items, after) => (item :: items, after)
      | _ => none := by
  obtain ⟨c, others, hwritten, hvisible⟩ := hitem.starts
  have hreads := hitem.reads hfuel hmore
  rw [hwritten, List.cons_append] at hstart hreads
  rw [scanItems, hstart]
  split
  · rename_i hcs
    exact absurd (List.cons.inj hcs).1 hvisible.2.2.2.2
  · generalize scanValue room fuel (c :: (others ++ more)) = found at hreads ⊢
    subst hreads
    rfl

/-- Items on lines of their own. -/
theorem scanItems_writeItems {room fuel : Nat} {items : List Value} (rest : List Char)
    (hitems : ∀ item ∈ items, Legible room item) (hfuel : (writeItems items).length < fuel) :
    scanItems room fuel ('\n' :: (writeItems items ++ ']' :: rest)) = some (items, rest) := by
  induction items generalizing fuel with
  | nil =>
      obtain ⟨fuel, rfl⟩ := Nat.exists_eq_succ_of_ne_zero (Nat.ne_zero_of_lt hfuel)
      rfl
  | cons item items ih =>
      obtain ⟨fuel, rfl⟩ := Nat.exists_eq_succ_of_ne_zero (Nat.ne_zero_of_lt hfuel)
      obtain ⟨hfirst, hmore⟩ := List.forall_mem_cons.1 hitems
      obtain ⟨c, others, hwritten, hvisible⟩ := hfirst.starts
      have hlength : (writeItems (item :: items)).length =
          4 + (writeValue item).length + 2 + (writeItems items).length := by
        rw [writeItems, List.length_append, List.length_append]
        simp only [List.length_cons]
        have hblanks : "    ".toList.length = 4 := rfl
        omega
      have hcs : '\n' :: (writeItems (item :: items) ++ ']' :: rest) =
          '\n' :: ("    ".toList ++ (writeValue item ++
            ',' :: '\n' :: (writeItems items ++ ']' :: rest))) := by
        simp only [writeItems, List.append_assoc, List.cons_append]
      have hstart : skipSpace ('\n' :: (writeItems (item :: items) ++ ']' :: rest)).length
          ('\n' :: (writeItems (item :: items) ++ ']' :: rest)) =
          writeValue item ++ ',' :: '\n' :: (writeItems items ++ ']' :: rest) := by
        rw [hcs, hwritten, List.cons_append]
        exact skipSpace_item (by simp) _ hvisible
      have hothers : scanItems room fuel ('\n' :: (writeItems items ++ ']' :: rest)) =
          some (items, rest) := ih hmore (by omega)
      rw [scanItems_item hfirst (by omega) hstart ⟨',', _, rfl, .inr (.inl rfl)⟩,
        skipSpace_visible _ _ (by decide)]
      change (scanItems room fuel _).map _ = _
      rw [hothers]
      rfl

theorem Legible.list {room : Nat} {items : List Value}
    (hitems : ∀ item ∈ items, Legible room item) : Legible (room + 1) (.arr items) := by
  have hbody : ∃ body, writeValue (.arr items) = '[' :: body ∧ ∀ {fuel rest}, body.length < fuel →
      scanItems room fuel (body ++ rest) = some (items, rest) := by
    match items with
    | [] =>
        refine ⟨[']'], rfl, fun {fuel rest} hfuel => ?_⟩
        obtain ⟨fuel, rfl⟩ := Nat.exists_eq_succ_of_ne_zero (Nat.ne_zero_of_lt hfuel)
        rfl
    | [item] =>
        have hitem := hitems item List.mem_cons_self
        obtain ⟨c, others, hwritten, hvisible⟩ := hitem.starts
        refine ⟨writeValue item ++ [']'], rfl, fun {fuel rest} hfuel => ?_⟩
        rw [List.length_append] at hfuel
        obtain ⟨fuel, rfl⟩ := Nat.exists_eq_succ_of_ne_zero (Nat.ne_zero_of_lt hfuel)
        have hstart := skipSpace_visible (writeValue item ++ ']' :: rest).length
          (others ++ ']' :: rest) hvisible
        rw [← List.cons_append, ← hwritten] at hstart
        rw [List.append_assoc, List.singleton_append,
          scanItems_item hitem (Nat.lt_of_succ_lt_succ hfuel) hstart
          ⟨']', _, rfl, .inr (.inr rfl)⟩]
        rfl
    | item :: next :: others =>
        refine ⟨'\n' :: (writeItems (item :: next :: others) ++ [']']), rfl,
          fun {fuel rest} hfuel => ?_⟩
        rw [List.length_cons, List.length_append] at hfuel
        rw [List.cons_append, List.append_assoc]
        exact scanItems_writeItems rest hitems (by omega)
  obtain ⟨body, hwritten, hread⟩ := hbody
  constructor
  · exact ⟨'[', body, hwritten, by decide⟩
  · intro fuel rest hfuel _
    obtain ⟨fuel, rfl⟩ := Nat.exists_eq_succ_of_ne_zero (Nat.ne_zero_of_lt hfuel)
    rw [hwritten, List.length_cons] at hfuel
    rw [hwritten, List.cons_append, scanValue, if_neg (Nat.succ_ne_zero room), Nat.add_sub_cancel,
      hread (Nat.lt_of_succ_lt_succ hfuel)]
    rfl

end CompileServer.Toml
