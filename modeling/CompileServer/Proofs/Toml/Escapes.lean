import CompileServer.Toml.Printer
import Mathlib.Tactic.SplitIfs

/-!
# Reading escapes back

A character between quotes is written as it is or as an escape that stands for it, so a text on
one line is read back as it was.
-/

namespace CompileServer.Toml

/-! ## Escapes -/

/-- A number in base sixteen is a digit and a number with one digit less. -/
theorem hexNumber_succ (count : Nat) (c : Char) :
    ∃ digit : Option Nat, ∀ rest, hexNumber (count + 1) (c :: rest) =
      digit.bind fun high => (hexNumber count rest).map fun (low, after) =>
        (high * Nat.pow 16 count + low, after) := by
  refine ⟨if c.isDigit then some (c.toNat - '0'.toNat)
    else if 'a' ≤ c && c ≤ 'f' then some (c.toNat - 'a'.toNat + 10)
    else if 'A' ≤ c && c ≤ 'F' then some (c.toNat - 'A'.toNat + 10)
    else none, fun rest => ?_⟩
  rw [hexNumber]
  cases hexNumber count rest <;> split_ifs <;> rfl

/-- What a number in base sixteen is read from does not depend on what follows it. -/
theorem hexNumber_append {count code : Nat} {digits : List Char}
    (hcode : hexNumber count digits = some (code, [])) (rest : List Char) :
    hexNumber count (digits ++ rest) = some (code, rest) := by
  induction count generalizing code digits with
  | zero =>
      cases hcode
      rfl
  | succ count ih =>
      cases digits with
      | nil => cases hcode
      | cons c digits =>
          obtain ⟨digit, hread⟩ := hexNumber_succ count c
          rw [hread] at hcode
          rw [List.cons_append, hread]
          obtain ⟨high, rfl, hlow⟩ := Option.bind_eq_some_iff.1 hcode
          obtain ⟨⟨low, after⟩, hlow, hsum⟩ := Option.map_eq_some_iff.1 hlow
          obtain ⟨rfl, rfl⟩ := Prod.mk.inj hsum
          rw [Option.bind_some, ih hlow, Option.map_some]

/-- What follows a backslash stands for a character and is no line end. -/
def StandsFor (escape : List Char) (c : Char) : Prop :=
  ∀ rest, dropEscapedLineEnd (escape ++ rest) = none ∧
    scanEscape (escape ++ rest) = some (c, rest)

theorem standsFor_digits (c : Char) (hcontrol : c.toNat < 0x20 ∨ c.toNat = 0x7f) :
    StandsFor ('u' :: fourCapitalDigits c.toNat) c := by
  have hall : ∀ code ∈ 0x7f :: List.range 0x20,
      hexNumber 4 (fourCapitalDigits code) = some (code, []) := by
    decide
  have hdigits : hexNumber 4 (fourCapitalDigits c.toNat) = some (c.toNat, []) := by
    apply hall
    rcases hcontrol with hsmall | hlast
    · exact List.mem_cons_of_mem _ (List.mem_range.2 hsmall)
    · exact hlast ▸ List.mem_cons_self
  have hchar : charOf c.toNat = some c := by
    have hsmall : c.toNat < 0xd800 := by omega
    simp only [charOf, hsmall, decide_true, Bool.true_or, if_true, Char.ofNat_toNat]
  intro rest
  refine ⟨rfl, ?_⟩
  simp only [List.cons_append, scanEscape, hexNumber_append hdigits rest, hchar, bind, Option.bind]

/-- A character of a text between quotes, other than a quote. -/
def writeChar (c : Char) : List Char :=
  if c = '\x08' then ['\x5c', 'b']
  else if c = '\t' then ['\x5c', 't']
  else if c = '\n' then ['\x5c', 'n']
  else if c = '\x0c' then ['\x5c', 'f']
  else if c = '\r' then ['\x5c', 'r']
  else if c = '\x5c' then ['\x5c', '\x5c']
  else if c.toNat < 0x20 || c.toNat = 0x7f then '\x5c' :: 'u' :: fourCapitalDigits c.toNat
  else [c]

/-- A character is written as it is, or as an escape that stands for it. -/
inductive Written (c : Char) : List Char → Prop where
  | plain (hbackslash : c ≠ '\x5c') (hplain : isPlain c = true) (hline : c ≠ '\n')
      (hreturn : c ≠ '\r') : Written c [c]
  | escaped {escape : List Char} (hstands : StandsFor escape c) : Written c ('\x5c' :: escape)

theorem written_writeChar (c : Char) : Written c (writeChar c) := by
  have hshort : ∀ {letter c : Char}, (∀ rest, scanEscape (letter :: rest) = some (c, rest)) →
      (∀ rest, dropEscapedLineEnd (letter :: rest) = none) → Written c ['\x5c', letter] :=
    fun hscan hline => .escaped fun rest => ⟨hline rest, hscan rest⟩
  unfold writeChar
  split_ifs with hb ht hn hf hr hslash hcontrol
  · subst hb
    exact hshort (fun _ => rfl) fun _ => rfl
  · subst ht
    exact hshort (fun _ => rfl) fun _ => rfl
  · subst hn
    exact hshort (fun _ => rfl) fun _ => rfl
  · subst hf
    exact hshort (fun _ => rfl) fun _ => rfl
  · subst hr
    exact hshort (fun _ => rfl) fun _ => rfl
  · subst hslash
    exact hshort (fun _ => rfl) fun _ => rfl
  · exact .escaped (standsFor_digits c (by simpa using hcontrol))
  · refine .plain hslash ?_ hn hr
    simp only [Bool.or_eq_true, decide_eq_true_eq, not_or, Nat.not_lt] at hcontrol
    simp only [isPlain, hcontrol.1, hcontrol.2, ne_eq, not_false_eq_true, decide_true,
      Bool.and_self, Bool.or_true]

theorem writeEscaped_cons (long : Bool) (quotes : Nat) (c : Char) (rest : List Char) :
    writeEscaped long quotes (c :: rest) =
      if c = '\x22' then
        if long && quotes < 2 then c :: writeEscaped long (quotes + 1) rest
        else '\x5c' :: '\x22' :: writeEscaped long 0 rest
      else if c = '\n' && long then c :: writeEscaped long 0 rest
      else writeChar c ++ writeEscaped long 0 rest := by
  rw [writeEscaped]
  rfl

/-- No character is left out. -/
theorem length_le_writeEscaped (long : Bool) (quotes : Nat) (cs : List Char) :
    cs.length ≤ (writeEscaped long quotes cs).length := by
  induction cs generalizing quotes with
  | nil => exact Nat.zero_le _
  | cons c rest ih =>
      have hone : 1 ≤ (writeChar c).length := by
        have hwritten := written_writeChar c
        generalize writeChar c = written at hwritten
        cases hwritten <;> exact Nat.succ_le_succ (Nat.zero_le _)
      rw [writeEscaped_cons, List.length_cons]
      split_ifs
      · exact Nat.succ_le_succ (ih _)
      · exact Nat.le_succ_of_le (Nat.succ_le_succ (ih _))
      · exact Nat.succ_le_succ (ih _)
      · have hrest := ih 0
        rw [List.length_append]
        omega

/-! ## Texts on one line -/

theorem scanBasic_writeEscaped (cs rest : List Char) {fuel : Nat} (hfuel : cs.length < fuel) :
    scanBasic fuel (writeEscaped false 0 cs ++ '\x22' :: rest) = some (cs, rest) := by
  induction cs generalizing fuel with
  | nil =>
      obtain ⟨fuel, rfl⟩ := Nat.exists_eq_succ_of_ne_zero (Nat.ne_zero_of_lt hfuel)
      rfl
  | cons c cs ih =>
      obtain ⟨fuel, rfl⟩ := Nat.exists_eq_succ_of_ne_zero (Nat.ne_zero_of_lt hfuel)
      have hrest := ih (Nat.lt_of_succ_lt_succ hfuel)
      rw [writeEscaped_cons]
      by_cases hquote : c = '\x22'
      · subst hquote
        simp only [if_true, Bool.false_and, Bool.false_eq_true, if_false, List.cons_append]
        rw [scanBasic]
        simp only [scanEscape, hrest]
        rfl
      · simp only [hquote, if_false, Bool.and_false, Bool.false_eq_true]
        have hwritten := written_writeChar c
        generalize writeChar c = written at hwritten
        cases hwritten with
        | plain hbackslash hplain =>
            rw [List.cons_append, List.nil_append, List.cons_append, scanBasic, if_neg hquote,
              if_neg hbackslash, if_pos hplain, hrest]
            rfl
        | @escaped escape hstands =>
            rw [List.cons_append, List.cons_append, scanBasic, List.append_assoc]
            simp only [(hstands _).2, hrest]
            rfl

theorem scanLiteral_of_plain {cs : List Char} (rest : List Char)
    (hplain : ∀ c ∈ cs, isPlain c = true) (hquote : '\x27' ∉ cs) :
    scanLiteral (cs ++ '\x27' :: rest) = some (cs, rest) := by
  induction cs with
  | nil => rfl
  | cons c cs ih =>
      obtain ⟨hfirst, hmore⟩ := List.forall_mem_cons.1 hplain
      have hother : ¬ c = '\x27' := fun hsame => hquote (hsame ▸ List.mem_cons_self)
      have hnone : '\x27' ∉ cs := fun hmem => hquote (List.mem_cons_of_mem _ hmem)
      rw [List.cons_append, scanLiteral, if_neg hother, if_pos hfirst, ih hmore hnone]
      rfl

end CompileServer.Toml
