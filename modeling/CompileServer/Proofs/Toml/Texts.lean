import CompileServer.Proofs.Toml.Escapes
import Mathlib.Data.List.TakeWhile

/-!
# Reading quoted texts back

Whichever way a text is quoted, it is read back as it was.  Of the quotes inside a text over
many lines at most two stand next to each other, so the three that close it are found where
they are.
-/

namespace CompileServer.Toml

/-! ## Runs of quotes -/

/-- How far the longest run was got, and the run at hand, after one more character. -/
def countRun (c : Char) (runs : Nat × Nat) (d : Char) : Nat × Nat :=
  let current := if d = c then runs.2 + 1 else 0
  (max runs.1 current, current)

theorem longestRun_eq (c : Char) (cs : List Char) :
    longestRun c cs = (cs.foldl (countRun c) (0, 0)).1 :=
  rfl

/-- The longest run is at least as long as any run that was counted and as the one at hand with
all that adds to it. -/
theorem le_foldl_countRun (c : Char) (cs : List Char) {runs : Nat × Nat}
    (hruns : runs.2 ≤ runs.1) :
    runs.1 ≤ (cs.foldl (countRun c) runs).1 ∧
      runs.2 + (cs.takeWhile (· = c)).length ≤ (cs.foldl (countRun c) runs).1 := by
  induction cs generalizing runs with
  | nil => exact ⟨Nat.le_refl _, hruns⟩
  | cons d cs ih =>
      obtain ⟨hlongest, hcurrent⟩ := ih (Nat.le_max_right runs.1 (countRun c runs d).2)
      have hbefore : runs.1 ≤ (cs.foldl (countRun c) (countRun c runs d)).1 :=
        Nat.le_trans (Nat.le_max_left _ _) hlongest
      rw [List.foldl_cons]
      refine ⟨hbefore, ?_⟩
      by_cases hsame : d = c
      · have hone : (countRun c runs d).2 = runs.2 + 1 := if_pos hsame
        rw [hone] at hcurrent
        rw [List.takeWhile_cons, if_pos (decide_eq_true hsame), List.length_cons]
        omega
      · rw [List.takeWhile_cons, if_neg (by simpa using hsame)]
        exact Nat.le_trans hruns hbefore

theorem le_of_foldl_countRun (c : Char) (cs : List Char) {runs : Nat × Nat}
    (hruns : runs.2 ≤ runs.1) :
    (cs.foldl (countRun c) runs).2 ≤ (cs.foldl (countRun c) runs).1 := by
  induction cs generalizing runs with
  | nil => exact hruns
  | cons d cs ih => exact ih (Nat.le_max_right _ _)

/-- From no place on do more than so many of the characters stand next to each other. -/
def ShortRuns (c : Char) (limit : Nat) (cs : List Char) : Prop :=
  ∀ front back, cs = front ++ back → (back.takeWhile (· = c)).length ≤ limit

theorem shortRuns_longestRun (c : Char) (cs : List Char) :
    ShortRuns c (longestRun c cs) cs := by
  rintro front back rfl
  rw [longestRun_eq, List.foldl_append]
  have hruns : (front.foldl (countRun c) (0, 0)).2 ≤ (front.foldl (countRun c) (0, 0)).1 :=
    le_of_foldl_countRun c front (Nat.le_refl 0)
  exact Nat.le_trans (Nat.le_add_left _ _) (le_foldl_countRun c back hruns).2

theorem ShortRuns.tail {c d : Char} {limit : Nat} {cs : List Char}
    (hshort : ShortRuns c limit (d :: cs)) : ShortRuns c limit cs := by
  rintro front back rfl
  exact hshort (d :: front) back rfl

theorem ShortRuns.not_mem {c : Char} {cs : List Char} (hshort : ShortRuns c 0 cs) : c ∉ cs := by
  intro hmem
  obtain ⟨front, back, hcs⟩ := List.append_of_mem hmem
  have hnone := hshort front (c :: back) hcs
  rw [List.takeWhile_cons, if_pos (decide_eq_true rfl)] at hnone
  exact absurd hnone (Nat.not_succ_le_zero _)

/-! ## Texts over many lines -/

/-- What follows a text does not go on with a quote. -/
def Unquoted (rest : List Char) : Prop :=
  ∀ c ∈ rest.head?, c ≠ '\x22' ∧ c ≠ '\x27'

/-- A span of characters of one class ends at the first character of another. -/
theorem span_append {p : Char → Bool} {front rest : List Char}
    (hfront : ∀ c ∈ front, p c = true) (hrest : ∀ c ∈ rest.head?, p c = false) :
    (front ++ rest).takeWhile p = front ∧ (front ++ rest).dropWhile p = rest := by
  rw [List.takeWhile_append_of_pos hfront, List.dropWhile_append_of_pos hfront]
  cases rest with
  | nil => exact ⟨List.append_nil front, rfl⟩
  | cons c rest =>
      have hother : ¬ p c = true := Bool.eq_false_iff.1 (hrest c rfl)
      rw [List.takeWhile_cons, List.dropWhile_cons, if_neg hother, if_neg hother, List.append_nil]
      exact ⟨rfl, rfl⟩

/-- At most two quotes before the three that close a text belong to it. -/
theorem closingQuotes_replicate {quote : Char} {count : Nat} (hcount : count ≤ 2)
    {rest : List Char} (hrest : ∀ c ∈ rest.head?, c ≠ quote) :
    closingQuotes quote (List.replicate count quote ++ quote :: quote :: quote :: rest) =
      some (List.replicate count quote, rest) := by
  have hall : List.replicate count quote ++ quote :: quote :: quote :: rest =
      List.replicate (count + 3) quote ++ rest := by
    rw [← List.replicate_append_replicate, List.append_assoc]
    rfl
  have hmin : min 5 (count + 3) = count + 3 := by omega
  have hlong : ¬ count + 3 < 3 := by omega
  have hspan : (List.replicate (count + 3) quote ++ rest).takeWhile (· = quote) =
      List.replicate (count + 3) quote :=
    (span_append (fun c hmem => decide_eq_true (List.eq_of_mem_replicate hmem))
      fun c hc => decide_eq_false (hrest c hc)).1
  unfold closingQuotes
  rw [hall, hspan, List.length_replicate, hmin]
  dsimp only
  rw [if_neg hlong, Nat.add_sub_cancel, List.drop_left' List.length_replicate]

/-- A text goes on where fewer than three quotes stand next to each other. -/
theorem closingQuotes_eq_none {quote : Char} {cs : List Char}
    (hshort : (cs.takeWhile (· = quote)).length ≤ 2) : closingQuotes quote cs = none := by
  have hmin : min 5 (cs.takeWhile (· = quote)).length < 3 := by omega
  unfold closingQuotes
  dsimp only
  rw [if_pos hmin]

/-- Of the quotes that are written as they are, at most two stand next to each other.  They are
all of the text, or something else follows them. -/
theorem quotes_writeEscaped (cs : List Char) {quotes : Nat} (hquotes : quotes ≤ 2) :
    (∃ count, count + quotes ≤ 2 ∧ cs = List.replicate count '\x22' ∧
        writeEscaped true quotes cs = List.replicate count '\x22') ∨
      ∀ rest, ((writeEscaped true quotes cs ++ rest).takeWhile (· = '\x22')).length + quotes ≤ 2 := by
  -- Quotes are kept as they are until two stand next to each other; the third is escaped.
  induction cs generalizing quotes with
  | nil => exact .inl ⟨0, by omega, rfl, rfl⟩
  | cons c cs ih =>
      rw [writeEscaped_cons]
      by_cases hquote : c = '\x22'
      · subst hquote
        by_cases hmore : quotes < 2
        · have hraw : (true && decide (quotes < 2)) = true := decide_eq_true hmore
          rw [if_pos rfl, if_pos hraw]
          rcases @ih (quotes + 1) hmore with ⟨count, hcount, rfl, hwritten⟩ | hshort
          · exact .inl ⟨count + 1, by omega, rfl, by rw [hwritten, List.replicate_succ]⟩
          · refine .inr fun rest => ?_
            have hrest := hshort rest
            rw [List.cons_append, List.takeWhile_cons, if_pos (decide_eq_true rfl),
              List.length_cons]
            omega
        · have hraw : ¬ (true && decide (quotes < 2)) = true := by simpa using hmore
          rw [if_pos rfl, if_neg hraw]
          exact .inr fun rest => by
            rw [List.cons_append, List.takeWhile_cons, if_neg (by decide)]
            simpa using hquotes
      · have hstart : ∀ {d : Char} (more : List Char), d ≠ '\x22' →
            ((d :: more).takeWhile (· = '\x22')).length + quotes ≤ 2 := by
          intro d more hother
          rw [List.takeWhile_cons, if_neg (by simpa using hother)]
          simpa using hquotes
        rw [if_neg hquote]
        refine .inr fun rest => ?_
        split
        · exact hstart _ hquote
        · have hwritten := written_writeChar c
          generalize writeChar c = written at hwritten
          cases hwritten with
          | plain => exact hstart _ hquote
          | escaped => exact hstart _ (by decide)

theorem splitLineEnd_eq_none {c : Char} (rest : List Char) (hline : c ≠ '\n')
    (hreturn : c ≠ '\r') : splitLineEnd (c :: rest) = none := by
  unfold splitLineEnd
  split
  · rename_i hcons
    exact absurd (List.cons.inj hcons).1 hline
  · rename_i hcons
    exact absurd (List.cons.inj hcons).1 hreturn
  · rfl

section Open

variable {quote : Char} {escapes : Bool} {rest : List Char} (fuel : Nat)

theorem scanLines_line (hopen : closingQuotes quote ('\n' :: rest) = none) :
    scanLines quote escapes (fuel + 1) ('\n' :: rest) =
      prepend ['\n'] (scanLines quote escapes fuel rest) := by
  simp only [scanLines, hopen, splitLineEnd]

theorem scanLines_plain {c : Char} (hopen : closingQuotes quote (c :: rest) = none)
    (hplain : isPlain c = true) (hline : c ≠ '\n') (hreturn : c ≠ '\r')
    (hbackslash : c = '\x5c' → escapes = false) :
    scanLines quote escapes (fuel + 1) (c :: rest) =
      prepend [c] (scanLines quote escapes fuel rest) := by
  have hother : ¬ (decide (c = '\x5c') && escapes) = true := by
    simpa using hbackslash
  rw [scanLines, hopen, splitLineEnd_eq_none rest hline hreturn]
  dsimp only
  rw [if_neg hother, if_pos hplain]

theorem scanLines_escape {escape : List Char} {c : Char} (hstands : StandsFor escape c)
    (hopen : closingQuotes quote ('\x5c' :: (escape ++ rest)) = none) :
    scanLines quote true (fuel + 1) ('\x5c' :: (escape ++ rest)) =
      prepend [c] (scanLines quote true fuel rest) := by
  simp only [scanLines, hopen, splitLineEnd_eq_none _ (show '\x5c' ≠ '\n' by decide)
    (show '\x5c' ≠ '\r' by decide), decide_true, Bool.and_self, if_true, (hstands rest).1,
    (hstands rest).2]

/-- Whatever stands for a character of a text over many lines is read as that character. -/
theorem scanLines_written {c : Char} {written : List Char}
    (hwritten : Written c written ∨ c = '\n' ∧ written = ['\n'])
    (hopen : closingQuotes quote (written ++ rest) = none) :
    scanLines quote true (fuel + 1) (written ++ rest) =
      prepend [c] (scanLines quote true fuel rest) := by
  rcases hwritten with hwritten | ⟨rfl, rfl⟩
  · cases hwritten with
    | plain hbackslash hplain hline hreturn =>
        exact scanLines_plain fuel hopen hplain hline hreturn fun h => absurd h hbackslash
    | escaped hstands => exact scanLines_escape fuel hstands hopen
  · exact scanLines_line fuel hopen

end Open

/-- How the first character of a text over many lines is written. -/
theorem exists_written_writeEscaped (c : Char) (quotes : Nat) :
    ∃ written after, (Written c written ∨ c = '\n' ∧ written = ['\n']) ∧ after ≤ 2 ∧
      ∀ cs, writeEscaped true quotes (c :: cs) = written ++ writeEscaped true after cs := by
  by_cases hquote : c = '\x22'
  · subst hquote
    by_cases hmore : quotes < 2
    · refine ⟨['\x22'], quotes + 1, .inl ?_, hmore, fun cs => ?_⟩
      · exact .plain (by decide) (by decide) (by decide) (by decide)
      · have hraw : (true && decide (quotes < 2)) = true := decide_eq_true hmore
        rw [writeEscaped_cons, if_pos rfl, if_pos hraw]
        rfl
    · have hraw : ¬ (true && decide (quotes < 2)) = true := by simpa using hmore
      refine ⟨['\x5c', '\x22'], 0, .inl (.escaped fun _ => ⟨rfl, rfl⟩), Nat.zero_le 2,
        fun cs => ?_⟩
      rw [writeEscaped_cons, if_pos rfl, if_neg hraw]
      rfl
  · by_cases hline : c = '\n'
    · subst hline
      exact ⟨['\n'], 0, .inr ⟨rfl, rfl⟩, Nat.zero_le 2, fun _ => rfl⟩
    · have hother : ¬ (decide (c = '\n') && true) = true := by simpa using hline
      refine ⟨writeChar c, 0, .inl (written_writeChar c), Nat.zero_le 2, fun cs => ?_⟩
      rw [writeEscaped_cons, if_neg hquote, if_neg hother]

/-- Quotes alone are closed by three more. -/
theorem scanLines_replicate {quote : Char} (escapes : Bool) {count fuel : Nat} (hcount : count ≤ 2)
    (hfuel : count < fuel) {rest : List Char} (hrest : ∀ c ∈ rest.head?, c ≠ quote) :
    scanLines quote escapes fuel
        (List.replicate count quote ++ quote :: quote :: quote :: rest) =
      some (List.replicate count quote, rest) := by
  obtain ⟨fuel, rfl⟩ := Nat.exists_eq_succ_of_ne_zero (Nat.ne_zero_of_lt hfuel)
  have hclosed := closingQuotes_replicate hcount hrest
  cases count with
  | zero =>
      rw [List.replicate_zero, List.nil_append] at hclosed ⊢
      rw [scanLines, hclosed]
  | succ count =>
      rw [List.replicate_succ, List.cons_append] at hclosed ⊢
      rw [scanLines, hclosed]

theorem scanLines_writeEscaped (cs rest : List Char) {quotes fuel : Nat} (hquotes : quotes ≤ 2)
    (hfuel : cs.length < fuel) (hrest : ∀ c ∈ rest.head?, c ≠ '\x22') :
    scanLines '\x22' true fuel
        (writeEscaped true quotes cs ++ '\x22' :: '\x22' :: '\x22' :: rest) =
      some (cs, rest) := by
  induction cs generalizing quotes fuel with
  | nil => exact scanLines_replicate true (Nat.zero_le 2) hfuel hrest
  | cons c cs ih =>
      rcases quotes_writeEscaped (c :: cs) hquotes with ⟨count, hcount, hall, hwritten⟩ | hshort
      · rw [hwritten, hall]
        rw [hall, List.length_replicate] at hfuel
        exact scanLines_replicate true (Nat.le_trans (Nat.le_add_right _ _) hcount) hfuel hrest
      · obtain ⟨fuel, rfl⟩ := Nat.exists_eq_succ_of_ne_zero (Nat.ne_zero_of_lt hfuel)
        have hopen := closingQuotes_eq_none (Nat.le_trans (Nat.le_add_right _ _)
          (hshort ('\x22' :: '\x22' :: '\x22' :: rest)))
        obtain ⟨written, after, hwritten, hafter, hcons⟩ := exists_written_writeEscaped c quotes
        rw [hcons, List.append_assoc] at hopen ⊢
        rw [scanLines_written fuel hwritten hopen, ih hafter (Nat.lt_of_succ_lt_succ hfuel)]
        rfl

theorem scanLines_of_shortRuns {quote : Char} {cs : List Char} (rest : List Char) {fuel : Nat}
    (hplain : ∀ c ∈ cs, isPlain c = true ∨ c = '\n') (hshort : ShortRuns quote 2 cs)
    (hfuel : cs.length < fuel) (hrest : ∀ c ∈ rest.head?, c ≠ quote) :
    scanLines quote false fuel (cs ++ quote :: quote :: quote :: rest) = some (cs, rest) := by
  induction cs generalizing fuel with
  | nil => exact scanLines_replicate false (Nat.zero_le 2) hfuel hrest
  | cons c cs ih =>
      have hfirst := hshort [] (c :: cs) rfl
      by_cases hall : ∀ d ∈ c :: cs, d = quote
      · have hquotes : c :: cs = List.replicate (cs.length + 1) quote :=
          List.eq_replicate_of_mem hall
        rw [List.takeWhile_eq_self_iff.2 fun d hmem => decide_eq_true (hall d hmem)] at hfirst
        rw [hquotes]
        exact scanLines_replicate false hfirst hfuel hrest
      · obtain ⟨fuel, rfl⟩ := Nat.exists_eq_succ_of_ne_zero (Nat.ne_zero_of_lt hfuel)
        have hopen : closingQuotes quote ((c :: cs) ++ quote :: quote :: quote :: rest) = none := by
          apply closingQuotes_eq_none
          have hlength : ¬ ((c :: cs).takeWhile (· = quote)).length = (c :: cs).length := by
            intro hlength
            have hself := (List.takeWhile_prefix (· = quote)).eq_of_length hlength
            exact hall fun d hmem => of_decide_eq_true (List.takeWhile_eq_self_iff.1 hself d hmem)
          rw [List.takeWhile_append, if_neg hlength]
          exact hfirst
        obtain ⟨hplainFirst, hplainMore⟩ := List.forall_mem_cons.1 hplain
        have hnext := ih hplainMore hshort.tail (Nat.lt_of_succ_lt_succ hfuel)
        rw [List.cons_append] at hopen ⊢
        by_cases hline : c = '\n'
        · subst hline
          rw [scanLines_line fuel hopen, hnext]
          rfl
        · have hreturn : c ≠ '\r' := by
            rintro rfl
            revert hplainFirst
            decide
          rw [scanLines_plain fuel hopen (hplainFirst.resolve_right hline) hline hreturn
            fun _ => rfl, hnext]
          rfl

/-! ## Texts of every kind -/

/-- A character that needs no escape is plain or ends a line. -/
theorem isPlain_of_needsEscape {c : Char} (hneeds : needsEscape c = false) :
    isPlain c = true ∨ c = '\n' := by
  by_cases hline : c = '\n'
  · exact .inr hline
  · refine .inl ?_
    by_cases htab : c = '\t'
    · subst htab
      decide
    · simp only [needsEscape, isPlain, ne_eq, hline, htab, not_false_eq_true, decide_true,
        decide_false, Bool.true_and, Bool.false_or, Bool.or_eq_false_iff, decide_eq_false_iff_not,
        Bool.and_eq_true, decide_eq_true_eq] at hneeds ⊢
      omega

/-- What is written for a text starts with a backslash or with its first character, which is
then no quote on one line and no return. -/
theorem exists_writeEscaped_cons (long : Bool) (c : Char) (cs : List Char) :
    ∃ first more, writeEscaped long 0 (c :: cs) = first :: more ∧
      (first = '\x5c' ∨ first = c ∧ (c = '\x22' → long = true) ∧ c ≠ '\r') := by
  rw [writeEscaped_cons]
  split_ifs with hquote hraw hline
  · have hlong : long = true := (Bool.and_eq_true_iff.1 hraw).1
    exact ⟨c, _, rfl, .inr ⟨rfl, fun _ => hlong, hquote ▸ by decide⟩⟩
  · exact ⟨_, _, rfl, .inl rfl⟩
  · have hline : c = '\n' := of_decide_eq_true (Bool.and_eq_true_iff.1 hline).1
    exact ⟨c, _, rfl, .inr ⟨rfl, fun h => absurd h hquote, hline ▸ by decide⟩⟩
  · have hwritten := written_writeChar c
    generalize writeChar c = written at hwritten
    cases hwritten with
    | plain _ _ _ hreturn => exact ⟨c, _, rfl, .inr ⟨rfl, fun h => absurd h hquote, hreturn⟩⟩
    | escaped => exact ⟨_, _, rfl, .inl rfl⟩

theorem dropLineEnd_eq_none {cs : List Char} (hfirst : ∀ c ∈ cs.head?, c ≠ '\n' ∧ c ≠ '\r') :
    dropLineEnd cs = none := by
  cases cs with
  | nil => rfl
  | cons c cs =>
      obtain ⟨hline, hreturn⟩ := hfirst c rfl
      rw [dropLineEnd, splitLineEnd_eq_none cs hline hreturn, Option.map_none]

/-- One quote opens a text that does not go on with two more. -/
theorem scanText_basic {cs : List Char} (hopen : ∀ more, cs ≠ '\x22' :: '\x22' :: more) :
    scanText ('\x22' :: cs) = scanBasic (cs.length + 1) cs := by
  rw [scanText]
  exact hopen

theorem scanText_literal {cs : List Char} (hopen : ∀ more, cs ≠ '\x27' :: '\x27' :: more) :
    scanText ('\x27' :: cs) = scanLiteral cs := by
  rw [scanText]
  exact hopen

/-- What is written on one line after its opening quote does not open a text over many lines. -/
theorem writeEscaped_ne_quotes (cs : List Char) {rest : List Char}
    (hrest : ∀ c ∈ rest.head?, c ≠ '\x22') (more : List Char) :
    writeEscaped false 0 cs ++ '\x22' :: rest ≠ '\x22' :: '\x22' :: more := by
  intro hmore
  cases cs with
  | nil =>
      obtain rfl := (List.cons.inj hmore).2
      exact hrest _ rfl rfl
  | cons c cs =>
      obtain ⟨first, others, hwritten, hfirst⟩ := exists_writeEscaped_cons false c cs
      rw [hwritten] at hmore
      obtain rfl := (List.cons.inj hmore).1
      rcases hfirst with hfirst | ⟨hsame, hlong, -⟩
      · revert hfirst
        decide
      · cases hlong hsame.symm

theorem scanBasic_of_written (cs rest : List Char) :
    scanBasic ((writeEscaped false 0 cs ++ '\x22' :: rest).length + 1)
      (writeEscaped false 0 cs ++ '\x22' :: rest) = some (cs, rest) := by
  have hlength := length_le_writeEscaped false 0 cs
  refine scanBasic_writeEscaped cs rest ?_
  rw [List.length_append]
  omega

/-- A line end is put in front of a text that has one, so none of its own is dropped. -/
theorem scanLongText_eq {quote : Char} {escapes : Bool} {cs body after : List Char}
    (hbody : ∀ fuel, cs.length < fuel → scanLines quote escapes fuel body = some (cs, after))
    (hlength : cs.length ≤ body.length)
    (hfirst : '\n' ∉ cs → ∀ c ∈ body.head?, c ≠ '\n' ∧ c ≠ '\r') :
    scanLongText quote escapes ((if cs.contains '\n' then ['\n'] else []) ++ body) =
      some (cs, after) := by
  have hdropped : (dropLineEnd ((if cs.contains '\n' then ['\n'] else []) ++ body)).getD
      ((if cs.contains '\n' then ['\n'] else []) ++ body) = body := by
    split
    · rfl
    · rename_i hnone
      rw [List.contains_iff_mem] at hnone
      rw [List.nil_append, dropLineEnd_eq_none (hfirst hnone), Option.getD_none]
  rw [scanLongText, hdropped]
  exact hbody _ (Nat.lt_succ_of_le hlength)

section Styles

variable (cs : List Char) {rest : List Char} (hrest : Unquoted rest)

include hrest

theorem scanText_basicStyle :
    scanText ('\x22' :: (writeEscaped false 0 cs ++ '\x22' :: rest)) = some (cs, rest) := by
  rw [scanText_basic (writeEscaped_ne_quotes cs fun c hc => (hrest c hc).1)]
  exact scanBasic_of_written cs rest

theorem scanText_literalStyle (hplain : ∀ c ∈ cs, isPlain c = true) (hquote : '\x27' ∉ cs) :
    scanText ('\x27' :: (cs ++ '\x27' :: rest)) = some (cs, rest) := by
  have hopen : ∀ more, cs ++ '\x27' :: rest ≠ '\x27' :: '\x27' :: more := by
    intro more hmore
    cases cs with
    | nil =>
        obtain rfl := (List.cons.inj hmore).2
        exact (hrest _ rfl).2 rfl
    | cons c cs => exact hquote ((List.cons.inj hmore).1 ▸ List.mem_cons_self)
  rw [scanText_literal hopen]
  exact scanLiteral_of_plain rest hplain hquote

theorem scanText_longBasicStyle :
    scanText ('\x22' :: '\x22' :: '\x22' :: ((if cs.contains '\n' then ['\n'] else []) ++
      (writeEscaped true 0 cs ++ '\x22' :: '\x22' :: '\x22' :: rest))) = some (cs, rest) := by
  refine scanLongText_eq (fun fuel hfuel => ?_) ?_ ?_
  · exact scanLines_writeEscaped cs rest (Nat.zero_le 2) hfuel fun c hc => (hrest c hc).1
  · have hlength := length_le_writeEscaped true 0 cs
    rw [List.length_append]
    omega
  · intro hnone c hc
    cases cs with
    | nil =>
        cases hc
        decide
    | cons d cs =>
        obtain ⟨first, others, hwritten, hfirst⟩ := exists_writeEscaped_cons true d cs
        rw [hwritten] at hc
        cases hc
        rcases hfirst with rfl | ⟨rfl, -, hreturn⟩
        · decide
        · exact ⟨fun hline => hnone (hline ▸ List.mem_cons_self), hreturn⟩

theorem scanText_longLiteralStyle (hplain : ∀ c ∈ cs, isPlain c = true ∨ c = '\n')
    (hshort : ShortRuns '\x27' 2 cs) :
    scanText ('\x27' :: '\x27' :: '\x27' :: ((if cs.contains '\n' then ['\n'] else []) ++
      (cs ++ '\x27' :: '\x27' :: '\x27' :: rest))) = some (cs, rest) := by
  refine scanLongText_eq (fun fuel hfuel => ?_) ?_ ?_
  · exact scanLines_of_shortRuns rest hplain hshort hfuel fun c hc => (hrest c hc).2
  · rw [List.length_append]
    omega
  · intro hnone c hc
    cases cs with
    | nil =>
        cases hc
        decide
    | cons d cs =>
        cases hc
        have hline : c ≠ '\n' := fun hline => hnone (hline ▸ List.mem_cons_self)
        refine ⟨hline, ?_⟩
        rintro rfl
        have hfirst := (hplain '\r' List.mem_cons_self).resolve_right hline
        revert hfirst
        decide

end Styles

/-- A text without escapes is on one line and has no quote, or few of its quotes stand next to
each other; all other characters are plain. -/
theorem styleFor_literals (cs : List Char) :
    (styleFor cs = .literal → (∀ c ∈ cs, isPlain c = true) ∧ '\x27' ∉ cs) ∧
      (styleFor cs = .longLiteral →
        (∀ c ∈ cs, isPlain c = true ∨ c = '\n') ∧ ShortRuns '\x27' 2 cs) := by
  have hplain : cs.any needsEscape = false → ∀ c ∈ cs, isPlain c = true ∨ c = '\n' :=
    fun hnone c hmem => isPlain_of_needsEscape (by simpa using List.any_eq_false.1 hnone c hmem)
  have hshort := shortRuns_longestRun '\x27' cs
  unfold styleFor
  dsimp only
  split_ifs with hbasic hliteral hlongBasic hlongLiteral
  · exact ⟨nofun, nofun⟩
  · refine ⟨fun _ => ?_, nofun⟩
    simp only [Bool.and_eq_true, Bool.not_eq_true', decide_eq_true_eq] at hliteral
    obtain ⟨⟨hcontrol, hsingles⟩, hline⟩ := hliteral
    rw [hsingles] at hshort
    refine ⟨fun c hmem => (hplain hcontrol c hmem).resolve_right ?_, hshort.not_mem⟩
    rintro rfl
    rw [List.contains_iff_mem.2 hmem] at hline
    cases hline
  · exact ⟨nofun, nofun⟩
  · refine ⟨nofun, fun _ => ?_⟩
    simp only [Bool.and_eq_true, Bool.not_eq_true', decide_eq_true_eq] at hlongLiteral
    exact ⟨hplain hlongLiteral.1, fun front back hcs =>
      Nat.le_trans (hshort front back hcs) hlongLiteral.2⟩
  · exact ⟨nofun, nofun⟩
  · exact ⟨nofun, nofun⟩

/-- A quoted text is read back as it was, whatever follows it other than a quote. -/
theorem scanText_writeString (text : String) {rest : List Char} (hrest : Unquoted rest) :
    scanText (writeString text ++ rest) = some (text.toList, rest) := by
  unfold writeString
  dsimp only
  cases hstyle : styleFor text.toList with
  | basic =>
      simpa [Style.quotes, Style.isLong] using scanText_basicStyle text.toList hrest
  | literal =>
      obtain ⟨hplain, hquote⟩ := (styleFor_literals text.toList).1 hstyle
      simpa [Style.quotes, Style.isLong] using scanText_literalStyle text.toList hrest hplain hquote
  | longBasic =>
      simpa [Style.quotes, Style.isLong] using scanText_longBasicStyle text.toList hrest
  | longLiteral =>
      obtain ⟨hplain, hshort⟩ := (styleFor_literals text.toList).2 hstyle
      simpa [Style.quotes, Style.isLong] using
        scanText_longLiteralStyle text.toList hrest hplain hshort

end CompileServer.Toml
