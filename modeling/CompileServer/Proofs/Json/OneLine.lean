import CompileServer.Json.Printer
import CompileServer.Proofs.Server.Framing

/-!
# Values on one line

Every character below the space is escaped in the text of a value, so the text stays on one
line whatever the value carries, and texts that are written line by line are read line by line.
-/

namespace CompileServer

/-- No character is below the space. -/
def Plain (text : List Char) : Prop :=
  ∀ c ∈ text, 0x20 ≤ c.toNat

instance (text : List Char) : Decidable (Plain text) :=
  List.decidableBAll (fun c : Char => 0x20 ≤ c.toNat) text

namespace Plain

variable {c : Char} {first second text : List Char}

theorem nil : Plain [] :=
  fun _ hmem => absurd hmem List.not_mem_nil

theorem cons (hc : 0x20 ≤ c.toNat) (htext : Plain text) : Plain (c :: text) :=
  List.forall_mem_cons.2 ⟨hc, htext⟩

theorem append (hfirst : Plain first) (hsecond : Plain second) : Plain (first ++ second) :=
  List.forall_mem_append.2 ⟨hfirst, hsecond⟩

theorem of_subset (htext : Plain text) (hsubset : ∀ c ∈ first, c ∈ text) : Plain first :=
  fun c hmem => htext c (hsubset c hmem)

theorem replicate (count : Nat) (hc : 0x20 ≤ c.toNat) : Plain (List.replicate count c) :=
  fun _ hmem => (List.eq_of_mem_replicate hmem) ▸ hc

theorem flatMap {α : Type} {items : List α} {f : α → List Char} (hf : ∀ x, Plain (f x)) :
    Plain (items.flatMap f) := by
  intro c hmem
  obtain ⟨x, -, hc⟩ := List.mem_flatMap.1 hmem
  exact hf x c hc

end Plain

/-! ## Numbers -/

theorem digitChar_ge : ∀ digit : Nat, 0x20 ≤ digit.digitChar.toNat
  | 0 | 1 | 2 | 3 | 4 | 5 | 6 | 7 | 8 | 9 | 10 | 11 | 12 | 13 | 14 | 15 => by decide
  | digit + 16 => by simp [Nat.digitChar]

theorem plain_toDigits {base : Nat} (hbase : 1 < base) (number : Nat) :
    Plain (Nat.toDigits base number) := by
  induction number using Nat.strongRecOn with
  | ind number ih =>
      rw [Nat.toDigits_eq_if hbase]
      split
      · exact .cons (digitChar_ge number) .nil
      · rename_i hlarge
        have hsmaller : number / base < number := Nat.div_lt_self (by omega) hbase
        exact (ih _ hsmaller).append (.cons (digitChar_ge _) .nil)

theorem plain_natDigits (number : Nat) : Plain (natDigits number) :=
  plain_toDigits (by decide) number

theorem plain_intDigits (number : Int) : Plain (intDigits number) := by
  cases number with
  | ofNat number => exact plain_natDigits number
  | negSucc number => exact .cons (by decide) (plain_natDigits _)

theorem DecimalStyle.plain_writeExponent (style : DecimalStyle) (power : Int) :
    Plain (style.writeExponent power) := by
  refine .cons (by decide) (.append ?_ (plain_intDigits power))
  split
  · exact .cons (by decide) .nil
  · exact .nil

theorem DecimalStyle.plain_write (style : DecimalStyle) (decimal : Decimal) :
    Plain (style.write decimal) := by
  have hdigits := plain_natDigits decimal.digits
  have hmark : Plain (if style.marksWhole then ['.', '0'] else []) := by
    split
    · exact .cons (by decide) (.cons (by decide) .nil)
    · exact .nil
  have hzeros : ∀ count, Plain (List.replicate count '0') := fun count =>
    .replicate count (by decide)
  simp only [write]
  split
  · exact .cons (by decide) hmark
  · split
    · refine .append ?_ (plain_writeExponent _ _)
      cases hfirst : natDigits decimal.digits with
      | nil => exact .nil
      | cons digit rest =>
          rw [hfirst] at hdigits
          obtain ⟨hdigit, hrest⟩ := List.forall_mem_cons.1 hdigits
          cases rest with
          | nil => exact hdigits
          | cons => exact .cons hdigit (.cons (by decide) hrest)
    · split
      · exact (hdigits.append (hzeros _)).append hmark
      · split
        · exact (hdigits.of_subset fun _ => List.mem_of_mem_take).append
            (.cons (by decide) (hdigits.of_subset fun _ => List.mem_of_mem_drop))
        · exact .append (.cons (by decide) (.cons (by decide) (hzeros _))) hdigits

theorem Number.plain_write (style : DecimalStyle) (number : Number) :
    Plain (number.write style) := by
  cases number with
  | whole value => exact plain_intDigits value
  | fractional value =>
      refine .append ?_ (style.plain_write _)
      split
      · exact .cons (by decide) .nil
      · exact .nil

/-! ## Values -/

namespace Json

theorem plain_escapeChar (c : Char) : Plain (escapeChar c) := by
  have hescape : ∀ mark : Char, 0x20 ≤ mark.toNat → Plain ['\x5c', mark] := fun mark hmark =>
    .cons (by decide) (.cons hmark .nil)
  have hhex : Plain (fourHexDigits c.toNat) :=
    .append (.replicate _ (by decide)) (plain_toDigits (by decide) _)
  simp only [escapeChar]
  repeat' split
  any_goals exact hescape _ (by decide)
  · exact .cons (by decide) (.cons (by decide) hhex)
  · rename_i hshown
    exact .cons (Nat.le_of_not_lt hshown) .nil

theorem plain_writeString (text : String) : Plain (writeString text) :=
  .cons (by decide) (.append (.flatMap plain_escapeChar) (.cons (by decide) .nil))

mutual

/-- The text of a value holds no character below the space. -/
theorem plain_write : ∀ value : Json, Plain value.write
  | .null | .bool true | .bool false => by decide
  | .num value => value.plain_write .document
  | .str text => plain_writeString text
  | .arr items => .cons (by decide) ((plain_writeItems items).append (.cons (by decide) .nil))
  | .obj members =>
      .cons (by decide) ((plain_writeMembers members).append (.cons (by decide) .nil))

theorem plain_writeItems : ∀ items : List Json, Plain (writeItems items)
  | [] => .nil
  | [item] => plain_write item
  | item :: next :: rest =>
      (plain_write item).append (.cons (by decide) (plain_writeItems (next :: rest)))

theorem plain_writeMembers : ∀ members : List (String × Json), Plain (writeMembers members)
  | [] => .nil
  | [(key, value)] => (plain_writeString key).append (.cons (by decide) (plain_write value))
  | (key, value) :: next :: rest =>
      .append ((plain_writeString key).append (.cons (by decide) (plain_write value)))
        (.cons (by decide) (plain_writeMembers (next :: rest)))

end

theorem plain_compact (value : Json) : Plain value.compact.toList := by
  rw [compact, String.toList_ofList]
  exact plain_write value

end Json

/-! ## Lines -/

namespace Frame

/-- A byte of a longer code is no line feed. -/
theorem ofNat_ne_lineFeed {number : Nat} (hlow : 0x80 ≤ number) (hhigh : number < 0x100) :
    (0x0a : UInt8) ≠ UInt8.ofNat number := by
  intro hsame
  have hnumber := congrArg UInt8.toNat hsame
  rw [UInt8.toNat_ofNat_of_lt' hhigh] at hnumber
  change 0x0a = number at hnumber
  omega

/-- Only a line feed is written with the byte of a line feed. -/
theorem not_mem_utf8EncodeChar {c : Char} (hc : 0x20 ≤ c.toNat) :
    (0x0a : UInt8) ∉ String.utf8EncodeChar c := by
  simp only [String.utf8EncodeChar]
  split
  · rename_i hsmall
    change c.toNat ≤ 0x7f at hsmall
    intro hmem
    have hnumber := congrArg UInt8.toNat (List.mem_singleton.1 hmem)
    change 0x0a = c.toNat % 0x100 at hnumber
    omega
  · repeat' split
    all_goals
      simp only [List.mem_cons, List.not_mem_nil, or_false, not_or]
      repeat' constructor
      all_goals exact ofNat_ne_lineFeed (by omega) (by omega)

theorem data_toUTF8 (text : String) :
    text.toUTF8.data.toList = text.toList.flatMap String.utf8EncodeChar := by
  rw [String.toUTF8_eq_toByteArray, ← String.utf8Encode_toList, List.utf8Encode,
    List.data_toByteArray]

theorem not_mem_toUTF8 {text : String} (hplain : Plain text.toList) :
    0x0a ∉ text.toUTF8.data.toList := by
  rw [data_toUTF8, List.mem_flatMap]
  intro ⟨c, hc, hfeed⟩
  exact not_mem_utf8EncodeChar (hplain c hc) hfeed

theorem ofPiece_toUTF8 (text : String) : ofPiece text.toUTF8.data.toList = .line text := by
  have hread : String.fromUTF8? text.toUTF8 = some text := dif_pos text.isValidUTF8
  rw [ofPiece, Array.toArray_toList, hread]

/-- Plain texts that are written line by line are read line by line. -/
theorem ofBytes_terminated {texts : List String} (hplain : ∀ text ∈ texts, Plain text.toList) :
    ofBytes (terminated (texts.map fun text => text.toUTF8.data.toList)) =
      texts.map Frame.line := by
  rw [ofBytes_eq, linesOf_terminated, List.map_map]
  · exact List.map_congr_left fun text _ => ofPiece_toUTF8 text
  · intro line hmem
    obtain ⟨text, htext, rfl⟩ := List.mem_map.1 hmem
    exact not_mem_toUTF8 (hplain text htext)

end Frame

end CompileServer
