import CompileServer.Server.Frame

/-!
# Lines of bytes

Lines that hold no line feed are told apart again if each of them is followed by one, so
whatever is written line by line is read line by line.
-/

namespace CompileServer.Frame

/-- The lines of the input, before they are read as text. -/
def linesOf (bytes : List UInt8) : List (List UInt8) :=
  if (pieces bytes).getLast? = some [] then (pieces bytes).dropLast else pieces bytes

/-- Lines with a line feed after each of them. -/
def terminated (lines : List (List UInt8)) : List UInt8 :=
  lines.flatMap fun line => line ++ [0x0a]

theorem ofBytes_eq (bytes : List UInt8) : ofBytes bytes = (linesOf bytes).map ofPiece :=
  rfl

/-- The first piece ends before the first line feed. -/
theorem pieces_append {line : List UInt8} (hline : 0x0a ∉ line) (rest : List UInt8) :
    pieces (line ++ 0x0a :: rest) = line :: pieces rest := by
  induction line with
  | nil => rfl
  | cons b line ih =>
      have hfirst : ¬ b = 0x0a := fun hfeed => hline (hfeed ▸ List.mem_cons_self)
      have hmore := ih fun hfeed => hline (List.mem_cons_of_mem b hfeed)
      simp only [List.cons_append, pieces, if_neg hfirst, hmore]

theorem not_mem_of_mem_pieces {bytes piece : List UInt8} (hmem : piece ∈ pieces bytes) :
    0x0a ∉ piece := by
  induction bytes generalizing piece with
  | nil =>
      cases List.mem_singleton.1 hmem
      exact List.not_mem_nil
  | cons b rest ih =>
      simp only [pieces] at hmem
      split at hmem
      · rcases List.mem_cons.1 hmem with rfl | hmem
        · exact List.not_mem_nil
        · exact ih hmem
      · rename_i hother
        split at hmem
        · cases List.mem_singleton.1 hmem
          exact fun hfeed => hother (List.mem_singleton.1 hfeed).symm
        · rename_i first more hpieces
          rcases List.mem_cons.1 hmem with rfl | hmem
          · have hfirst := ih (hpieces ▸ List.mem_cons_self)
            exact fun hfeed => (List.mem_cons.1 hfeed).elim (fun h => hother h.symm) hfirst
          · exact ih (hpieces ▸ List.mem_cons_of_mem _ hmem)

theorem not_mem_of_mem_linesOf {bytes line : List UInt8} (hmem : line ∈ linesOf bytes) :
    0x0a ∉ line := by
  have hpiece : line ∈ pieces bytes := by
    simp only [linesOf] at hmem
    split at hmem
    · exact (List.dropLast_sublist _).mem hmem
    · exact hmem
  exact not_mem_of_mem_pieces hpiece

theorem pieces_terminated {lines : List (List UInt8)} (hlines : ∀ line ∈ lines, 0x0a ∉ line) :
    pieces (terminated lines) = lines ++ [[]] := by
  induction lines with
  | nil => rfl
  | cons line lines ih =>
      have hfirst := hlines line List.mem_cons_self
      have hrest := ih fun other hmem => hlines other (List.mem_cons_of_mem _ hmem)
      have hbytes : terminated (line :: lines) = line ++ 0x0a :: terminated lines := by
        simp [terminated]
      rw [hbytes, pieces_append hfirst, hrest, List.cons_append]

/-- Lines that are written one by one are read one by one. -/
theorem linesOf_terminated {lines : List (List UInt8)}
    (hlines : ∀ line ∈ lines, 0x0a ∉ line) : linesOf (terminated lines) = lines := by
  rw [linesOf, pieces_terminated hlines, List.getLast?_concat, if_pos rfl, List.dropLast_concat]

end CompileServer.Frame
