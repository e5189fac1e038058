import CompileServer.Proofs.Toml.Values
import CompileServer.Proofs.Toml.Widening

/-!
# Reading lines back

Each line of a document adds to the table that was opened last, so reading is followed at one
place of the document: what stands around the place stays as it is.
-/

namespace CompileServer.Toml

/-! ## Keys -/

/-- A key starts with a character of its own or with its quote. -/
theorem exists_writeKey_cons (key : String) :
    ∃ c more, writeKey key = c :: more ∧ (isKeyChar c = true ∨ c = '\x22') := by
  unfold writeKey
  dsimp only
  split
  · rename_i hbare
    cases hkey : key.toList with
    | nil =>
        rw [hkey] at hbare
        cases hbare
    | cons c more =>
        rw [hkey, Bool.and_eq_true, List.all_cons, Bool.and_eq_true] at hbare
        exact ⟨c, more, rfl, .inl hbare.2.1⟩
  · exact ⟨_, _, rfl, .inr rfl⟩

theorem visible_of_key {c : Char} (hkey : isKeyChar c = true ∨ c = '\x22') : Visible c := by
  rcases hkey with hkey | rfl
  · exact visible_of_class hkey rfl rfl rfl rfl rfl rfl
  · decide

theorem ne_bracket_of_key {c : Char} (hkey : isKeyChar c = true ∨ c = '\x22') : c ≠ '[' := by
  rcases hkey with hkey | rfl
  · exact ne_of_class hkey rfl
  · decide

theorem scanKeyPart_writeKey (key : String) {rest : List Char}
    (hrest : ∀ c ∈ rest.head?, isKeyChar c = false ∧ c ≠ '\x22') :
    scanKeyPart (writeKey key ++ rest) = some (key, rest) := by
  unfold writeKey
  dsimp only
  split
  · rename_i hbare
    rw [Bool.and_eq_true] at hbare
    have hspan := span_append (List.all_eq_true.1 hbare.2) fun c hc => (hrest c hc).1
    cases hkey : key.toList with
    | nil =>
        rw [hkey] at hbare
        cases hbare.1
    | cons c more =>
        rw [hkey] at hbare hspan
        have hfirst : isKeyChar c = true := (Bool.and_eq_true_iff.1 hbare.2).1
        rw [List.cons_append] at hspan ⊢
        rw [scanKeyPart]
        · rw [hspan.1, hspan.2]
          dsimp only
          rw [← hkey, String.ofList_toList]
        all_goals
          intro others hcs
          exact ne_of_class hfirst rfl (List.cons.inj hcs).1
  · have hopen := writeEscaped_ne_quotes key.toList fun c hc => (hrest c hc).2
    have hquoted : '\x22' :: writeEscaped false 0 key.toList ++ ['\x22'] ++ rest =
        '\x22' :: (writeEscaped false 0 key.toList ++ '\x22' :: rest) := by
      simp only [List.cons_append, List.append_assoc, List.nil_append]
    rw [hquoted, scanKeyPart]
    · rw [scanBasic_of_written, Option.map_some]
      dsimp only
      rw [String.ofList_toList]
    · exact hopen

/-- A key of one part, before a character that does not go on with it. -/
theorem scanKeyParts_key {room : Nat} (key : String) {rest after : List Char} {c : Char}
    (hrest : ∀ c ∈ rest.head?, isKeyChar c = false ∧ c ≠ '\x22')
    (hafter : skipBlanks rest = c :: after) (hdot : c ≠ '.') :
    scanKeyParts (room + 1) (writeKey key ++ rest) = some (([], key), c :: after) := by
  obtain ⟨first, more, hwritten, hfirst⟩ := exists_writeKey_cons key
  have hpart := scanKeyPart_writeKey key hrest
  rw [hwritten, List.cons_append] at hpart ⊢
  rw [scanKeyParts, skipBlanks_visible _ (visible_of_key hfirst), hpart]
  dsimp only
  rw [hafter]
  split
  · rename_i hcs
    exact absurd (List.cons.inj hcs).1 hdot
  · rfl

theorem scanKeyParts_dot (room : Nat) (key : String) (rest : List Char) :
    scanKeyParts (room + 1) (writeKey key ++ '.' :: rest) =
      (scanKeyParts room rest).map fun ((path, name), after) => ((key :: path, name), after) := by
  obtain ⟨first, more, hwritten, hfirst⟩ := exists_writeKey_cons key
  have hpart : scanKeyPart (writeKey key ++ '.' :: rest) = some (key, '.' :: rest) :=
    scanKeyPart_writeKey key fun c hc => by
      cases hc
      decide
  rw [hwritten, List.cons_append] at hpart ⊢
  rw [scanKeyParts, skipBlanks_visible _ (visible_of_key hfirst), hpart]
  rfl

/-- The key of a header that leads on. -/
theorem intercalate_keys (key : String) (path : List String) (name : String) :
    ['.'].intercalate ((key :: path ++ [name]).map writeKey) =
      writeKey key ++ '.' :: ['.'].intercalate ((path ++ [name]).map writeKey) := by
  cases path <;> simp [List.intercalate]

theorem intercalate_key (name : String) :
    ['.'].intercalate (([] ++ [name]).map writeKey) = writeKey name := by
  simp [List.intercalate]

/-- The key of a header is read back as its path and its name. -/
theorem scanKeyParts_path (path : List String) (name : String) {room : Nat}
    (hroom : path.length < room) (rest : List Char) :
    scanKeyParts room (['.'].intercalate ((path ++ [name]).map writeKey) ++ ']' :: rest) =
      some ((path, name), ']' :: rest) := by
  induction path generalizing room with
  | nil =>
      obtain ⟨room, rfl⟩ := Nat.exists_eq_succ_of_ne_zero (Nat.ne_zero_of_lt hroom)
      rw [intercalate_key]
      exact scanKeyParts_key name (fun c hc => by cases hc; decide) rfl (by decide)
  | cons key path ih =>
      obtain ⟨room, rfl⟩ := Nat.exists_eq_succ_of_ne_zero (Nat.ne_zero_of_lt hroom)
      rw [intercalate_keys, List.append_assoc, List.cons_append, scanKeyParts_dot,
        ih (Nat.lt_of_succ_lt_succ hroom)]
      rfl

/-- The key of a header does not open the header of one table of many. -/
theorem intercalate_ne_bracket (path : List String) (name : String) (rest more : List Char) :
    ['.'].intercalate ((path ++ [name]).map writeKey) ++ rest ≠ '[' :: more := by
  have hkey : ∀ key others, writeKey key ++ others ≠ '[' :: more := by
    intro key others hothers
    obtain ⟨c, written, hwritten, hfirst⟩ := exists_writeKey_cons key
    rw [hwritten] at hothers
    exact ne_bracket_of_key hfirst (List.cons.inj hothers).1
  cases path with
  | nil =>
      rw [intercalate_key]
      exact hkey name rest
  | cons key path =>
      rw [intercalate_keys, List.append_assoc]
      exact hkey key _

/-! ## Places in a document -/

namespace Nodes

variable {nodes : Nodes} {key name : String}

theorem put_of_new (node : Node) (hnew : nodes.lookup key = none) :
    put key node nodes = nodes ++ [(key, node)] := by
  induction nodes with
  | nil => rfl
  | cons entry rest ih =>
      rw [lookup_cons_eq] at hnew
      split at hnew
      · cases hnew
      · rename_i hother
        rw [put, if_neg (Ne.symm hother), ih hnew, List.cons_append]

/-- The entry that was added last is replaced. -/
theorem put_last (old node : Node) (hnew : nodes.lookup key = none) :
    put key node (nodes ++ [(key, old)]) = nodes ++ [(key, node)] := by
  induction nodes with
  | nil => exact if_pos rfl
  | cons entry rest ih =>
      rw [lookup_cons_eq] at hnew
      split at hnew
      · cases hnew
      · rename_i hother
        rw [List.cons_append, put, if_neg (Ne.symm hother), ih hnew, List.cons_append]

/-- Keys that are new stay so when another key is added. -/
theorem lookup_added {β : Type} {others : List (String × β)} (node : Node)
    (hnew : ∀ other ∈ others, nodes.lookup other.1 = none) (hkey : key ∉ others.map Prod.fst) :
    ∀ other ∈ others, (nodes ++ [(key, node)]).lookup other.1 = none := by
  intro other hmem
  have hother : ¬ other.1 = key := fun hsame => hkey (hsame ▸ List.mem_map_of_mem hmem)
  rw [List.lookup_append, hnew other hmem, Option.none_or, lookup_cons_eq, if_neg hother,
    List.lookup_nil]

theorem changeAt_append (change : Nodes → Option Nodes) (path more : List String) (nodes : Nodes) :
    changeAt change (path ++ more) nodes = changeAt (changeAt change more) path nodes := by
  induction path generalizing nodes with
  | nil => rfl
  | cons key path ih => simp only [List.cons_append, changeAt, ih]

end Nodes

/-- At a path of a document stand some entries, and `plug` puts others in their place. -/
structure Focus (path : List String) (nodes entries : Nodes) (plug : Nodes → Nodes) : Prop where
  here : ∀ change, nodes.changeAt change path = (change entries).map plug
  again : ∀ change others, (plug others).changeAt change path = (change others).map plug

namespace Focus

variable {path : List String} {nodes entries : Nodes} {plug : Nodes → Nodes} {name : String}

theorem root (nodes : Nodes) : Focus [] nodes nodes id :=
  ⟨fun _ => Option.map_id_apply.symm, fun _ _ => Option.map_id_apply.symm⟩

theorem next (hfocus : Focus path nodes entries plug) (others : Nodes) :
    Focus path (plug others) others plug :=
  ⟨fun change => hfocus.again change others, hfocus.again⟩

/-- The table that was made there last. -/
theorem table (hfocus : Focus path nodes entries plug) (hnew : entries.lookup name = none)
    (origin : Origin) (made : Nodes) :
    Focus (path ++ [name]) (plug (entries ++ [(name, .table origin made)])) made
      fun others => plug (entries ++ [(name, .table origin others)]) := by
  have hchange : ∀ (change : Nodes → Option Nodes) (others : Nodes),
      (entries ++ [(name, Node.table origin others)]).changeAt change [name] =
        (change others).map fun changed => entries ++ [(name, .table origin changed)] := by
    intro change others
    have hfound : (entries ++ [(name, Node.table origin others)]).lookup name =
        some (.table origin others) := by
      rw [List.lookup_append, hnew, Option.none_or, lookup_cons_eq, if_pos rfl]
    simp only [Nodes.changeAt, hfound, Nodes.put_last _ _ hnew]
  have hplugged : ∀ (change : Nodes → Option Nodes) (others : Nodes),
      (plug (entries ++ [(name, Node.table origin others)])).changeAt change (path ++ [name]) =
        (change others).map fun changed => plug (entries ++ [(name, .table origin changed)]) := by
    intro change others
    rw [Nodes.changeAt_append, hfocus.again, hchange, Option.map_map]
    rfl
  exact ⟨fun change => hplugged change made, hplugged⟩

/-- A table that is not there yet is made as soon as something is added to it. -/
theorem passed (hfocus : Focus path nodes entries plug) (hnew : entries.lookup name = none) :
    Focus (path ++ [name]) nodes []
      fun others => plug (entries ++ [(name, .table .passed others)]) := by
  refine ⟨fun change => ?_, (hfocus.table hnew .passed []).again⟩
  rw [Nodes.changeAt_append, hfocus.here]
  simp only [Nodes.changeAt, hnew, Nodes.put_of_new _ hnew, Option.map_map]
  rfl

end Focus

/-! ## Lines -/

/-- Reading goes from one reading of a document to another over some text, whatever follows. -/
def Reads (text : List Char) (before after : Reading) : Prop :=
  -- Every line takes one step, and no line is empty, so a text of that length has enough of them.
  ∃ steps ≤ text.length, ∀ fuel rest,
    scanLinesFrom (fuel + steps) before (text ++ rest) = scanLinesFrom fuel after rest

namespace Reads

theorem refl (reading : Reading) : Reads [] reading reading :=
  ⟨0, Nat.le_refl 0, fun _ _ => rfl⟩

theorem trans {text more : List Char} {before between after : Reading}
    (hfirst : Reads text before between) (hsecond : Reads more between after) :
    Reads (text ++ more) before after := by
  obtain ⟨steps, hsteps, hfirst⟩ := hfirst
  obtain ⟨others, hothers, hsecond⟩ := hsecond
  refine ⟨others + steps, ?_, fun fuel rest => ?_⟩
  · rw [List.length_append]
    omega
  · rw [← Nat.add_assoc, List.append_assoc, hfirst, hsecond]

theorem blank (reading : Reading) : Reads ['\n'] reading reading :=
  ⟨1, Nat.le_refl 1, fun _ _ => rfl⟩

theorem blanks (reading : Reading) (count : Nat) :
    Reads (List.replicate count '\n') reading reading := by
  induction count with
  | zero => exact refl reading
  | succ count ih => exact (blank reading).trans ih

end Reads

/-- Where something stands on a line, the line is not finished. -/
theorem finishLine_visible {c : Char} (more : List Char) (hvisible : Visible c) :
    finishLine (c :: more) = none := by
  have ⟨_, hline, hreturn, hcomment, _⟩ := hvisible
  have hkept : skipComment (c :: more) = c :: more := by
    unfold skipComment
    split
    · rename_i hcs
      exact absurd (List.cons.inj hcs).1 hcomment
    · rfl
  rw [finishLine, skipBlanks_visible more hvisible, hkept]
  exact dropLineEnd_eq_none fun d hd => by
    cases hd
    exact ⟨hline, hreturn⟩

theorem scanLinesFrom_entry (fuel : Nat) (reading : Reading) {c : Char} (more : List Char)
    (hvisible : Visible c) (hopen : c ≠ '[') :
    scanLinesFrom (fuel + 1) reading (c :: more) =
      (scanEntry reading (c :: more)).bind fun (reading, after) =>
        scanLinesFrom fuel reading after := by
  rw [scanLinesFrom, skipBlanks_visible more hvisible]
  split
  · rename_i hcs
    cases hcs
  · rename_i hcs
    exact absurd (List.cons.inj hcs).1 hopen
  · rw [finishLine_visible more hvisible]
    cases scanEntry reading (c :: more) <;> rfl

theorem scanLinesFrom_header (fuel : Nat) (reading : Reading) (more : List Char) :
    scanLinesFrom (fuel + 1) reading ('[' :: more) =
      (scanHeader reading more).bind fun (reading, after) =>
        scanLinesFrom fuel reading after := by
  have hkept : skipBlanks ('[' :: more) = '[' :: more := rfl
  cases hread : scanHeader reading more with
  | none => simp only [scanLinesFrom, hkept, hread, Option.bind_none]
  | some found => simp only [scanLinesFrom, hkept, hread, Option.bind_some]

theorem scanEntry_of_key {reading : Reading} {cs rest after : List Char} {name : String}
    {value : Value} {nodes : Nodes} (hkey : scanKey cs = some (([], name), '=' :: rest))
    (hvalue : scanValue nestingLimit (rest.length + 1) (skipBlanks rest) =
      some (value, '\n' :: after))
    (hnodes : reading.nodes.changeAt (Nodes.add [] name value) reading.header = some nodes) :
    scanEntry reading cs = some (⟨nodes, reading.header⟩, after) := by
  rw [scanEntry, hkey]
  change ((scanValue nestingLimit (rest.length + 1) (skipBlanks rest)).bind fun found =>
    (reading.nodes.changeAt (Nodes.add [] name found.1) reading.header).bind fun nodes =>
      (finishLine found.2).bind fun after => some ((⟨nodes, reading.header⟩ : Reading), after)) = _
  rw [hvalue, Option.bind_some, hnodes]
  rfl

theorem scanHeader_of_key {reading : Reading} {cs after : List Char} {path : List String}
    {name : String} {nodes : Nodes} (hopen : ∀ more, cs ≠ '[' :: more)
    (hkey : scanKey cs = some ((path, name), ']' :: '\n' :: after))
    (hnodes : reading.nodes.changeAt (Nodes.openTable name) path = some nodes) :
    scanHeader reading cs = some (⟨nodes, path ++ [name]⟩, after) := by
  rw [scanHeader]
  · rw [hkey]
    change ((reading.nodes.changeAt (Nodes.openTable name) path).bind fun nodes =>
      (finishLine ('\n' :: after)).bind fun after =>
        some ((⟨nodes, path ++ [name]⟩ : Reading), after)) = _
    rw [hnodes]
    rfl
  · exact hopen

/-- What is written for an entry of a table that gets no section. -/
def writeLine (entry : String × Value) : List Char :=
  writeKey entry.1 ++ " = ".toList ++ writeValue entry.2 ++ ['\n']

section Places

variable {path : List String} {nodes entries : Nodes} {plug : Nodes → Nodes}

theorem scanEntry_writeLine {entry : String × Value} (hfocus : Focus path nodes entries plug)
    (hnew : entries.lookup entry.1 = none) (hlegible : Legible nestingLimit entry.2)
    (rest : List Char) :
    scanEntry ⟨nodes, path⟩ (writeLine entry ++ rest) =
      some (⟨plug (entries ++ [(entry.1, .value entry.2)]), path⟩, rest) := by
  obtain ⟨key, value⟩ := entry
  dsimp only at hnew hlegible
  obtain ⟨c, more, hwritten, hvisible⟩ := hlegible.starts
  have hline : writeLine (key, value) ++ rest =
      writeKey key ++ ' ' :: '=' :: ' ' :: (writeValue value ++ '\n' :: rest) := by
    simp [writeLine]
  have hkey : scanKey (writeLine (key, value) ++ rest) =
      some (([], key), '=' :: ' ' :: (writeValue value ++ '\n' :: rest)) := by
    rw [hline]
    exact scanKeyParts_key key (fun d hd => by cases hd; decide) rfl (by decide)
  have hblank : skipBlanks (' ' :: (writeValue value ++ '\n' :: rest)) =
      writeValue value ++ '\n' :: rest := by
    rw [hwritten]
    exact skipBlanks_visible _ hvisible
  have hvalue : scanValue nestingLimit ((' ' :: (writeValue value ++ '\n' :: rest)).length + 1)
      (skipBlanks (' ' :: (writeValue value ++ '\n' :: rest))) = some (value, '\n' :: rest) := by
    rw [hblank]
    refine hlegible.reads ?_ ⟨'\n', rest, rfl, .inl rfl⟩
    rw [List.length_cons, List.length_append]
    omega
  have hadd : nodes.changeAt (Nodes.add [] key value) path =
      some (plug (entries ++ [(key, .value value)])) := by
    rw [hfocus.here, Nodes.add, hnew, Nodes.put_of_new _ hnew]
    rfl
  exact scanEntry_of_key hkey hvalue hadd

theorem reads_line {entry : String × Value} (hfocus : Focus path nodes entries plug)
    (hnew : entries.lookup entry.1 = none) (hlegible : Legible nestingLimit entry.2) :
    Reads (writeLine entry) ⟨nodes, path⟩
      ⟨plug (entries ++ [(entry.1, .value entry.2)]), path⟩ := by
  obtain ⟨c, more, hkey, hfirst⟩ := exists_writeKey_cons entry.1
  have hline : ∃ others, writeLine entry = c :: others := by
    rw [writeLine, hkey]
    exact ⟨_, rfl⟩
  obtain ⟨others, hline⟩ := hline
  refine ⟨1, by rw [hline]; exact Nat.succ_le_succ (Nat.zero_le _), fun fuel rest => ?_⟩
  have hread := scanEntry_writeLine hfocus hnew hlegible rest
  rw [hline, List.cons_append] at hread ⊢
  rw [scanLinesFrom_entry fuel _ _ (visible_of_key hfirst) (ne_bracket_of_key hfirst), hread]
  rfl

theorem reads_header {name : String} (hfocus : Focus path nodes entries plug)
    (hnew : entries.lookup name = none) (hpath : path.length < nestingLimit)
    (header : List String) :
    Reads (writeHeader (path ++ [name])) ⟨nodes, header⟩
      ⟨plug (entries ++ [(name, .table .opened [])]), path ++ [name]⟩ := by
  refine ⟨1, Nat.succ_le_succ (Nat.zero_le _), fun fuel rest => ?_⟩
  have hopened : nodes.changeAt (Nodes.openTable name) path =
      some (plug (entries ++ [(name, .table .opened [])])) := by
    rw [hfocus.here, Nodes.openTable, hnew, Nodes.put_of_new _ hnew]
    rfl
  have hheader : writeHeader (path ++ [name]) ++ rest =
      '[' :: (['.'].intercalate ((path ++ [name]).map writeKey) ++ ']' :: '\n' :: rest) := by
    simp [writeHeader]
  have hkey := scanKeyParts_path path name hpath ('\n' :: rest)
  have hread : scanHeader ⟨nodes, header⟩
      (['.'].intercalate ((path ++ [name]).map writeKey) ++ ']' :: '\n' :: rest) = _ :=
    scanHeader_of_key (intercalate_ne_bracket path name _) hkey hopened
  rw [hheader, scanLinesFrom_header, hread]
  rfl

/-- Lines add the values of their entries in the order in which they stand. -/
theorem reads_lines {lines : Table} (hfocus : Focus path nodes entries plug)
    (hmade : nodes = plug entries) (hkeys : (lines.map Prod.fst).Nodup)
    (hnew : ∀ entry ∈ lines, entries.lookup entry.1 = none)
    (hlegible : ∀ entry ∈ lines, Legible nestingLimit entry.2) :
    Reads (lines.flatMap writeLine) ⟨nodes, path⟩
      ⟨plug (entries ++ lines.map fun entry => (entry.1, .value entry.2)), path⟩ := by
  induction lines generalizing nodes entries with
  | nil =>
      rw [hmade, List.map_nil, List.append_nil]
      exact .refl _
  | cons entry lines ih =>
      obtain ⟨hfirst, hrest⟩ := List.nodup_cons.1 hkeys
      obtain ⟨hentry, hothers⟩ := List.forall_mem_cons.1 hnew
      obtain ⟨hvalue, hvalues⟩ := List.forall_mem_cons.1 hlegible
      have hnext := ih (hfocus.next _) rfl hrest
        (Nodes.lookup_added (.value entry.2) hothers hfirst) hvalues
      rw [List.append_assoc] at hnext
      exact (reads_line hfocus hentry hvalue).trans hnext

end Places

end CompileServer.Toml
