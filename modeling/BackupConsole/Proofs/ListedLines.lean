/-
  Which lines of a listing belong to which agent or backup.

  1. **Specification** — `lines` cuts a text at its line feeds, `breaks` counts them. A row should be one
     line, the block of an agent eleven, that of a backup ten.

  2. **Layout** — each row and block ends its last line, so the lines of a listing are those of its rows or
     blocks, one after the other (`lines_join`). All that is written around the texts of the coordinator
     makes as many lines as it should, whatever these texts are: `breaks_agentText`, `breaks_blockOfEntry`.
     Where there are no line feeds in them, a block tells all that it shows (`agentFields_eq_of_agentText_eq`,
     `lines_blockOfEntry`).

  3. **Correctness** — `lines_of_listings`: a listing has as many lines as it should, and one more for each
     line feed in the texts it shows. These are written as they came, so that one agent can print the rows
     of any number of agents (`renderNodes_forger`).
-/
import BackupConsole.Proofs.AgentListing
import BackupConsole.Proofs.CatalogListing

namespace BackupConsole

namespace Text

variable {text front : String} {texts : List String}

/-! ## Lines -/

/-- The lines of a text of which some characters, given last to first, have been read. -/
def linesFrom (line : List Char) : List Char → List String
  | [] => if line = [] then [] else [String.ofList line.reverse]
  | c :: rest =>
    if c = '\n' then String.ofList line.reverse :: linesFrom [] rest else linesFrom (c :: line) rest

/-- The lines of a text. Each ends at a line feed; what stands behind the last one is a line as well, unless
it is empty. -/
def lines (text : String) : List String := linesFrom [] text.toList

/-- How many line feeds there are in a text. -/
def breaks (text : String) : Nat := text.toList.count '\n'

/-- The line feeds in some texts together. -/
def breaksIn (texts : List String) : Nat := (texts.map breaks).sum

/-- A text that ends its last line. -/
def EndsLine (text : String) : Prop := ∃ front, text = front ++ "\n"

theorem endsLine_break (front : String) : EndsLine (front ++ "\n") := ⟨front, rfl⟩

@[simp] theorem breaks_append (front back : String) : breaks (front ++ back) = breaks front + breaks back := by
  rw [breaks, String.toList_append, List.count_append]
  rfl

@[simp] theorem breaksIn_nil : breaksIn [] = 0 := rfl

@[simp] theorem breaksIn_cons (text : String) (texts : List String) :
    breaksIn (text :: texts) = breaks text + breaksIn texts := by
  rw [breaksIn, List.map_cons, List.sum_cons]
  rfl

theorem breaksIn_append (front back : List String) :
    breaksIn (front ++ back) = breaksIn front + breaksIn back := by
  rw [breaksIn, List.map_append, List.sum_append]
  rfl

/-- The order of some texts does not change how many line feeds they have. -/
theorem breaksIn_perm {others : List String} (h : texts.Perm others) : breaksIn texts = breaksIn others :=
  (h.map breaks).sum_eq

/-- A text without line feeds has none among its characters. -/
theorem breaks_eq_zero_iff : breaks text = 0 ↔ '\n' ∉ text.toList := List.count_eq_zero

theorem breaksIn_eq_zero_iff : breaksIn texts = 0 ↔ ∀ text ∈ texts, '\n' ∉ text.toList := by
  induction texts with
  | nil => simp
  | cons text texts ih =>
    rw [breaksIn_cons, Nat.add_eq_zero_iff, breaks_eq_zero_iff, ih, List.forall_mem_cons]

/-- A line feed ends the line before it, and what follows begins a new one. -/
theorem linesFrom_break (line text rest : List Char) :
    linesFrom line (text ++ '\n' :: rest) = linesFrom line (text ++ ['\n']) ++ linesFrom [] rest := by
  induction text generalizing line with
  | nil => simp [linesFrom]
  | cons c text ih =>
    rw [List.cons_append, List.cons_append, linesFrom, linesFrom]
    split
    · rw [ih, List.cons_append]
    · exact ih (c :: line)

/-- Behind a line that has ended lines are counted anew. -/
theorem lines_append (h : EndsLine text) (rest : String) :
    lines (text ++ rest) = lines text ++ lines rest := by
  obtain ⟨front, rfl⟩ := h
  rw [lines, String.toList_append, String.toList_append, List.append_assoc]
  exact (linesFrom_break [] front.toList rest.toList).trans
    (by rw [lines, lines, String.toList_append]; rfl)

/-- Texts that end their last lines have the lines of each, joined or apart. -/
theorem lines_join (h : ∀ text ∈ texts, EndsLine text) :
    lines (String.join texts) = texts.flatMap lines := by
  induction texts with
  | nil => rfl
  | cons text texts ih =>
    rw [String.join_cons, lines_append (h text List.mem_cons_self),
      ih fun other hother => h other (List.mem_cons_of_mem _ hother), List.flatMap_cons]

/-- There is one line for each line feed, the last one included. -/
theorem length_linesFrom (line text : List Char) :
    (linesFrom line (text ++ ['\n'])).length = text.count '\n' + 1 := by
  induction text generalizing line with
  | nil => simp [linesFrom]
  | cons c text ih =>
    rw [List.cons_append, linesFrom]
    split
    · next hc => rw [List.length_cons, ih, hc, List.count_cons_self]
    · next hc => rw [ih, List.count_cons_of_ne hc]

/-- There are as many lines as line feeds, if the last one is ended. -/
theorem length_lines (h : EndsLine text) : (lines text).length = breaks text := by
  obtain ⟨front, rfl⟩ := h
  rw [breaks_append, lines, String.toList_append]
  exact length_linesFrom [] front.toList

/-- Items that are written one after the other have their own lines each; what each has beyond a given
number comes from the texts it shows. -/
theorem length_flatMap_lines {α : Type} {write : α → String} {shown : α → List String} {each : Nat}
    (hends : ∀ item, EndsLine (write item))
    (hbreaks : ∀ item, breaks (write item) = each + breaksIn (shown item)) (items : List α) :
    (items.flatMap fun item => lines (write item)).length =
      each * items.length + breaksIn (items.flatMap shown) := by
  induction items with
  | nil => rfl
  | cons item items ih =>
    rw [List.flatMap_cons, List.length_append, ih, length_lines (hends item), hbreaks item,
      List.flatMap_cons, breaksIn_append, List.length_cons, Nat.mul_succ]
    omega

/-- Characters without line feeds are a single line. -/
theorem linesFrom_of_not_mem {line text : List Char} (h : '\n' ∉ text) :
    linesFrom line (text ++ ['\n']) = [String.ofList (line.reverse ++ text)] := by
  induction text generalizing line with
  | nil => simp [linesFrom]
  | cons c text ih =>
    rw [List.mem_cons, not_or] at h
    rw [List.cons_append, linesFrom, if_neg (Ne.symm h.1), ih h.2, List.reverse_cons,
      List.append_assoc]
    rfl

/-- Without a line feed within it there is one line. -/
theorem lines_singleton (h : '\n' ∉ front.toList) : lines (front ++ "\n") = [front] := by
  rw [lines, String.toList_append]
  refine (linesFrom_of_not_mem h).trans ?_
  rw [List.reverse_nil, List.nil_append, String.ofList_toList]

/-! ## Texts of the program's own -/

theorem breaks_ofList_of_isDigit {chars : List Char} (h : ∀ c ∈ chars, c.isDigit = true) :
    breaks (String.ofList chars) = 0 := by
  rw [breaks_eq_zero_iff, String.toList_ofList]
  exact fun hmem => absurd (h _ hmem) (by decide)

@[simp] theorem breaks_natText (n : Nat) : breaks (natText n) = 0 :=
  breaks_ofList_of_isDigit fun _ => isDigit_of_mem_natDigits

@[simp] theorem breaks_intText (n : Int) : breaks (intText n) = 0 := by
  cases n with
  | ofNat n => exact breaks_natText n
  | negSucc n =>
    rw [intText, breaks_append, breaks_natText]
    rfl

@[simp] theorem breaks_boolText (b : Bool) : breaks (boolText b) = 0 := by cases b <;> rfl

@[simp] theorem breaks_pad (width : Nat) (text : String) : breaks (Listing.pad width text) = breaks text := by
  have hspaces : breaks (String.ofList (List.replicate (width - text.length) ' ')) = 0 := by
    rw [breaks_eq_zero_iff, String.toList_ofList]
    exact fun hmem => absurd (List.mem_replicate.mp hmem).2 (by decide)
  rw [Listing.pad, breaks_append, hspaces, Nat.add_zero]

theorem breaks_intercalate (texts : List String) :
    breaks (String.intercalate ", " texts) = breaksIn texts := by
  induction texts with
  | nil => rfl
  | cons text texts ih =>
    rw [breaksIn_cons, ← ih]
    cases texts with
    | nil => rw [String.intercalate_singleton, String.intercalate_nil]; rfl
    | cons next texts =>
      have hcomma : breaks ", " = 0 := by decide
      rw [String.intercalate_cons_cons, breaks_append, breaks_append, hcomma, Nat.add_zero]

end Text

/-! ## Blocks -/

namespace Listing

open Text

/-- A block ends in a line of its own. -/
theorem endsLine_blockText (fields : List (String × String)) : EndsLine (blockText fields) :=
  endsLine_break _

/-- A block has a line for each value, one for each line feed in a value, and an empty one. -/
theorem breaks_blockText {fields : List (String × String)} (h : ∀ field ∈ fields, breaks field.1 = 0) :
    breaks (blockText fields) = fields.length + 1 + breaksIn (fields.map Prod.snd) := by
  have hbreak : breaks "\n" = 1 := by decide
  induction fields with
  | nil => exact hbreak
  | cons field fields ih =>
    have hlabel := h field List.mem_cons_self
    have hrest := ih fun other hother => h other (List.mem_cons_of_mem _ hother)
    rw [blockText_cons, breaks_append, breaks_append, breaks_append, breaks_pad, hlabel, hbreak, hrest,
      List.length_cons, List.map_cons, breaksIn_cons]
    omega

/-- Without line feeds the lines of a block are its labels with their values, and an empty one. -/
theorem lines_blockText {fields : List (String × String)} (h : ∀ field ∈ fields, breaks field.1 = 0)
    (hvalues : breaksIn (fields.map Prod.snd) = 0) :
    lines (blockText fields) = fields.map labelled ++ [""] := by
  induction fields with
  | nil => decide
  | cons field fields ih =>
    rw [List.map_cons, breaksIn_cons, Nat.add_eq_zero_iff] at hvalues
    have hline : '\n' ∉ (labelled field).toList := by
      rw [← breaks_eq_zero_iff, labelled, breaks_append, breaks_pad, h field List.mem_cons_self, hvalues.1]
    have hrest := ih (fun other hother => h other (List.mem_cons_of_mem _ hother)) hvalues.2
    rw [blockText_cons, lines_append (endsLine_break _), hrest, List.map_cons, List.cons_append]
    exact congrArg (· ++ (fields.map labelled ++ [""])) (lines_singleton hline)

/-- Of values with the same labels the block tells all, if there are no line feeds among them. -/
theorem eq_of_blockText_eq {fields others : List (String × String)}
    (hlabels : fields.map Prod.fst = others.map Prod.fst) (h : ∀ field ∈ fields, breaks field.1 = 0)
    (ho : ∀ field ∈ others, breaks field.1 = 0) (hvalues : breaksIn (fields.map Prod.snd) = 0)
    (hvalues' : breaksIn (others.map Prod.snd) = 0) (heq : blockText fields = blockText others) :
    fields = others := by
  -- Fields with the same labels stand on the same lines, one for each.
  have hlines : fields.map labelled = others.map labelled := by
    have hboth := congrArg lines heq
    rw [lines_blockText h hvalues, lines_blockText ho hvalues'] at hboth
    exact List.append_cancel_right hboth
  clear h ho hvalues hvalues' heq
  -- By induction along the lines; behind a label the rest of the line is the value.
  induction fields generalizing others with
  | nil => exact (List.map_eq_nil_iff.mp hlabels.symm).symm
  | cons field fields ih =>
    cases others with
    | nil => cases hlabels
    | cons other others =>
      obtain ⟨label, value⟩ := field
      obtain ⟨label', value'⟩ := other
      simp only [List.map_cons, List.cons.injEq] at hlabels hlines
      obtain ⟨rfl, hlabels⟩ := hlabels
      obtain ⟨hline, hlines⟩ := hlines
      rw [labelled_injective _ hline, ih hlabels hlines]

end Listing

namespace Calendar

open Text

/-- A moment is written without line feeds. -/
theorem not_mem_chars (m : Moment) : '\n' ∉ m.chars := by
  have hpadded : ∀ width n, '\n' ∉ padded width n :=
    fun width n h => absurd (isDigit_of_mem_padded h) (by decide)
  have hyear : ∀ year, '\n' ∉ yearChars year := by
    intro year
    unfold yearChars
    split
    · simp [hpadded]
    · split
      · simp [hpadded]
      · exact hpadded _ _
  simp [Moment.chars, twoDigits, hpadded, hyear]

@[simp] theorem breaks_timestampText (ts : Option Timestamp) : breaks (timestampText ts) = 0 := by
  unfold timestampText
  split
  · next m _ =>
    rw [breaks_eq_zero_iff, Moment.text, String.toList_ofList]
    exact not_mem_chars m
  · rfl

end Calendar

@[simp] theorem NodeKind.breaks_label (k : NodeKind) : Text.breaks k.label = 0 := by
  cases k <;> decide

@[simp] theorem BackupKind.breaks_label (k : BackupKind) : Text.breaks k.label = 0 := by
  cases k <;> decide

@[simp] theorem Destination.breaks_label (d : Destination) : Text.breaks d.label = 0 := by
  cases d <;> decide

@[simp] theorem Compression.breaks_label (c : Compression) : Text.breaks c.label = 0 := by
  cases c <;> decide

@[simp] theorem Cipher.breaks_label (c : Cipher) : Text.breaks c.label = 0 := by
  cases c
  decide

open Calendar Listing Text

/-! ## Agents -/

/-- The texts of an agent that a listing shows. -/
def textsOfAgent (verbose : Bool) (a : Agent) : List String :=
  if verbose then [a.nodeName, a.id, a.clusterId, a.replicasetName, a.replicasetId]
  else [a.nodeName, a.replicasetName, a.clusterId]

/-- How many lines the row or block of an agent should have. -/
def linesPerAgent (verbose : Bool) : Nat := if verbose then 11 else 1

theorem agentText_compact (a : Agent) : agentText false a = rowOfAgent a ++ "\n" := rfl

/-- The lines above the rows or blocks. -/
def headerLines (verbose : Bool) : List String := if verbose then [] else [headerLine]

theorem endsLine_agentText (verbose : Bool) (a : Agent) : EndsLine (agentText verbose a) := by
  cases verbose with
  | true => exact endsLine_blockText (agentFields a)
  | false => exact endsLine_break (rowOfAgent a)

/-- The labels of a block have no line feeds, -/
theorem breaks_label_agentFields (a : Agent) : ∀ field ∈ agentFields a, breaks field.1 = 0 := by
  simp only [agentFields, List.forall_mem_cons, List.not_mem_nil, false_implies, implies_true, and_true]
  decide

/-- and its values have those of the texts that are shown. -/
theorem breaksIn_agentFields (a : Agent) :
    breaksIn ((agentFields a).map Prod.snd) = breaksIn (textsOfAgent true a) := by
  have hmarks : breaks " (" = 0 ∧ breaks ")" = 0 := by decide
  simp only [agentFields, textsOfAgent, if_true, List.map_cons, List.map_nil, breaks_append,
    breaks_intText, breaks_boolText, breaks_timestampText, NodeKind.breaks_label, breaksIn_cons,
    breaksIn_nil, hmarks]
  omega

/-- All that is written around the texts of an agent makes as many lines as it should. -/
theorem breaks_agentText (verbose : Bool) (a : Agent) :
    breaks (agentText verbose a) = linesPerAgent verbose + breaksIn (textsOfAgent verbose a) := by
  cases verbose with
  | true =>
    rw [agentText, if_pos rfl, breaks_blockText (breaks_label_agentFields a), breaksIn_agentFields]
    rfl
  | false =>
    show breaks (rowOfAgent a ++ "\n") = 1 + breaksIn [a.nodeName, a.replicasetName, a.clusterId]
    have hmarks : breaks " " = 0 ∧ breaks "\n" = 1 := by decide
    simp only [rowOfAgent, breaks_append, breaks_pad, NodeKind.breaks_label, breaksIn_cons,
      breaksIn_nil, hmarks]
    omega

/-- The header is one line, and the verbose listing has none. -/
theorem lines_header (verbose : Bool) :
    lines (if verbose then "" else headerLine ++ "\n") = headerLines verbose := by
  cases verbose <;> decide

/-- The lines of a listing are those of its header and of its agents, in their order. -/
theorem lines_renderNodes {agents : List Agent} (h : agents ≠ []) (verbose : Bool) :
    lines (renderNodes agents verbose) =
      headerLines verbose ++ agents.flatMap fun a => lines (agentText verbose a) := by
  have hheader : lines ((if verbose then "" else headerLine ++ "\n") ++
      String.join (agents.map (agentText verbose))) =
        headerLines verbose ++ lines (String.join (agents.map (agentText verbose))) := by
    rw [← lines_header]
    cases verbose with
    | true => rfl
    | false => exact lines_append (endsLine_break _) _
  have hends : ∀ text ∈ agents.map (agentText verbose), EndsLine text := by
    intro text htext
    obtain ⟨a, -, rfl⟩ := List.mem_map.mp htext
    exact endsLine_agentText verbose a
  rw [renderNodes_of_ne_nil h, hheader, lines_join hends, List.flatMap_map]

/-- How many lines a listing of agents has: those of its rows or blocks, and one more for each line feed
in a text that it shows. -/
theorem length_lines_renderNodes {agents : List Agent} (h : agents ≠ []) (verbose : Bool) :
    (lines (renderNodes agents verbose)).length =
      (if verbose then 11 * agents.length else 1 + agents.length) +
        breaksIn (agents.flatMap (textsOfAgent verbose)) := by
  rw [lines_renderNodes h, List.length_append,
    length_flatMap_lines (endsLine_agentText verbose) (breaks_agentText verbose)]
  cases verbose with
  | true => simp [headerLines, linesPerAgent]
  | false => simp [headerLines, linesPerAgent, Nat.add_assoc]

/-- **What a block tells.** Agents whose texts have no line feeds and whose blocks are the same are the same
in all that is shown of them. -/
theorem agentFields_eq_of_agentText_eq {a b : Agent}
    (ha : ∀ text ∈ textsOfAgent true a, '\n' ∉ text.toList)
    (hb : ∀ text ∈ textsOfAgent true b, '\n' ∉ text.toList)
    (h : agentText true a = agentText true b) : agentFields a = agentFields b := by
  rw [← breaksIn_eq_zero_iff, ← breaksIn_agentFields] at ha hb
  exact eq_of_blockText_eq rfl (breaks_label_agentFields a) (breaks_label_agentFields b) ha hb h

/-- Without line feeds in its texts an agent is one row. -/
theorem lines_agentText_compact {a : Agent} (h : ∀ text ∈ textsOfAgent false a, '\n' ∉ text.toList) :
    lines (agentText false a) = [rowOfAgent a] := by
  refine lines_singleton (breaks_eq_zero_iff.mp ?_)
  have hrow := breaks_agentText false a
  have hbreak : breaks "\n" = 1 := by decide
  rw [breaksIn_eq_zero_iff.mpr h, agentText_compact, breaks_append, hbreak] at hrow
  exact Nat.succ.inj hrow

/-! ## Backups -/

/-- The block of a catalog entry. -/
def blockOfEntry (entry : String × BackupRecord) : String :=
  (BackupView.ofRecord entry.1 entry.2).block

/-- The texts of a catalog entry that a listing shows. -/
def textsOfEntry (entry : String × BackupRecord) : List String :=
  entry.1 :: entry.2.description :: NameMap.names entry.2.replicasets

theorem blockOfEntry_eq (entry : String × BackupRecord) :
    blockOfEntry entry = entry.1 ++ "\n" ++ blockText (backupFields (BackupView.ofRecord entry.1 entry.2)) :=
  block_eq _

theorem endsLine_blockOfEntry (entry : String × BackupRecord) : EndsLine (blockOfEntry entry) := by
  obtain ⟨front, hfront⟩ := endsLine_blockText (backupFields (BackupView.ofRecord entry.1 entry.2))
  exact ⟨entry.1 ++ "\n" ++ front, by rw [blockOfEntry_eq, hfront, ← String.append_assoc]⟩

/-- The labels of a block have no line feeds, -/
theorem breaks_label_backupFields (v : BackupView) : ∀ field ∈ backupFields v, breaks field.1 = 0 := by
  simp only [backupFields, List.forall_mem_cons, List.not_mem_nil, false_implies, implies_true, and_true]
  decide

/-- and its values have those of the description and of the replicasets. -/
theorem breaksIn_backupFields (entry : String × BackupRecord) :
    breaksIn ((backupFields (BackupView.ofRecord entry.1 entry.2)).map Prod.snd) =
      breaksIn (entry.2.description :: NameMap.names entry.2.replicasets) := by
  have hnames : breaksIn ((NameMap.names entry.2.replicasets).mergeSort fun a b => decide (a ≤ b)) =
      breaksIn (NameMap.names entry.2.replicasets) := breaksIn_perm (List.mergeSort_perm _ _)
  simp only [backupFields, BackupView.ofRecord, List.map_cons, List.map_nil, breaks_timestampText,
    BackupKind.breaks_label, Destination.breaks_label, Compression.breaks_label, Cipher.breaks_label,
    breaks_intercalate, hnames, breaksIn_cons, breaksIn_nil]
  omega

/-- All that is written around the texts of an entry makes ten lines. -/
theorem breaks_blockOfEntry (entry : String × BackupRecord) :
    breaks (blockOfEntry entry) = 10 + breaksIn (textsOfEntry entry) := by
  have hbreak : breaks "\n" = 1 := by decide
  have hlines : (backupFields (BackupView.ofRecord entry.1 entry.2)).length = 8 := rfl
  rw [blockOfEntry_eq, breaks_append, breaks_append, breaks_blockText (breaks_label_backupFields _),
    breaksIn_backupFields, hbreak, hlines, textsOfEntry, breaksIn_cons entry.1]
  omega

/-- **What a block tells.** Without line feeds in its texts the lines of an entry are its filename, and the
values of its record behind their labels. -/
theorem lines_blockOfEntry {entry : String × BackupRecord}
    (h : ∀ text ∈ textsOfEntry entry, '\n' ∉ text.toList) :
    lines (blockOfEntry entry) =
      entry.1 :: ((backupFields (BackupView.ofRecord entry.1 entry.2)).map labelled ++ [""]) := by
  obtain ⟨hname, htexts⟩ := List.forall_mem_cons.mp h
  rw [← breaksIn_eq_zero_iff, ← breaksIn_backupFields] at htexts
  rw [blockOfEntry_eq, lines_append (endsLine_break _), lines_singleton hname,
    lines_blockText (breaks_label_backupFields _) htexts]
  rfl

/-- The lines of a catalog are those of its entries, in their order. -/
theorem lines_renderBackups {catalog : Catalog} (h : catalog ≠ []) :
    lines (renderBackups catalog) = catalog.sorted.flatMap fun entry => lines (blockOfEntry entry) := by
  have hends : ∀ text ∈ catalog.sorted.map blockOfEntry, EndsLine text := by
    intro text htext
    obtain ⟨entry, -, rfl⟩ := List.mem_map.mp htext
    exact endsLine_blockOfEntry entry
  have hempty : catalog.isEmpty = false := List.isEmpty_eq_false_iff.mpr h
  have hrender : renderBackups catalog = String.join (catalog.sorted.map blockOfEntry) := by
    rw [renderBackups, hempty]
    rfl
  rw [hrender, lines_join hends, List.flatMap_map]

/-- How many lines a listing of backups has: ten for each, and one more for each line feed in a text that
it shows. -/
theorem length_lines_renderBackups {catalog : Catalog} (h : catalog ≠ []) :
    (lines (renderBackups catalog)).length =
      10 * catalog.length + breaksIn (catalog.flatMap textsOfEntry) := by
  have hsorted : catalog.sorted.Perm catalog := List.mergeSort_perm catalog _
  rw [lines_renderBackups h, length_flatMap_lines endsLine_blockOfEntry breaks_blockOfEntry,
    hsorted.length_eq, breaksIn_perm (hsorted.flatMap_right textsOfEntry)]

/-! ## Forged rows -/

/-- Rows with a line feed before each, and one behind the last, are rows with a line feed behind each. -/
theorem join_rows (agents : List Agent) :
    String.join (agents.map fun a => "\n" ++ rowOfAgent a) ++ "\n" =
      "\n" ++ String.join (agents.map (agentText false)) := by
  induction agents with
  | nil => rfl
  | cons a agents ih =>
    rw [List.map_cons, String.join_cons, String.append_assoc, ih, List.map_cons, String.join_cons,
      agentText_compact]
    simp only [String.append_assoc]

/-- An agent whose last column, which is written up to the end of the line, goes on with the rows of
others. -/
def forger (a : Agent) (others : List Agent) : Agent :=
  { a with
    clusterId := a.clusterId ++ String.join (others.map fun b => "\n" ++ rowOfAgent b) }

/-- The forger's row is its own, with those of the others on lines behind it. -/
theorem rowOfAgent_forger (a : Agent) (others : List Agent) :
    rowOfAgent (forger a others) =
      rowOfAgent a ++ String.join (others.map fun b => "\n" ++ rowOfAgent b) := by
  simp only [forger, rowOfAgent, String.append_assoc]

/-- One agent can print the rows of any number of agents. -/
theorem renderNodes_forger (a : Agent) (others : List Agent) :
    renderNodes [forger a others] false = renderNodes (a :: others) false := by
  have hrows : String.join ([forger a others].map (agentText false)) =
      String.join ((a :: others).map (agentText false)) := by
    rw [List.map_cons, List.map_nil, String.join_cons, String.join_nil, String.append_empty,
      agentText_compact, rowOfAgent_forger, String.append_assoc, join_rows, List.map_cons,
      String.join_cons, agentText_compact, String.append_assoc]
  rw [renderNodes_of_ne_nil (List.cons_ne_nil _ _), renderNodes_of_ne_nil (List.cons_ne_nil _ _), hrows]

/-- **The lines of a listing.** Of agents or backups, if there are any, the lines are those of the header
and of each row or block, one after the other. A compact listing has one line more than agents, a verbose
one eleven for each agent, a catalog ten for each entry, if and only if there is no line feed in any of the
texts that are shown; each line feed makes one line more. Without line feeds the line behind the header's is
that of the first agent, and so on. With them nothing can be told: every compact listing of agents can be
printed by a single one. -/
theorem lines_of_listings (verbose : Bool) (agents : List Agent) (catalog : Catalog)
    (hagents : agents ≠ []) (hcatalog : catalog ≠ []) :
    (lines (renderNodes agents verbose) =
        headerLines verbose ++ (agents.flatMap fun a => lines (agentText verbose a)) ∧
      (lines (renderNodes agents verbose)).length =
        (if verbose then 11 * agents.length else 1 + agents.length) +
          breaksIn (agents.flatMap (textsOfAgent verbose)) ∧
      ((lines (renderNodes agents verbose)).length =
          (if verbose then 11 * agents.length else 1 + agents.length) ↔
        ∀ a ∈ agents, ∀ text ∈ textsOfAgent verbose a, '\n' ∉ text.toList) ∧
      ∀ a ∈ agents, (lines (agentText verbose a)).length =
        linesPerAgent verbose + breaksIn (textsOfAgent verbose a)) ∧
    ((∀ a ∈ agents, ∀ text ∈ textsOfAgent false a, '\n' ∉ text.toList) →
      lines (renderNodes agents false) = headerLine :: agents.map rowOfAgent) ∧
    (lines (renderBackups catalog) =
        (catalog.sorted.flatMap fun entry => lines (blockOfEntry entry)) ∧
      ((lines (renderBackups catalog)).length = 10 * catalog.length ↔
        ∀ entry ∈ catalog, ∀ text ∈ textsOfEntry entry, '\n' ∉ text.toList) ∧
      ∀ entry ∈ catalog, (lines (blockOfEntry entry)).length = 10 + breaksIn (textsOfEntry entry)) ∧
    ∀ a others, renderNodes [forger a others] false = renderNodes (a :: others) false := by
  -- No line feeds are counted exactly where no shown text has one.
  have hclean : ∀ {α : Type} (shown : α → List String) (items : List α),
      breaksIn (items.flatMap shown) = 0 ↔ ∀ item ∈ items, ∀ text ∈ shown item, '\n' ∉ text.toList := by
    intro α shown items
    rw [breaksIn_eq_zero_iff]
    exact ⟨fun h item hi text ht => h text (List.mem_flatMap.mpr ⟨item, hi, ht⟩), fun h text ht =>
      let ⟨item, hi, ht⟩ := List.mem_flatMap.mp ht; h item hi text ht⟩
  refine ⟨⟨lines_renderNodes hagents verbose, length_lines_renderNodes hagents verbose, ?_, ?_⟩, ?_,
    ⟨lines_renderBackups hcatalog, ?_, ?_⟩, renderNodes_forger⟩
  · -- The count is as without line feeds exactly where none is added to it.
    rw [length_lines_renderNodes hagents, ← hclean]
    omega
  · intro a _
    rw [length_lines (endsLine_agentText verbose a), breaks_agentText]
  · -- Without line feeds each row is a line.
    intro hfree
    have hrows : agents.flatMap (fun a => lines (agentText false a)) =
        agents.flatMap fun a => [rowOfAgent a] :=
      List.flatMap_congr fun a ha => lines_agentText_compact (hfree a ha)
    rw [lines_renderNodes hagents, hrows, ← List.map_eq_flatMap]
    rfl
  · rw [length_lines_renderBackups hcatalog, ← hclean]
    omega
  · intro entry _
    rw [length_lines (endsLine_blockOfEntry entry), breaks_blockOfEntry]

/-- Two agents that can be told apart by their names. -/
def twoAgents : List Agent := [agentOf "rs1" "1", agentOf "rs2" "2"]

/-- The first of them, with the row of the second in its last column. -/
def forgedAgent : Agent := forger (agentOf "rs1" "1") [agentOf "rs2" "2"]

/-- A catalog whose one filename has a line feed in it. -/
def brokenCatalog : Catalog := [("a.json\nb.json", .blank)]

/-- A single agent is listed in two rows, which are those of two agents; a single backup in eleven lines. -/
theorem forged_row_listed :
    (twoAgents ≠ [] ∧ ∀ a ∈ twoAgents, ∀ text ∈ textsOfAgent false a, '\n' ∉ text.toList) ∧
    ([forgedAgent] ≠ [] ∧ brokenCatalog ≠ []) ∧
    renderNodes [forgedAgent] false = renderNodes twoAgents false ∧
    lines (renderNodes [forgedAgent] false) =
      [headerLine, rowOfAgent (agentOf "rs1" "1"), rowOfAgent (agentOf "rs2" "2")] ∧
    (lines (renderNodes [forgedAgent] false)).length ≠ 1 + [forgedAgent].length ∧
    (lines (renderBackups brokenCatalog)).length ≠ 10 * brokenCatalog.length := by
  have htwo : twoAgents ≠ [] := List.cons_ne_nil _ _
  have htexts : ∀ a ∈ twoAgents, ∀ text ∈ textsOfAgent false a, '\n' ∉ text.toList := by decide
  have hone : [forgedAgent] ≠ [] := List.cons_ne_nil _ _
  have hbroken : brokenCatalog ≠ [] := List.cons_ne_nil _ _
  obtain ⟨-, hrows, -, hforged⟩ := lines_of_listings false twoAgents brokenCatalog htwo hbroken
  obtain ⟨⟨-, -, hagent, -⟩, -, ⟨-, hentry, -⟩, -⟩ :=
    lines_of_listings false [forgedAgent] brokenCatalog hone hbroken
  have hsame : renderNodes [forgedAgent] false = renderNodes twoAgents false := hforged _ _
  refine ⟨⟨htwo, htexts⟩, ⟨hone, hbroken⟩, hsame, ?_, fun hlength => ?_, fun hlength => ?_⟩
  · rw [hsame]
    exact hrows htexts
  · have hnone := hagent.mp hlength forgedAgent List.mem_cons_self
    exact hnone forgedAgent.clusterId (by simp [textsOfAgent]) (by decide)
  · have hnone := hentry.mp hlength _ List.mem_cons_self
    exact hnone "a.json\nb.json" List.mem_cons_self (by decide)

end BackupConsole
