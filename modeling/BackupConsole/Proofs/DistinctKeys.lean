/-
  The keys of a mapping are distinct.

  1. **Specification** — `Node.Tidy`: what is called a fraction is spelled like one, and no mapping in a node
     has a key twice.

  2. **Program** — the readers of nodes call one another. `Yields` says of a reader what holds of anything it
     gives. `readersTidy`: by induction on how deep they call, all of them keep nodes tidy, the node they
     give and those that are kept for aliases.

  3. **Correctness** — `tidy_of_ofText`: the documents of a text are tidy.
-/
import BackupConsole.Yaml.Node

namespace BackupConsole.Yaml

open Text

/-! ## Specification -/

namespace Node

/-- Two entries have different keys. -/
def KeysDiffer (a b : Node × Node) : Prop := sameScalar a.1 b.1 = false

/-- Fractions are spelled like fractions, and no mapping has a key twice. -/
inductive Tidy : Node → Prop
  | null : Tidy .null
  | bool (b : Bool) : Tidy (.bool b)
  | int (n : Int) : Tidy (.int n)
  | real {text : String} : isReal text = true → Tidy (.real text)
  | text (s : String) : Tidy (.text s)
  | void : Tidy .void
  | list {items : List Node} : (∀ n ∈ items, Tidy n) → Tidy (.list items)
  | map {entries : List (Node × Node)} :
    (∀ entry ∈ entries, Tidy entry.1) → (∀ entry ∈ entries, Tidy entry.2) → entries.Pairwise KeysDiffer →
    Tidy (.map entries)

/-! ## Scalars and mappings -/

/-- A plain scalar is no mapping. -/
theorem tidy_ofPlain (text : String) : (ofPlain text).Tidy := by
  unfold ofPlain
  split
  · exact .int _
  · split
    · exact .null
    · split
      · exact .bool _
      · split
        · exact .bool _
        · split
          · exact .int _
          · split
            · next hreal => exact .real hreal
            · exact .text _

theorem tidy_ofScalar (style : ScalarStyle) (text : String) (tag : Option Tag) :
    (ofScalar style text tag).Tidy := by
  unfold ofScalar
  split
  · exact .text _
  · exact tidy_ofPlain text
  · split
    · exact .text _
    · split
      · split
        · exact .bool _
        · split
          · exact .bool _
          · exact .void
      · split
        · split
          · exact .int _
          · exact .void
        · split
          · split
            · next hreal => exact .real hreal
            · exact .void
          · split
            · split
              · exact .null
              · exact .void
            · exact .text _

/-! ## What readers give -/

/-- Whatever some computation gives. -/
def Yields {α : Type} (x : Except SyntaxError α) (post : α → Prop) : Prop := ∀ a, x = .ok a → post a

section Yields

variable {α β : Type} {x : Except SyntaxError α} {f : α → Except SyntaxError β} {pre : α → Prop}
  {post : β → Prop}

theorem yields_ok {b : β} (h : post b) : Yields (.ok b) post := by
  rintro _ ⟨⟩
  exact h

theorem yields_error {e : SyntaxError} : Yields (.error e) post := nofun

/-- Two steps yield what the second one does from all that the first one can come to. -/
theorem Yields.bind (hx : Yields x pre) (hf : ∀ a, pre a → Yields (f a) post) : Yields (x >>= f) post := by
  intro b hb
  cases x with
  | error e => cases hb
  | ok a => exact hf a (hx a rfl) b hb

/-- Where nothing has to be known of what is given first. -/
theorem Yields.bind_any (hf : ∀ a, Yields (f a) post) : Yields (x >>= f) post := by
  have hx : Yields x fun _ => True := fun _ _ => trivial
  exact hx.bind fun a _ => hf a

end Yields

/-- The entries of a mapping. -/
theorem tidy_entriesOf {entries : List (Node × Node)} {key : Option Node} {nodes : List Node}
    (hentries : (Node.map entries).Tidy) (hkey : ∀ k ∈ key, k.Tidy) (hnodes : ∀ n ∈ nodes, n.Tidy) :
    Yields (entriesOf entries key nodes) fun entries => (Node.map entries).Tidy := by
  -- By induction along the nodes; only where a pair is complete does the mapping grow.
  induction entries, key, nodes using entriesOf.induct with
  | case1 entries key =>
    rw [entriesOf]
    exact yields_ok hentries
  | case2 entries rest ih =>
    rw [entriesOf]
    exact ih hentries hkey fun n hn => hnodes n (List.mem_cons_of_mem _ hn)
  | case3 entries key rest hvoid ih =>
    rw [entriesOf]
    · refine ih hentries ?_ fun n hn => hnodes n (List.mem_cons_of_mem _ hn)
      rintro _ ⟨⟩
      exact hnodes key List.mem_cons_self
    · exact hvoid
  | case4 entries key value rest hany =>
    rw [entriesOf, if_pos hany]
    exact yields_error
  | case5 entries key value rest hany ih =>
    rw [entriesOf, if_neg hany]
    refine ih ?_ nofun fun n hn => hnodes n (List.mem_cons_of_mem _ hn)
    cases hentries with
    | map hkeys hvalues hdiffer =>
      have hnew : key.Tidy ∧ value.Tidy := ⟨hkey key rfl, hnodes value List.mem_cons_self⟩
      -- The program has looked for the key among the entries, and no entry has it.
      have hnone : ∀ entry ∈ entries, KeysDiffer entry (key, value) := by
        intro entry hentry
        rw [KeysDiffer, Bool.eq_false_iff]
        exact fun hsame => hany (List.any_eq_true.mpr ⟨entry, hentry, hsame⟩)
      refine .map ?_ ?_ (List.pairwise_append.mpr ⟨hdiffer, List.pairwise_singleton _ _, ?_⟩)
      · exact List.forall_mem_append.mpr ⟨hkeys, List.forall_mem_singleton.mpr hnew.1⟩
      · exact List.forall_mem_append.mpr ⟨hvalues, List.forall_mem_singleton.mpr hnew.2⟩
      · exact fun entry hentry => List.forall_mem_singleton.mpr (hnone entry hentry)

namespace Reader

variable {r : Reader}

/-- The nodes that aliases may stand for are tidy. -/
def Tidy (r : Reader) : Prop := ∀ entry ∈ r.nodes, entry.2.Tidy

theorem Tidy.skip (h : r.Tidy) : r.skip.Tidy := h

theorem Tidy.complete (h : r.Tidy) (anchor : Option Nat) {n : Node} (hn : n.Tidy) :
    (r.complete anchor n).Tidy := by
  cases anchor with
  | none => exact h
  | some k => exact List.forall_mem_cons.mpr ⟨hn, h⟩

/-- An alias stands for a tidy node, or for none with a meaning. -/
theorem Tidy.find (h : r.Tidy) (name : String) : Yields (r.find name) Node.Tidy := by
  unfold Reader.find
  split
  · exact yields_error
  · next k _ =>
    refine yields_ok ?_
    cases hlookup : r.nodes.lookup k with
    | none => exact .void
    | some n =>
      obtain ⟨front, back, heq, -⟩ := List.lookup_eq_some_iff.mp hlookup
      exact h (k, n) (heq ▸ List.mem_append_right _ List.mem_cons_self)

/-- Anchors and tags leave what is remembered as it was. -/
theorem Tidy.readProperties (h : r.Tidy) : Yields r.readProperties fun x => x.2.2.Tidy := by
  unfold Reader.readProperties
  split
  · dsimp only
    split
    · exact Yields.bind_any fun tag => yields_ok h
    · exact yields_ok h
  · refine Yields.bind_any fun tag => ?_
    dsimp only
    split <;> exact yields_ok h
  · exact yields_ok h

/-- A tidy node, and a reader that keeps tidy nodes. -/
def One (x : Node × Reader) : Prop := x.1.Tidy ∧ x.2.Tidy

/-- The same of any number of nodes. -/
def Many (x : List Node × Reader) : Prop := (∀ n ∈ x.1, n.Tidy) ∧ x.2.Tidy

theorem Many.nil (h : r.Tidy) : Many ([], r) := ⟨nofun, h⟩

theorem Many.cons {n : Node} {items : List Node} (hn : n.Tidy) (h : Many (items, r)) :
    Many (n :: items, r) := ⟨List.forall_mem_cons.mpr ⟨hn, h.1⟩, h.2⟩

theorem One.null (h : r.Tidy) : One (.null, r) := ⟨.null, h⟩

theorem One.list {x : List Node × Reader} (h : Many x) : One (.list x.1, x.2) := ⟨.list h.1, h.2⟩

/-- A mapping of the nodes that have been read. -/
theorem Many.map {x : List Node × Reader} (h : Many x) :
    Yields (entriesOf [] none x.1) fun entries => One (.map entries, x.2) := by
  have hempty : (Node.map []).Tidy := .map nofun nofun .nil
  have hkey : ∀ key ∈ (none : Option Node), key.Tidy := nofun
  exact fun entries hentries => ⟨tidy_entriesOf hempty hkey h.1 entries hentries, h.2⟩

/-- All readers keep nodes tidy, called as deep as this. -/
structure ReadersTidy (fuel : Nat) : Prop where
  node : ∀ block indentless {r : Reader}, r.Tidy → Yields (readNode fuel block indentless r) One
  blockItems : ∀ {r : Reader}, r.Tidy → Yields (readBlockItems fuel r) Many
  indentless : ∀ {r : Reader}, r.Tidy → Yields (readIndentless fuel r) Many
  blockPairs : ∀ {r : Reader}, r.Tidy → Yields (readBlockPairs fuel r) Many
  blockValue : ∀ {r : Reader}, r.Tidy → Yields (readBlockValue fuel r) One
  flowPairs : ∀ first {r : Reader}, r.Tidy → Yields (readFlowPairs fuel first r) Many
  flowValue : ∀ {r : Reader}, r.Tidy → Yields (readFlowValue fuel r) One
  flowItems : ∀ first {r : Reader}, r.Tidy → Yields (readFlowItems fuel first r) Many
  pair : ∀ {r : Reader}, r.Tidy → Yields (readPair fuel r) One

namespace ReadersTidy

variable {fuel : Nat}

theorem zero : ReadersTidy 0 := by
  constructor <;> intros <;> exact yields_error

/-- A node is an alias, a scalar, or what one of the other readers makes of the tokens that follow. -/
theorem readNode (h : ReadersTidy fuel) (block indentless : Bool) (hr : r.Tidy) :
    Yields (Reader.readNode (fuel + 1) block indentless r) One := by
  unfold Reader.readNode
  split
  · next name _ => exact (hr.find name).bind fun n hn => yields_ok ⟨hn, hr.skip⟩
  · refine hr.readProperties.bind ?_
    rintro ⟨anchor, tag, r⟩ hr
    have hr : r.Tidy := hr
    dsimp -zeta only
    extract_lets k
    -- Every way on remembers the node under its anchor, which keeps the reader tidy.
    have hk : ∀ x, One x → Yields (k x) One :=
      fun x hx => yields_ok ⟨hx.1, hx.2.complete anchor hx.1⟩
    have hblank : One (ofScalar .plain "" tag, r) := ⟨tidy_ofScalar _ _ _, hr⟩
    split
    · split
      · exact (h.indentless hr).bind fun x hx => hk _ (.list hx)
      · split
        · exact hk _ hblank
        · exact yields_error
    · exact hk _ ⟨tidy_ofScalar _ _ _, hr.skip⟩
    · exact (h.flowItems true hr.skip).bind fun x hx => hk _ (.list hx)
    · exact (h.flowPairs true hr.skip).bind fun x hx => hx.map.bind fun entries => hk _
    · split
      · exact (h.blockItems hr.skip).bind fun x hx => hk _ (.list hx)
      · split
        · exact hk _ hblank
        · exact yields_error
    · split
      · exact (h.blockPairs hr.skip).bind fun x hx => hx.map.bind fun entries => hk _
      · split
        · exact hk _ hblank
        · exact yields_error
    · split
      · exact hk _ hblank
      · exact yields_error

/-- The items of a block sequence. -/
theorem readBlockItems (h : ReadersTidy fuel) (hr : r.Tidy) :
    Yields (Reader.readBlockItems (fuel + 1) r) Many := by
  unfold Reader.readBlockItems
  split
  · exact yields_ok (.nil hr)
  · extract_lets r k
    have hr : r.Tidy := hr.skip
    have hk : ∀ x, One x → Yields (k x) Many :=
      fun x hx => (h.blockItems hx.2).bind fun y hy => yields_ok (hy.cons hx.1)
    split
    · exact hk _ (.null hr)
    · exact hk _ (.null hr)
    · exact (h.node true false hr).bind hk
  · exact yields_error

/-- The items of a block sequence that is not indented in the mapping around it. -/
theorem readIndentless (h : ReadersTidy fuel) (hr : r.Tidy) :
    Yields (Reader.readIndentless (fuel + 1) r) Many := by
  unfold Reader.readIndentless
  split
  · extract_lets r k
    have hr : r.Tidy := hr.skip
    have hk : ∀ x, One x → Yields (k x) Many :=
      fun x hx => (h.indentless hx.2).bind fun y hy => yields_ok (hy.cons hx.1)
    split
    · exact hk _ (.null hr)
    · exact hk _ (.null hr)
    · exact hk _ (.null hr)
    · exact hk _ (.null hr)
    · exact (h.node true false hr).bind hk
  · exact yields_ok (.nil hr)

/-- The keys and values of a block mapping. -/
theorem readBlockPairs (h : ReadersTidy fuel) (hr : r.Tidy) :
    Yields (Reader.readBlockPairs (fuel + 1) r) Many := by
  unfold Reader.readBlockPairs
  split
  · exact yields_ok (.nil hr)
  · extract_lets r k
    have hr : r.Tidy := hr.skip
    -- Behind a key there is always a value, if only an empty one, and then more pairs.
    have hk : ∀ x, One x → Yields (k x) Many := fun x hx =>
      (h.blockValue hx.2).bind fun y hy => (h.blockPairs hy.2).bind fun z hz =>
        yields_ok ((hz.cons hy.1).cons hx.1)
    split
    · exact hk _ (.null hr)
    · exact hk _ (.null hr)
    · exact hk _ (.null hr)
    · exact (h.node true true hr).bind hk
  · exact (h.blockValue hr).bind fun y hy => (h.blockPairs hy.2).bind fun z hz =>
      yields_ok ((hz.cons hy.1).cons .null)
  · exact yields_error

/-- The value of an entry of a block mapping. -/
theorem readBlockValue (h : ReadersTidy fuel) (hr : r.Tidy) :
    Yields (Reader.readBlockValue (fuel + 1) r) One := by
  unfold Reader.readBlockValue
  split
  · extract_lets r
    have hr : r.Tidy := hr.skip
    split
    · exact yields_ok (.null hr)
    · exact yields_ok (.null hr)
    · exact yields_ok (.null hr)
    · exact h.node true true hr
  · exact yields_ok (.null hr)

/-- The keys and values in braces. -/
theorem readFlowPairs (h : ReadersTidy fuel) (first : Bool) (hr : r.Tidy) :
    Yields (Reader.readFlowPairs (fuel + 1) first r) Many := by
  unfold Reader.readFlowPairs
  split
  · exact yields_ok (.nil hr)
  · extract_lets behindKey behindComma
    -- Behind a key there is always a value, if only an empty one, and then more pairs.
    have hkey : ∀ x, One x → Yields (behindKey x) Many := fun x hx =>
      (h.flowValue hx.2).bind fun y hy => (h.flowPairs false hy.2).bind fun z hz =>
        yields_ok ((hz.cons hy.1).cons hx.1)
    -- What follows a comma is read as what follows the brace is, so it is said once.
    have hbehind : ∀ r : Reader, r.Tidy → Yields (behindComma r) Many := by
      intro r hr
      unfold behindComma
      split
      · exact yields_ok (.nil hr)
      · extract_lets r
        have hr : r.Tidy := hr.skip
        split
        · exact hkey _ (.null hr)
        · exact hkey _ (.null hr)
        · exact hkey _ (.null hr)
        · exact (h.node false false hr).bind hkey
      · exact (h.flowValue hr).bind fun y hy => (h.flowPairs false hy.2).bind fun z hz =>
          yields_ok ((hz.cons hy.1).cons .null)
      · exact (h.node false false hr).bind fun x hx => (h.flowPairs false hx.2).bind fun z hz =>
          yields_ok ((hz.cons .null).cons hx.1)
    split
    · exact hbehind _ hr
    · split
      · exact hbehind _ hr.skip
      · exact yields_error

/-- The value of an entry in braces. -/
theorem readFlowValue (h : ReadersTidy fuel) (hr : r.Tidy) :
    Yields (Reader.readFlowValue (fuel + 1) r) One := by
  unfold Reader.readFlowValue
  split
  · extract_lets r
    have hr : r.Tidy := hr.skip
    split
    · exact yields_ok (.null hr)
    · exact yields_ok (.null hr)
    · exact h.node false false hr
  · exact yields_ok (.null hr)

/-- The items in square brackets. -/
theorem readFlowItems (h : ReadersTidy fuel) (first : Bool) (hr : r.Tidy) :
    Yields (Reader.readFlowItems (fuel + 1) first r) Many := by
  unfold Reader.readFlowItems
  split
  · exact yields_ok (.nil hr)
  · extract_lets behindComma
    -- What follows a comma is read as what follows the bracket is, so it is said once.
    have hbehind : ∀ r : Reader, r.Tidy → Yields (behindComma r) Many := by
      intro r hr
      unfold behindComma
      split
      · exact yields_ok (.nil hr)
      · exact (h.pair hr.skip).bind fun x hx => (h.flowItems false hx.2).bind fun y hy =>
          yields_ok (hy.cons hx.1)
      · exact (h.node false false hr).bind fun x hx => (h.flowItems false hx.2).bind fun y hy =>
          yields_ok (hy.cons hx.1)
    split
    · exact hbehind _ hr
    · split
      · exact hbehind _ hr.skip
      · exact yields_error

/-- The mapping of one pair that stands in square brackets without braces of its own. -/
theorem readPair (h : ReadersTidy fuel) (hr : r.Tidy) : Yields (Reader.readPair (fuel + 1) r) One := by
  unfold Reader.readPair
  extract_lets behindKey
  have hkey : ∀ x, One x → Yields (behindKey x) One := by
    rintro ⟨key, r⟩ ⟨hkey, hr⟩
    unfold behindKey
    dsimp -zeta only
    extract_lets behindValue behindMark
    -- The pair is a mapping of two nodes, whichever of them are empty.
    have hvalue : ∀ x, One x → Yields (behindValue x) One := by
      rintro ⟨value, r⟩ ⟨hvalue, hr⟩
      have hnodes : Many ([key, value], r) := ((Many.nil hr).cons hvalue).cons hkey
      exact hnodes.map.bind fun entries => yields_ok
    have hmark : behindMark.Tidy := hr.skip
    split
    · split
      · exact hvalue _ (.null hmark)
      · exact hvalue _ (.null hmark)
      · exact (h.node false false hmark).bind hvalue
    · exact hvalue _ (.null hr)
  split
  · exact hkey _ (.null hr.skip)
  · exact hkey _ (.null hr.skip)
  · exact hkey _ (.null hr.skip)
  · exact (h.node false false hr).bind hkey

/-- One level deeper all readers keep nodes tidy if they do so up to here. -/
theorem succ (h : ReadersTidy fuel) : ReadersTidy (fuel + 1) where
  node block indentless _ := h.readNode block indentless
  blockItems := h.readBlockItems
  indentless := h.readIndentless
  blockPairs := h.readBlockPairs
  blockValue := h.readBlockValue
  flowPairs first _ := h.readFlowPairs first
  flowValue := h.readFlowValue
  flowItems first _ := h.readFlowItems first
  pair := h.readPair

end ReadersTidy

theorem readersTidy (fuel : Nat) : ReadersTidy fuel := by
  induction fuel with
  | zero => exact .zero
  | succ fuel ih => exact ih.succ

/-! ## Documents -/

theorem Tidy.readDirectives {fuel : Nat} {versioned : Bool} (h : r.Tidy) :
    Yields (r.readDirectives fuel versioned) Tidy := by
  induction fuel generalizing r versioned with
  | zero =>
    rw [Reader.readDirectives]
    exact yields_ok h
  | succ fuel ih =>
    rw [Reader.readDirectives]
    split
    · split
      · exact yields_error
      · exact ih h
    · exact ih h
    · exact yields_ok h

/-- The node of a document is tidy. -/
theorem tidy_readContent (fuel : Nat) (bare : Bool) (h : r.Tidy) : Yields (r.readContent fuel bare) One := by
  have hnode := (readersTidy fuel).node true false h
  have hmissing : Yields (if bare then readNode fuel true false r else .ok (.null, r)) One := by
    split
    · exact hnode
    · exact yields_ok (.null h)
  unfold readContent
  dsimp only
  split
  · exact hmissing
  · exact hmissing
  · exact hmissing
  · exact hmissing
  · exact hmissing
  · exact hnode

theorem tidy_readDocuments {depth fuel : Nat} {implicit : Bool} (h : r.Tidy) :
    Yields (r.readDocuments depth fuel implicit) fun documents => ∀ n ∈ documents, n.Tidy := by
  induction fuel generalizing r implicit with
  | zero =>
    rw [readDocuments]
    exact yields_error
  | succ fuel ih =>
    unfold readDocuments
    extract_lets start explicit content k
    have hstart : start.Tidy := h
    have hcontent : content.Tidy := h
    have hexplicit : Yields explicit One := by
      refine hstart.readDirectives.bind fun r hr => ?_
      split
      · exact tidy_readContent depth false hr.skip
      · exact yields_error
    -- However a document begins, behind its node the rest of the text is read in the same way.
    have hk : ∀ x, One x → Yields (k x) fun documents => ∀ n ∈ documents, n.Tidy := by
      rintro ⟨n, r⟩ ⟨hn, hr⟩
      unfold k
      dsimp -zeta only
      extract_lets r next
      have hr : r.Tidy := hr
      have hnext : Yields next fun documents => ∀ n ∈ documents, n.Tidy := by
        unfold next
        split
        · exact ih hr
        · exact yields_error
        · exact yields_error
        · exact ih hr
      refine hnext.bind fun rest hrest => yields_ok ?_
      exact List.forall_mem_cons.mpr ⟨hn, hrest⟩
    split
    · exact yields_ok nofun
    · split
      · exact hexplicit.bind hk
      · exact hexplicit.bind hk
      · exact hexplicit.bind hk
      · split
        · exact (tidy_readContent depth true hcontent).bind hk
        · exact hexplicit.bind hk

end Reader

/-- All documents of a text are tidy. -/
theorem tidy_of_ofText {text : List Char} {documents : List Node} (h : ofText text = .ok documents) :
    ∀ n ∈ documents, n.Tidy := by
  have hyields : Yields (ofText text) fun documents => ∀ n ∈ documents, n.Tidy :=
    Yields.bind_any fun tokens => Reader.tidy_readDocuments nofun
  exact hyields documents h

end Node

end BackupConsole.Yaml
