/-
  The listing of agents.

  1. **Specification** — `InOrder` says how a stream of agents is listed: none is lost or comes twice,
     names never fall, and agents of one name stay in the order in which they came. `NodesText` says
     what is printed of a list of agents: one row or block for each, in their order, or a neutral line.
     Rows and blocks are given field by field (`rowOfAgent`, `agentFields`).

  2. **Program** — the collector sorts what it has received (`inOrder_sortAgents`), and the renderer goes
     through it once (`nodesText_renderNodes`).

  3. **Correctness** — `agents_listed_in_order`: of a complete stream the agents are collected and
     printed in the one order that `InOrder` leaves. Streams that differ only in how agents of different
     names follow each other are printed alike, to the byte.
-/
import BackupConsole.Proofs.Layout
import BackupConsole.Proofs.Listings
import BackupConsole.Proofs.NameOrder

namespace BackupConsole

open Listing Rpc Text

/-! ## The order -/

/-- Some agents in the order in which they are listed, given the order in which they came. -/
structure InOrder (items agents : List Agent) : Prop where
  perm : agents.Perm items
  ascending : Ascending Agent.nodeName agents
  stable : ∀ name, named Agent.nodeName name agents = named Agent.nodeName name items

/-- Sorted by their names, agents are in order. -/
theorem inOrder_sortAgents (items : List Agent) : InOrder items (sortAgents items) where
  perm := List.mergeSort_perm items _
  ascending := ascending_mergeSort Agent.nodeName items
  stable name := named_mergeSort Agent.nodeName name items

/-- There is no choice: of streams that agree on what each name has, the agents are listed alike. -/
theorem InOrder.unique {items others agents listed : List Agent} (h : InOrder items agents)
    (ho : InOrder others listed)
    (hn : ∀ name, named Agent.nodeName name others = named Agent.nodeName name items) :
    listed = agents := by
  refine ho.ascending.eq_of_named_eq h.ascending fun name => ?_
  rw [ho.stable name, h.stable name, hn name]

/-! ## The text -/

/-- What is printed of one agent: a block with all its fields, or a row with four of them. -/
def agentText (verbose : Bool) (a : Agent) : String :=
  if verbose then blockText (agentFields a) else rowOfAgent a ++ "\n"

/-- What is printed of some agents. -/
inductive NodesText (verbose : Bool) : List Agent → String → Prop
  /-- Without agents there is a neutral line. -/
  | neutral : NodesText verbose [] "No connected nodes found\n"
  /-- Else there is one text for each of them, in their order, below a header if they are rows. -/
  | texts {agents : List Agent} {texts : List String} : agents ≠ [] →
    List.Forall₂ (fun a text => text = agentText verbose a) agents texts →
    NodesText verbose agents ((if verbose then "" else headerLine ++ "\n") ++ String.join texts)

/-- Each agent has its own text. -/
theorem forall₂_agentText (verbose : Bool) (agents : List Agent) :
    List.Forall₂ (fun a text => text = agentText verbose a) agents
      (agents.map (agentText verbose)) := by
  induction agents with
  | nil => exact .nil
  | cons a agents ih => exact .cons rfl ih

/-- Where there are agents, the renderer writes the text of each. -/
theorem renderNodes_of_ne_nil {agents : List Agent} (h : agents ≠ []) (verbose : Bool) :
    renderNodes agents verbose =
      (if verbose then "" else headerLine ++ "\n") ++
        String.join (agents.map (agentText verbose)) := by
  have hempty : agents.isEmpty = false := List.isEmpty_eq_false_iff.mpr h
  have hblocks : (fun a => (NodeView.ofAgent a).verboseBlock) = agentText true :=
    funext verboseBlock_eq
  have hrows : (fun a => (NodeView.ofAgent a).compactRow) = agentText false := funext compactRow_eq
  cases verbose with
  | true =>
    rw [renderNodes, hempty, ← hblocks]
    exact String.empty_append.symm
  | false =>
    rw [renderNodes, hempty, ← hrows, ← compactHeader_eq]
    rfl

/-- What the renderer writes is the text of its agents. -/
theorem nodesText_renderNodes (agents : List Agent) (verbose : Bool) :
    NodesText verbose agents (renderNodes agents verbose) := by
  cases agents with
  | nil => exact .neutral
  | cons a agents =>
    have hne : a :: agents ≠ [] := List.cons_ne_nil a agents
    rw [renderNodes_of_ne_nil hne]
    exact .texts hne (forall₂_agentText verbose (a :: agents))

/-! ## The listing -/

variable {c : Coordinator} {items : List Agent}

/-- A complete stream is collected, in order. -/
theorem collectAgents_of_complete {opened : Opened Agent}
    (h : Ends false (.value opened) (.complete items)) :
    collectAgents opened.cancelled opened.events = .ok (sortAgents items) :=
  (h.listing listAgents sortAgents).result

/-- A complete stream is listed with one call and one write. -/
theorem dispatch_listNodes_of_complete (h : Ends false c.agents (.complete items)) (verbose : Bool)
    (w : Writer) :
    dispatch (.listNodes verbose) c false w =
      .ofWrite (renderNodes (sortAgents items) verbose) w [.call .agents] :=
  runListing_of_complete h listAgents sortAgents

/-- **Agents in order.** A stream of agents is received to the end of its data. The collector returns
its agents: none is lost, merged or doubled, names ascend, agents of one name stay in the order in which
they came; and no other list of agents would do. With a writer that never fails the listing prints one
row or block for each of them, in that order, or the neutral line if there is none; which field stands
where is part of `NodesText`. A stream that agrees with this one on the agents of each name, and so is a
permutation of it, is printed alike. -/
theorem agents_listed_in_order {opened : Opened Agent} {items : List Agent}
    (h : Ends false (.value opened) (.complete items)) :
    ∃ agents, collectAgents opened.cancelled opened.events = .ok agents ∧
      InOrder items agents ∧ (∀ listed, InOrder items listed → listed = agents) ∧
      (∀ (c : Coordinator) (w : Writer) (verbose : Bool), c.agents = .value opened → w.Reliable →
        ∃ text, NodesText verbose agents text ∧
          (dispatch (.listNodes verbose) c false w).written = w.written ++ utf8Bytes text) ∧
      (∀ (other : Opened Agent) (others : List Agent),
        Ends false (.value other) (.complete others) →
        (∀ name, named Agent.nodeName name others = named Agent.nodeName name items) →
        ∀ (c d : Coordinator) (w : Writer) (verbose : Bool), c.agents = .value opened →
          d.agents = .value other →
          (dispatch (.listNodes verbose) d false w).written =
            (dispatch (.listNodes verbose) c false w).written) := by
  refine ⟨sortAgents items, collectAgents_of_complete h, inOrder_sortAgents items,
    fun listed hl => (inOrder_sortAgents items).unique hl fun _ => rfl, ?_, ?_⟩
  · intro c w verbose hc hw
    refine ⟨renderNodes (sortAgents items) verbose, nodesText_renderNodes _ verbose, ?_⟩
    rw [dispatch_listNodes_of_complete (hc ▸ h), Outcome.ofWrite_of_reliable hw]
  · intro other others ho hn c d w verbose hc hd
    -- Sorting by name forgets in which order streams had the agents of different names.
    have hsorted : sortAgents others = sortAgents items :=
      (inOrder_sortAgents items).unique (inOrder_sortAgents others) hn
    rw [← hc] at h
    rw [← hd] at ho
    rw [dispatch_listNodes_of_complete h, dispatch_listNodes_of_complete ho, hsorted]

/-- An agent of which only its name and its id are known. -/
def agentOf (nodeName id : String) : Agent := { Agent.blank with nodeName := nodeName, id := id }

/-- A coordinator that streams some agents and lets the token be cancelled at the very end. -/
def coordinatorOf (items : List Agent) : Coordinator where
  agents := .value ⟨false, messages items ++ cancellations 1⟩
  catalog := .silence
  backup _ := .silence
  restore _ := .silence

/-- Agents, two of them of one name. -/
def fourAgents : List Agent :=
  [agentOf "rs1" "1", agentOf "ért" "2", agentOf "rs1" "3", agentOf "Zoe" "4"]

/-- Two agents of one name stay in order, a capital comes before small letters and a letter with an
accent behind them; a stream in which other agents come earlier is printed alike. -/
theorem four_agents_listed :
    Ends false (.value ⟨false, messages fourAgents ++ cancellations 1⟩) (.complete fourAgents) ∧
    collectAgents false (messages fourAgents ++ cancellations 1) =
      .ok [agentOf "Zoe" "4", agentOf "rs1" "1", agentOf "rs1" "3", agentOf "ért" "2"] ∧
    (dispatch (.listNodes false) (coordinatorOf [agentOf "Zoe" "4", agentOf "ért" "2",
      agentOf "rs1" "1", agentOf "rs1" "3"]) false (.fresh none)).written =
        (dispatch (.listNodes false) (coordinatorOf fourAgents) false (.fresh none)).written := by
  have hends : Ends false (.value ⟨false, messages fourAgents ++ cancellations 1⟩)
      (.complete fourAgents) := .complete fourAgents 1
  obtain ⟨agents, hcollect, -, hunique, -, halike⟩ := agents_listed_in_order hends
  refine ⟨hends, ?_, ?_⟩
  · have horder : InOrder fourAgents
        [agentOf "Zoe" "4", agentOf "rs1" "1", agentOf "rs1" "3", agentOf "ért" "2"] :=
      ⟨by decide, by decide, named_eq_iff.mpr (by decide)⟩
    rw [hunique _ horder]
    exact hcollect
  · exact halike _ _ (.complete _ 1) (named_eq_iff.mpr (by decide)) _ _ _ false rfl rfl

end BackupConsole
