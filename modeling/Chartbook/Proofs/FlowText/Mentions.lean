import Chartbook.Proofs.FlowText.Reader
import Chartbook.Proofs.FlowText.Region

/-!
The chart of a document by its statements. Main statement: the nodes and the edges are those that the
lines of the regions mention first, so that more lines at the end of a region change nothing of what was
read up to there.
-/

namespace Chartbook

namespace FlowText

variable {document : List (List Char)} {found : List Part}

/-- The parts hold the lines of the document, and each begins and ends as a part does. -/
def FallsInto (document : List (List Char)) (found : List Part) : Prop :=
  WellFenced found ∧ found.flatMap Part.lines = document

theorem fallsInto_iff : FallsInto document found ↔ parts document = found := by
  constructor
  · rintro ⟨fenced, rfl⟩
    exact parts_flatMap_lines fenced
  · rintro rfl
    exact ⟨wellFenced_parts document, flatMap_lines_parts document⟩

def spoken (found : List Part) : List Statement :=
  (found.flatMap Part.body).filterMap Statement.read?

/-- The statements of a document with these parts: those in its regions, or, where no line opens a
region, those in all its lines. -/
def spokenIn (document : List (List Char)) (found : List Part) : List Statement :=
  if ∀ line ∈ document, opens line = false then document.filterMap Statement.read? else spoken found

theorem statementsIn_of_quiet (quiet : ∀ line ∈ document, opens line = false) :
    statementsIn document = document.filterMap Statement.read? := by
  rw [statementsIn, chartLines, if_pos ((all_isProse_parts_iff document).mpr quiet)]

theorem statementsIn_eq_spokenIn (falls : FallsInto document found) :
    statementsIn document = spokenIn document found := by
  obtain rfl := fallsInto_iff.mp falls
  by_cases quiet : ∀ line ∈ document, opens line = false
  · rw [statementsIn_of_quiet quiet, spokenIn, if_pos quiet]
  · rw [statementsIn, chartLines, if_neg (mt (all_isProse_parts_iff document).mp quiet), spokenIn,
      if_neg quiet, spoken]

theorem WellFenced.opens_of_mem {opening closing : List Char} {body : List (List Char)}
    (fenced : WellFenced found) (member : .region opening body closing ∈ found) :
    opens opening = true := by
  induction fenced with
  | nil => cases member
  | prose _ _ ih => exact ih (by simpa using member)
  | region begun _ _ _ ih =>
      obtain same | later := List.mem_cons.mp member
      · cases same
        exact begun
      · exact ih later
  | unfinished => simp at member

theorem spoken_append (before after : List Part) :
    spoken (before ++ after) = spoken before ++ spoken after := by
  rw [spoken, List.flatMap_append, List.filterMap_append, spoken, spoken]

theorem spoken_eq_nil (none : ∀ part ∈ found, part.isRegion = false) : spoken found = [] := by
  rw [spoken, flatMap_body_of_no_region (by simpa using none), List.filterMap_nil]

theorem spoken_region (opening closing : List Char) (body : List (List Char)) :
    spoken [.region opening body closing] = body.filterMap Statement.read? := by
  simp [spoken, Part.body]

theorem statementsIn_of_region {opening closing : List Char} {body : List (List Char)}
    (falls : FallsInto document found) (member : .region opening body closing ∈ found) :
    statementsIn document = spoken found := by
  have fenced : ¬∀ line ∈ document, opens line = false := by
    intro quiet
    have present : opening ∈ document := by
      rw [← falls.2]
      exact List.mem_flatMap.mpr ⟨_, member, by simp [Part.lines]⟩
    have begun := falls.1.opens_of_mem member
    rw [quiet opening present] at begun
    cases begun
  rw [statementsIn_eq_spokenIn falls, spokenIn, if_neg fenced]

end FlowText

namespace Graph

open FlowText

theorem ofText_eq (text : String) :
    ofText text = ofStatements (statementsIn (Text.lines text.toList)) := rfl

theorem insertedBehind_ofStatements (read more later : List Statement) :
    InsertedBehind Node.id (ofStatements read).nodes (ofStatements (read ++ later)).nodes
        (ofStatements (read ++ more ++ later)).nodes ∧
      InsertedBehind Edge.pair (ofStatements read).edges (ofStatements (read ++ later)).edges
        (ofStatements (read ++ more ++ later)).edges := by
  simp only [ofStatements_nodes, ofStatements_edges, List.flatMap_append]
  exact ⟨insertedBehind_firsts Node.id _ _ _, insertedBehind_firsts Edge.pair _ _ _⟩

theorem prefix_ofStatements (read more : List Statement) :
    (ofStatements read).nodes <+: (ofStatements (read ++ more)).nodes ∧
      (ofStatements read).edges <+: (ofStatements (read ++ more)).edges := by
  simp only [ofStatements_nodes, ofStatements_edges, List.flatMap_append, firsts_append]
  exact ⟨List.prefix_append _ _, List.prefix_append _ _⟩

/-- Every document falls into parts in one way. Its nodes are those mentioned first under each id, in
the order of their first mention, and its edges those stated first between each pair. Lines that come to
the end of a region add nodes and edges behind those that were read up to there, which stay as they are;
where no other region follows, nothing else had been read. The same holds of lines at the end of a
document that opens no region. -/
theorem first_mentions_count :
    (∀ document, ∃! found, FallsInto document found) ∧
    (∀ (text : String) (found : List Part), FallsInto (Text.lines text.toList) found →
      let spoken := spokenIn (Text.lines text.toList) found
      (ofText text).nodes = (spoken.flatMap Statement.mentions).eraseDupsBy (sameKey Node.id) ∧
      (ofText text).edges = (spoken.flatMap Statement.links).eraseDupsBy (sameKey Edge.pair)) ∧
    (∀ (text longer : String) (before after : List Part) (opening closing : List Char)
        (body more : List (List Char)),
      FallsInto (Text.lines text.toList) (before ++ .region opening body closing :: after) →
      FallsInto (Text.lines longer.toList)
        (before ++ .region opening (body ++ more) closing :: after) →
      let read := ofStatements (spoken (before ++ [.region opening body closing]))
      InsertedBehind Node.id read.nodes (ofText text).nodes (ofText longer).nodes ∧
      InsertedBehind Edge.pair read.edges (ofText text).edges (ofText longer).edges ∧
      ((∀ part ∈ after, part.isRegion = false) → ofText text = read)) ∧
    ∀ text longer : String, Text.lines text.toList <+: Text.lines longer.toList →
      (∀ line ∈ Text.lines longer.toList, opens line = false) →
      (ofText text).nodes <+: (ofText longer).nodes ∧
      (ofText text).edges <+: (ofText longer).edges := by
  refine ⟨?_, ?_, ?_, ?_⟩
  · intro document
    exact ⟨parts document, fallsInto_iff.mpr rfl, fun _ falls => (fallsInto_iff.mp falls).symm⟩
  · intro text found falls spoken
    rw [ofText_eq, statementsIn_eq_spokenIn falls, ofStatements_nodes, ofStatements_edges]
    exact ⟨firsts_eq_eraseDupsBy Node.id _, firsts_eq_eraseDupsBy Edge.pair _⟩
  · intro text longer before after opening closing body more falls fallsLonger read
    let upTo := spoken (before ++ [.region opening body closing])
    have old : ofText text = ofStatements (upTo ++ spoken after) := by
      have among : .region opening body closing ∈ before ++ .region opening body closing :: after :=
        List.mem_append_right _ List.mem_cons_self
      rw [ofText_eq, statementsIn_of_region falls among, List.append_cons, spoken_append]
    have new : ofText longer =
        ofStatements (upTo ++ more.filterMap Statement.read? ++ spoken after) := by
      have among : .region opening (body ++ more) closing ∈
          before ++ .region opening (body ++ more) closing :: after :=
        List.mem_append_right _ List.mem_cons_self
      rw [ofText_eq, statementsIn_of_region fallsLonger among, List.append_cons, spoken_append,
        spoken_append, spoken_region, List.filterMap_append, ← spoken_region opening closing body,
        ← List.append_assoc, ← spoken_append]
    obtain ⟨nodes, edges⟩ :=
      insertedBehind_ofStatements upTo (more.filterMap Statement.read?) (spoken after)
    rw [old, new]
    refine ⟨nodes, edges, ?_⟩
    intro last
    rw [spoken_eq_nil last, List.append_nil]
  · rintro text longer ⟨more, lengthened⟩ quiet
    have quietText : ∀ line ∈ Text.lines text.toList, opens line = false := by
      intro line member
      apply quiet line
      rw [← lengthened]
      exact List.mem_append_left more member
    rw [ofText_eq, ofText_eq, statementsIn_of_quiet quietText, statementsIn_of_quiet quiet,
      ← lengthened, List.filterMap_append]
    exact prefix_ofStatements _ _

theorem mention_inserted_behind :
    let before := "```flow\n[a] -> [b]\n```\nThen\n```flow\n((c)) Late\n```"
    let after := "```flow\n[a] -> [b]\n[b] Goal\n[c] Early\n```\nThen\n```flow\n((c)) Late\n```"
    (ofText before).nodes.map Node.label = ["a", "b", "Late"] ∧
    (ofText after).nodes.map Node.label = ["a", "b", "Early"] ∧
    InsertedBehind Node.id (ofText "[a] -> [b]").nodes (ofText before).nodes (ofText after).nodes := by
  intro before after
  let region (body : List String) : Part :=
    .region flowFence (body.map String.toList) fence
  let rest : List Part := [.prose "Then".toList, region ["((c)) Late"]]
  have falls : FallsInto (Text.lines before.toList) ([] ++ region ["[a] -> [b]"] :: rest) :=
    fallsInto_iff.mpr (by decide +kernel)
  have fallsLonger : FallsInto (Text.lines after.toList)
      ([] ++ region ["[a] -> [b]", "[b] Goal", "[c] Early"] :: rest) :=
    fallsInto_iff.mpr (by decide +kernel)
  refine ⟨by decide +kernel, by decide +kernel, ?_⟩
  exact (first_mentions_count.2.2.1 before after [] rest flowFence fence ["[a] -> [b]".toList]
    ["[b] Goal".toList, "[c] Early".toList] falls fallsLonger).1

end Graph

end Chartbook
