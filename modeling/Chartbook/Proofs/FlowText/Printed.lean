import Chartbook.Proofs.FlowText.Region
import Chartbook.Proofs.FlowText.Statement
import Chartbook.Proofs.Graph.WellFormed

/-!
The statements that a chart is written as, and what is read from their lines.
-/

namespace Chartbook.FlowText

def Statement.ofEdge (edge : Edge) : Statement :=
  .edge edge.source edge.target edge.label

def printed (graph : Graph) : List Statement :=
  (graph.nodes.filter fun node => !impliedByEdges graph node).map .node ++
    graph.edges.map .ofEdge

def reread? (statement : Statement) : Option Statement :=
  Statement.read? statement.line

theorem map_line_printed (graph : Graph) :
    (printed graph).map Statement.line = declarationLines graph ++ edgeLines graph := by
  rw [printed, List.map_append, List.map_map, List.map_map]
  rfl

theorem mem_gap {declarations edges : List (List Char)} {line : List Char}
    (member : line ∈ gap declarations edges) : line = [] := by
  rw [gap] at member
  split at member
  · cases member
  · exact List.mem_singleton.mp member

theorem filterMap_gap (declarations edges : List (List Char)) :
    (gap declarations edges).filterMap Statement.read? = [] := by
  rw [List.filterMap_eq_nil_iff]
  intro line member
  rw [mem_gap member]
  decide

theorem statementsIn_region {body : List (List Char)} (inside : ∀ line ∈ body, closes line = false) :
    statementsIn (flowFence :: body ++ [fence]) = body.filterMap Statement.read? := by
  rw [statementsIn, chartLines, parts_region_append [] inside]
  simp [Part.isProse, Part.body, parts, partsFrom]

theorem exists_block_body {graph : Graph}
    (plain : ∀ statement ∈ printed graph, '\n' ∉ statement.line) :
    ∃ body, Text.pieces (block graph) = flowFence :: body ++ [fence] ∧
      (∀ line ∈ body, closes line = false) ∧
      body.filterMap Statement.read? = (printed graph).filterMap reread? := by
  let body := declarationLines graph ++ gap (declarationLines graph) (edgeLines graph) ++
    edgeLines graph
  have line_cases {line : List Char} (member : line ∈ body) :
      line = [] ∨ ∃ statement ∈ printed graph, statement.line = line := by
    rw [← List.mem_map, map_line_printed, List.mem_append]
    rw [List.mem_append, List.mem_append] at member
    obtain (declared | blank) | edge := member
    · exact .inr (.inl declared)
    · exact .inl (mem_gap blank)
    · exact .inr (.inr edge)
  have shape : regionLines graph = flowFence :: body ++ [fence] := by simp [regionLines, body]
  have bodyPlain : ∀ line ∈ body, '\n' ∉ line := by
    intro line member
    obtain rfl | ⟨statement, printed, rfl⟩ := line_cases member
    · exact List.not_mem_nil
    · exact plain statement printed
  refine ⟨body, ?_, ?_, ?_⟩
  · have opening : Text.pieces flowFence = [flowFence] := by decide
    have closing : Text.pieces fence = [fence] := by decide
    rw [block, shape, Text.pieces_unlines (by simp), List.flatMap_append, List.flatMap_cons,
      List.flatMap_singleton, opening, closing, Text.flatMap_pieces_of_not_mem bodyPlain]
    rfl
  · intro line member
    obtain rfl | ⟨statement, _, rfl⟩ := line_cases member
    · decide
    · exact statement.closes_line
  · have bare : body.filterMap Statement.read? =
        (declarationLines graph ++ edgeLines graph).filterMap Statement.read? := by
      simp only [body, List.filterMap_append, filterMap_gap, List.append_nil]
    rw [bare, ← map_line_printed, List.filterMap_map]
    rfl

theorem statements_block {graph : Graph}
    (plain : ∀ statement ∈ printed graph, '\n' ∉ statement.line) :
    statements (block graph) = (printed graph).filterMap reread? := by
  obtain ⟨body, pieces, inside, read⟩ := exists_block_body plain
  rw [statements_eq_pieces, pieces, statementsIn_region inside, read]

variable {spoken : List Statement}

theorem mem_of_mem_printed {statement : Statement}
    (member : statement ∈ printed (Graph.ofStatements spoken)) : statement ∈ spoken := by
  rw [printed, List.mem_append, List.mem_map, List.mem_map] at member
  obtain ⟨node, declared, rfl⟩ | ⟨edge, present, rfl⟩ := member
  · rw [List.mem_filter, impliedByEdges] at declared
    obtain known | ⟨implicit, referred⟩ := Graph.statement_of_mem_nodes declared.1
    · exact known
    · simp [implicit, referred] at declared
  · exact (Graph.statement_of_mem_edges present).1

theorem nodup_printed (spoken : List Statement) : (printed (Graph.ofStatements spoken)).Nodup := by
  rw [printed, List.nodup_append]
  refine ⟨?_, ?_, ?_⟩
  · have nodes := List.Nodup.of_map Node.id (Graph.nodup_ids spoken)
    exact (nodes.filter _).map (fun _ _ same => Statement.node.inj same)
  · have edges := List.Nodup.of_map Edge.pair (Graph.nodup_pairs spoken)
    refine edges.map_on ?_
    intro one first two second same
    rw [(Graph.statement_of_mem_edges first).2, (Graph.statement_of_mem_edges second).2]
    obtain ⟨source, target, label⟩ := Statement.edge.inj same
    rw [source, target, label]
  · intro declared member edge other same
    obtain ⟨_, _, rfl⟩ := List.mem_map.mp member
    obtain ⟨_, _, rfl⟩ := List.mem_map.mp other
    cases same

theorem Statement.mem_mentions_ofEdge {edge : Edge} {node : Node} :
    node ∈ (Statement.ofEdge edge).mentions ↔
      node = Node.mentioned node.id ∧ edge.touches node.id = true := by
  rw [ofEdge, mentions, List.mem_cons, List.mem_singleton, Edge.touches, Bool.or_eq_true,
    beq_iff_eq, beq_iff_eq]
  constructor
  · rintro (rfl | rfl)
    · exact ⟨rfl, .inl rfl⟩
    · exact ⟨rfl, .inr rfl⟩
  · rintro ⟨same, known | known⟩
    · exact .inl (known ▸ same)
    · exact .inr (known ▸ same)

theorem mentions_printed (graph : Graph) :
    (printed graph).flatMap Statement.mentions =
      (graph.nodes.filter fun node => !impliedByEdges graph node) ++
        graph.edges.flatMap fun edge => (Statement.ofEdge edge).mentions := by
  rw [printed, List.flatMap_append, List.flatMap_map, List.flatMap_map]
  simp [Statement.mentions]

theorem find?_mentions_iff (edges : List Edge) (node : Node) :
    (edges.flatMap fun edge => (Statement.ofEdge edge).mentions).find? (Node.id · == node.id) =
        some node ↔
      node = Node.mentioned node.id ∧ edges.any (·.touches node.id) = true := by
  constructor
  · intro first
    obtain ⟨edge, member, mentioned⟩ := List.mem_flatMap.mp (List.mem_of_find?_eq_some first)
    obtain ⟨implicit, touches⟩ := Statement.mem_mentions_ofEdge.mp mentioned
    exact ⟨implicit, List.any_eq_true.mpr ⟨edge, member, touches⟩⟩
  · rintro ⟨implicit, referred⟩
    obtain ⟨edge, member, touches⟩ := List.any_eq_true.mp referred
    have mentioned : node ∈ edges.flatMap fun edge => (Statement.ofEdge edge).mentions :=
      List.mem_flatMap.mpr
        ⟨edge, member, Statement.mem_mentions_ofEdge.mpr ⟨implicit, touches⟩⟩
    have exists_one : ((edges.flatMap fun edge =>
        (Statement.ofEdge edge).mentions).find? (Node.id · == node.id)).isSome :=
      List.find?_isSome.mpr ⟨node, mentioned, beq_self_eq_true node.id⟩
    obtain ⟨first, found⟩ := Option.isSome_iff_exists.mp exists_one
    obtain ⟨_, _, other⟩ := List.mem_flatMap.mp (List.mem_of_find?_eq_some found)
    have same : first.id = node.id := by simpa using List.find?_some found
    have bare := (Statement.mem_mentions_ofEdge.mp other).1
    rw [same, ← implicit] at bare
    rw [found, bare]

section Statements

variable {graph : Graph} (wellFormed : graph.WellFormed)
include wellFormed

theorem links_edges :
    (graph.edges.flatMap fun edge => (Statement.ofEdge edge).links) = graph.edges := by
  have same : ∀ edge ∈ graph.edges, Edge.between edge.source edge.target edge.label = edge :=
    fun edge member => (wellFormed.identified edge member).symm
  exact List.map_eq_flatMap.symm.trans ((List.map_congr_left same).trans (List.map_id' _))

theorem links_printed : (printed graph).flatMap Statement.links = graph.edges := by
  rw [printed, List.flatMap_append, List.flatMap_map, List.flatMap_map, links_edges wellFormed]
  simp [Statement.links]

theorem edges_printed : (Graph.ofStatements (printed graph)).edges = graph.edges := by
  rw [Graph.ofStatements_edges, links_printed wellFormed]
  exact firsts_of_nodup Edge.pair wellFormed.single

theorem mem_nodes_printed (node : Node) :
    node ∈ (Graph.ofStatements (printed graph)).nodes ↔ node ∈ graph.nodes := by
  rw [Graph.ofStatements_nodes, mem_firsts_iff, mentions_printed, List.find?_append]
  cases found : (graph.nodes.filter fun node => !impliedByEdges graph node).find?
      (Node.id · == node.id) with
  | some declared =>
      have member := (List.mem_filter.mp (List.mem_of_find?_eq_some found)).1
      have same : declared.id = node.id := by simpa using List.find?_some found
      rw [Option.some_or, Option.some.injEq]
      constructor
      · rintro rfl
        exact member
      · intro present
        exact wellFormed.node_unique member present same
  | none =>
      rw [Option.none_or, find?_mentions_iff]
      have implied : ∀ other ∈ graph.nodes, other.id = node.id →
          graph.refersTo node.id = true ∧ other = Node.mentioned node.id := by
        intro other member same
        have hidden : impliedByEdges graph other = true := by
          apply Classical.byContradiction
          intro shown
          apply List.find?_eq_none.mp found other
          · simpa [member] using shown
          · simpa using same
        rw [impliedByEdges, Bool.and_eq_true, Node.isImplicit_iff, same] at hidden
        exact hidden
      constructor
      · rintro ⟨implicit, referred⟩
        obtain ⟨edge, member, touches⟩ := List.any_eq_true.mp referred
        obtain ⟨other, present, same⟩ := wellFormed.exists_endpoint member touches
        rw [implicit, ← (implied other present same).2]
        exact present
      · intro present
        exact (implied node present rfl).symm

theorem perm_nodes_printed : (Graph.ofStatements (printed graph)).nodes.Perm graph.nodes := by
  refine (List.perm_ext_iff_of_nodup ?_ ?_).mpr (mem_nodes_printed wellFormed)
  · exact List.Nodup.of_map Node.id (Graph.nodup_ids _)
  · exact List.Nodup.of_map Node.id wellFormed.unique

theorem toText_printed : (Graph.ofStatements (printed graph)).toText = graph.toText := by
  have edges := edges_printed wellFormed
  have implied : impliedByEdges (Graph.ofStatements (printed graph)) = impliedByEdges graph := by
    funext node
    rw [impliedByEdges, impliedByEdges, Graph.refersTo, Graph.refersTo, edges]
  have declared : (Graph.ofStatements (printed graph)).nodes.filter
      (fun node => !impliedByEdges graph node) =
        graph.nodes.filter fun node => !impliedByEdges graph node := by
    rw [Graph.ofStatements_nodes, mentions_printed, firsts, List.foldl_append, ← firsts,
      firsts_of_nodup Node.id ((List.filter_sublist.map Node.id).nodup wellFormed.unique)]
    obtain ⟨more, mentioned, shape⟩ := exists_foldl_keepFirst Node.id
      (graph.nodes.filter fun node => !impliedByEdges graph node)
      (graph.edges.flatMap fun edge => (Statement.ofEdge edge).mentions)
    have hidden : (more.filter fun node => !impliedByEdges graph node) = [] := by
      rw [List.filter_eq_nil_iff]
      intro node member
      obtain ⟨edge, present, spoken⟩ := List.mem_flatMap.mp (mentioned node member)
      obtain ⟨implicit, touches⟩ := Statement.mem_mentions_ofEdge.mp spoken
      have referred : graph.refersTo node.id = true :=
        List.any_eq_true.mpr ⟨edge, present, touches⟩
      simp [impliedByEdges, referred, (Node.isImplicit_iff node).mpr implicit]
    rw [shape, List.filter_append, hidden, List.append_nil, List.filter_filter]
    simp
  rw [Graph.toText, Graph.toText, block, block, regionLines, regionLines, declarationLines,
    edgeLines, implied, declared, edges]
  rfl

end Statements

theorem mem_of_mem_chartLines {document : List (List Char)} {line : List Char}
    (member : line ∈ chartLines document) : line ∈ document := by
  rw [chartLines] at member
  split at member
  · exact member
  · obtain ⟨part, found, inside⟩ := List.mem_flatMap.mp member
    rw [← flatMap_lines_parts document]
    refine List.mem_flatMap.mpr ⟨part, found, ?_⟩
    cases part with
    | region opening body closing => simp_all [Part.body, Part.lines]
    | prose line => simp [Part.body] at inside
    | unfinished opening body => simp [Part.body] at inside

theorem exists_line_of_mem_statements {text : List Char} {statement : Statement}
    (member : statement ∈ statements text) :
    ∃ line, '\n' ∉ line ∧ Statement.read? line = some statement := by
  obtain ⟨line, chart, read⟩ := List.mem_filterMap.mp member
  exact ⟨line, Text.not_mem_of_mem_lines (mem_of_mem_chartLines chart), read⟩

theorem normal_of_mem_printed {text : String} {statement : Statement}
    (member : statement ∈ printed (Graph.ofText text)) :
    statement.Normal ∧ '\n' ∉ statement.line := by
  obtain ⟨line, plain, read⟩ := exists_line_of_mem_statements (mem_of_mem_printed member)
  exact ⟨Statement.normal_of_read? read, Statement.feed_not_mem_line read plain⟩

theorem ofText_toText_of_feedless {graph : Graph}
    (plain : ∀ statement ∈ printed graph, '\n' ∉ statement.line) :
    Graph.ofText graph.toText = Graph.ofStatements ((printed graph).filterMap reread?) := by
  rw [Graph.ofText, Graph.toText, String.toList_ofList, statements_block plain]

theorem ofText_toText (text : String) :
    Graph.ofText (Graph.ofText text).toText =
      Graph.ofStatements ((printed (Graph.ofText text)).filterMap reread?) :=
  ofText_toText_of_feedless fun _ member => (normal_of_mem_printed member).2

end Chartbook.FlowText
