import Chartbook.FlowText.Reader
import Chartbook.Proofs.Graph.Firsts

/-!
The chart of a list of statements: of the nodes they speak of the first with each id, and of the edges
the first between each pair.
-/

namespace Chartbook

def Edge.pair (edge : Edge) : String × String :=
  (edge.source, edge.target)

def Edge.triple (edge : Edge) : String × String × Option String :=
  (edge.source, edge.target, edge.label)

theorem Node.isImplicit_iff (node : Node) :
    node.isImplicit = true ↔ node = Node.mentioned node.id := by
  cases node
  simp [isImplicit, mentioned, and_comm]

namespace FlowText.Statement

def mentions : Statement → List Node
  | edge source target _ => [Node.mentioned source, Node.mentioned target]
  | node declared => [declared]

def links : Statement → List Edge
  | edge source target label => [Edge.between source target label]
  | node _ => []

theorem mem_mentions {statement : Statement} {mentioned : Node} :
    mentioned ∈ statement.mentions ↔ statement = .node mentioned ∨
      ∃ source target label, statement = .edge source target label ∧
        (mentioned = Node.mentioned source ∨ mentioned = Node.mentioned target) := by
  cases statement with
  | edge source target label =>
      simp only [mentions, List.mem_cons, List.not_mem_nil, or_false, reduceCtorEq, false_or]
      constructor
      · intro same
        exact ⟨source, target, label, rfl, same⟩
      · rintro ⟨_, _, _, same, known⟩
        cases same
        exact known
  | node declared => simp [mentions, eq_comm]

theorem mem_links {statement : Statement} {link : Edge} :
    link ∈ statement.links ↔ statement = .edge link.source link.target link.label ∧
      link = Edge.between link.source link.target link.label := by
  cases statement with
  | edge source target label =>
      simp only [links, List.mem_singleton]
      constructor
      · rintro rfl
        exact ⟨rfl, rfl⟩
      · rintro ⟨same, known⟩
        cases same
        exact known
  | node declared => simp [links]

end FlowText.Statement

namespace Graph

open FlowText

variable (graph : Graph)

@[simp]
theorem declare_nodes (node : Node) :
    (graph.declare node).nodes = keepFirst Node.id graph.nodes node := by
  rw [declare, keepFirst, hasNode]
  split <;> rfl

@[simp]
theorem declare_edges (node : Node) : (graph.declare node).edges = graph.edges := by
  rw [declare]
  split <;> rfl

theorem record_nodes (statement : Statement) :
    (graph.record statement).nodes = statement.mentions.foldl (keepFirst Node.id) graph.nodes := by
  cases statement with
  | edge source target label =>
      rw [record, connect]
      split <;> simp [mention, Statement.mentions]
  | node declared => simp [record, Statement.mentions]

theorem record_edges (statement : Statement) :
    (graph.record statement).edges = statement.links.foldl (keepFirst Edge.pair) graph.edges := by
  cases statement with
  | edge source target label =>
      have same : ((graph.mention source).mention target).edges = graph.edges := by simp [mention]
      have pairs : (fun edge : Edge => edge.joins source target) =
          (Edge.pair · == Edge.pair (Edge.between source target label)) := rfl
      rw [record, connect, hasEdge, same, pairs, Statement.links, List.foldl_cons, List.foldl_nil,
        keepFirst]
      split
      · exact same
      · rfl
  | node declared => simp [record, Statement.links]

theorem foldl_record_nodes (statements : List Statement) :
    (statements.foldl record graph).nodes =
      (statements.flatMap Statement.mentions).foldl (keepFirst Node.id) graph.nodes := by
  induction statements generalizing graph with
  | nil => rfl
  | cons first rest ih => rw [List.foldl_cons, ih, record_nodes, List.flatMap_cons, List.foldl_append]

theorem foldl_record_edges (statements : List Statement) :
    (statements.foldl record graph).edges =
      (statements.flatMap Statement.links).foldl (keepFirst Edge.pair) graph.edges := by
  induction statements generalizing graph with
  | nil => rfl
  | cons first rest ih => rw [List.foldl_cons, ih, record_edges, List.flatMap_cons, List.foldl_append]

variable (statements : List Statement)

theorem ofStatements_nodes :
    (ofStatements statements).nodes = firsts Node.id (statements.flatMap Statement.mentions) :=
  foldl_record_nodes empty statements

theorem ofStatements_edges :
    (ofStatements statements).edges = firsts Edge.pair (statements.flatMap Statement.links) :=
  foldl_record_edges empty statements

theorem nodup_ids : ((ofStatements statements).nodes.map Node.id).Nodup := by
  rw [ofStatements_nodes]
  exact nodup_firsts Node.id _

theorem nodup_pairs : ((ofStatements statements).edges.map Edge.pair).Nodup := by
  rw [ofStatements_edges]
  exact nodup_firsts Edge.pair _

variable {statements}

theorem statement_of_mem_edges {edge : Edge} (member : edge ∈ (ofStatements statements).edges) :
    .edge edge.source edge.target edge.label ∈ statements ∧
      edge = Edge.between edge.source edge.target edge.label := by
  rw [ofStatements_edges] at member
  obtain ⟨statement, spoken, link⟩ := List.mem_flatMap.mp (mem_of_mem_firsts Edge.pair member)
  obtain ⟨rfl, same⟩ := Statement.mem_links.mp link
  exact ⟨spoken, same⟩

theorem exists_edge {source target : String} {label : Option String}
    (spoken : .edge source target label ∈ statements) :
    ∃ edge ∈ (ofStatements statements).edges, edge.source = source ∧ edge.target = target := by
  have member : Edge.between source target label ∈ statements.flatMap Statement.links :=
    List.mem_flatMap.mpr ⟨_, spoken, List.mem_singleton.mpr rfl⟩
  obtain ⟨edge, first, same⟩ := exists_first Edge.pair member
  rw [← ofStatements_edges] at first
  exact ⟨edge, first, congrArg Prod.fst same, congrArg Prod.snd same⟩

theorem exists_node {statement : Statement} (spoken : statement ∈ statements) {mentioned : Node}
    (member : mentioned ∈ statement.mentions) :
    ∃ node ∈ (ofStatements statements).nodes, node.id = mentioned.id := by
  have whole : mentioned ∈ statements.flatMap Statement.mentions :=
    List.mem_flatMap.mpr ⟨statement, spoken, member⟩
  obtain ⟨node, first, same⟩ := exists_first Node.id whole
  rw [← ofStatements_nodes] at first
  exact ⟨node, first, same⟩

theorem statement_of_mem_nodes {node : Node} (member : node ∈ (ofStatements statements).nodes) :
    .node node ∈ statements ∨
      node.isImplicit = true ∧ (ofStatements statements).refersTo node.id = true := by
  rw [ofStatements_nodes] at member
  obtain ⟨statement, spoken, mentioned⟩ := List.mem_flatMap.mp (mem_of_mem_firsts Node.id member)
  obtain rfl | ⟨source, target, label, rfl, known⟩ := Statement.mem_mentions.mp mentioned
  · exact .inl spoken
  · obtain ⟨edge, present, rfl, rfl⟩ := exists_edge spoken
    have implicit (id : String) : (Node.mentioned id).isImplicit = true :=
      (Node.isImplicit_iff _).mpr rfl
    right
    rw [refersTo, List.any_eq_true]
    obtain rfl | rfl := known
    · exact ⟨implicit _, edge, present, by simp [Edge.touches, Node.mentioned]⟩
    · exact ⟨implicit _, edge, present, by simp [Edge.touches, Node.mentioned]⟩

end Graph

end Chartbook
