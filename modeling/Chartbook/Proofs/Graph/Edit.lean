import Chartbook.Graph.Edit
import Chartbook.Proofs.Graph.WellFormed
import Chartbook.Proofs.Text.Blank

/-!
Edits of charts. Every edit brings in no other nodes than those it speaks of, and writes no untidy label
on an edge. Main statement: a well-formed chart stays well-formed through any edits.
-/

namespace Chartbook

def Edit.introduces : Edit → List Node
  | addNode id label kind => [{ id, label := (Text.nonBlank? label).getD id, kind }]
  | addEdge source target _ => [.mentioned source, .mentioned target]
  | replace nodes edges =>
      nodes ++ edges.flatMap fun edge => [.mentioned edge.source, .mentioned edge.target]
  | removeNode _ => []
  | removeEdge .. => []

def Edge.TidyLabel (edge : Edge) : Prop :=
  ∀ label ∈ edge.label, Text.Tidy label.toList

namespace Graph

variable {graph : Graph}

theorem ids_declare (graph : Graph) (node : Node) (id : String) :
    id ∈ (graph.declare node).nodes.map Node.id ↔ id ∈ graph.nodes.map Node.id ∨ id = node.id := by
  rw [declare]
  split
  · rename_i known
    rw [hasNode_iff] at known
    constructor
    · exact .inl
    · rintro (present | rfl)
      · exact present
      · exact known
  · simp

theorem anchors_declare (graph : Graph) (node : Node) {edge : Edge}
    (anchored : graph.anchors edge = true) : (graph.declare node).anchors edge = true := by
  rw [anchors_iff] at anchored ⊢
  rw [ids_declare, ids_declare]
  exact ⟨.inl anchored.1, .inl anchored.2⟩

theorem mem_declare {node other : Node} (member : other ∈ (graph.declare node).nodes) :
    other ∈ graph.nodes ∨ other = node := by
  rw [declare] at member
  split at member
  · exact .inl member
  · simpa using member

def readyFor (graph : Graph) (source target : String) : Graph :=
  (graph.mention source).mention target

theorem readyFor_edges (graph : Graph) (source target : String) :
    (graph.readyFor source target).edges = graph.edges := by
  simp [readyFor, mention]

theorem mem_readyFor {source target : String} {node : Node}
    (member : node ∈ (graph.readyFor source target).nodes) :
    node ∈ graph.nodes ∨ node = .mentioned source ∨ node = .mentioned target := by
  obtain earlier | last := mem_declare member
  · exact (mem_declare earlier).imp_right .inl
  · exact .inr (.inr last)

theorem anchors_readyFor (graph : Graph) (source target : String) (label : Option String) :
    (graph.readyFor source target).anchors (Edge.between source target label) = true := by
  rw [anchors_iff, readyFor, mention, ids_declare, ids_declare, mention, ids_declare]
  exact ⟨.inl (.inr rfl), .inr rfl⟩

theorem pairs_relabel (source target : String) (label : Option String) (edges : List Edge) :
    (relabel source target label edges).map Edge.pair = edges.map Edge.pair := by
  induction edges with
  | nil => rfl
  | cons edge rest ih =>
      rw [relabel]
      split
      · rfl
      · rw [List.map_cons, List.map_cons, ih]

theorem mem_relabel {source target : String} {label : Option String} {edges : List Edge} {edge : Edge}
    (identified : ∀ old ∈ edges, old = Edge.between old.source old.target old.label)
    (member : edge ∈ relabel source target label edges) :
    edge ∈ edges ∨ edge = Edge.between source target label := by
  induction edges with
  | nil => exact absurd member List.not_mem_nil
  | cons first rest ih =>
      rw [relabel] at member
      split at member
      · rename_i joined
        rcases List.mem_cons.mp member with rfl | later
        · right
          obtain ⟨from_source, to_target⟩ : first.source = source ∧ first.target = target := by
            simpa [Edge.joins] using joined
          rw [identified first List.mem_cons_self, ← from_source, ← to_target]
          rfl
        · exact .inl (List.mem_cons_of_mem first later)
      · rcases List.mem_cons.mp member with rfl | later
        · exact .inl List.mem_cons_self
        · refine (ih ?_ later).imp_left (List.mem_cons_of_mem first)
          exact fun old present => identified old (List.mem_cons_of_mem first present)

theorem addEdge_nodes (graph : Graph) (source target : String) (label : Option String) :
    (graph.addEdge source target label).2.nodes = (graph.readyFor source target).nodes := by
  rw [addEdge, readyFor]
  split <;> rfl

theorem addEdge_edges (graph : Graph) (source target : String) (label : Option String) :
    (graph.addEdge source target label).2.edges =
      if graph.hasEdge source target then
        relabel source target (label.bind Text.nonBlank?) graph.edges
      else graph.edges ++ [Edge.between source target (label.bind Text.nonBlank?)] := by
  have same := readyFor_edges graph source target
  rw [readyFor] at same
  rw [addEdge, hasEdge, hasEdge, same]
  split <;> rfl

theorem not_mem_pairs {source target : String} (unknown : ¬graph.hasEdge source target = true) :
    (source, target) ∉ graph.edges.map Edge.pair := by
  intro member
  apply unknown
  obtain ⟨edge, present, same⟩ := List.mem_map.mp member
  obtain ⟨rfl, rfl⟩ := Prod.mk.inj same
  exact List.any_eq_true.mpr ⟨edge, present, by simp [Edge.joins]⟩

namespace WellFormed

theorem mem_addEdge (wellFormed : graph.WellFormed) {source target : String} {label : Option String}
    {edge : Edge} (member : edge ∈ (graph.addEdge source target label).2.edges) :
    edge ∈ graph.edges ∨ edge = Edge.between source target (label.bind Text.nonBlank?) := by
  rw [addEdge_edges] at member
  split at member
  · exact mem_relabel wellFormed.identified member
  · simpa using member

theorem empty : Graph.empty.WellFormed :=
  { unique := .nil, single := .nil, anchored := nofun, identified := nofun }

theorem declare (wellFormed : graph.WellFormed) (node : Node) : (graph.declare node).WellFormed where
  unique := by
    rw [declare_nodes]
    exact nodup_foldl_keepFirst Node.id [node] wellFormed.unique
  single := by
    rw [declare_edges]
    exact wellFormed.single
  anchored := by
    intro edge member
    rw [declare_edges] at member
    exact anchors_declare graph node (wellFormed.anchored edge member)
  identified := by
    rw [declare_edges]
    exact wellFormed.identified

theorem addNode (wellFormed : graph.WellFormed) (id label : String) (kind : NodeKind) :
    (graph.addNode id label kind).2.WellFormed := by
  have declared := wellFormed.declare { id, label := (Text.nonBlank? label).getD id, kind }
  rw [Graph.declare] at declared
  rw [Graph.addNode]
  split <;> simp_all

theorem removeNode (wellFormed : graph.WellFormed) (id : String) :
    (graph.removeNode id).2.WellFormed := by
  rw [Graph.removeNode]
  split
  · refine
      { unique := (List.eraseP_sublist.map Node.id).nodup wellFormed.unique
        single := (List.filter_sublist.map Edge.pair).nodup wellFormed.single
        anchored := ?_
        identified := fun edge member =>
          wellFormed.identified edge (List.mem_filter.mp member).1 }
    intro edge member
    obtain ⟨present, apart⟩ := List.mem_filter.mp member
    obtain ⟨first, second⟩ := (anchors_iff graph edge).mp (wellFormed.anchored edge present)
    have stays {end_ : String} (known : end_ ∈ graph.nodes.map Node.id) (other : end_ ≠ id) :
        end_ ∈ (graph.nodes.eraseP (·.id == id)).map Node.id := by
      obtain ⟨node, inside, rfl⟩ := List.mem_map.mp known
      exact List.mem_map_of_mem ((List.mem_eraseP_of_neg (by simpa using other)).mpr inside)
    simp only [Edge.touches, Bool.not_or, Bool.and_eq_true, Bool.not_eq_true',
      beq_eq_false_iff_ne] at apart
    exact (anchors_iff _ edge).mpr ⟨stays first apart.1, stays second apart.2⟩
  · exact wellFormed

theorem addEdge (wellFormed : graph.WellFormed) (source target : String) (label : Option String) :
    (graph.addEdge source target label).2.WellFormed where
  unique := by
    rw [addEdge_nodes]
    exact ((wellFormed.declare _).declare _).unique
  single := by
    rw [addEdge_edges]
    split
    · rw [pairs_relabel]
      exact wellFormed.single
    · rename_i unknown
      rw [List.map_append, List.nodup_append]
      refine ⟨wellFormed.single, by simp, ?_⟩
      rintro pair member _ last rfl
      rw [List.map_singleton, List.mem_singleton] at last
      rw [last] at member
      exact not_mem_pairs unknown member
  anchored := by
    intro edge member
    have same (edge : Edge) : (graph.addEdge source target label).2.anchors edge =
        (graph.readyFor source target).anchors edge := by
      rw [anchors, anchors, hasNode, hasNode, addEdge_nodes]
      rfl
    rw [same]
    obtain present | rfl := wellFormed.mem_addEdge member
    · exact anchors_declare _ _ (anchors_declare _ _ (wellFormed.anchored edge present))
    · exact anchors_readyFor graph source target _
  identified := by
    intro edge member
    obtain present | rfl := wellFormed.mem_addEdge member
    · exact wellFormed.identified edge present
    · rfl

theorem removeEdge (wellFormed : graph.WellFormed) (source target : String) :
    (graph.removeEdge source target).2.WellFormed := by
  rw [Graph.removeEdge]
  split
  · exact
      { unique := wellFormed.unique
        single := (List.filter_sublist.map Edge.pair).nodup wellFormed.single
        anchored := fun edge member => wellFormed.anchored edge (List.mem_filter.mp member).1
        identified := fun edge member => wellFormed.identified edge (List.mem_filter.mp member).1 }
  · exact wellFormed

theorem addNewEdge (wellFormed : graph.WellFormed) (edge : Edge) :
    (graph.addNewEdge edge).WellFormed := by
  rw [Graph.addNewEdge]
  split
  · exact wellFormed
  · exact wellFormed.addEdge edge.source edge.target edge.label

theorem assemble (nodes : List Node) (edges : List Edge) : (Graph.assemble nodes edges).WellFormed := by
  have declared : (nodes.foldl Graph.declare Graph.empty).WellFormed := by
    refine List.foldlRecOn nodes Graph.declare empty ?_
    exact fun graph wellFormed node _ => wellFormed.declare node
  rw [Graph.assemble]
  refine List.foldlRecOn edges Graph.addNewEdge declared ?_
  exact fun graph wellFormed edge _ => wellFormed.addNewEdge edge

theorem edit (wellFormed : graph.WellFormed) (change : Edit) : (graph.edit change).2.WellFormed := by
  cases change with
  | addNode id label kind => exact wellFormed.addNode id label kind
  | removeNode id => exact wellFormed.removeNode id
  | addEdge source target label => exact wellFormed.addEdge source target label
  | removeEdge source target => exact wellFormed.removeEdge source target
  | replace nodes edges => exact assemble nodes edges

end WellFormed

/-- The charts that edits lead through, the one at the start included. -/
def stages (graph : Graph) : List Edit → List Graph
  | [] => [graph]
  | change :: later => graph :: stages (graph.edit change).2 later

theorem WellFormed.stages (wellFormed : graph.WellFormed) (changes : List Edit) :
    ∀ reached ∈ graph.stages changes, reached.WellFormed := by
  induction changes generalizing graph with
  | nil =>
      intro reached member
      rw [List.mem_singleton.mp member]
      exact wellFormed
  | cons change later ih =>
      intro reached member
      obtain rfl | behind := List.mem_cons.mp member
      · exact wellFormed
      · exact ih (wellFormed.edit change) reached behind

/-- A well-formed chart stays well-formed through all edits, whatever ids, labels, nodes and edges they
are given. To replace the chart makes any chart well-formed, and so it stays from there on. -/
theorem wellFormed_through_edits :
    (∀ graph : Graph, graph.WellFormed → ∀ changes, ∀ reached ∈ graph.stages changes,
      reached.WellFormed) ∧
    ∀ (graph : Graph) (nodes : List Node) (edges : List Edge) (changes : List Edit),
      ∀ reached ∈ (graph.edit (.replace nodes edges)).2.stages changes, reached.WellFormed := by
  refine ⟨fun graph wellFormed changes => wellFormed.stages changes, ?_⟩
  intro graph nodes edges changes
  exact (WellFormed.assemble nodes edges).stages changes

theorem wellFormed_through_odd_edits :
    let start := ofText "[a] -> [b]"
    let changes : List Edit :=
      [.addNode "" " " .entry, .addEdge "" "" none, .addEdge "a" "a" (some " again "), .removeNode "b",
        .replace [.mentioned "n", { id := "n", label := "Twice", kind := .exit }]
          [{ id := "foreign", source := "n", target := "m", label := some " " },
            { id := "", source := "n", target := "m", label := some "late" }],
        .removeEdge "m" "n"]
    let last : Graph :=
      { nodes := [.mentioned "n", .mentioned "m"], edges := [Edge.between "n" "m" none] }
    start.WellFormed ∧ last ∈ start.stages changes ∧ last.WellFormed := by
  intro start changes last
  have wellFormed : start.WellFormed := wellFormed_ofStatements _
  have member : last ∈ start.stages changes := by decide +kernel
  exact ⟨wellFormed, member, wellFormed_through_edits.1 start wellFormed changes last member⟩

theorem mem_nodes_addNewEdge {edge : Edge} {node : Node}
    (member : node ∈ (graph.addNewEdge edge).nodes) :
    node ∈ graph.nodes ∨ node ∈ [Node.mentioned edge.source, .mentioned edge.target] := by
  rw [addNewEdge] at member
  split at member
  · exact .inl member
  · rw [addEdge_nodes] at member
    simpa using mem_readyFor member

theorem mem_nodes_assemble {nodes : List Node} {edges : List Edge} {node : Node}
    (member : node ∈ (assemble nodes edges).nodes) : node ∈ (Edit.replace nodes edges).introduces := by
  have declared : ∀ other ∈ (nodes.foldl declare empty).nodes, other ∈ nodes := by
    have none : ∀ other ∈ empty.nodes, other ∈ nodes := by simp [empty]
    refine List.foldlRecOn nodes declare (motive := fun made => ∀ other ∈ made.nodes, other ∈ nodes)
      none ?_
    intro made inside first present other member
    obtain earlier | rfl := mem_declare member
    · exact inside other earlier
    · exact present
  rw [Edit.introduces, List.mem_append]
  refine List.foldlRecOn edges addNewEdge (motive := fun made => ∀ other ∈ made.nodes,
    other ∈ nodes ∨ other ∈ edges.flatMap fun edge => [Node.mentioned edge.source,
      .mentioned edge.target]) (fun other present => .inl (declared other present)) ?_ node member
  intro made inside edge present other member
  obtain earlier | brought := mem_nodes_addNewEdge member
  · exact inside other earlier
  · exact .inr (List.mem_flatMap.mpr ⟨edge, present, brought⟩)

theorem mem_nodes_edit (change : Edit) {node : Node} (member : node ∈ (graph.edit change).2.nodes) :
    node ∈ graph.nodes ∨ node ∈ change.introduces := by
  cases change with
  | addNode id label kind =>
      rw [edit, addNode] at member
      split at member
      · exact .inl member
      · simpa [Edit.introduces] using member
  | removeNode id =>
      rw [edit, removeNode] at member
      split at member
      · exact .inl (List.mem_of_mem_eraseP member)
      · exact .inl member
  | addEdge source target label =>
      rw [edit, addEdge_nodes] at member
      simpa [Edit.introduces] using mem_readyFor member
  | removeEdge source target =>
      rw [edit, removeEdge] at member
      split at member <;> exact .inl member
  | replace nodes edges => exact .inr (mem_nodes_assemble member)

theorem mem_edges_addEdge (wellFormed : graph.WellFormed) {source target : String}
    {label : Option String} {edge : Edge}
    (member : edge ∈ (graph.addEdge source target label).2.edges) :
    edge ∈ graph.edges ∨ edge.TidyLabel := by
  obtain present | rfl := wellFormed.mem_addEdge member
  · exact .inl present
  · right
    intro shown visible
    obtain ⟨text, _, written⟩ := Option.bind_eq_some_iff.mp visible
    exact Text.tidy_of_nonBlank? written

theorem tidyLabel_of_mem_assemble {nodes : List Node} {edges : List Edge} :
    ∀ edge ∈ (assemble nodes edges).edges, edge.TidyLabel := by
  have declared : (nodes.foldl declare empty).WellFormed ∧ (nodes.foldl declare empty).edges = [] := by
    refine List.foldlRecOn nodes declare (motive := fun made => made.WellFormed ∧ made.edges = [])
      ⟨.empty, rfl⟩ ?_
    rintro made ⟨wellFormed, none⟩ node _
    exact ⟨wellFormed.declare node, (declare_edges made node).trans none⟩
  refine (List.foldlRecOn edges addNewEdge (motive := fun made => made.WellFormed ∧
    ∀ edge ∈ made.edges, edge.TidyLabel) ⟨declared.1, by simp [declared.2]⟩ ?_).2
  rintro made ⟨wellFormed, tidy⟩ edge _
  refine ⟨wellFormed.addNewEdge edge, ?_⟩
  intro other member
  rw [addNewEdge] at member
  split at member
  · exact tidy other member
  · exact (mem_edges_addEdge wellFormed member).elim (tidy other) id

theorem mem_edges_edit (wellFormed : graph.WellFormed) (change : Edit) {edge : Edge}
    (member : edge ∈ (graph.edit change).2.edges) : edge ∈ graph.edges ∨ edge.TidyLabel := by
  cases change with
  | addNode id label kind =>
      rw [edit, addNode] at member
      split at member <;> exact .inl member
  | removeNode id =>
      rw [edit, removeNode] at member
      split at member
      · exact .inl (List.mem_filter.mp member).1
      · exact .inl member
  | addEdge source target label => exact mem_edges_addEdge wellFormed member
  | removeEdge source target =>
      rw [edit, removeEdge] at member
      split at member
      · exact .inl (List.mem_filter.mp member).1
      · exact .inl member
  | replace nodes edges => exact .inr (tidyLabel_of_mem_assemble edge member)

/-- A well-formed chart whose ids and labels have no blanks around them. -/
structure Neat (graph : Graph) : Prop where
  wellFormed : graph.WellFormed
  nodes : ∀ node ∈ graph.nodes, Text.Tidy node.id.toList ∧ Text.Tidy node.label.toList
  edges : ∀ edge ∈ graph.edges, edge.TidyLabel

theorem Neat.edit (neat : graph.Neat) {change : Edit}
    (tidy : ∀ node ∈ change.introduces, Text.Tidy node.id.toList ∧ Text.Tidy node.label.toList) :
    (graph.edit change).2.Neat where
  wellFormed := neat.wellFormed.edit change
  nodes := by
    intro node member
    exact (mem_nodes_edit change member).elim (neat.nodes node) (tidy node)
  edges := by
    intro edge member
    exact (mem_edges_edit neat.wellFormed change member).elim (neat.edges edge) id

end Graph

end Chartbook
