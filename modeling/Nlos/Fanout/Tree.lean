import Nlos.Fanout.Model
import Nlos.Lib.Table

/-!
# Fanout hierarchies

Subgroups with bounded degree and depth. A hierarchy grows from its root by registering
subgroups and leaves, is laid out over a list of leaves, or is read from a list of edges.
-/

namespace Nlos.Fanout

open Lib Capability

structure SubgroupNode where
  groupId : TaskGroupId
  parentGroupId : Option TaskGroupId
  depth : Word 4
  childSubgroups : List TaskGroupId
  leafMembers : List FanoutLeafMember

def SubgroupNode.localFanout (node : SubgroupNode) : ℕ :=
  node.childSubgroups.length + node.leafMembers.length

structure HierarchicalFanoutTree where
  rootGroupId : TaskGroupId
  maxBranchingFactor : ℕ
  maxDepth : Word 4
  subgroups : Table TaskGroupId SubgroupNode
  leafToSubgroup : Table FanoutLeafId TaskGroupId

namespace HierarchicalFanoutTree

def ofRoot (rootGroupId : TaskGroupId) (maxBranchingFactor : ℕ) (maxDepth : Word 4) :
    HierarchicalFanoutTree where
  rootGroupId
  maxBranchingFactor
  maxDepth
  subgroups := (∅ : Table TaskGroupId SubgroupNode).insert rootGroupId
    ⟨rootGroupId, none, 0, [], []⟩
  leafToSubgroup := ∅

def new (rootGroupId : TaskGroupId) (maxBranchingFactor : ℕ) (maxDepth : Word 4) :
    Result HierarchicalFanoutTree := do
  refuseIf (maxBranchingFactor = 0) (.invalidConfiguration "max_branching_factor must be >= 1")
  pure (ofRoot rootGroupId maxBranchingFactor maxDepth)

variable (t : HierarchicalFanoutTree)

def subgroup (groupId : TaskGroupId) : Option SubgroupNode := t.subgroups[groupId]?

def owningSubgroup (leafId : FanoutLeafId) : Option TaskGroupId := t.leafToSubgroup[leafId]?

/-- The insertion at the place a binary search finds, which is made only where it finds nothing. -/
def insertAt {α κ : Type} [LinearOrder κ] (key : α → κ) (a : α) (l : List α) : List α :=
  if key a ∈ l.map key then l else l.orderedInsert (fun b c => key b ≤ key c) a

def addSubgroup (parentGroupId subgroupId : TaskGroupId) (parent : SubgroupNode) :
    HierarchicalFanoutTree :=
  { t with
    subgroups := (t.subgroups.insert parentGroupId
      { parent with childSubgroups := insertAt id subgroupId parent.childSubgroups }).insert
        subgroupId ⟨subgroupId, some parentGroupId, parent.depth.saturatingAdd 1, [], []⟩ }

def registerSubgroup (parentGroupId subgroupId : TaskGroupId) : Result HierarchicalFanoutTree := do
  refuseIf (parentGroupId = subgroupId) (.cycleDetected subgroupId)
  refuseIf (t.subgroups.contains subgroupId) (.duplicateSubgroup subgroupId)
  let parent ← orRefuse (t.subgroup parentGroupId) (.unknownSubgroup parentGroupId)
  let childDepth := parent.depth.saturatingAdd 1
  refuseIf (t.maxDepth < childDepth) (.maxDepthExceeded childDepth t.maxDepth)
  let attemptedDegree := parent.localFanout + 1
  refuseIf (t.maxBranchingFactor < attemptedDegree)
    (.branchingFactorExceeded parentGroupId attemptedDegree t.maxBranchingFactor)
  pure (t.addSubgroup parentGroupId subgroupId parent)

def addLeaf (subgroupId : TaskGroupId) (member : FanoutLeafMember) (node : SubgroupNode) :
    HierarchicalFanoutTree :=
  { t with
    subgroups := t.subgroups.insert subgroupId
      { node with leafMembers := insertAt FanoutLeafMember.leafId member node.leafMembers }
    leafToSubgroup := t.leafToSubgroup.insert member.leafId subgroupId }

def registerLeaf (subgroupId : TaskGroupId) (member : FanoutLeafMember) :
    Result HierarchicalFanoutTree := do
  refuseIf (t.leafToSubgroup.contains member.leafId) (.duplicateLeafMember member.leafId)
  let node ← orRefuse (t.subgroup subgroupId) (.unknownSubgroup subgroupId)
  let attemptedDegree := node.localFanout + 1
  refuseIf (t.maxBranchingFactor < attemptedDegree)
    (.branchingFactorExceeded subgroupId attemptedDegree t.maxBranchingFactor)
  pure (t.addLeaf subgroupId member node)

def registerSubgroups (pairs : List (TaskGroupId × TaskGroupId)) : Result HierarchicalFanoutTree :=
  pairs.foldlM (fun t pair => t.registerSubgroup pair.1 pair.2) t

def registerLeaves (pairs : List (TaskGroupId × FanoutLeafMember)) :
    Result HierarchicalFanoutTree :=
  pairs.foldlM (fun t pair => t.registerLeaf pair.1 pair.2) t

end HierarchicalFanoutTree

/-- The loop that derives an identifier other than the root's, for `n` nonces from the given one;
without a result the loop goes on forever. -/
def deriveFrom (rootGroupId : TaskGroupId) (levelFromBottom : Word 4) (chunkIndex : U64) :
    ℕ → ℕ → Option TaskGroupId
  | 0, _ => none
  | n + 1, nonce =>
    let digest := Sha256.digest (message "llmos/fanout-derived-subgroup-id/v1"
      [rootGroupId.bytes, levelFromBottom.bytes, chunkIndex.bytes, (saturated 4 nonce).bytes])
    let candidate : TaskGroupId := Word.ofBytes 16 (digest.bytes.take 16)
    if candidate ≠ rootGroupId then some candidate
    else deriveFrom rootGroupId levelFromBottom chunkIndex n (nonce + 1)

def deriveIntermediateSubgroupId (rootGroupId : TaskGroupId) (levelFromBottom : Word 4)
    (chunkIndex : ℕ) : Option TaskGroupId :=
  deriveFrom rootGroupId levelFromBottom (saturated 8 chunkIndex) (256 ^ 4) 0

/-- Consecutive pieces of a list, all of `size` elements but perhaps the last. -/
def chunks {α : Type} (size : ℕ) (l : List α) : List (List α) :=
  (List.range ((l.length + size - 1) / size)).map fun i => (l.drop (i * size)).take size

def levelGroups {α : Type} (rootGroupId : TaskGroupId) (maxBranchingFactor : ℕ)
    (levelFromBottom : Word 4) (items : List α) : Option (List (TaskGroupId × List α)) :=
  (chunks maxBranchingFactor items).zipIdx.mapM fun numbered =>
    (deriveIntermediateSubgroupId rootGroupId levelFromBottom numbered.2).map fun gid =>
      (gid, numbered.1)

def intermediateLevels (rootGroupId : TaskGroupId) (maxBranchingFactor : ℕ) :
    ℕ → Word 4 → List TaskGroupId →
      Option (List (List (TaskGroupId × List TaskGroupId)) × List TaskGroupId)
  | 0, _, currentIds => some ([], currentIds)
  | n + 1, levelFromBottom, currentIds =>
    if maxBranchingFactor < currentIds.length then do
      let nextLevel ← levelGroups rootGroupId maxBranchingFactor levelFromBottom currentIds
      let (levels, top) ← intermediateLevels rootGroupId maxBranchingFactor n
        (levelFromBottom.saturatingAdd 1) (nextLevel.map Prod.fst)
      pure (nextLevel :: levels, top)
    else some ([], currentIds)

def groupPairs {α : Type} (groups : List (TaskGroupId × List α)) : List (TaskGroupId × α) :=
  groups.flatMap fun (gid, members) => members.map fun member => (gid, member)

def repeatedLeaf? : List FanoutLeafMember → Option FanoutLeafId
  | a :: b :: rest => if a.leafId = b.leafId then some b.leafId else repeatedLeaf? (b :: rest)
  | _ => none

namespace HierarchicalFanoutTree

def registerLevels (t : HierarchicalFanoutTree)
    (levels : List (List (TaskGroupId × List TaskGroupId))) : Result HierarchicalFanoutTree :=
  levels.reverse.foldlM (fun t level => t.registerSubgroups (groupPairs level)) t

def layOut (rootGroupId : TaskGroupId) (maxBranchingFactor : ℕ) (maxDepth : Word 4)
    (sortedLeaves : List FanoutLeafMember) : Option (Result HierarchicalFanoutTree) := do
  let leafParentGroups ← levelGroups rootGroupId maxBranchingFactor 0 sortedLeaves
  let (levels, top) ← intermediateLevels rootGroupId maxBranchingFactor leafParentGroups.length 1
    (leafParentGroups.map Prod.fst)
  pure do
    let t ← new rootGroupId maxBranchingFactor maxDepth
    let t ← t.registerSubgroups (top.map fun child => (rootGroupId, child))
    let t ← t.registerLevels levels
    t.registerLeaves (groupPairs leafParentGroups)

def buildBalanced (rootGroupId : TaskGroupId) (maxBranchingFactor : ℕ) (maxDepth : Word 4)
    (leaves : List FanoutLeafMember) : Option (Result HierarchicalFanoutTree) :=
  if maxBranchingFactor = 0 then
    some (.error (.invalidConfiguration "max_branching_factor must be >= 1"))
  else if maxBranchingFactor < leaves.length ∧ maxBranchingFactor < 2 then
    some (.error (.invalidConfiguration
      "max_branching_factor must be >= 2 when partitioning > 1 leaves"))
  else
    let sortedLeaves := leaves.mergeSort fun m m' => m.leafId ≤ m'.leafId
    match repeatedLeaf? sortedLeaves with
    | some leafId => some (.error (.duplicateLeafMember leafId))
    | none =>
      if sortedLeaves.length ≤ maxBranchingFactor then
        some do
          let t ← new rootGroupId maxBranchingFactor maxDepth
          t.registerLeaves (sortedLeaves.map fun member => (rootGroupId, member))
      else layOut rootGroupId maxBranchingFactor maxDepth sortedLeaves

end HierarchicalFanoutTree

structure SubgroupEdge where
  (parentGroupId childGroupId : TaskGroupId)

inductive VisitState where
  | active
  | done

def ascendingSet (l : List TaskGroupId) : List TaskGroupId := l.toFinset.sort (· ≤ ·)

def childrenMap (edges : List SubgroupEdge) (parentId : TaskGroupId) : List TaskGroupId :=
  ascendingSet ((edges.filter (·.parentGroupId = parentId)).map (·.childGroupId))

def parentsMap (edges : List SubgroupEdge) (childId : TaskGroupId) : List TaskGroupId :=
  ascendingSet ((edges.filter (·.childGroupId = childId)).map (·.parentGroupId))

/-- Depth-first search below a node; no path without a repetition is longer than the number of
nodes, which bounds the recursion. -/
def detectDirectedCycle (children : TaskGroupId → List TaskGroupId) :
    ℕ → TaskGroupId → Table TaskGroupId VisitState →
      Option TaskGroupId × Table TaskGroupId VisitState
  | 0, _, visitState => (none, visitState)
  | n + 1, node, visitState =>
    let (found, visitState) := (children node).foldl
      (fun (found, visitState) child =>
        match found, visitState[child]? with
        | some _, _ => (found, visitState)
        | none, some .active => (some child, visitState)
        | none, none => detectDirectedCycle children n child visitState
        | none, some .done => (none, visitState))
      (none, visitState.insert node .active)
    match found with
    | some child => (some child, visitState)
    | none => (none, visitState.insert node .done)

def firstCycle? (children : TaskGroupId → List TaskGroupId) (allNodes : List TaskGroupId) :
    Option TaskGroupId :=
  (allNodes.foldl (fun (found, visitState) node =>
    match found, visitState[node]? with
    | none, none => detectDirectedCycle children (allNodes.length + 1) node visitState
    | _, _ => (found, visitState)) (none, (∅ : Table TaskGroupId VisitState))).1

namespace HierarchicalFanoutTree

/-- Registers the subgroups breadth first, each node once, and collects those that were reached. -/
def attach (children : TaskGroupId → List TaskGroupId) :
    ℕ → List TaskGroupId → HierarchicalFanoutTree × Finset TaskGroupId →
      Result (HierarchicalFanoutTree × Finset TaskGroupId)
  | n + 1, parentId :: queue, (t, visited) => do
    let t ← t.registerSubgroups ((children parentId).map fun childId => (parentId, childId))
    attach children n (queue ++ children parentId) (t, visited ∪ (children parentId).toFinset)
  | _, _, reached => pure reached

def fromTopology (rootGroupId : TaskGroupId) (maxBranchingFactor : ℕ) (maxDepth : Word 4)
    (edges : List SubgroupEdge) (leafAssignments : List (TaskGroupId × FanoutLeafMember)) :
    Result HierarchicalFanoutTree := do
  refuseIf (maxBranchingFactor = 0) (.invalidConfiguration "max_branching_factor must be >= 1")
  edges.forM fun edge => do
    refuseIf (edge.parentGroupId = edge.childGroupId) (.cycleDetected edge.childGroupId)
    refuseIf (edge.childGroupId = rootGroupId) (.cycleDetected rootGroupId)
  let allNodes := ascendingSet
    (rootGroupId :: edges.flatMap fun edge => [edge.parentGroupId, edge.childGroupId])
  forSome (firstCycle? (childrenMap edges) allNodes) fun cycleNode =>
    .error (.cycleDetected cycleNode)
  (ascendingSet (edges.map (·.childGroupId))).forM fun childId =>
    refuseIf (1 < (parentsMap edges childId).length) (.multipleParents childId)
  let t ← new rootGroupId maxBranchingFactor maxDepth
  let (t, visited) ← attach (childrenMap edges) allNodes.length [rootGroupId] (t, {rootGroupId})
  allNodes.forM fun node => refuseIf (node ∉ visited) (.disconnectedSubgroup node)
  t.registerLeaves leafAssignments

end HierarchicalFanoutTree

end Nlos.Fanout
