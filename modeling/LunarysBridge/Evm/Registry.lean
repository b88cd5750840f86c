/-
LunarysBridge.Evm.Registry — the authorised nodes and the list of them.

`authorizeNode` sets a flag and pushes the node on `nodesList`,
`revokeNode` clears the flag only. `getAuthorizedNodes` skips the nodes
without the flag, `getAuthorizedNodesCount` does not: it counts every push.
`registry_consistent_iff` says after which calls the two views agree and
repeat nobody.
-/
import LunarysBridge.Lib.Registry
import LunarysBridge.Evm.NewRelayer

namespace LunarysBridge.Evm

/-! ## The views -/

/-- Get total number of authorized nodes -/
def getAuthorizedNodesCount (s : State) : Nat := s.nodesList.length

/-- The second loop: `activeNodes[index] = nodesList[i]` for each active
node. `none` is the panic of a write outside the array. -/
def buildActive (s : State) : List Address → List Address → Nat → Option (List Address)
  | [], activeNodes, _ => some activeNodes
  | node :: nodes, activeNodes, index =>
      if s.authorizedNodes node then
        if index < activeNodes.length then
          buildActive s nodes (activeNodes.set index node) (index + 1)
        else none
      else buildActive s nodes activeNodes index

/-- Get all authorized nodes -/
def getAuthorizedNodes (s : State) : Option (List Address) :=
  -- Count active nodes
  let count := s.nodesList.foldl (fun count node =>
    if s.authorizedNodes node then count + 1 else count) 0
  -- Build active nodes array
  buildActive s s.nodesList (List.replicate count 0) 0

/-- The views are those of one set: every authorised node is returned once,
nobody else is, and the count is the length of that list. -/
def Consistent (s : State) : Prop :=
  ∃ nodes, getAuthorizedNodes s = some nodes ∧
    (∀ node, nodes.count node = if s.authorizedNodes node then 1 else 0) ∧
    getAuthorizedNodesCount s = nodes.length

/-- The part of the state the views read. -/
def State.registry (s : State) : Registry Address := ⟨s.authorizedNodes, s.nodesList⟩

/-! ## What the two loops compute -/

theorem count_active (s : State) (nodes : List Address) (count : Nat) :
    nodes.foldl (fun count node => if s.authorizedNodes node then count + 1 else count) count =
      count + (nodes.filter s.authorizedNodes).length := by
  induction nodes generalizing count with
  | nil => rfl
  | cons node nodes ih =>
      rw [List.foldl_cons, ih, List.filter_cons]
      split
      · rw [List.length_cons]
        omega
      · rfl

/-- The loop writes the active nodes behind those it has written, and the
array is as long as there are active nodes. -/
theorem buildActive_eq (s : State) (nodes active : List Address) :
    buildActive s nodes
        (active ++ List.replicate (nodes.filter s.authorizedNodes).length 0) active.length =
      some (active ++ nodes.filter s.authorizedNodes) := by
  induction nodes generalizing active with
  | nil => simp [buildActive]
  | cons node nodes ih =>
      rw [buildActive, List.filter_cons]
      split
      · have hroom : active.length < (active ++ List.replicate
            (node :: nodes.filter s.authorizedNodes).length 0).length := by
          simp
        have hset : (active ++ List.replicate
              (node :: nodes.filter s.authorizedNodes).length 0).set active.length node =
            (active ++ [node]) ++ List.replicate (nodes.filter s.authorizedNodes).length 0 := by
          simp [List.replicate_succ]
        have hnext := ih (active ++ [node])
        rw [List.length_append, List.length_singleton] at hnext
        rw [if_pos hroom, hset, hnext, List.append_assoc, List.singleton_append]
      · exact ih active

theorem getAuthorizedNodes_eq (s : State) :
    getAuthorizedNodes s = some s.registry.members := by
  have hbuilt := buildActive_eq s s.nodesList []
  rw [List.nil_append, List.nil_append, List.length_nil] at hbuilt
  rw [getAuthorizedNodes, count_active, Nat.zero_add, hbuilt]
  rfl

theorem consistent_iff_exact (s : State) : Consistent s ↔ s.registry.Exact := by
  rw [Registry.exact_iff, Consistent, getAuthorizedNodes_eq]
  constructor
  · rintro ⟨nodes, heq, honce, hcount⟩
    cases heq
    exact ⟨honce, hcount.symm⟩
  · rintro ⟨honce, hcount⟩
    exact ⟨_, rfl, honce, hcount.symm⟩

/-! ## The calls -/

/-- What a call asks of the registry. -/
def Fn.registryOp : Fn → Option (Registry.Op Address)
  | .authorizeNode node => some (.add node)
  | .revokeNode node => some (.drop node)
  | _ => none

variable {ch : Chain} {t : Tx ch.self} {s s' : State}

theorem exec_nonPayable {body : State → Code}
    (h : Reentrancy.Exec (contract ch) t (nonPayable ch t body s) s') :
    Reentrancy.Exec (contract ch) t (body s) s' :=
  (Reentrancy.exec_check h).2

theorem exec_onlyOwner {body : State → Code}
    (h : Reentrancy.Exec (contract ch) t (onlyOwner ch t body s) s') :
    Reentrancy.Exec (contract ch) t (body s) s' :=
  (Reentrancy.exec_check h).2

/-- A call of `authorizeNode` or `revokeNode` that goes through does to the
registry what it says. -/
theorem registry_commits {op : Registry.Op Address} (hfn : t.fn.registryOp = some op)
    (h : Reentrancy.Commits (contract ch) t s s') : s'.registry = s.registry.apply op := by
  have hexec : Reentrancy.Exec (contract ch) t (entry ch t s) s' := h
  unfold entry at hexec
  cases hcall : t.fn with
  | authorizeNode node =>
      rw [hcall] at hfn hexec
      cases hfn
      obtain ⟨-, hexec⟩ := Reentrancy.exec_check (exec_onlyOwner (exec_nonPayable hexec))
      split at hexec
      · next hno =>
        cases hexec
        simp [State.registry, Registry.apply, State.emit, State.note, hno]
      · next hyes =>
        cases hexec
        have hmember : s.authorizedNodes node = true := by simpa using hyes
        simp [State.registry, Registry.apply, hmember]
  | revokeNode node =>
      rw [hcall] at hfn hexec
      cases hfn
      have hbody := exec_onlyOwner (exec_nonPayable hexec)
      split at hbody
      · cases hbody
        rfl
      · next hno =>
        cases hbody
        have hsame : Function.update s.authorizedNodes node false = s.authorizedNodes := by
          rw [Function.update_eq_self_iff]
          simpa using hno
        simp [State.registry, Registry.apply, hsame]
  | _ =>
      rw [hcall] at hfn
      cases hfn

/-! ## Runs -/

/-- A run of the chain with these calls of `authorizeNode` and `revokeNode`,
in this order. Calls that revert change nothing; between the calls the
chain does anything that leaves the registry as it is. -/
inductive Administered (ch : Chain) : List (Tx ch.self) → State → Prop where
  | deployed (g : Genesis ch) (relayer initialOwner : Address) {s : State}
      (h : deploy ch g relayer initialOwner = .ok s) : Administered ch [] s
  | call {calls : List (Tx ch.self)} {s s' : State} (before : Administered ch calls s)
      (t : Tx ch.self) (asks : t.fn.registryOp ≠ none)
      (commits : Reentrancy.Commits (contract ch) t s s') : Administered ch (calls ++ [t]) s'
  | other {calls : List (Tx ch.self)} {s s' : State} (before : Administered ch calls s)
      (h : Step ch s s') (same : s'.registry = s.registry) : Administered ch calls s'

theorem Administered.reachable {calls : List (Tx ch.self)} (h : Administered ch calls s) :
    Reachable ch s := by
  induction h with
  | deployed g relayer initialOwner h => exact .deployed g relayer initialOwner h
  | call before t asks commits ih => exact ih.step (.tx t commits)
  | other before h same ih => exact ih.step h

/-- The registry is the one the calls build. -/
theorem Administered.registry_eq {calls : List (Tx ch.self)} (h : Administered ch calls s) :
    s.registry = Registry.run (calls.filterMap (·.fn.registryOp)) := by
  induction h with
  | deployed g relayer initialOwner h =>
      unfold deploy at h
      split at h
      · cases h
      · split at h
        · cases h
        · cases h
          rfl
  | @call calls s s' before t asks commits ih =>
      obtain ⟨op, hop⟩ := Option.ne_none_iff_exists'.mp asks
      rw [registry_commits hop commits, ih, List.filterMap_append]
      simp [hop, Registry.run_append]
  | other before h same ih => rw [same, ih]

/-- **The views agree** after exactly those runs in which no node was
revoked after it had been authorised. -/
theorem registry_consistent_iff {calls : List (Tx ch.self)} (h : Administered ch calls s) :
    Consistent s ↔ ∀ node, calls.Pairwise fun t t' =>
      t.fn = .authorizeNode node → t'.fn ≠ .revokeNode node := by
  have hop : ∀ (fn : Fn) (node : Address),
      (fn.registryOp = some (.add node) ↔ fn = .authorizeNode node) ∧
        (fn.registryOp = some (.drop node) ↔ fn = .revokeNode node) := by
    intro fn node
    cases fn <;> simp [Fn.registryOp]
  rw [consistent_iff_exact, h.registry_eq, Registry.exact_run_iff]
  refine forall_congr' fun node => ?_
  rw [List.pairwise_filterMap]
  refine iff_of_eq (congrArg (fun R => List.Pairwise R calls) ?_)
  funext t t'
  refine propext ⟨fun hops hadd hdrop => ?_, fun hfns op heq op' heq' hadd hdrop => ?_⟩
  · exact hops _ ((hop _ _).1.mpr hadd) _ ((hop _ _).2.mpr hdrop) rfl rfl
  · subst hadd hdrop
    exact hfns ((hop _ _).1.mp heq) ((hop _ _).2.mp heq')

/-- Calls that every callee accepts are such a run. -/
theorem Administered.runAccepting {ts : List (Tx ch.self)}
    (hts : ∀ t ∈ ts, t.fn.registryOp ≠ none) :
    ∀ {calls : List (Tx ch.self)} {s : State}, Administered ch calls s →
      runAccepting ts s = some s' → Administered ch (calls ++ ts) s' := by
  induction ts with
  | nil =>
      intro calls s h hr
      cases hr
      rwa [List.append_nil]
  | cons t ts ih =>
      intro calls s h hr
      simp only [Evm.runAccepting] at hr
      split at hr
      · next s₁ hacc =>
        have hcall := h.call t (hts t (List.mem_cons_self ..)) (Reentrancy.exec_of_accepting _ hacc)
        rw [← List.singleton_append, ← List.append_assoc]
        exact ih (fun t ht => hts t (List.mem_cons_of_mem _ ht)) hcall hr
      · cases hr

namespace Sample

theorem administered_after {ts : List (Tx chain.self)} {s : State}
    (hts : ∀ t ∈ ts, t.fn.registryOp ≠ none) (h : after ts = some s) :
    Administered chain ts s := by
  unfold after at h
  split at h
  · next s₀ hd => exact (Administered.deployed genesis 2 3 hd).runAccepting hts h
  · cases h

/-- The owner admits the node 5. -/
def admission : Tx chain.self := call 3 0 (.authorizeNode 5) owner_ne

/-- The owner takes the admission back. -/
def removal : Tx chain.self := call 3 0 (.revokeNode 5) owner_ne

theorem readmitted_isSome : (after [admission, removal, admission]).isSome = true := by
  decide +kernel

def readmitted : State := (after [admission, removal, admission]).get readmitted_isSome

theorem readmitted_administered :
    Administered chain [admission, removal, admission] readmitted :=
  administered_after (by decide) (Option.some_get readmitted_isSome).symm

end Sample

theorem registry_consistent_admitted :
    ∃ s, Administered Sample.chain [Sample.admission] s ∧ Consistent s := by
  have hsome : (Sample.after [Sample.admission]).isSome = true := rfl
  have hrun := Sample.administered_after (by decide) (Option.some_get hsome).symm
  refine ⟨_, hrun, (registry_consistent_iff hrun).mpr fun node => ?_⟩
  exact List.pairwise_singleton _ _

/-- A node that is admitted, revoked and admitted again is returned twice. -/
theorem registry_readmitted :
    ¬ ∀ (ch : Chain) (calls : List (Tx ch.self)) (s : State),
      Administered ch calls s → Consistent s := by
  intro hall
  obtain ⟨nodes, hnodes, honce, -⟩ := hall _ _ _ Sample.readmitted_administered
  have htwice : getAuthorizedNodes Sample.readmitted = some [5, 5] := by decide +kernel
  have hflag : Sample.readmitted.authorizedNodes 5 = true := by decide +kernel
  rw [htwice] at hnodes
  cases hnodes
  have hfive := honce 5
  rw [hflag] at hfive
  cases hfive

end LunarysBridge.Evm
