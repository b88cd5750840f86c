/-
LunarysBridge.Node.LostUpdates — when the updates of concurrent calls all
reach the memory and the file of a `FileStringStorage`.

Nothing in the class keeps a second first load from putting an old record
back, nor an older text from being written over a newer one. Where neither
happens no update is lost, in any interleaving (`updates_kept`): every update
on the record is that of a call, and every call that has returned has seen to
its own.
-/
import LunarysBridge.Node.CarefulCalls

namespace LunarysBridge.Node.FileStorage

open Async

variable {u : Update} {initial : Record} {key : String} {s s' : Store} {i : Nat}

/-! ## Whose updates they are -/

/-- The key a call is to change. -/
def Request.target : Request → Option String
  | .getItem _ => none
  | .setItem key _ => some key
  | .removeItem key => some key

/-- The update is the one the call is for. -/
def Request.Makes : Request → Update → Prop
  | .getItem _, _ => False
  | .setItem key value, u => u.key = key ∧ u.value = some value
  | .removeItem key, u => u.key = key ∧ u.value = none

/-- The operations the call may come to. -/
def Request.May (q : Request) : Op → Prop
  | .assign key value => q = .setItem key value
  | .delete key => q = .removeItem key
  | _ => True

theorem Request.Makes.target {q : Request} (h : q.Makes u) : q.target = some u.key := by
  cases q with
  | getItem key => exact h.elim
  | setItem key value => exact congrArg some h.1.symm
  | removeItem key => exact congrArg some h.1.symm

theorem only_ensureLoaded (q : Request) : ensureLoaded.Only q.May := by
  have hparse : ∀ raw, (liftM (parse raw) : Promise Record).Only q.May := by
    intro raw
    cases raw with
    | json record => trivial
    | other => trivial
  have hread : readOrCreate.Only q.May := by
    refine Prog.Only.tryCatch (Prog.Only.bind (Prog.only_call trivial) hparse) fun e => ?_
    split
    · exact Prog.Only.bind (Prog.only_call trivial) fun _ =>
        Prog.Only.bind (Prog.only_call trivial) fun _ => trivial
    · trivial
  refine Prog.Only.bind (Prog.only_call trivial) fun loaded => ?_
  split
  · trivial
  · exact Prog.Only.bind hread fun record => Prog.only_call trivial

theorem only_persist (q : Request) : persist.Only q.May :=
  Prog.Only.bind (Prog.only_call trivial) fun _ =>
    Prog.Only.bind (Prog.only_call trivial) fun _ => Prog.only_call trivial

theorem only_handler (q : Request) : (handler q).Only q.May := by
  cases q with
  | getItem key =>
      exact Prog.Only.bind (Prog.Only.bind (only_ensureLoaded _) fun _ => Prog.only_call trivial)
        fun _ => trivial
  | setItem key value =>
      refine Prog.Only.bind (Prog.Only.bind (only_ensureLoaded _) fun _ => ?_) fun _ => trivial
      exact Prog.Only.bind (Prog.only_call rfl) fun _ => only_persist _
  | removeItem key =>
      refine Prog.Only.bind (Prog.Only.bind (only_ensureLoaded _) fun _ => ?_) fun _ => trivial
      refine Prog.Only.bind (Prog.only_call rfl) fun found => ?_
      split
      · exact only_persist _
      · trivial

/-- What an operation adds to the updates. -/
def Adds (i : Nat) (o : Op) (s s' : Store) : Prop :=
  ∀ u ∈ s'.updates, u ∈ s.updates ∨ u.caller = i ∧ ∀ q : Request, q.May o → q.Makes u

theorem adds_nothing {o : Op} (h : s'.updates = s.updates) : Adds i o s s' := by
  intro u hu
  rw [h] at hu
  exact .inl hu

theorem adds_update {o : Op} {made : Bool} (hcaller : u.caller = i)
    (hmakes : ∀ q : Request, q.May o → q.Makes u) :
    Adds i o s (if made then s.update u else s) := by
  split
  · intro v hv
    rcases List.mem_append.mp hv with hold | hnew
    · exact .inl hold
    · obtain rfl := List.mem_singleton.mp hnew
      exact .inr ⟨hcaller, hmakes⟩
  · exact adds_nothing rfl

theorem adds_answers {o : Op} {x : Except JsError o.Answer} (h : s.Answers i o x s') :
    Adds i o s s' := by
  rcases h with hanswer | ⟨_, _, rfl⟩
  · obtain ⟨_, rfl⟩ := Prod.mk.inj hanswer
    cases o with
    | assign key value =>
        refine adds_update rfl fun q hq => ?_
        cases hq
        exact ⟨rfl, rfl⟩
    | delete key =>
        refine adds_update rfl fun q hq => ?_
        cases hq
        exact ⟨rfl, rfl⟩
    | _ => exact adds_nothing rfl
  · exact adds_nothing rfl

variable {s₀ : Store} {p : Pool api JsError Result Request Store}

/-- Every update has its call. -/
theorem updates_recorded {admits : Pool api JsError Result Request Store → Request → Prop}
    (h₀ : s₀.updates = []) (hrun : Run (careful.under (Inv initial)) admits (.idle s₀) p) :
    ∀ u ∈ p.state.updates, ∃ c, p.calls[u.caller]? = some c ∧ c.request.Makes u := by
  have honly : ∀ {p : Pool api JsError Result Request Store},
      Run (careful.under (Inv initial)) admits (.idle s₀) p →
        ∀ c ∈ p.calls, c.code.Only c.request.May := fun hrun => Run.only only_handler hrun
  refine Run.recorded Store.updates Update.caller (fun q u _ => q.Makes u) h₀ ?_ ?_ hrun
  · intro p i q o k x s' hrun hat hans u hu
    have hmay : q.May o := (honly hrun _ (List.mem_of_getElem? hat)).1
    rcases adds_answers hans.1.1 u hu with hold | ⟨hcaller, hmakes⟩
    · exact .inr ⟨u, hold, rfl, fun _ => id⟩
    · exact .inl ⟨hcaller, hmakes q hmay⟩
  · intro p s' _ hout
    exact hout.1.elim

/-! ## No update is lost -/

/-- A storage no call is running on: the memory, once loaded, is the file. -/
structure Settled (s : Store) : Prop where
  updates : s.updates = []
  written : s.written = 0
  loaded : s.loaded = true → s.file = some (.json s.cache)

/-- All calls have returned. -/
def AllReturned (p : Pool api JsError Result Request Store) : Prop :=
  ∀ c ∈ p.calls, ∃ a, c.code = .ret a

/-- No two calls are to change one key. -/
def Distinct (p : Pool api JsError Result Request Store) : Prop :=
  p.calls.Pairwise fun c c' =>
    ∀ key, c.request.target = some key → c'.request.target ≠ some key

/-- Memory and file have what was set, and have not what was removed; the
other keys are as they were. -/
structure Kept (s₀ : Store) (p : Pool api JsError Result Request Store) : Prop where
  set : ∀ c ∈ p.calls, ∀ key value, c.request = .setItem key value →
    p.state.cache key = some value ∧ content p.state.file key = some value
  removed : ∀ c ∈ p.calls, ∀ key, c.request = .removeItem key →
    p.state.cache key = none ∧ content p.state.file key = none
  untouched : ∀ key, (∀ c ∈ p.calls, c.request.target ≠ some key) →
    (p.state.loaded = true → p.state.cache key = content s₀.file key) ∧
      content p.state.file key = content s₀.file key

theorem Settled.inv (h : Settled s₀) : Inv (content s₀.file) s₀ where
  cache hloaded := by
    rw [h.updates, h.loaded hloaded]
    rfl
  idle _ := h.updates
  file := by
    rw [h.updates, List.take_nil]
    rfl
  written := by
    rw [h.written]
    exact Nat.zero_le _

/-- Only one call is to change a key. -/
theorem Distinct.index (h : Distinct p) {j : Nat} {c c' : Call api JsError Result Request}
    (hi : p.calls[i]? = some c) (hj : p.calls[j]? = some c')
    (hc : c.request.target = some key) (hc' : c'.request.target = some key) : i = j := by
  obtain ⟨hlt, rfl⟩ := List.getElem?_eq_some_iff.mp hi
  obtain ⟨hlt', rfl⟩ := List.getElem?_eq_some_iff.mp hj
  have hpairs := List.pairwise_iff_getElem.mp h
  rcases Nat.lt_trichotomy i j with hij | hij | hij
  · exact absurd hc' (hpairs i j hlt hlt' hij key hc)
  · exact hij
  · exact absurd hc (hpairs j i hlt' hlt hij key hc')

/-- What is known where all calls have returned. -/
structure Rests (initial : Record) (p : Pool api JsError Result Request Store) : Prop where
  inv : Inv initial p.state
  recorded : ∀ u ∈ p.state.updates, ∃ c, p.calls[u.caller]? = some c ∧ c.request.Makes u
  returned : ∀ i c, p.calls[i]? = some c → Returned initial i c.request p.state

theorem rests (hsettled : Settled s₀) (hreturned : AllReturned p)
    (hrun : Run careful (fun _ _ => True) (.idle s₀) p) : Rests (content s₀.file) p := by
  have hcode : ∀ (p : Pool api JsError Result Request Store) (q : Request),
      Run (careful.under (Inv (content s₀.file))) (fun _ _ => True) (.idle s₀) p → True →
      (handler q).wp (Acts (content s₀.file) p.calls.length) (Later p.calls.length)
        (fun _ _ _ s' => Inv (content s₀.file) s')
        (Ended (content s₀.file) p.calls.length q) p.state := by
    intro p q hrun _
    refine meets_handler q fun u hu hcaller => ?_
    obtain ⟨c, hget, _⟩ := updates_recorded hsettled.updates hrun u hu
    have hlt := (List.getElem?_eq_some_iff.mp hget).1
    omega
  obtain ⟨hinv, hrun'⟩ := Run.under hsettled.inv later_relies ended_later hcode
    (fun hout _ => hout.elim) hrun
  have hkeeps : KeepsTo (careful.under (Inv (content s₀.file))) Later
      (fun _ _ _ _ s' => Inv (content s₀.file) s') (Ended (content s₀.file)) p :=
    Run.keepsTo later_relies ended_later hcode hrun'
  refine ⟨hinv, updates_recorded hsettled.updates hrun', fun i c hget => ?_⟩
  obtain ⟨a, ha⟩ := hreturned c (List.mem_of_getElem? hget)
  have hended := hkeeps i c hget
  rw [ha] at hended
  exact hended

/-- The last text written has all updates. -/
theorem Rests.file (h : Rests initial p) :
    content p.state.file = applied p.state.updates initial := by
  have hall : p.state.updates.length ≤ p.state.written := by
    by_contra hlt
    have hget := List.getElem?_eq_getElem (Nat.lt_of_not_le hlt)
    obtain ⟨c, hcall, _⟩ := h.recorded _ (List.mem_of_getElem? hget)
    have hwritten := (h.returned _ c hcall).2.1 _ _ hget rfl
    omega
  rw [h.inv.file, List.take_of_length_le hall]

/-- The updates of a key that a call is to change are its own. -/
theorem Rests.own (h : Rests initial p) (hdistinct : Distinct p)
    {c : Call api JsError Result Request} (hget : p.calls[i]? = some c)
    (htarget : c.request.target = some key) :
    ∀ u ∈ p.state.updates, u.key = key → u.caller = i ∧ c.request.Makes u := by
  intro u hu hkey
  obtain ⟨c', hget', hmakes⟩ := h.recorded u hu
  have hcaller := hdistinct.index hget' hget (hmakes.target.trans (congrArg some hkey)) htarget
  rw [hcaller, hget] at hget'
  cases hget'
  exact ⟨hcaller, hmakes⟩

/-- **No update is lost** in a run whose steps are all careful: after calls
that change distinct keys have all returned, in any interleaving, every key
that was set has its value in memory and file, every key that was removed has
none, and all other keys are as they were. -/
theorem updates_kept (s₀ : Store) (p : Pool api JsError Result Request Store)
    (hsettled : Settled s₀) (hrun : Run careful (fun _ _ => True) (.idle s₀) p)
    (hreturned : AllReturned p) (hdistinct : Distinct p) : Kept s₀ p := by
  have h := rests hsettled hreturned hrun
  have hboth : ∀ key value, applied p.state.updates (content s₀.file) key = value →
      (p.state.loaded = true → p.state.cache key = value) ∧ content p.state.file key = value := by
    intro key value hvalue
    rw [h.file]
    exact ⟨fun hloaded => by rw [h.inv.cache hloaded]; exact hvalue, hvalue⟩
  refine ⟨fun c hc key value hq => ?_, fun c hc key hq => ?_, fun key hnone => ?_⟩
  · obtain ⟨i, hget⟩ := List.mem_iff_getElem?.mp hc
    have htarget : c.request.target = some key := by rw [hq]; rfl
    have hown := h.own hdistinct hget htarget
    obtain ⟨hloaded, _, hdone⟩ := h.returned i c hget
    rw [hq] at hown hdone
    have hvalue : applied p.state.updates (content s₀.file) key = some value :=
      applied_of_all ⟨_, hdone, rfl⟩ fun u hu hkey => (hown u hu hkey).2.2
    exact ⟨(hboth key _ hvalue).1 hloaded, (hboth key _ hvalue).2⟩
  · obtain ⟨i, hget⟩ := List.mem_iff_getElem?.mp hc
    have htarget : c.request.target = some key := by rw [hq]; rfl
    have hown := h.own hdistinct hget htarget
    obtain ⟨hloaded, _, hdone⟩ := h.returned i c hget
    rw [hq] at hown hdone
    have hvalue : applied p.state.updates (content s₀.file) key = none := by
      by_cases hsome : ∃ u ∈ p.state.updates, u.key = key
      · exact applied_of_all hsome fun u hu hkey => (hown u hu hkey).2.2
      · have hno : ∀ u ∈ p.state.updates, u.key ≠ key := fun u hu heq => hsome ⟨u, hu, heq⟩
        rcases hdone with hu | ⟨n, _, habsent⟩
        · exact absurd rfl (hno _ hu)
        · rw [applied_of_none fun u hu => hno u (List.mem_of_mem_take hu)] at habsent
          rw [applied_of_none hno]
          exact habsent
    exact ⟨(hboth key _ hvalue).1 hloaded, (hboth key _ hvalue).2⟩
  · have hvalue : applied p.state.updates (content s₀.file) key = content s₀.file key := by
      refine applied_of_none fun u hu hkey => ?_
      obtain ⟨c, hget, hmakes⟩ := h.recorded u hu
      exact hnone c (List.mem_of_getElem? hget) (hmakes.target.trans (congrArg some hkey))
    exact hboth key _ hvalue

/-! ## Two schedules -/

namespace Sample

/-- The calls are all made at once, and go on in this order. -/
def played (s : Store) (qs : List Request) (order : List Nat) :
    Pool api JsError Result Request Store :=
  order.foldl (Pool.advance fun i s o => s.answer i o) ((Pool.idle s).startAll service qs)

def returned (p : Pool api JsError Result Request Store) : Bool :=
  p.calls.all fun c => match c.code with
    | .ret _ => true
    | _ => false

theorem allReturned {p : Pool api JsError Result Request Store} (h : returned p = true) :
    AllReturned p := by
  intro c hc
  have hcode := List.all_eq_true.mp h c hc
  cases hc' : c.code with
  | ret a => exact ⟨a, rfl⟩
  | fail e =>
      rw [hc'] at hcode
      cases hcode
  | await o k =>
      rw [hc'] at hcode
      cases hcode

theorem distinct_of_requests {p : Pool api JsError Result Request Store} (qs : List Request)
    (hrequests : p.calls.map Call.request = qs)
    (h : qs.Pairwise fun q q' => ∀ key, q.target = some key → q'.target ≠ some key) :
    Distinct p := by
  subst hrequests
  exact List.pairwise_map.mp h

/-- A step that is careful whatever the memory is. -/
def check (s : Store) : Op → Bool
  | .load _ => !s.loaded
  | .writeEmpty => !s.loaded
  | .assign key _ => s.cache.takes key
  | .writeFile text => decide (s.written ≤ text.updates)
  | _ => true

theorem careful_of_check (i : Nat) (s : Store) (o : Op) (h : check s o = true) :
    careful.answers i s o (s.answer i o).1 (s.answer i o).2 := by
  refine ⟨.inl rfl, ?_⟩
  cases o with
  | load record =>
      intro hloaded
      simp [check, hloaded] at h
  | writeEmpty =>
      intro hloaded
      simp [check, hloaded] at h
  | assign key value => exact h
  | writeFile text =>
      have hle : s.written ≤ text.updates := of_decide_eq_true h
      exact .inl hle
  | _ => trivial

/-- A file with two keys, not loaded yet. -/
def stored : Store :=
  ⟨false, .empty, some (.json fun key =>
    if key = "x" then some "0" else if key = "y" then some "9" else none), [], 0⟩

def requests : List Request := [.setItem "a" "1", .removeItem "x", .getItem "y"]

/-- The first call loads; then the other two come in between. -/
def order : List Nat := [0, 0, 0, 1, 2, 1, 0, 0, 1, 2, 0, 1, 0, 1]

theorem stored_settled : Settled stored := ⟨rfl, rfl, fun h => Bool.noConfusion h⟩

theorem stored_careful :
    Run careful (fun _ _ => True) (.idle stored) (played stored requests order) :=
  .trans (Run.startAll requests (.idle stored)) (Run.schedule careful_of_check
    (show Pool.passes check _ order ((Pool.idle stored).startAll service requests) = true by
      decide +kernel))

/-- No file yet, and two calls that both find none. -/
def fresh : Store := ⟨false, .empty, none, [], 0⟩

def setters : List Request := [.setItem "a" "1", .setItem "b" "2"]

def firstLoads : List Nat := [0, 1, 0, 1, 0, 0, 0, 0, 0, 0, 0, 1, 1, 1, 1, 1, 1, 1]

def raced : Pool api JsError Result Request Store := played fresh setters firstLoads

theorem answers_answer (i : Nat) (s : Store) (o : Op) (_ : true = true) :
    service.answers i s o (s.answer i o).1 (s.answer i o).2 := Or.inl rfl

theorem raced_run : Run service (fun _ _ => True) (.idle fresh) raced :=
  .trans (Run.startAll setters (.idle fresh)) (Run.schedule answers_answer
    (show Pool.passes (fun _ _ => true) _ firstLoads
        ((Pool.idle fresh).startAll service setters) = true by
      decide +kernel))

end Sample

theorem updates_kept_stored :
    Kept Sample.stored (Sample.played Sample.stored Sample.requests Sample.order) :=
  updates_kept Sample.stored _ Sample.stored_settled Sample.stored_careful
    (Sample.allReturned (by decide +kernel))
    (Sample.distinct_of_requests Sample.requests (by decide +kernel)
      (by simp [Sample.requests, Request.target]))

/-- Two calls set two keys of a storage that has no file. Both find none
before either has made one; the second makes its own over the update of the
first. -/
theorem first_loads_lose_update :
    ¬ ∀ (s₀ : Store) (p : Pool api JsError Result Request Store), Settled s₀ →
      Run service (fun _ _ => True) (.idle s₀) p → AllReturned p → Distinct p → Kept s₀ p := by
  intro hall
  have hkept := hall Sample.fresh Sample.raced ⟨rfl, rfl, fun h => Bool.noConfusion h⟩
    Sample.raced_run (Sample.allReturned (by decide +kernel))
    (Sample.distinct_of_requests Sample.setters (by decide +kernel)
      (by simp [Sample.setters, Request.target]))
  obtain ⟨c, hget⟩ := Option.isSome_iff_exists.mp
    (show (Sample.raced.calls[0]?).isSome = true by decide +kernel)
  have hrequest : c.request = .setItem "a" "1" := by
    have hfirst : Sample.raced.calls[0]?.map Call.request = some (.setItem "a" "1") := by
      decide +kernel
    rw [hget] at hfirst
    exact Option.some.inj hfirst
  have hvalue := (hkept.set c (List.mem_of_getElem? hget) "a" "1" hrequest).1
  revert hvalue
  decide +kernel

end LunarysBridge.Node.FileStorage
