/-
LunarysBridge.Node.CarefulCalls — what one call of a `FileStringStorage` does
to memory and file while others run.

The memory is the initial file with the updates applied, and the file is that
after some of them: `Inv`. A call keeps this as long as every step is
`Careful`, and where it returns a text with its own update has been written
(`Returned`).
-/
import LunarysBridge.Lib.Rely
import LunarysBridge.Node.FileStorage

namespace LunarysBridge.Node.FileStorage

open Async

variable {us : List Update} {u : Update} {r initial : Record} {key : String}
  {s s' s₁ : Store} {i : Nat}

/-! ## Updates of a record -/

/-- What updates make of a record. -/
def applied (us : List Update) (r : Record) : Record :=
  us.foldl (fun r u => Function.update r u.key u.value) r

theorem applied_concat : applied (us ++ [u]) r =
    Function.update (applied us r) u.key u.value := by
  simp [applied]

theorem applied_of_none (h : ∀ u ∈ us, u.key ≠ key) : applied us r key = r key := by
  induction us generalizing r with
  | nil => rfl
  | cons u us ih =>
      obtain ⟨hhead, htail⟩ := List.forall_mem_cons.mp h
      have hrest := ih (r := Function.update r u.key u.value) htail
      rw [Function.update_of_ne (Ne.symm hhead)] at hrest
      exact hrest

theorem applied_of_all {value : Option String} (hsome : ∃ u ∈ us, u.key = key)
    (hall : ∀ u ∈ us, u.key = key → u.value = value) : applied us r key = value := by
  induction us generalizing r with
  | nil =>
      obtain ⟨u, hu, _⟩ := hsome
      cases hu
  | cons u us ih =>
      obtain ⟨hhead, htail⟩ := List.forall_mem_cons.mp hall
      show applied us (Function.update r u.key u.value) key = value
      by_cases hlater : ∃ v ∈ us, v.key = key
      · exact ih hlater htail
      · have hnone : ∀ v ∈ us, v.key ≠ key := fun v hv heq => hlater ⟨v, hv, heq⟩
        obtain ⟨v, hv, hkey⟩ := hsome
        rcases List.mem_cons.mp hv with rfl | hmem
        · subst hkey
          rw [applied_of_none hnone, Function.update_self]
          exact hhead rfl
        · exact absurd hkey (hnone v hmem)

/-- The object in the file. -/
def content : Option Text → Record
  | some (.json record) => record
  | _ => .empty

/-! ## Steps that lose nothing -/

/-- A load does not change what has been loaded before, and no empty text is
written over it; a key that is set becomes a property; and no text is written
after a later one, if it is not that of the memory as it is. -/
def Careful (s : Store) : Op → Prop
  | .load record => s.loaded = true → record = s.cache
  | .writeEmpty => s.loaded = true → s.cache = .empty
  | .assign key _ => s.cache.takes key = true
  | .writeFile text => s.written ≤ text.updates ∨ text = ⟨s.cache, s.updates.length⟩
  | _ => True

/-- The storage in the runs whose steps are all careful. -/
def careful : Service api JsError Result Request Store :=
  { service with answers := fun i s o x s' => s.Answers i o x s' ∧ Careful s o }

/-- Memory and file against the file there was at first. -/
structure Inv (initial : Record) (s : Store) : Prop where
  cache : s.loaded = true → s.cache = applied s.updates initial
  idle : s.loaded = false → s.updates = []
  file : content s.file = applied (s.updates.take s.written) initial
  written : s.written ≤ s.updates.length

/-- A text that is written as soon as it is made is written in time. -/
theorem Inv.in_time {text : Written} (h : Inv initial s) (hcareful : Careful s (.writeFile text)) :
    s.written ≤ text.updates := by
  rcases hcareful with hle | rfl
  · exact hle
  · exact h.written

/-- A careful step of the `i`-th call where the invariant holds. -/
def Acts (initial : Record) (i : Nat) (s : Store) (o : Op) (x : Except JsError o.Answer)
    (s' : Store) : Prop :=
  (s.Answers i o x s' ∧ Careful s o) ∧ Inv initial s

/-! ## What the others do -/

/-- What may have happened while the `i`-th call waited. -/
structure Later (i : Nat) (s s' : Store) : Prop where
  loaded : s.loaded = true → s'.loaded = true
  updates : ∃ us, s'.updates = s.updates ++ us ∧ ∀ u ∈ us, u.caller ≠ i
  written : s.written ≤ s'.written

theorem Later.same (hloaded : s.loaded = true → s'.loaded = true)
    (hupdates : s'.updates = s.updates) (hwritten : s.written ≤ s'.written) : Later i s s' :=
  ⟨hloaded, ⟨[], by rw [hupdates, List.append_nil], fun _ h => absurd h List.not_mem_nil⟩,
    hwritten⟩

theorem Later.refl (i : Nat) (s : Store) : Later i s s := .same id rfl (Nat.le_refl _)

theorem Later.trans {s₂ : Store} (h₁ : Later i s s₁) (h₂ : Later i s₁ s₂) : Later i s s₂ := by
  obtain ⟨us₁, heq₁, hothers₁⟩ := h₁.updates
  obtain ⟨us₂, heq₂, hothers₂⟩ := h₂.updates
  refine ⟨fun h => h₂.loaded (h₁.loaded h), ⟨us₁ ++ us₂, ?_, ?_⟩,
    Nat.le_trans h₁.written h₂.written⟩
  · rw [heq₂, heq₁, List.append_assoc]
  · exact List.forall_mem_append.mpr ⟨hothers₁, hothers₂⟩

theorem later_update {made : Bool} (h : u.caller ≠ i) :
    Later i s (if made then s.update u else s) := by
  split
  · exact ⟨id, ⟨[u], rfl, fun v hv => by rwa [List.mem_singleton.mp hv]⟩, Nat.le_refl _⟩
  · exact .refl i s

/-- A careful step of another call. -/
theorem later_of_acts {j : Nat} {o : Op} {x : Except JsError o.Answer} (hij : i ≠ j)
    (h : Acts initial j s o x s') : Later i s s' := by
  obtain ⟨⟨h, hcareful⟩, hinv⟩ := h
  rcases h with hanswer | ⟨_, _, rfl⟩
  · obtain ⟨_, rfl⟩ := Prod.mk.inj hanswer
    cases o with
    | load record => exact .same (fun _ => rfl) rfl (Nat.le_refl _)
    | writeEmpty => exact .same id rfl hinv.written
    | writeFile text => exact .same id rfl (hinv.in_time hcareful)
    | assign key value => exact later_update (Ne.symm hij)
    | delete key => exact later_update (Ne.symm hij)
    | _ => exact .refl i s
  · exact .refl i _

theorem later_relies : Relies (careful.under (Inv initial)) Later where
  refl := Later.refl
  trans := Later.trans
  others hij h := later_of_acts hij h
  outside h := h.1.elim

/-! ## The invariant and the operations -/

theorem Inv.update (h : Inv initial s) (hloaded : s.loaded = true) (u : Update) :
    Inv initial (s.update u) where
  cache _ := by
    show Function.update s.cache u.key u.value = applied (s.updates ++ [u]) initial
    rw [applied_concat, h.cache hloaded]
  idle hnot := absurd (hloaded.symm.trans hnot) (by decide)
  file := by
    show content s.file = applied ((s.updates ++ [u]).take s.written) initial
    rw [List.take_append_of_le_length h.written]
    exact h.file
  written := by
    show s.written ≤ (s.updates ++ [u]).length
    rw [List.length_append]
    exact Nat.le_add_right_of_le h.written

/-- While nothing is loaded the file has what it had. -/
theorem Inv.content_eq (h : Inv initial s) (hnot : s.loaded = false) :
    content s.file = initial := by
  rw [h.file, h.idle hnot, List.take_nil]
  rfl

theorem Inv.load (h : Inv initial s) (hsame : s.loaded = true → r = s.cache)
    (hfirst : s.loaded = false → r = initial) :
    Inv initial { s with cache := r, loaded := true } where
  cache _ := by
    cases hloaded : s.loaded with
    | true => exact (hsame hloaded).trans (h.cache hloaded)
    | false =>
        show r = applied s.updates initial
        rw [h.idle hloaded]
        exact hfirst hloaded
  idle hnot := Bool.noConfusion hnot
  file := h.file
  written := h.written

theorem Inv.writeEmpty (h : Inv initial s) (hsame : s.loaded = true → s.cache = .empty)
    (hfirst : s.loaded = false → initial = .empty) :
    Inv initial { s with file := some (.json .empty), written := s.updates.length } where
  cache := h.cache
  idle := h.idle
  file := by
    show Record.empty = applied (s.updates.take s.updates.length) initial
    rw [List.take_length]
    cases hloaded : s.loaded with
    | true => exact (hsame hloaded).symm.trans (h.cache hloaded)
    | false =>
        rw [h.idle hloaded]
        exact (hfirst hloaded).symm
  written := Nat.le_refl _

/-! ## What a call knows -/

/-- The `i`-th call has updated nothing. -/
def Without (i : Nat) (s : Store) : Prop := ∀ u ∈ s.updates, u.caller ≠ i

/-- What the `i`-th call has updated is in the text written last. -/
def WrittenBy (i : Nat) (s : Store) : Prop :=
  ∀ n u, s.updates[n]? = some u → u.caller = i → n < s.written

theorem Without.later (h : Without i s) (hlater : Later i s s') : Without i s' := by
  obtain ⟨us, heq, hothers⟩ := hlater.updates
  unfold Without
  rw [heq]
  exact List.forall_mem_append.mpr ⟨h, hothers⟩

theorem Without.writtenBy (h : Without i s) : WrittenBy i s :=
  fun _ u hget hcaller => absurd hcaller (h u (List.mem_of_getElem? hget))

/-- The updates of the call itself are where they were. -/
theorem Later.own (h : Later i s s') {n : Nat} (hget : s'.updates[n]? = some u)
    (hcaller : u.caller = i) : s.updates[n]? = some u := by
  obtain ⟨us, heq, hothers⟩ := h.updates
  rw [heq] at hget
  rcases Nat.lt_or_ge n s.updates.length with hlt | hge
  · rwa [List.getElem?_append_left hlt] at hget
  · rw [List.getElem?_append_right hge] at hget
    exact absurd hcaller (hothers u (List.mem_of_getElem? hget))

theorem WrittenBy.later (h : WrittenBy i s) (hlater : Later i s s') : WrittenBy i s' :=
  fun n u hget hcaller =>
    Nat.lt_of_lt_of_le (h n u (hlater.own hget hcaller) hcaller) hlater.written

theorem Later.mem (h : Later i s s') (hu : u ∈ s.updates) : u ∈ s'.updates := by
  obtain ⟨us, heq, _⟩ := h.updates
  rw [heq]
  exact List.mem_append_left us hu

theorem Later.take (h : Later i s s') {n : Nat} (hle : n ≤ s.updates.length) :
    n ≤ s'.updates.length ∧ s'.updates.take n = s.updates.take n := by
  obtain ⟨us, heq, _⟩ := h.updates
  rw [heq, List.length_append, List.take_append_of_le_length hle]
  exact ⟨Nat.le_add_right_of_le hle, rfl⟩

/-- The text has the memory after some of the updates, among them those of
the `i`-th call. -/
structure Holds (initial : Record) (i : Nat) (text : Written) (s : Store) : Prop where
  updates : text.updates ≤ s.updates.length
  record : text.record = applied (s.updates.take text.updates) initial
  own : ∀ n u, s.updates[n]? = some u → u.caller = i → n < text.updates

theorem Holds.later {text : Written} (h : Holds initial i text s) (hlater : Later i s s') :
    Holds initial i text s' where
  updates := (hlater.take h.updates).1
  record := by
    rw [(hlater.take h.updates).2]
    exact h.record
  own n u hget hcaller := h.own n u (hlater.own hget hcaller) hcaller

theorem Inv.writeFile {text : Written} (h : Inv initial s) (htext : Holds initial i text s) :
    Inv initial { s with file := some (.json text.record), written := text.updates } where
  cache := h.cache
  idle := h.idle
  file := htext.record
  written := htext.updates

/-! ## The code of a call -/

/-- The function keeps the invariant among the other calls, and ends so. -/
abbrev Meets {α : Type} (initial : Record) (i : Nat) (p : Promise α) (ok : α → Store → Prop)
    (err : JsError → Store → Prop) (s : Store) : Prop :=
  p.wp (Acts initial i) (Later i) (fun _ _ _ s' => Inv initial s') (Prog.ends ok err) s

theorem meets_await {o : Op} {ok : o.Answer → Store → Prop} {err : JsError → Store → Prop}
    (h : ∀ s₁, Later i s s₁ → Inv initial s₁ → Careful s₁ o →
      Inv initial (s₁.answer i o).2 ∧ Prog.ends ok err (s₁.answer i o).1 (s₁.answer i o).2)
    (hfail : o.io = true → ∀ s₁ message, Later i s s₁ → err (.failed message) s₁) :
    Meets initial i (await o) ok err s := by
  refine Prog.wp_call.mpr fun s₁ hlater x s₂ hacts => ?_
  obtain ⟨⟨hans, hcareful⟩, hinv⟩ := hacts
  rcases hans with hanswer | ⟨hio, ⟨message, rfl⟩, rfl⟩
  · obtain ⟨rfl, rfl⟩ := Prod.mk.inj hanswer
    exact h s₁ hlater hinv hcareful
  · exact ⟨hinv, hfail hio _ message hlater⟩

theorem meets_readFile (h : Without i s) :
    Meets initial i (await .readFile)
      (fun raw s => Without i s ∧ (s.loaded = false → content (some raw) = initial))
      (fun e s => Without i s ∧ (e = .ENOENT → s.loaded = false → initial = .empty)) s := by
  refine meets_await (fun s₁ hlater hinv _ => ⟨hinv, ?_⟩) fun _ s₁ message hlater =>
    ⟨h.later hlater, fun he => JsError.noConfusion he⟩
  have hcontent := hinv.content_eq
  simp only [Store.answer]
  cases hfile : s₁.file with
  | none =>
      rw [hfile] at hcontent
      exact ⟨h.later hlater, fun _ hnot => (hcontent hnot).symm⟩
  | some raw =>
      rw [hfile] at hcontent
      exact ⟨h.later hlater, hcontent⟩

theorem meets_parse {raw : Text} (h : Without i s)
    (hraw : s.loaded = false → content (some raw) = initial) :
    Meets initial i (liftM (parse raw))
      (fun record s => Without i s ∧ (s.loaded = false → record = initial))
      (fun e s => Without i s ∧ (e = .ENOENT → s.loaded = false → initial = .empty)) s := by
  cases raw with
  | json record => exact ⟨h, hraw⟩
  | other => exact ⟨h, fun he => JsError.noConfusion he⟩

theorem meets_mkdir {P : Store → Prop} (hstable : ∀ {s₁ s₂}, Later i s₁ s₂ → P s₁ → P s₂)
    (h : P s) : Meets initial i (await .mkdir) (fun _ s => P s) (fun _ _ => True) s :=
  meets_await (fun _ hlater hinv _ => ⟨hinv, hstable hlater h⟩) fun _ _ _ _ => trivial

/-- Nothing of the call is on record, and if nothing is loaded there was no
file. -/
def Unread (initial : Record) (i : Nat) (s : Store) : Prop :=
  Without i s ∧ (s.loaded = false → initial = .empty)

theorem not_loaded_before (h : Later i s s') (hnot : s'.loaded = false) : s.loaded = false := by
  cases hloaded : s.loaded with
  | false => rfl
  | true => exact absurd ((h.loaded hloaded).symm.trans hnot) (by decide)

theorem Unread.later (hlater : Later i s s') (h : Unread initial i s) : Unread initial i s' :=
  ⟨h.1.later hlater, fun hnot => h.2 (not_loaded_before hlater hnot)⟩

theorem meets_writeEmpty (h : Unread initial i s) :
    Meets initial i (await .writeEmpty) (fun _ s => Unread initial i s) (fun _ _ => True) s := by
  refine meets_await (fun s₁ hlater hinv hcareful => ?_) fun _ _ _ _ => trivial
  have h₁ := h.later hlater
  exact ⟨hinv.writeEmpty hcareful h₁.2, h₁⟩

/-- The file is read, or made, before anything is loaded. -/
theorem meets_readOrCreate (h : Without i s) :
    Meets initial i readOrCreate
      (fun record s => Without i s ∧ (s.loaded = false → record = initial))
      (fun _ _ => True) s := by
  refine Prog.wp.tryCatch (Prog.wp.bind (meets_readFile h) fun raw s₁ hraw =>
    meets_parse hraw.1 hraw.2) fun e s₁ he => ?_
  by_cases hmissing : e = .ENOENT
  · rw [if_pos hmissing]
    have hunread : Unread initial i s₁ := ⟨he.1, he.2 hmissing⟩
    refine Prog.wp.bind (meets_mkdir Unread.later hunread) fun _ s₂ h₂ => ?_
    refine Prog.wp.bind (meets_writeEmpty h₂) fun _ s₃ h₃ => ?_
    exact ⟨h₃.1, fun hnot => (h₃.2 hnot).symm⟩
  · rw [if_neg hmissing]
    trivial

theorem meets_load {record : Record} (h : Without i s)
    (hrecord : s.loaded = false → record = initial) :
    Meets initial i (await (.load record)) (fun _ s => s.loaded = true ∧ Without i s)
      (fun _ _ => True) s := by
  refine meets_await (fun s₁ hlater hinv hcareful => ?_) fun _ _ _ _ => trivial
  have h₁ := h.later hlater
  exact ⟨hinv.load hcareful fun hnot => hrecord (not_loaded_before hlater hnot), rfl, h₁⟩

theorem meets_ensureLoaded (h : Without i s) :
    Meets initial i ensureLoaded (fun _ s => s.loaded = true ∧ Without i s)
      (fun _ _ => True) s := by
  have hloaded : Meets initial i (await .loaded)
      (fun loaded s => (loaded = true → s.loaded = true) ∧ Without i s) (fun _ _ => True) s :=
    meets_await (fun s₁ hlater hinv _ => ⟨hinv, id, h.later hlater⟩) fun _ _ _ _ => trivial
  refine Prog.wp.bind hloaded fun loaded s₁ h₁ => ?_
  cases loaded with
  | true => exact ⟨h₁.1 rfl, h₁.2⟩
  | false =>
      exact Prog.wp.bind (meets_readOrCreate h₁.2) fun record s₂ h₂ => meets_load h₂.1 h₂.2

/-! ### The updates -/

theorem meets_persist (hloaded : s.loaded = true) (hu : u ∈ s.updates) :
    Meets initial i persist (fun _ s => s.loaded = true ∧ WrittenBy i s ∧ u ∈ s.updates)
      (fun _ _ => True) s := by
  have hstable : ∀ {s₁ s₂ : Store}, Later i s₁ s₂ → s₁.loaded = true ∧ u ∈ s₁.updates →
      s₂.loaded = true ∧ u ∈ s₂.updates :=
    fun hlater h => ⟨hlater.loaded h.1, hlater.mem h.2⟩
  have hstringify : ∀ s : Store, s.loaded = true ∧ u ∈ s.updates →
      Meets initial i (await .stringify)
        (fun text s => Holds initial i text s ∧ s.loaded = true ∧ u ∈ s.updates)
        (fun _ _ => True) s := by
    intro s h
    refine meets_await (fun s₁ hlater hinv _ => ⟨hinv, ?_, hstable hlater h⟩)
      fun _ _ _ _ => trivial
    refine ⟨Nat.le_refl _, ?_, fun n u hget _ => (List.getElem?_eq_some_iff.mp hget).1⟩
    show s₁.cache = applied (s₁.updates.take s₁.updates.length) initial
    rw [List.take_length]
    exact hinv.cache (hlater.loaded h.1)
  refine Prog.wp.bind (meets_mkdir hstable ⟨hloaded, hu⟩) fun _ s₁ h₁ => ?_
  refine Prog.wp.bind (hstringify s₁ h₁) fun text s₂ h₂ => ?_
  refine meets_await (fun s₃ hlater hinv _ => ?_) fun _ _ _ _ => trivial
  have htext := h₂.1.later hlater
  obtain ⟨hloaded₃, hu₃⟩ := hstable hlater h₂.2
  exact ⟨hinv.writeFile htext, hloaded₃, htext.own, hu₃⟩

/-- What a call that returned has done. A removal may have found no key. -/
def Done (initial : Record) (i : Nat) : Request → Store → Prop
  | .getItem _, _ => True
  | .setItem key value, s => ⟨i, key, some value⟩ ∈ s.updates
  | .removeItem key, s => ⟨i, key, none⟩ ∈ s.updates ∨
      ∃ n ≤ s.updates.length, applied (s.updates.take n) initial key = none

theorem Done.later {q : Request} (hlater : Later i s s') (h : Done initial i q s) :
    Done initial i q s' := by
  cases q with
  | getItem key => trivial
  | setItem key value => exact hlater.mem h
  | removeItem key =>
      rcases h with hu | ⟨n, hle, habsent⟩
      · exact .inl (hlater.mem hu)
      · obtain ⟨hle', htake⟩ := hlater.take hle
        exact .inr ⟨n, hle', by rw [htake]; exact habsent⟩

/-- The store where a call has returned. -/
def Returned (initial : Record) (i : Nat) (q : Request) (s : Store) : Prop :=
  s.loaded = true ∧ WrittenBy i s ∧ Done initial i q s

/-- Where a call ends. -/
def Ended (initial : Record) (i : Nat) (q : Request) : Except JsError Result → Store → Prop :=
  Prog.ends (fun _ s => Returned initial i q s) fun _ _ => True

theorem ended_later (i : Nat) (q : Request) (r : Except JsError Result) (s s' : Store)
    (hlater : Later i s s') (h : Ended initial i q r s) : Ended initial i q r s' := by
  cases r with
  | ok a => exact ⟨hlater.loaded h.1, h.2.1.later hlater, h.2.2.later hlater⟩
  | error e => trivial

theorem meets_getItem (h : Without i s) :
    Meets initial i (getItem key) (fun _ s => Returned initial i (.getItem key) s)
      (fun _ _ => True) s := by
  refine Prog.wp.bind (meets_ensureLoaded h) fun _ s₁ h₁ => ?_
  refine meets_await (fun s₂ hlater hinv _ => ⟨hinv, ?_⟩) fun _ _ _ _ => trivial
  exact ⟨hlater.loaded h₁.1, (h₁.2.later hlater).writtenBy, trivial⟩

theorem answer_assign {value : String} (h : s.cache.takes key = true) :
    s.answer i (.assign key value) = (.ok (), s.update ⟨i, key, some value⟩) :=
  congrArg (Prod.mk _) (if_pos h)

theorem meets_setItem {value : String} (h : Without i s) :
    Meets initial i (setItem key value) (fun _ s => Returned initial i (.setItem key value) s)
      (fun _ _ => True) s := by
  have hassign : ∀ s : Store, s.loaded = true → Meets initial i (await (.assign key value))
      (fun _ s => s.loaded = true ∧ ⟨i, key, some value⟩ ∈ s.updates) (fun _ _ => True) s := by
    intro s hloaded
    refine meets_await (fun s₁ hlater hinv hcareful => ?_) fun _ _ _ _ => trivial
    have hloaded₁ := hlater.loaded hloaded
    rw [answer_assign hcareful]
    exact ⟨hinv.update hloaded₁ _, hloaded₁, List.mem_append_right _ (List.mem_singleton.mpr rfl)⟩
  refine Prog.wp.bind (meets_ensureLoaded h) fun _ s₁ h₁ => ?_
  exact Prog.wp.bind (hassign s₁ h₁.1) fun _ s₂ h₂ => meets_persist h₂.1 h₂.2

theorem meets_removeItem (h : Without i s) :
    Meets initial i (removeItem key) (fun _ s => Returned initial i (.removeItem key) s)
      (fun _ _ => True) s := by
  have hdelete : ∀ s : Store, s.loaded = true → Without i s →
      Meets initial i (await (.delete key))
        (fun found s => s.loaded = true ∧ (found = true → ⟨i, key, none⟩ ∈ s.updates) ∧
          (found = false → Returned initial i (.removeItem key) s)) (fun _ _ => True) s := by
    intro s hloaded hnone
    refine meets_await (fun s₁ hlater hinv hcareful => ?_) fun _ _ _ _ => trivial
    have hloaded₁ := hlater.loaded hloaded
    simp only [Store.answer]
    cases hfound : s₁.cache.hasKey key with
    | true =>
        rw [if_pos rfl]
        refine ⟨hinv.update hloaded₁ _, hloaded₁, fun _ => ?_, fun hno => Bool.noConfusion hno⟩
        exact List.mem_append_right _ (List.mem_singleton.mpr rfl)
    | false =>
        rw [if_neg (by decide)]
        refine ⟨hinv, hloaded₁, fun hno => Bool.noConfusion hno, fun _ => ?_⟩
        refine ⟨hloaded₁, (hnone.later hlater).writtenBy, .inr ⟨_, Nat.le_refl _, ?_⟩⟩
        rw [List.take_length, ← hinv.cache hloaded₁]
        simp only [Record.hasKey, Bool.or_eq_false_iff] at hfound
        exact Option.isSome_eq_false_iff.mp hfound.1 |> Option.isNone_iff_eq_none.mp
  refine Prog.wp.bind (meets_ensureLoaded h) fun _ s₁ h₁ => ?_
  refine Prog.wp.bind (hdelete s₁ h₁.1 h₁.2) fun found s₂ h₂ => ?_
  cases found with
  | true =>
      refine Prog.wp.mono _ (fun r s hr => ?_) (meets_persist h₂.1 (h₂.2.1 rfl))
      cases r with
      | ok a => exact ⟨hr.1, hr.2.1, .inl hr.2.2⟩
      | error e => trivial
  | false => exact h₂.2.2 rfl

theorem meets_handler (q : Request) (h : Without i s) :
    (handler q).wp (Acts initial i) (Later i) (fun _ _ _ s' => Inv initial s')
      (Ended initial i q) s := by
  cases q with
  | getItem key => exact Prog.wp.bind (meets_getItem h) fun _ _ h₁ => h₁
  | setItem key value => exact Prog.wp.bind (meets_setItem h) fun _ _ h₁ => h₁
  | removeItem key => exact Prog.wp.bind (meets_removeItem h) fun _ _ h₁ => h₁

end LunarysBridge.Node.FileStorage
