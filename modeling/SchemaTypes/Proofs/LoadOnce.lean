import SchemaTypes.Proofs.RegistryGrowth
set_option autoImplicit false

/-!
Loading reads each document once. A location is recorded as soon as a document is entered at it,
before its directives are followed, and loading reads only locations not recorded yet. So each
nested load starts with one unread document of the source fewer than the load around it, and the
depth loading is given, one more than the source has documents, is never used up
(`loadAtT_budget`). Over a session of commands, a location is read or handed to ingestion only
while no document has been entered at it (`ReadsOnce`), and a recorded location loads again
without being read.
-/

namespace SchemaTypes.Registry

open SchemaTypes.Location SchemaTypes.Xml

/-! ## The depth loading needs -/

theorem countP_lt_countP {α : Type} {p q : α → Bool} {l : List α} (h : ∀ x ∈ l, p x → q x)
    {a : α} (ha : a ∈ l) (hq : q a) (hp : ¬p a) : l.countP p < l.countP q := by
  induction l with
  | nil => cases ha
  | cons b l ih =>
    have hl : ∀ x ∈ l, p x → q x := fun x hx => h x (List.mem_cons_of_mem b hx)
    have hb := h b List.mem_cons_self
    rw [List.countP_cons,List.countP_cons]
    rcases List.mem_cons.1 ha with rfl | ha
    · have := List.countP_mono_left hl
      simp [hq,hp]
      omega
    · have := ih hl ha
      by_cases hpb : p b <;> by_cases hqb : q b <;> simp [hpb,hqb] at hb ⊢ <;> omega

def unread (src : Source) (reg : Registry) : Nat :=
  src.documents.countP fun e => (reg.loadedNamespace? e.1).isNone

theorem unread_le (src : Source) (reg : Registry) : unread src reg ≤ src.documents.length :=
  List.countP_le_length

theorem unread_anti {src : Source} {reg reg' : Registry} (hg : reg.Grows reg') :
    unread src reg' ≤ unread src reg := by
  apply List.countP_mono_left
  intro e _ he
  simpa using hg.unrecorded (by simpa using he)

theorem unread_entered_lt {src : Source} {reg : Registry} {loc : Location} {text : String}
    (hk : reg.loadedNamespace? loc.key = none) (hf : src.fetch? loc = some text) (root : Node) :
    unread src (entered reg root loc) < unread src reg := by
  obtain ⟨l₁,l₂,hl,-⟩ := List.lookup_eq_some_iff.1 hf
  have hmem : (loc.key,text) ∈ src.documents := by
    rw [hl]
    simp
  apply countP_lt_countP _ hmem
  · simp [hk]
  · simp [entered,loadedNamespace?_recordLoaded]
  · intro e _ he
    simp only [entered,loadedNamespace?_ensureSchema,loadedNamespace?_recordLoaded] at he ⊢
    split at he
    · simp at he
    · exact he

theorem loadAtT_budget (src : Source) (n : Nat) : ∀ (reg : Registry) (loc : Location),
    unread src reg < n → (∀ m, n ≤ m → loadAtT src m reg loc = loadAtT src n reg loc) ∧
      ∀ k, Event.exhausted k ∉ (loadAtT src n reg loc).2 := by
  induction n with
  | zero => intro reg loc h; omega
  | succ n ih =>
    intro reg loc h
    cases hk : reg.loadedNamespace? loc.key with
    | some ns => simp [loadAtT_of_recorded hk]
    | none =>
      cases hf : src.fetch? loc with
      | none => simp [loadAtT_of_missing hk hf]
      | some text =>
        have hkeep : ∀ m r l, unread src r < n → unread src (loadAtT src m r l).1.1 < n :=
          fun m r l hr => Nat.lt_of_le_of_lt (unread_anti (by rw [loadAtT_fst]; exact loadAt_grows src m r l)) hr
        have hin : ∀ root, unread src (entered reg root loc) < n := fun root => by
          have := unread_entered_lt hk hf root
          omega
        constructor
        · intro m hm
          obtain ⟨m,rfl⟩ : ∃ m', m = m' + 1 := ⟨m - 1,by omega⟩
          rw [loadAtT_succ hk hf,loadAtT_succ hk hf]
          cases Document.read reg.config.allowDtd text with
          | error e => rfl
          | ok doc =>
            dsimp only
            rw [ingestWithT_congr (fun r => unread src r < n) (fun r l hr => (ih r l hr).1 m (by omega))
              (hkeep m) reg doc.root loc (hin doc.root)]
        · intro k hev
          rw [loadAtT_succ hk hf] at hev
          simp only [Traced.after_snd,List.singleton_append,List.mem_cons,reduceCtorEq,false_or] at hev
          revert hev
          cases Document.read reg.config.allowDtd text with
          | error e => simp
          | ok doc =>
            simp only [Traced.after_snd,Traced.settle_snd,List.singleton_append,List.mem_cons,
              reduceCtorEq,false_or]
            intro hev
            rcases mem_ingestWithT hev with h' | h' | ⟨r,d,h'⟩
            · cases h'
            · obtain ⟨r,l,hr,hev'⟩ := mem_followDirectivesT _ (hkeep n) loc _ _ (hin doc.root) h'
              exact (ih r l hr).2 k hev'
            · cases h'

/-! ## Each location is read once -/

def Event.reads? : Event → Option LocationKey
  | .fetch k => some k
  | .exhausted _ => none
  | .handOff k => some k
  | .enter _ _ => none
  | .register .. => none

def Event.handOff? : Event → Option LocationKey
  | .fetch _ => none
  | .exhausted _ => none
  | .handOff k => some k
  | .enter _ _ => none
  | .register .. => none

theorem Event.reads?_of_handOff? {ev : Event} {k : LocationKey} (h : ev.handOff? = some k) :
    ev.reads? = some k := by
  cases ev <;> simp_all [Event.handOff?,Event.reads?]

/-- The locations a run hands to ingestion, in order. -/
def handOffs (evs : List Event) : List LocationKey := evs.filterMap Event.handOff?

@[simp] theorem handOffs_nil : handOffs [] = [] := rfl

@[simp] theorem handOffs_cons (ev : Event) (evs : List Event) :
    handOffs (ev :: evs) = ev.handOff?.toList ++ handOffs evs := by
  cases ev <;> rfl

@[simp] theorem handOffs_append (evs evs' : List Event) :
    handOffs (evs ++ evs') = handOffs evs ++ handOffs evs' :=
  List.filterMap_append

def ReadsFresh (reg : Registry) (evs : List Event) : Prop :=
  ∀ evs₁ ev evs₂ k, evs = evs₁ ++ ev :: evs₂ → ev.reads? = some k →
    reg.loadedNamespace? k = none ∧ ∀ root, Event.enter k root ∉ evs₁

theorem ReadsFresh.of_reads {reg : Registry} {evs : List Event} (h : ∀ ev ∈ evs, ev.reads? = none) :
    ReadsFresh reg evs := by
  intro A ev B k hs hk
  have := h ev (by simp [hs])
  simp [this] at hk

theorem ReadsFresh.cons {reg : Registry} {ev₀ : Event} {evs : List Event}
    (h₀ : ∀ k, ev₀.reads? = some k → reg.loadedNamespace? k = none)
    (hne : ∀ k root, ev₀ ≠ .enter k root) (h : ReadsFresh reg evs) : ReadsFresh reg (ev₀ :: evs) := by
  intro A ev B k hs hk
  rcases List.cons_eq_append_iff.1 hs with ⟨rfl,hB⟩ | ⟨A',rfl,hA'⟩
  · rw [List.cons.injEq] at hB
    obtain ⟨rfl,-⟩ := hB
    exact ⟨h₀ k hk,by simp⟩
  · obtain ⟨hr,he⟩ := h A' ev B k hA' hk
    refine ⟨hr,fun root hmem => ?_⟩
    rcases List.mem_cons.1 hmem with hmem | hmem
    · exact hne k root hmem.symm
    · exact he root hmem

/-- A run that grows the registry, records what it enters and hands each location over at most once. -/
structure ReadsOnce (reg reg' : Registry) (evs : List Event) : Prop where
  grows : reg.Grows reg'
  fresh : ReadsFresh reg evs
  recorded : ∀ k, (reg'.loadedNamespace? k).isSome ↔
    (reg.loadedNamespace? k).isSome ∨ ∃ root, Event.enter k root ∈ evs
  handedOff : ∀ k ∈ handOffs evs, (reg'.loadedNamespace? k).isSome
  nodup : (handOffs evs).Nodup

namespace ReadsOnce

variable {reg reg' : Registry} {evs : List Event}

theorem unrecorded (h : ReadsOnce reg reg' evs) {ev : Event} (hev : ev ∈ evs) {k : LocationKey}
    (hk : ev.reads? = some k) : reg.loadedNamespace? k = none := by
  obtain ⟨s,t,rfl⟩ := List.append_of_mem hev
  exact (h.fresh s ev t k rfl hk).1

theorem refl (reg : Registry) : ReadsOnce reg reg [] where
  grows := Grows.refl reg
  fresh := ReadsFresh.of_reads (by simp)
  recorded := by simp
  handedOff := by simp
  nodup := List.nodup_nil

theorem trans {r₁ r₂ r₃ : Registry} {e₁ e₂ : List Event} (h₁ : ReadsOnce r₁ r₂ e₁)
    (h₂ : ReadsOnce r₂ r₃ e₂) : ReadsOnce r₁ r₃ (e₁ ++ e₂) where
  grows := h₁.grows.trans h₂.grows
  fresh := by
    intro A ev B k hs hk
    have second : ∀ a', A = e₁ ++ a' → e₂ = a' ++ ev :: B →
        r₁.loadedNamespace? k = none ∧ ∀ root, Event.enter k root ∉ A := by
      rintro a' rfl he₂
      obtain ⟨hr,he⟩ := h₂.fresh a' ev B k he₂ hk
      refine ⟨h₁.grows.unrecorded hr,fun root hmem => ?_⟩
      rcases List.mem_append.1 hmem with hmem | hmem
      · have := (h₁.recorded k).2 (.inr ⟨root,hmem⟩)
        simp [hr] at this
      · exact he root hmem
    rcases List.append_eq_append_iff.1 hs with ⟨a',hA,he₂⟩ | ⟨c',he₁,hB⟩
    · exact second a' hA he₂
    · cases c' with
      | nil => exact second [] (by simpa using he₁.symm) (by simpa using hB.symm)
      | cons c c' =>
        rw [List.cons_append,List.cons.injEq] at hB
        obtain ⟨rfl,rfl⟩ := hB
        exact h₁.fresh A ev c' k he₁ hk
  recorded := by
    intro k
    rw [h₂.recorded k,h₁.recorded k]
    simp only [List.mem_append,exists_or,or_assoc]
  handedOff := by
    intro k hk
    rw [handOffs_append,List.mem_append] at hk
    rcases hk with hk | hk
    · exact h₂.grows.loaded k (h₁.handedOff k hk)
    · exact h₂.handedOff k hk
  nodup := by
    rw [handOffs_append,List.nodup_append]
    refine ⟨h₁.nodup,h₂.nodup,fun a ha b hb hab => ?_⟩
    subst hab
    obtain ⟨ev,hev,hk⟩ := List.mem_filterMap.1 hb
    have hr := h₂.unrecorded hev (Event.reads?_of_handOff? hk)
    have := h₁.handedOff a ha
    simp [hr] at this

theorem quiet (hg : reg.Grows reg') (hl : ∀ k, reg'.loadedNamespace? k = reg.loadedNamespace? k)
    (hq : ∀ ev ∈ evs, ev.reads? = none ∧ ∀ k root, ev ≠ .enter k root) : ReadsOnce reg reg' evs := by
  have hnil : handOffs evs = [] := by
    refine List.filterMap_eq_nil_iff.2 fun ev hev => ?_
    cases hh : ev.handOff? with
    | none => rfl
    | some k =>
      have := Event.reads?_of_handOff? hh
      rw [(hq ev hev).1] at this
      cases this
  refine ⟨hg,ReadsFresh.of_reads fun ev hev => (hq ev hev).1,fun k => ?_,by simp [hnil],
    by simp [hnil]⟩
  · rw [hl k]
    constructor
    · exact .inl
    · rintro (h | ⟨root,hmem⟩)
      · exact h
      · exact absurd rfl ((hq _ hmem).2 k root)

theorem grow {r'' : Registry} (h : ReadsOnce reg reg' evs) (hg : reg'.Grows r'')
    (hl : ∀ k, r''.loadedNamespace? k = reg'.loadedNamespace? k) : ReadsOnce reg r'' evs := by
  rw [← List.append_nil evs]
  exact h.trans (quiet hg hl (by simp))

theorem fetch {k : LocationKey} (hk : reg.loadedNamespace? k = none) :
    ReadsOnce reg reg [.fetch k] where
  grows := Grows.refl reg
  fresh := ReadsFresh.cons (by simp [Event.reads?,hk]) (fun _ _ h => by cases h)
    (ReadsFresh.of_reads (by simp))
  recorded := by simp
  handedOff := by simp [Event.handOff?]
  nodup := by simp [Event.handOff?]

theorem enter {k : LocationKey} (root : Node) (hg : reg.Grows reg')
    (hrec : ∀ k', (reg'.loadedNamespace? k').isSome ↔ (reg.loadedNamespace? k').isSome ∨ k' = k) :
    ReadsOnce reg reg' [.enter k root] where
  grows := hg
  fresh := ReadsFresh.of_reads (by simp [Event.reads?])
  recorded := by
    intro k'
    rw [hrec k']
    simp
  handedOff := by simp [Event.handOff?]
  nodup := by simp [Event.handOff?]

theorem handOff {k : LocationKey} {root : Node} (hk : reg.loadedNamespace? k = none)
    (h : ReadsOnce reg reg' (.enter k root :: evs)) :
    ReadsOnce reg reg' (.handOff k :: .enter k root :: evs) where
  grows := h.grows
  fresh := ReadsFresh.cons (by simp [Event.reads?,hk]) (fun _ _ h => by cases h) h.fresh
  recorded := by
    intro k'
    rw [h.recorded k']
    simp
  handedOff := by
    intro k' hk'
    simp only [handOffs_cons,Event.handOff?,Option.toList,List.singleton_append,List.nil_append,
      List.mem_cons] at hk'
    rcases hk' with rfl | hk'
    · exact (h.recorded k').2 (.inr ⟨root,List.mem_cons_self⟩)
    · exact h.handedOff k' (by simpa [Event.handOff?] using hk')
  nodup := by
    simp only [handOffs_cons,Event.handOff?,Option.toList,List.singleton_append,List.nil_append]
    refine List.nodup_cons.2 ⟨fun hmem => ?_,by simpa [Event.handOff?] using h.nodup⟩
    obtain ⟨ev,hev,hh⟩ := List.mem_filterMap.1 hmem
    obtain ⟨s,t,rfl⟩ := List.append_of_mem hev
    exact (h.fresh (.enter k root :: s) ev t k rfl (Event.reads?_of_handOff? hh)).2 root
      List.mem_cons_self

theorem settle {t : Traced String} (h : ReadsOnce reg t.1.1 t.2) : ReadsOnce reg t.settle.1.1 t.settle.2 := by
  obtain ⟨⟨r,outcome⟩,evs⟩ := t
  cases outcome with
  | error e => exact h
  | ok ns => exact h.grow (grows_ensureSchema r ns) (by simp [Traced.settle])

end ReadsOnce

theorem readsOnce_ingestRelation : IngestRelation ReadsOnce where
  refl := ReadsOnce.refl
  trans := ReadsOnce.trans
  ensureSchema r ns := (ReadsOnce.refl r).grow (grows_ensureSchema r ns) (by simp)
  enter r k ns root := ReadsOnce.enter root (grows_recordLoaded r k ns) fun k' => by
    rw [loadedNamespace?_recordLoaded]
    split <;> simp_all
  bindAliases r ns root _ :=
    ReadsOnce.quiet (grows_modifySchema r ns fun s => s.grows_bindAliases root.bindings) (by simp) (by simp)
  register r ns _ _ d _ :=
    ReadsOnce.quiet (grows_modifySchema r ns fun s => s.grows_register d) (by simp) (by simp [Event.reads?])

theorem readsOnce_loadRelation : LoadRelation ReadsOnce :=
  readsOnce_ingestRelation.loadRelation
    (fun r _ => ReadsOnce.quiet (Grows.refl r) (fun _ => rfl) (by simp [Event.reads?]))
    (fun _ _ hk => ReadsOnce.fetch hk) ReadsOnce.handOff

/-- Loading reads each location once: no location is handed to ingestion twice in a session, and a
recorded location loads again without reading anything. -/
theorem loading_reads_each_location_once (src : Source) :
    (∀ (reg : Registry) (loc : Location), (∀ k, Event.exhausted k ∉ (loadT src reg loc).2) ∧
      ∀ m, src.documents.length + 1 ≤ m → loadAt src m reg loc = load src reg loc) ∧
    (∀ (start reg : Registry) (evs : List Event), Session src start reg evs →
      (handOffs evs).Nodup ∧
      (∀ evs₁ evs₂ k, evs = evs₁ ++ Event.fetch k :: evs₂ →
        start.loadedNamespace? k = none ∧ ∀ root, Event.enter k root ∉ evs₁) ∧
      ∀ k, (reg.loadedNamespace? k).isSome ↔
        (start.loadedNamespace? k).isSome ∨ ∃ root, Event.enter k root ∈ evs) ∧
    (∀ (reg : Registry) (loc : Location) (ns : String), reg.loadedNamespace? loc.key = some ns →
      loadT src reg loc = ((reg.ensureSchema ns,.ok ns),[]) ∧
      (reg.ensureSchema ns).loaded = reg.loaded ∧
      ∀ ns', (reg.ensureSchema ns).schema? ns' =
        if ns' = ns then some ((reg.schema? ns).getD (.empty ns)) else reg.schema? ns') := by
  refine ⟨fun reg loc => ?_,fun start reg evs h => ?_,fun reg loc ns h => ?_⟩
  · obtain ⟨hm,hx⟩ := loadAtT_budget src (src.documents.length + 1) reg loc
      (Nat.lt_succ_of_le (unread_le src reg))
    refine ⟨hx,fun m hle => ?_⟩
    rw [← loadAtT_fst,← loadT_fst,hm m hle]
    rfl
  · have h := readsOnce_loadRelation.holds_session h
    exact ⟨h.nodup,fun evs₁ evs₂ k hs => h.fresh evs₁ _ evs₂ k hs rfl,h.recorded⟩
  · exact ⟨loadAtT_of_recorded h,loaded_ensureSchema reg ns,schema?_ensureSchema reg ns⟩

/-- Three documents that load one another: `/a` includes itself and `/b` and imports `c` from `/c`,
`/b` includes `/a` back, and `/c` imports the namespace of `/a` from `/a`. -/
def cyclicSource : Source :=
  ⟨[(.path [.root,.normal "a"],
      "<schema><include schemaLocation='a'/><include schemaLocation='b'/><import namespace='c' schemaLocation='c'/></schema>"),
    (.path [.root,.normal "b"],"<schema><include schemaLocation='a'/></schema>"),
    (.path [.root,.normal "c"],"<schema targetNamespace='c'><import schemaLocation='a'/></schema>")]⟩

/-- Loading `/a` and then `/b` from the cyclic source hands each of the three documents to ingestion
once, and the second load reads nothing. -/
theorem cyclicSource_loads_read_each_location_once :
    (∀ k, Event.exhausted k ∉ (loadT cyclicSource (Registry.new {}) (.path ⟨"/a"⟩)).2) ∧
    handOffs ([] ++ commandEvents cyclicSource (Registry.new {}) (.load "/a") ++
        commandEvents cyclicSource (run cyclicSource (Registry.new {}) (.load "/a")).1 (.load "/b")) =
      [.path [.root,.normal "a"],.path [.root,.normal "b"],.path [.root,.normal "c"]] ∧
    (handOffs ([] ++ commandEvents cyclicSource (Registry.new {}) (.load "/a") ++
      commandEvents cyclicSource (run cyclicSource (Registry.new {}) (.load "/a")).1 (.load "/b"))).Nodup ∧
    loadT cyclicSource (run cyclicSource (Registry.new {}) (.load "/a")).1 (.path ⟨"/b"⟩) =
      (((run cyclicSource (Registry.new {}) (.load "/a")).1.ensureSchema "",.ok ""),[]) := by
  have hsession := Session.step (Session.step (Session.nil : Session cyclicSource (Registry.new {}) _ _)
    (.load "/a")) (.load "/b")
  have hfacts : handOffs ([] ++ commandEvents cyclicSource (Registry.new {}) (.load "/a") ++
        commandEvents cyclicSource (run cyclicSource (Registry.new {}) (.load "/a")).1 (.load "/b")) =
      [.path [.root,.normal "a"],.path [.root,.normal "b"],.path [.root,.normal "c"]] ∧
      (run cyclicSource (Registry.new {}) (.load "/a")).1.loadedNamespace? (Location.path ⟨"/b"⟩).key =
        some "" := by
    decide +kernel
  exact ⟨((loading_reads_each_location_once cyclicSource).1 _ _).1,hfacts.1,
    ((loading_reads_each_location_once cyclicSource).2.1 _ _ _ hsession).1,
    ((loading_reads_each_location_once cyclicSource).2.2 _ _ _ hfacts.2).1⟩

end SchemaTypes.Registry
