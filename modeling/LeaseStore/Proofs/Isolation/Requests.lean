/-
LeaseStore.Proofs.Isolation.Requests — a request about one record, made twice.

Two engines are bound to one configuration of one connector, in worlds that
agree on one record. They need not have come equally far: one may be connected
when the other is not. Either both can connect or neither can, for the
connector does not look at the store. So a request about the record and its
renamed self come to the same (`World.Pairs.run_request`).
-/
import LeaseStore.Proofs.Isolation.Abreast
import LeaseStore.Proofs.Runs.Lifecycle

namespace LeaseStore

variable {σ : Type} {V : View σ} {K : Connector σ} {cfg : Config} {id : String} {ρ : Renaming}

/-! ## Engines -/

/-- The engine is bound to this configuration, and whatever it is linked to was
opened for it. -/
structure Engine.Posted (K : Connector σ) (cfg : Config) (e : Engine σ) : Prop where
  connector : e.connector = K
  config : e.config = .ready cfg
  opened : ∀ l, e.link = some l → ∃ st, (K cfg st).1 = .ok l.backend

theorem Engine.Posted.of_opens {e e' : Engine σ} (h : e.Posted K cfg) (hkeeps : e.Keeps e')
    (hopens : e.Opens e') : e'.Posted K cfg := by
  refine ⟨hkeeps.connector.trans h.connector, hkeeps.config.trans h.config, fun l hl => ?_⟩
  obtain hold | ⟨config, st, hconfig, hnew⟩ := hopens l hl
  · exact h.opened l hold
  · rw [h.config] at hconfig
    cases hconfig
    rw [h.connector] at hnew
    exact ⟨st, hnew⟩

namespace Session

variable {s : Session σ}

/-- An engine that is posted serves its collection, if it can connect. -/
theorem serves_of_posted (h : s.engine.Posted K cfg) (hk : K.Lawful V)
    (hopens : ∀ st, ∃ b, (K cfg st).1 = .ok b) (hfit : s.Fit V cfg.collectionRef) :
    s.engine.Serves V cfg.collectionRef s.world.store := by
  refine ⟨⟨h.connector ▸ hk, fun l hl => ?_⟩, ⟨cfg, h.config, rfl, h.connector ▸ hopens⟩,
    fun l hl => (hfit.link l hl).2.1⟩
  obtain ⟨st, hb⟩ := h.opened l hl
  obtain ⟨-, hcollection, hthere⟩ := hfit.link l hl
  rw [hcollection]
  exact ⟨hk.opens cfg st l.backend hb, hthere⟩

/-- If it cannot, it is not linked and does not become so. -/
theorem connect_of_posted (h : s.engine.Posted K cfg) {err : StoreError}
    (hfails : ∀ st, (K cfg st).1 = .error err) : s.connect.1 = .error err := by
  cases hl : s.engine.link with
  | some l =>
    obtain ⟨st, hb⟩ := h.opened l hl
    rw [hfails st] at hb
    cases hb
  | none =>
    rw [connect_of_unlinked h.config hl, h.connector]
    dsimp only
    rw [hfails]

end Session

/-! ## Requests -/

namespace Request

/-- A request that is neither a scan nor a bulk names the id of its record
only. -/
theorem names_eq {q : Request} (hscan : q ≠ .getAll) (hbulk : ∀ ids, q ≠ .deleteMany ids)
    (hid : q.Names id) : q.Names = (· = id) := by
  cases q with
  | get | contains | create | upsert | upsertWithToken | delete | tryToLock | tryToUnlock
  | lockWithRetry =>
    subst hid
    rfl
  | getAll => exact absurd rfl hscan
  | deleteMany ids => exact absurd rfl (hbulk ids)
  | healthCheck => exact hid.elim

theorem waits_rename (f : String → String) (q : Request) : (q.rename f).Waits ↔ q.Waits := by
  cases q <;> exact Iff.rfl

theorem refused_rename (f : String → String) (err : StoreError) (q : Request) :
    (q.rename f).refused err = q.refused err := by
  cases q <;> rfl

/-- A refusal tells of no token. -/
theorem alike_refused (err : StoreError) (q : Request) :
    (q.refused err).Alike ρ (q.refused err) := by
  cases q <;> constructor <;> exact .error err

end Request

namespace World.Pairs

variable {c : CollectionRef} {w u : World σ}

/-- Nothing has happened to the record on either side. -/
theorem same (h : World.Pairs V c id ρ w u) {w' u' : World σ} (hw : V.Same w.store w'.store)
    (hu : V.Same u.store u'.store) (hclock : w'.clock = w.clock) (hclock' : u'.clock = u.clock) :
    World.Pairs V c id ρ w' u' :=
  ⟨h.stores.same hw.focus hu.focus, by rw [hclock, hclock', h.clock]⟩

variable {s t : Session σ} {q : Request} {f : String → String}

/-- Without a connection a request is refused on both sides. -/
theorem run_refused (h : World.Pairs V c id ρ s.world t.world) (hs : s.Fit V c) (ht : t.Fit V c)
    {err : StoreError} (herr : s.connect.1 = .error err) (herr' : t.connect.1 = .error err)
    (hq : ¬ q.Waits) :
    (q.call.run s).1.Alike ρ ((q.rename f).call.run t).1 ∧
      World.Pairs V c id ρ (q.call.run s).2.world ((q.rename f).call.run t).2.world := by
  have hrefused : s.connect = (.error err, s.connect.2) := Prod.ext herr rfl
  have hrefused' : t.connect = (.error err, t.connect.2) := Prod.ext herr' rfl
  obtain ⟨s', hrun, ⟨metrics, rfl⟩, -⟩ := q.run_of_refused hrefused hq
  obtain ⟨t', hrun', ⟨metrics', rfl⟩, -⟩ :=
    (q.rename f).run_of_refused hrefused' (mt (q.waits_rename f).1 hq)
  obtain ⟨hconnects, hproceeds⟩ := hs.connect
  obtain ⟨hconnects', hproceeds'⟩ := ht.connect
  rw [hrun, hrun', Request.refused_rename]
  exact ⟨q.alike_refused err,
    h.same hconnects.same hconnects'.same hproceeds.clock hproceeds'.clock⟩

/-- To connect leads to linked sessions. -/
theorem abreast (h : World.Pairs V c id ρ s.world t.world)
    (hs : s.engine.Serves V c s.world.store) (ht : t.engine.Serves V c t.world.store) :
    ∃ config config', s.connect.1 = .ok config ∧ t.connect.1 = .ok config' ∧
      Session.Abreast V c id ρ s.connect.2 t.connect.2 := by
  obtain ⟨config, l, st, hconnect, hsame, hserves⟩ :=
    Session.connect_of_serves h.stores.sound.1 h.stores.calm.1 hs
  obtain ⟨config', l', st', hconnect', hsame', hserves'⟩ :=
    Session.connect_of_serves h.stores.sound.2 h.stores.calm.2 ht
  rw [hconnect, hconnect']
  exact ⟨config, config', rfl, rfl, h.same hsame hsame' rfl rfl, ⟨hserves, hserves'⟩,
    ⟨l, rfl⟩, l', rfl⟩

/-- A bulk delete leaves its records on neither side, and reports the same. -/
theorem run_deleteMany (h : World.Pairs V c id ρ s.world t.world)
    (hs : s.engine.Serves V c s.world.store) (ht : t.engine.Serves V c t.world.store)
    {ids : List String} (hid : id ∈ ids) :
    ((Operation.deleteMany ids).run s).1 = ((Operation.deleteMany ids).run t).1 ∧
      World.Pairs V c id ρ ((Operation.deleteMany ids).run s).2.world
        ((Operation.deleteMany ids).run t).2.world := by
  have hsound := h.stores.sound
  have hcalm := h.stores.calm
  obtain ⟨l, mid, st, replies, hrun, hsame, hthere, hall, -⟩ :=
    Session.run_deleteMany hsound.1 hcalm.1 hs ids
  obtain ⟨l', mid', st', replies', hrun', hsame', hthere', hall', -⟩ :=
    Session.run_deleteMany hsound.2 hcalm.2 ht ids
  have hpasses := hsame.toPasses.trans hall.moves.passes
  have hpasses' := hsame'.toPasses.trans hall'.moves.passes
  have hgone : V.look st c id = none :=
    hall.look_eq_none (hsame.calm hcalm.1) hthere (.inl hid)
  have hgone' : V.look st' c id = none :=
    hall'.look_eq_none (hsame'.calm hcalm.2) hthere' (.inl hid)
  rw [hrun, hrun']
  refine ⟨rfl, .intro ⟨hpasses.sound hsound.1, hpasses'.sound hsound.2⟩
    ⟨hpasses.calm hcalm.1, hpasses'.calm hcalm.2⟩ ?_ fun a b hab => ?_, h.clock⟩
  · rw [hgone, hgone']
    exact .none
  · obtain ⟨hissued, hissued'⟩ := h.stores.issued a b hab
    exact ⟨fun hun => hissued (hpasses.unissued a hun),
      fun hun => hissued' (hpasses'.unissued b hun)⟩

/-- Requests that connect do alike: by the waves of a bulk delete, or as
twins do that are about this record only. -/
theorem run_served (h : World.Pairs V c id ρ s.world t.world)
    (hs : s.engine.Serves V c s.world.store) (ht : t.engine.Serves V c t.world.store)
    (hq : ¬ q.Waits) (hscan : q ≠ .getAll) (hid : q.Names id)
    (htokens : ∀ x ∈ q.tokens, ρ.Links x (f x)) :
    ∃ ρ', ρ.Within ρ' ∧ (q.call.run s).1.Alike ρ' ((q.rename f).call.run t).1 ∧
      World.Pairs V c id ρ' (q.call.run s).2.world ((q.rename f).call.run t).2.world := by
  by_cases hbulk : ∃ ids, q = .deleteMany ids
  · obtain ⟨ids, rfl⟩ := hbulk
    obtain ⟨hreports, hpairs⟩ := h.run_deleteMany hs ht hid
    simp only [Request.rename, Request.call, Call.run_bind]
    refine ⟨ρ, .refl ρ, ?_, hpairs⟩
    rw [← hreports]
    exact .report _
  · have hsingle (ids : List String) : q ≠ .deleteMany ids := fun heq => hbulk ⟨ids, heq⟩
    have htwin := q.twin hsingle htokens
    have hminds := q.minds hq
    rw [q.names_eq hscan hsingle hid] at hminds
    obtain ⟨next, hnext⟩ := q.exists_call_eq
    obtain ⟨next', hnext'⟩ := (q.rename f).exists_call_eq
    rw [hnext] at htwin hminds
    rw [hnext'] at htwin
    rw [hnext, hnext']
    obtain ⟨config, config', hok, hok', habreast⟩ := h.abreast hs ht
    have hrest : Call.Twin Answer.Alike ρ (next s.connect.1) (next' t.connect.1) := by
      rw [hok, hok']
      cases htwin with
      | plain hplain => exact hplain.elim
      | connect hnexts => exact hnexts _ _ (.ok trivial)
    obtain ⟨ρ', hwithin, halike, hend⟩ := hrest.run_abreast (hminds.2 _ trivial) habreast
    exact ⟨ρ', hwithin, halike, hend.toPairs⟩

/-- **A request about a record comes to the same** in worlds that agree on it,
with its tokens renamed. -/
theorem run_request (h : World.Pairs V cfg.collectionRef id ρ s.world t.world)
    (hlawful : K.Lawful V) (hsteady : K.Steady V)
    (hs : s.engine.Posted K cfg) (ht : t.engine.Posted K cfg)
    (hfit : s.Fit V cfg.collectionRef) (hfit' : t.Fit V cfg.collectionRef)
    (hq : ¬ q.Waits) (hscan : q ≠ .getAll) (hid : q.Names id)
    (htokens : ∀ x ∈ q.tokens, ρ.Links x (f x)) :
    ∃ ρ', ρ.Within ρ' ∧ (q.call.run s).1.Alike ρ' ((q.rename f).call.run t).1 ∧
      World.Pairs V cfg.collectionRef id ρ' (q.call.run s).2.world
        ((q.rename f).call.run t).2.world := by
  -- what the connector replies does not depend on the store
  cases hreply : (K cfg s.world.store).1 with
  | error err =>
    have hfails (st : σ) : (K cfg st).1 = .error err := (hsteady.reply cfg st _).trans hreply
    obtain ⟨halike, hpairs⟩ := h.run_refused hfit hfit' (Session.connect_of_posted hs hfails)
      (Session.connect_of_posted ht hfails) hq (f := f)
    exact ⟨ρ, .refl ρ, halike, hpairs⟩
  | ok b =>
    have hopens (st : σ) : ∃ b, (K cfg st).1 = .ok b := ⟨b, (hsteady.reply cfg st _).trans hreply⟩
    exact h.run_served (Session.serves_of_posted hs hlawful hopens hfit)
      (Session.serves_of_posted ht hlawful hopens hfit') hq hscan hid htokens

end World.Pairs

end LeaseStore
