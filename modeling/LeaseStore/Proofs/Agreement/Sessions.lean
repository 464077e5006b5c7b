/-
LeaseStore.Proofs.Agreement.Sessions — twins run on mirrored stores.

Two sessions mirror each other if their stores do, at the same time, with the
same random numbers to come, and if their engines have counted the same and
serve the same collection. One action of twins leads from mirrored sessions
to mirrored sessions and is replied to alike (`Session.Mirrors.perform_*`), so
a whole call of twins does and ends alike (`Call.Twin.run`).
-/
import LeaseStore.Proofs.Agreement.Mirror
import LeaseStore.Proofs.Agreement.Twins

namespace LeaseStore

/-! ## What a call issues -/

/-- The tokens of the writes that a call makes, in order. -/
def Call.issues {σ α : Type} : Call α → Session σ → List String
  | done _, _ => []
  | act a next, s =>
    Exchange.issued ⟨a, (s.perform a).1⟩ ++ (next (s.perform a).1).issues (s.perform a).2

theorem Call.issues_bind {σ α β : Type} (x : Call α) (f : α → Call β) (s : Session σ) :
    (x >>= f).issues s = x.issues s ++ (f (x.run s).1).issues (x.run s).2 := by
  induction x generalizing s with
  | done a => rfl
  | act a next ih =>
    have hnext := ih (s.perform a).1 (s.perform a).2
    show _ ++ (next (s.perform a).1 >>= f).issues (s.perform a).2 = _
    rw [hnext, issues, List.append_assoc]
    rfl

/-! ## Engines -/

variable {σ τ : Type} {V : View σ} {W : View τ} {c : CollectionRef} {ρ ρ' ρ'' : Renaming}

/-- The engine is bound to this collection, and its connector opens. -/
structure Engine.Serves (V : View σ) (c : CollectionRef) (e : Engine σ) (s : σ) : Prop where
  lawful : e.Lawful V s
  ready : ∃ config, e.config = .ready config ∧ config.collectionRef = c ∧
    ∀ s, ∃ b, (e.connector config s).1 = .ok b
  linked : ∀ l, e.link = some l → l.collection = c

theorem Engine.Serves.passes {e : Engine σ} {s s' : σ} (h : e.Serves V c s)
    (hpasses : V.Passes s s') : e.Serves V c s' :=
  ⟨h.lawful.passes hpasses, h.ready, h.linked⟩

/-- An engine serves whatever it has counted. -/
theorem Engine.Serves.metered {e : Engine σ} {s : σ} (h : e.Serves V c s) (m : Metrics) :
    Engine.Serves V c { e with metrics := m } s :=
  ⟨⟨h.lawful.connector, h.lawful.link⟩, h.ready, h.linked⟩

theorem Engine.Serves.provided {e : Engine σ} {s : σ} (h : e.Serves V c s) {l : Link σ}
    (hl : e.link = some l) : V.Provided s c := by
  rw [← h.linked l hl]
  exact (h.lawful.link l hl).2

/-! ## Mirrored sessions -/

namespace Session

/-- The two sessions look alike to a call. -/
structure Mirrors (V : View σ) (W : View τ) (c : CollectionRef) (ρ : Renaming)
    (s : Session σ) (t : Session τ) : Prop where
  stores : V.Mirrors W c ρ s.world.store t.world.store
  clock : s.world.clock = t.world.clock
  draws : s.world.draws = t.world.draws
  metrics : s.engine.metrics = t.engine.metrics
  serves : s.engine.Serves V c s.world.store ∧ t.engine.Serves W c t.world.store
  linked : s.engine.link = none ↔ t.engine.link = none

/-- Mirrored sessions have gone on to mirrored sessions, and have issued
these tokens. -/
structure Advances (V : View σ) (W : View τ) (c : CollectionRef) (ρ ρ' : Renaming)
    (new new' : List String) (s s' : Session σ) (t t' : Session τ) :
    Prop where
  grows : ρ.Grows ρ' new new'
  mirrors : Mirrors V W c ρ' s' t'
  passes : V.Passes s.world.store s'.world.store ∧ W.Passes t.world.store t'.world.store

variable {s s' s'' : Session σ} {t t' t'' : Session τ} {new new' more more' : List String}

theorem Mirrors.advances (h : Mirrors V W c ρ s t) :
    Advances V W c ρ ρ [] [] s s t t :=
  ⟨.refl ρ, h, (View.Same.refl _).toPasses, (View.Same.refl _).toPasses⟩

theorem Advances.trans (h : Advances V W c ρ ρ' new new' s s' t t')
    (h' : Advances V W c ρ' ρ'' more more' s' s'' t' t'') :
    Advances V W c ρ ρ'' (new ++ more) (new' ++ more') s s'' t t'' :=
  ⟨h.grows.trans h'.grows, h'.mirrors, h.passes.1.trans h'.passes.1,
    h.passes.2.trans h'.passes.2⟩

/-- Only the stores have changed. -/
theorem Mirrors.stored (h : Mirrors V W c ρ s t) {st : σ} {st' : τ}
    (hgrows : ρ.Grows ρ' new new') (hstores : V.Mirrors W c ρ' st st')
    (hs : V.Passes s.world.store st) (ht : W.Passes t.world.store st') :
    Advances V W c ρ ρ' new new' s { s with world := { s.world with store := st } }
      t { t with world := { t.world with store := st' } } :=
  ⟨hgrows, ⟨hstores, h.clock, h.draws, h.metrics, ⟨h.serves.1.passes hs, h.serves.2.passes ht⟩,
    h.linked⟩, hs, ht⟩

/-! ## One action -/

/-- Neither engine is linked, or both are. -/
theorem Mirrors.links (h : Mirrors V W c ρ s t) :
    (s.engine.link = none ∧ t.engine.link = none) ∨
      ∃ l l', s.engine.link = some l ∧ t.engine.link = some l' := by
  have hlinked := h.linked
  cases hl : s.engine.link with
  | none => exact .inl ⟨rfl, hlinked.1 hl⟩
  | some l =>
    cases hl' : t.engine.link with
    | none =>
      rw [hlinked.2 hl'] at hl
      cases hl
    | some l' => exact .inr ⟨l, l', rfl, rfl⟩

/-- Without a link nothing is issued. -/
theorem issued_unlinked (hl : s.engine.link = none) {a : Action} (ha : a.NeedsLink) :
    Exchange.issued ⟨a, (s.perform a).1⟩ = [] := by
  cases a with
  | connect | now | count | pause | draw => exact ha.elim
  | read | list | create | upsert | health =>
    simp only [perform, request_unlinked hl]
    rfl
  | delete | deleteWave =>
    simp only [perform, hl]
    rfl

/-- What two engines ask of their stores. It is enough to know how mirrored
stores reply to it. -/
theorem Mirrors.perform_request (h : Mirrors V W c ρ s t) {a b : Action}
    (ha : a.NeedsLink) (hb : b.NeedsLink)
    (hcondition : ∀ r w, a = .upsert r w → ∃ token, w = .ofToken token)
    (hcondition' : ∀ r w, b = .upsert r w → ∃ token, w = .ofToken token)
    {Q : Renaming → a.Reply → b.Reply → Prop}
    (hunlinked : s.engine.link = none → t.engine.link = none →
      Q ρ (s.perform a).1 (t.perform b).1)
    (hstores : ∀ reply st reply' st', V.Provided s.world.store c → W.Provided t.world.store c →
      V.Does (some c) s.world { s.world with store := st } ⟨a, reply⟩ →
      W.Does (some c) t.world { t.world with store := st' } ⟨b, reply'⟩ →
      ∃ ρ', ρ.Grows ρ' (Exchange.issued ⟨a, reply⟩) (Exchange.issued ⟨b, reply'⟩) ∧
        Q ρ' reply reply' ∧ V.Mirrors W c ρ' st st') :
    ∃ ρ', Q ρ' (s.perform a).1 (t.perform b).1 ∧
      Advances V W c ρ ρ' (Exchange.issued ⟨a, (s.perform a).1⟩)
        (Exchange.issued ⟨b, (t.perform b).1⟩) s (s.perform a).2 t (t.perform b).2 := by
  obtain ⟨hl, hl'⟩ | ⟨l, l', hl, hl'⟩ := h.links
  · rw [perform_unlinked hl ha, issued_unlinked hl ha, perform_unlinked hl' hb,
      issued_unlinked hl' hb]
    exact ⟨ρ, hunlinked hl hl', h.advances⟩
  · obtain ⟨reply, st, hperform, hdoes⟩ :=
      perform_linked h.stores.sound.1 h.serves.1.lawful hl ha hcondition
    obtain ⟨reply', st', hperform', hdoes'⟩ :=
      perform_linked h.stores.sound.2 h.serves.2.lawful hl' hb hcondition'
    rw [h.serves.1.linked l hl] at hdoes
    rw [h.serves.2.linked l' hl'] at hdoes'
    obtain ⟨ρ', hgrows, hreplies, hmirrors⟩ := hstores reply st reply' st'
      (h.serves.1.provided hl) (h.serves.2.provided hl') hdoes hdoes'
    rw [hperform, hperform']
    exact ⟨ρ', hreplies, h.stored hgrows hmirrors hdoes.moves.passes hdoes'.moves.passes⟩

/-- The same, of a request that is not for a write. -/
theorem Mirrors.perform_quiet (h : Mirrors V W c ρ s t) {a : Action} (ha : a.NeedsLink)
    (hquiet : ∀ reply, Exchange.issued ⟨a, reply⟩ = []) {Q : a.Reply → a.Reply → Prop}
    (hunlinked : s.engine.link = none → t.engine.link = none → Q (s.perform a).1 (t.perform a).1)
    (hstores : ∀ reply st reply' st', V.Provided s.world.store c → W.Provided t.world.store c →
      V.Does (some c) s.world { s.world with store := st } ⟨a, reply⟩ →
      W.Does (some c) t.world { t.world with store := st' } ⟨a, reply'⟩ →
      Q reply reply' ∧ V.Mirrors W c ρ st st') :
    Q (s.perform a).1 (t.perform a).1 ∧
      Advances V W c ρ ρ [] [] s (s.perform a).2 t (t.perform a).2 := by
  have hcondition (r : Record) (w : WriteCondition) (hw : a = .upsert r w) :
      ∃ token, w = .ofToken token := by
    subst hw
    have hissued := hquiet (.ok r)
    cases hissued
  obtain ⟨ρ', hreplies, hadvances⟩ := h.perform_request ha ha hcondition hcondition
    (Q := fun _ => Q) hunlinked fun reply st reply' st' hs ht hdoes hdoes' => by
      obtain ⟨hreplies, hmirrors⟩ := hstores reply st reply' st' hs ht hdoes hdoes'
      rw [hquiet, hquiet]
      exact ⟨ρ, .refl ρ, hreplies, hmirrors⟩
  rw [hquiet, hquiet] at hadvances
  obtain rfl := hadvances.grows.eq
  exact ⟨hreplies, hadvances⟩

theorem issued_of_isPlain {a : Action} (ha : a.IsPlain) (reply : a.Reply) :
    Exchange.issued ⟨a, reply⟩ = [] := by
  cases a with
  | create | upsert => exact ha.elim
  | _ => rfl

/-- Actions in which no token takes part have the same reply on both sides. -/
theorem Mirrors.perform_plain (h : Mirrors V W c ρ s t) {a : Action} (ha : a.IsPlain) :
    (s.perform a).1 = (t.perform a).1 ∧
      Advances V W c ρ ρ [] [] s (s.perform a).2 t (t.perform a).2 := by
  have hstay : V.Passes s.world.store s.world.store ∧ W.Passes t.world.store t.world.store :=
    ⟨(View.Same.refl _).toPasses, (View.Same.refl _).toPasses⟩
  cases a with
  | connect | read | list | create | upsert => exact ha.elim
  | now => exact ⟨h.clock, h.advances⟩
  | count counter =>
    have hserves : (s.count counter).engine.Serves V c s.world.store ∧
        (t.count counter).engine.Serves W c t.world.store :=
      ⟨h.serves.1.metered _, h.serves.2.metered _⟩
    exact ⟨rfl, .refl ρ, ⟨h.stores, h.clock, h.draws, congrArg (·.record counter) h.metrics,
      hserves, h.linked⟩, hstay⟩
  | pause d =>
    exact ⟨rfl, .refl ρ, ⟨h.stores, congrArg (·.shift d.millisUp) h.clock, h.draws, h.metrics,
      h.serves, h.linked⟩, hstay⟩
  | draw n =>
    rw [perform_draw, perform_draw]
    exact ⟨World.draw_fst_congr h.draws n, .refl ρ, ⟨h.stores, h.clock,
      congrArg List.tail h.draws, h.metrics, h.serves, h.linked⟩, hstay⟩
  | health =>
    refine h.perform_quiet (a := .health) (Q := Eq) trivial (fun _ => rfl) (fun hl hl' => ?_) ?_
    · simp only [perform, request_unlinked hl, request_unlinked hl']
    · intro reply st reply' st' _ _ hdoes hdoes'
      obtain ⟨_, -, -, hanswers⟩ := hdoes
      obtain ⟨_, -, -, hanswers'⟩ := hdoes'
      exact h.stores.answers hanswers hanswers'
  | delete id =>
    refine h.perform_quiet (a := .delete id) (Q := Eq) trivial (fun _ => rfl) (fun hl hl' => ?_) ?_
    · simp only [perform, hl, hl']
    · intro reply st reply' st' hs ht hdoes hdoes'
      obtain ⟨_, ⟨⟩, -, hdeletes⟩ := hdoes
      obtain ⟨_, ⟨⟩, -, hdeletes'⟩ := hdoes'
      exact h.stores.deletes hs ht hdeletes hdeletes'
  | deleteWave ids =>
    refine h.perform_quiet (a := .deleteWave ids) (Q := Eq) trivial (fun _ => rfl)
      (fun hl hl' => ?_) ?_
    · simp only [perform, hl, hl']
    · intro reply st reply' st' hs ht hdoes hdoes'
      obtain ⟨_, ⟨⟩, -, hall⟩ := hdoes
      obtain ⟨_, ⟨⟩, -, hall'⟩ := hdoes'
      exact View.Mirrors.deletesAll hall h.stores hs ht hall'

theorem Mirrors.perform_read (h : Mirrors V W c ρ s t) (id : String) :
    Except.Alike (Record.Alike ρ) (s.perform (.read id)).1 (t.perform (.read id)).1 ∧
      Advances V W c ρ ρ [] [] s (s.perform (.read id)).2 t (t.perform (.read id)).2 := by
  refine h.perform_quiet (a := .read id) (Q := Except.Alike (Record.Alike ρ)) trivial
    (fun _ => rfl) (fun hl hl' => ?_) ?_
  · simp only [perform, request_unlinked hl, request_unlinked hl']
    exact .error _
  · intro reply st reply' st' hs ht hdoes hdoes'
    obtain ⟨_, ⟨⟩, -, hreads⟩ := hdoes
    obtain ⟨_, ⟨⟩, -, hreads'⟩ := hdoes'
    exact h.stores.reads hs ht hreads hreads'

theorem Mirrors.perform_list (h : Mirrors V W c ρ s t) :
    Except.Alike (List.Forall₂ (Record.Alike ρ)) (s.perform .list).1 (t.perform .list).1 ∧
      Advances V W c ρ ρ [] [] s (s.perform .list).2 t (t.perform .list).2 := by
  refine h.perform_quiet (a := .list) (Q := Except.Alike (List.Forall₂ (Record.Alike ρ))) trivial
    (fun _ => rfl) (fun hl hl' => ?_) ?_
  · simp only [perform, request_unlinked hl, request_unlinked hl']
    exact .error _
  · intro reply st reply' st' hs ht hdoes hdoes'
    obtain ⟨_, ⟨⟩, -, hlists⟩ := hdoes
    obtain ⟨_, ⟨⟩, -, hlists'⟩ := hdoes'
    exact h.stores.lists hs ht hlists hlists'

theorem issued_create (r : Record) (reply : Except BackendError Record) :
    Exchange.issued ⟨.create r, reply⟩ = (reply.toOption.map (·.token)).toList := by
  cases reply <;> rfl

theorem issued_upsert (r : Record) (w : WriteCondition) (reply : Except BackendError Record) :
    Exchange.issued ⟨.upsert r w, reply⟩ = (reply.toOption.map (·.token)).toList := by
  cases reply <;> rfl

theorem Mirrors.perform_create (h : Mirrors V W c ρ s t) {r r' : Record}
    (hr : r.Alike ρ r') :
    ∃ ρ', Except.Alike (Record.Alike ρ') (s.perform (.create r)).1 (t.perform (.create r')).1 ∧
      Advances V W c ρ ρ' (Exchange.issued ⟨.create r, (s.perform (.create r)).1⟩)
        (Exchange.issued ⟨.create r', (t.perform (.create r')).1⟩) s (s.perform (.create r)).2
        t (t.perform (.create r')).2 := by
  refine h.perform_request (a := .create r) (b := .create r')
    (Q := fun ρ' => Except.Alike (Record.Alike ρ')) trivial trivial
    (fun _ _ h => nomatch h) (fun _ _ h => nomatch h) (fun hl hl' => ?_) ?_
  · simp only [perform, request_unlinked hl, request_unlinked hl']
    exact .error _
  · intro reply st reply' st' hs ht hdoes hdoes'
    obtain ⟨_, ⟨⟩, -, hwrites⟩ := hdoes
    obtain ⟨_, ⟨⟩, -, hwrites'⟩ := hdoes'
    have hfree : V.look s.world.store c r.id = none ↔ W.look t.world.store c r'.id = none := by
      obtain ⟨token, -, rfl⟩ := hr
      exact h.stores.look_eq_none_iff r.id
    rw [issued_create, issued_create]
    exact h.stores.writes hs ht hr hfree hwrites hwrites'

theorem Mirrors.perform_upsert (h : Mirrors V W c ρ s t) {r r' : Record}
    {x y : String} (hr : r.Alike ρ r') (hxy : ρ.Links x y) :
    ∃ ρ', Except.Alike (Record.Alike ρ') (s.perform (.upsert r (.ofToken x))).1
        (t.perform (.upsert r' (.ofToken y))).1 ∧
      Advances V W c ρ ρ'
        (Exchange.issued ⟨.upsert r (.ofToken x), (s.perform (.upsert r (.ofToken x))).1⟩)
        (Exchange.issued ⟨.upsert r' (.ofToken y), (t.perform (.upsert r' (.ofToken y))).1⟩)
        s (s.perform (.upsert r (.ofToken x))).2 t (t.perform (.upsert r' (.ofToken y))).2 := by
  refine h.perform_request (a := .upsert r (.ofToken x)) (b := .upsert r' (.ofToken y))
    (Q := fun ρ' => Except.Alike (Record.Alike ρ')) trivial trivial ?_ ?_ (fun hl hl' => ?_) ?_
  · intro _ w hw
    cases hw
    exact ⟨x, rfl⟩
  · intro _ w hw
    cases hw
    exact ⟨y, rfl⟩
  · simp only [perform, request_unlinked hl, request_unlinked hl']
    exact .error _
  · intro reply st reply' st' hs ht hdoes hdoes'
    obtain ⟨_, ⟨⟩, -, hwrites⟩ := hdoes
    obtain ⟨_, ⟨⟩, -, hwrites'⟩ := hdoes'
    have hmeets : (WriteCondition.ofToken x).Meets (V.look s.world.store c r.id) ↔
        (WriteCondition.ofToken y).Meets (W.look t.world.store c r'.id) := by
      obtain ⟨token, -, rfl⟩ := hr
      exact h.stores.meets_iff hxy r.id
    rw [issued_upsert, issued_upsert]
    exact h.stores.writes hs ht hr hmeets hwrites hwrites'

/-! ## Connecting -/

/-- To connect is to open the backend and to ensure the collection. -/
theorem connect_eq {config : Config} {b : Backend σ} (hconfig : s.engine.config = .ready config)
    (hl : s.engine.link = none) (hb : (s.engine.connector config s.world.store).1 = .ok b)
    (hreply : (b.ensure config.collectionRef
      (s.engine.connector config s.world.store).2).1 = .ok ()) :
    s.connect = (.ok config, ⟨{ s.engine with link := some ⟨b, config.collectionRef⟩ },
      { s.world with store := (b.ensure config.collectionRef
        (s.engine.connector config s.world.store).2).2 }⟩) := by
  have hopened : s.world.answer (s.engine.connector config) =
      (.ok b, { s.world with store := (s.engine.connector config s.world.store).2 }) := by
    rw [← hb]
    rfl
  have hprovided : (World.mk s.world.clock s.world.draws
      (s.engine.connector config s.world.store).2).answer (b.ensure config.collectionRef) =
        (.ok (), { s.world with store := (b.ensure config.collectionRef
          (s.engine.connector config s.world.store).2).2 }) := by
    rw [← hreply]
    rfl
  simp only [connect, hconfig, hl, hopened, hprovided]

/-- An engine that serves a collection connects, unless a failure is
planned. -/
theorem connect_of_serves (hs : V.Sound s.world.store) (hcalm : V.Calm s.world.store)
    (h : s.engine.Serves V c s.world.store) :
    ∃ config l st, s.connect = (.ok config,
        ⟨{ s.engine with link := some l }, { s.world with store := st }⟩) ∧
      V.Same s.world.store st ∧ Engine.Serves V c { s.engine with link := some l } st := by
  obtain ⟨config, hconfig, rfl, hopens⟩ := h.ready
  cases hl : s.engine.link with
  | some l =>
    have hsame : ({ s.engine with link := some l } : Engine σ) = s.engine := by
      rw [← hl]
    refine ⟨config, l, s.world.store, ?_, .refl _, ?_⟩
    · rw [connect, hconfig, hsame]
      simp only [hl]
    · rw [hsame]
      exact h
  | none =>
    have hsame := h.lawful.connector.same config s.world.store
    -- the store is still calm after the backend is opened, so ensuring cannot fail
    obtain ⟨b, hb⟩ := hopens s.world.store
    have hlaw := h.lawful.connector.opens config s.world.store b hb
    have hensure := hlaw.ensure config.collectionRef _ (hsame.sound hs)
    cases hreply : (b.ensure config.collectionRef
        (s.engine.connector config s.world.store).2).1 with
    | error err =>
      rw [hreply] at hensure
      cases hensure with
      | failed hfail => exact absurd (hsame.calm hcalm) hfail
    | ok =>
      rw [hreply] at hensure
      cases hensure with
      | provided hsame' hthere =>
        refine ⟨config, _, _, connect_eq hconfig hl hb hreply, hsame.trans hsame',
          ⟨h.lawful.connector, ?_⟩, ⟨config, hconfig, rfl, hopens⟩, ?_⟩
        · intro l' hl'
          cases hl'
          exact ⟨hlaw, hthere⟩
        · intro l' hl'
          cases hl'
          rfl

theorem Mirrors.perform_connect (h : Mirrors V W c ρ s t) :
    Except.Alike (fun _ _ : Config => True) (s.perform .connect).1
        (t.perform .connect).1 ∧
      Advances V W c ρ ρ [] [] s (s.perform .connect).2 t (t.perform .connect).2 := by
  obtain ⟨config, l, st, hconnect, hsame, hserves⟩ :=
    connect_of_serves h.stores.sound.1 h.stores.calm.1 h.serves.1
  obtain ⟨config', l', st', hconnect', hsame', hserves'⟩ :=
    connect_of_serves h.stores.sound.2 h.stores.calm.2 h.serves.2
  rw [perform, perform, hconnect, hconnect']
  have hlinked : some l = none ↔ some l' = none := by simp
  exact ⟨.ok trivial, .refl ρ, ⟨h.stores.same hsame hsame', h.clock, h.draws,
    h.metrics, ⟨hserves, hserves'⟩, hlinked⟩, hsame.toPasses, hsame'.toPasses⟩

end Session

/-! ## Whole calls -/

open Session in
/-- **Twins run alike.** From mirrored sessions they lead to mirrored sessions
and end with related values. Induction on the twins. -/
theorem Call.Twin.run {α β : Type} {R : Renaming → α → β → Prop} {x : Call α} {y : Call β}
    (h : Call.Twin R ρ x y) {s : Session σ} {t : Session τ} (hst : Mirrors V W c ρ s t) :
    ∃ ρ', R ρ' (x.run s).1 (y.run t).1 ∧
      Advances V W c ρ ρ' (x.issues s) (y.issues t) s (x.run s).2 t (y.run t).2 := by
  induction h generalizing s t with
  | done hab => exact ⟨_, hab, hst.advances⟩
  | @plain _ a _ _ hplain _ ih =>
    obtain ⟨hreply, hadvances⟩ := hst.perform_plain hplain
    obtain ⟨ρ', hR, hrest⟩ := ih (s.perform a).1 hadvances.mirrors
    simp only [run_act, issues, ← hreply, issued_of_isPlain hplain]
    exact ⟨ρ', hR, hadvances.trans hrest⟩
  | connect _ ih =>
    obtain ⟨hreplies, hadvances⟩ := hst.perform_connect
    obtain ⟨ρ', hR, hrest⟩ := ih _ _ hreplies hadvances.mirrors
    exact ⟨ρ', hR, hadvances.trans hrest⟩
  | @read _ id _ _ _ ih =>
    obtain ⟨hreplies, hadvances⟩ := hst.perform_read id
    obtain ⟨ρ', hR, hrest⟩ := ih _ _ hreplies hadvances.mirrors
    exact ⟨ρ', hR, hadvances.trans hrest⟩
  | list _ ih =>
    obtain ⟨hreplies, hadvances⟩ := hst.perform_list
    obtain ⟨ρ', hR, hrest⟩ := ih _ _ hreplies hadvances.mirrors
    exact ⟨ρ', hR, hadvances.trans hrest⟩
  | create hr _ ih =>
    obtain ⟨ρ', hreplies, hadvances⟩ := hst.perform_create hr
    obtain ⟨ρ'', hR, hrest⟩ := ih ρ' hadvances.grows.within _ _ hreplies hadvances.mirrors
    exact ⟨ρ'', hR, hadvances.trans hrest⟩
  | upsert hr htoken _ ih =>
    obtain ⟨ρ', hreplies, hadvances⟩ := hst.perform_upsert hr htoken
    obtain ⟨ρ'', hR, hrest⟩ := ih ρ' hadvances.grows.within _ _ hreplies hadvances.mirrors
    exact ⟨ρ'', hR, hadvances.trans hrest⟩

end LeaseStore
