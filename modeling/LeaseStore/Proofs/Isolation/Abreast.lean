/-
LeaseStore.Proofs.Isolation.Abreast — calls about one record, side by side.

Two stores may hold alike records under one id and differ in all others. A
request about that record and its renamed self do alike on them: twins that
are about nothing else run alike (`Call.Twin.run_abreast`), and a bulk delete
leaves the record on neither side (`Session.Pairs.run_deleteMany`). How the
engines have come so far does not matter: one may be connected when the other
is not, and either both can connect or both cannot
(`Session.Pairs.run_request`).
-/
import LeaseStore.Proofs.Isolation.Focus

namespace LeaseStore

variable {σ : Type} {V : View σ} {c : CollectionRef} {id : String} {ρ : Renaming}

/-! ## Linked sessions -/

/-- Two worlds at the same time, whose stores hold alike records under an id. -/
structure World.Pairs (V : View σ) (c : CollectionRef) (id : String) (ρ : Renaming)
    (w u : World σ) : Prop where
  stores : V.Pairs c id ρ w.store u.store
  clock : w.clock = u.clock

namespace Session

/-- Two sessions of linked engines on a collection, in such worlds. -/
structure Abreast (V : View σ) (c : CollectionRef) (id : String) (ρ : Renaming)
    (s t : Session σ) : Prop extends World.Pairs V c id ρ s.world t.world where
  serves : s.engine.Serves V c s.world.store ∧ t.engine.Serves V c t.world.store
  linked : (∃ l, s.engine.link = some l) ∧ ∃ l, t.engine.link = some l

variable {s t : Session σ}

/-- What two linked engines ask of their stores. It is enough to know how
stores that hold alike records reply to it. -/
theorem Abreast.perform_request (h : Abreast V c id ρ s t) {a b : Action} (ha : a.NeedsLink)
    (hb : b.NeedsLink) (hcondition : ∀ r w, a = .upsert r w → ∃ token, w = .ofToken token)
    (hcondition' : ∀ r w, b = .upsert r w → ∃ token, w = .ofToken token)
    {Q : Renaming → a.Reply → b.Reply → Prop}
    (hstores : ∀ reply st reply' st', V.Provided s.world.store c → V.Provided t.world.store c →
      V.Does (some c) s.world { s.world with store := st } ⟨a, reply⟩ →
      V.Does (some c) t.world { t.world with store := st' } ⟨b, reply'⟩ →
      ∃ ρ', ρ.Within ρ' ∧ Q ρ' reply reply' ∧ V.Pairs c id ρ' st st') :
    ∃ ρ', ρ.Within ρ' ∧ Q ρ' (s.perform a).1 (t.perform b).1 ∧
      Abreast V c id ρ' (s.perform a).2 (t.perform b).2 := by
  obtain ⟨⟨l, hl⟩, l', hl'⟩ := h.linked
  obtain ⟨reply, st, hperform, hdoes⟩ :=
    perform_linked h.stores.sound.1 h.serves.1.lawful hl ha hcondition
  obtain ⟨reply', st', hperform', hdoes'⟩ :=
    perform_linked h.stores.sound.2 h.serves.2.lawful hl' hb hcondition'
  rw [h.serves.1.linked l hl] at hdoes
  rw [h.serves.2.linked l' hl'] at hdoes'
  obtain ⟨ρ', hwithin, hreplies, hpairs⟩ := hstores reply st reply' st'
    (h.serves.1.provided hl) (h.serves.2.provided hl') hdoes hdoes'
  rw [hperform, hperform']
  exact ⟨ρ', hwithin, hreplies, ⟨hpairs, h.clock⟩,
    ⟨h.serves.1.passes hdoes.moves.passes, h.serves.2.passes hdoes'.moves.passes⟩,
    ⟨l, hl⟩, l', hl'⟩

/-- The same, of a request that is not for a write. -/
theorem Abreast.perform_quiet (h : Abreast V c id ρ s t) {a : Action} (ha : a.NeedsLink)
    (hquiet : ¬ a.Stores) {Q : a.Reply → a.Reply → Prop}
    (hstores : ∀ reply st reply' st', V.Provided s.world.store c → V.Provided t.world.store c →
      V.Does (some c) s.world { s.world with store := st } ⟨a, reply⟩ →
      V.Does (some c) t.world { t.world with store := st' } ⟨a, reply'⟩ →
      Q reply reply' ∧ V.Pairs c id ρ st st') :
    Q (s.perform a).1 (t.perform a).1 ∧ Abreast V c id ρ (s.perform a).2 (t.perform a).2 := by
  have hcondition (r : Record) (w : WriteCondition) (hw : a = .upsert r w) :
      ∃ token, w = .ofToken token := by
    subst hw
    exact absurd trivial hquiet
  obtain ⟨ρ', -, hend⟩ := h.perform_request ha ha hcondition hcondition
    (Q := fun ρ' reply reply' => ρ' = ρ ∧ Q reply reply')
    fun reply st reply' st' hs ht hdoes hdoes' => by
      obtain ⟨hreplies, hpairs⟩ := hstores reply st reply' st' hs ht hdoes hdoes'
      exact ⟨ρ, .refl ρ, ⟨rfl, hreplies⟩, hpairs⟩
  obtain ⟨⟨rfl, hreplies⟩, habreast⟩ := hend
  exact ⟨hreplies, habreast⟩

/-- Actions in which no token takes part have the same reply on both sides. -/
theorem Abreast.perform_plain (h : Abreast V c id ρ s t) {a : Action} (ha : a.IsPlain)
    (hconcerns : a.Concerns (· = id)) :
    (s.perform a).1 = (t.perform a).1 ∧ Abreast V c id ρ (s.perform a).2 (t.perform a).2 := by
  cases a with
  | connect | read | list | create | upsert => exact ha.elim
  | pause | draw => exact hconcerns.elim
  | now => exact ⟨h.clock, h⟩
  | count n =>
    exact ⟨rfl, ⟨h.stores, h.clock⟩, ⟨h.serves.1.metered _, h.serves.2.metered _⟩, h.linked⟩
  | health =>
    refine h.perform_quiet (a := .health) (Q := Eq) trivial (fun h => h) ?_
    intro reply st reply' st' _ _ hdoes hdoes'
    obtain ⟨_, -, -, hanswers⟩ := hdoes
    obtain ⟨_, -, -, hanswers'⟩ := hdoes'
    exact h.stores.answers hanswers.focus hanswers'.focus
  | delete id' =>
    obtain rfl : id' = id := hconcerns
    refine h.perform_quiet (a := .delete id') (Q := Eq) trivial (fun h => h) ?_
    intro reply st reply' st' hs ht hdoes hdoes'
    obtain ⟨_, ⟨⟩, -, hdeletes⟩ := hdoes
    obtain ⟨_, ⟨⟩, -, hdeletes'⟩ := hdoes'
    exact h.stores.deletes hs ht hdeletes.focus hdeletes'.focus
  | deleteWave ids =>
    refine h.perform_quiet (a := .deleteWave ids) (Q := Eq) trivial (fun h => h) ?_
    intro reply st reply' st' hs ht hdoes hdoes'
    obtain ⟨_, ⟨⟩, -, hall⟩ := hdoes
    obtain ⟨_, ⟨⟩, -, hall'⟩ := hdoes'
    exact View.Mirrors.deletesAll (hall.focus hconcerns) h.stores hs ht (hall'.focus hconcerns)

theorem Abreast.perform_read (h : Abreast V c id ρ s t) :
    Except.Alike (Record.Alike ρ) (s.perform (.read id)).1 (t.perform (.read id)).1 ∧
      Abreast V c id ρ (s.perform (.read id)).2 (t.perform (.read id)).2 := by
  refine h.perform_quiet (a := .read id) (Q := Except.Alike (Record.Alike ρ)) trivial
    (fun h => h) ?_
  intro reply st reply' st' hs ht hdoes hdoes'
  obtain ⟨_, ⟨⟩, -, hreads⟩ := hdoes
  obtain ⟨_, ⟨⟩, -, hreads'⟩ := hdoes'
  exact h.stores.reads hs ht hreads.focus hreads'.focus

theorem Abreast.perform_create {r r' : Record} (h : Abreast V c r.id ρ s t)
    (hr : r.Alike ρ r') :
    ∃ ρ', ρ.Within ρ' ∧
      Except.Alike (Record.Alike ρ') (s.perform (.create r)).1 (t.perform (.create r')).1 ∧
      Abreast V c r.id ρ' (s.perform (.create r)).2 (t.perform (.create r')).2 := by
  refine h.perform_request (a := .create r) (b := .create r')
    (Q := fun ρ' => Except.Alike (Record.Alike ρ')) trivial trivial (fun _ _ h => nomatch h)
    (fun _ _ h => nomatch h) ?_
  intro reply st reply' st' hs ht hdoes hdoes'
  obtain ⟨_, ⟨⟩, -, hwrites⟩ := hdoes
  obtain ⟨_, ⟨⟩, -, hwrites'⟩ := hdoes'
  obtain ⟨token, hlinks, rfl⟩ := hr
  have hfree := h.stores.look_eq_none_iff r.id
  rw [View.look_focus, View.look_focus] at hfree
  obtain ⟨ρ', hgrows, halike, hpairs⟩ :=
    h.stores.writes hs ht ⟨token, hlinks, rfl⟩ hfree hwrites.focus hwrites'.focus
  exact ⟨ρ', hgrows.within, halike, hpairs⟩

theorem Abreast.perform_upsert {r r' : Record} {x y : String} (h : Abreast V c r.id ρ s t)
    (hr : r.Alike ρ r') (hxy : ρ.Links x y) :
    ∃ ρ', ρ.Within ρ' ∧
      Except.Alike (Record.Alike ρ') (s.perform (.upsert r (.ofToken x))).1
        (t.perform (.upsert r' (.ofToken y))).1 ∧
      Abreast V c r.id ρ' (s.perform (.upsert r (.ofToken x))).2
        (t.perform (.upsert r' (.ofToken y))).2 := by
  refine h.perform_request (a := .upsert r (.ofToken x)) (b := .upsert r' (.ofToken y))
    (Q := fun ρ' => Except.Alike (Record.Alike ρ')) trivial trivial ?_ ?_ ?_
  · rintro _ _ ⟨⟩
    exact ⟨x, rfl⟩
  · rintro _ _ ⟨⟩
    exact ⟨y, rfl⟩
  intro reply st reply' st' hs ht hdoes hdoes'
  obtain ⟨_, ⟨⟩, -, hwrites⟩ := hdoes
  obtain ⟨_, ⟨⟩, -, hwrites'⟩ := hdoes'
  obtain ⟨token, hlinks, rfl⟩ := hr
  have hmeets := h.stores.meets_iff hxy r.id
  rw [View.look_focus, View.look_focus] at hmeets
  obtain ⟨ρ', hgrows, halike, hpairs⟩ :=
    h.stores.writes hs ht ⟨token, hlinks, rfl⟩ hmeets hwrites.focus hwrites'.focus
  exact ⟨ρ', hgrows.within, halike, hpairs⟩

theorem Abreast.perform_connect (h : Abreast V c id ρ s t) :
    Except.Alike (fun _ _ : Config => True) (s.perform .connect).1 (t.perform .connect).1 ∧
      Abreast V c id ρ (s.perform .connect).2 (t.perform .connect).2 := by
  obtain ⟨⟨l, hl⟩, l', hl'⟩ := h.linked
  obtain ⟨config, hconfig, -⟩ := h.serves.1.ready
  obtain ⟨config', hconfig', -⟩ := h.serves.2.ready
  have hs : s.perform .connect = (.ok config, s) := by
    simp only [perform, connect, hconfig, hl]
  have ht : t.perform .connect = (.ok config', t) := by
    simp only [perform, connect, hconfig', hl']
  rw [hs, ht]
  exact ⟨.ok trivial, h⟩

/-- No reply to the first session is dishonest. -/
theorem Abreast.honest (h : Abreast V c id ρ s t) (a : Action) :
    Exchange.Honest ⟨a, (s.perform a).1⟩ := by
  cases a with
  | read id' =>
    obtain ⟨⟨l, hl⟩, -⟩ := h.linked
    obtain ⟨reply, st, hperform, hdoes⟩ := perform_linked h.stores.sound.1 h.serves.1.lawful hl
      (a := .read id') trivial (fun _ _ h => nomatch h)
    obtain ⟨_, ⟨⟩, -, hreads⟩ := hdoes
    rw [hperform]
    exact hreads.honest h.stores.sound.1
  | _ => exact trivial

end Session

/-! ## Twins -/

/-- No id is every id. -/
theorem not_forall_eq (id : String) : ¬ ∀ id', id' = id := by
  intro hall
  have hne : "a" ≠ "" := by decide
  exact hne ((hall "a").trans (hall "").symm)

open Session in
/-- **Twins that are about one record run alike**, whatever else the two
stores hold. Induction on the twins. -/
theorem Call.Twin.run_abreast {α β : Type} {R : Renaming → α → β → Prop} {Q : α → Prop}
    {x : Call α} {y : Call β} (h : Call.Twin R ρ x y) (hx : x.Minds (· = id) Q)
    {s t : Session σ} (hst : Abreast V c id ρ s t) :
    ∃ ρ', ρ.Within ρ' ∧ R ρ' (x.run s).1 (y.run t).1 ∧
      Abreast V c id ρ' (x.run s).2 (y.run t).2 := by
  induction h generalizing s t with
  | done hab => exact ⟨_, .refl _, hab, hst⟩
  | @plain ρ a _ next' hplain _ ih =>
    obtain ⟨hconcerns, hnext⟩ := hx
    obtain ⟨hreply, hmid⟩ := hst.perform_plain hplain hconcerns
    obtain ⟨ρ', hwithin, hend⟩ := ih _ (hnext _ (hst.honest a)) hmid
    rw [run_act, run_act, ← hreply]
    exact ⟨ρ', hwithin, hend⟩
  | connect _ ih =>
    obtain ⟨hreplies, hmid⟩ := hst.perform_connect
    exact ih _ _ hreplies (hx.2 _ trivial) hmid
  | read _ ih =>
    obtain ⟨rfl, hnext⟩ := hx
    obtain ⟨hreplies, hmid⟩ := hst.perform_read
    exact ih _ _ hreplies (hnext _ (hst.honest _)) hmid
  | list _ ih => exact absurd hx.1 (not_forall_eq id)
  | create hr _ ih =>
    obtain ⟨rfl, hnext⟩ := hx
    obtain ⟨ρ', hwithin, hreplies, hmid⟩ := hst.perform_create hr
    obtain ⟨ρ'', hwithin', hend⟩ := ih ρ' hwithin _ _ hreplies (hnext _ trivial) hmid
    exact ⟨ρ'', hwithin.trans hwithin', hend⟩
  | upsert hr htoken _ ih =>
    obtain ⟨⟨rfl, -⟩, hnext⟩ := hx
    obtain ⟨ρ', hwithin, hreplies, hmid⟩ := hst.perform_upsert hr htoken
    obtain ⟨ρ'', hwithin', hend⟩ := ih ρ' hwithin _ _ hreplies (hnext _ trivial) hmid
    exact ⟨ρ'', hwithin.trans hwithin', hend⟩

end LeaseStore
