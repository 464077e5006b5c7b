/-
LeaseStore.Proofs.Runs.Revival — an expired record does not come back.

Once a record is absent or expired, nothing but a successful create or upsert
puts another under its id: the operations on its lock write back only what
they have found alive, and cleanups only take away. So none of the later
calls of any engine gives a sign of life (`Request.SignOfLife`).

* `no_revival_without_write` — on any of the backends, whichever operations
  fail, as long as calls are made one after the other and the clock is not set
  back.
-/
import LeaseStore.Proofs.Agreement.Backends
import LeaseStore.Proofs.Runs.Locking
import LeaseStore.Proofs.Runs.Reach
import LeaseStore.Proofs.Runs.Writing

namespace LeaseStore

variable {σ : Type} {V : View σ} {c c' : CollectionRef} {id id' : String}

/-! ## Where nothing lives -/

namespace View

variable {s s' : σ} {t : Instant} {r : Record}

theorem Dead.elim (h : V.Dead t s c id) (hshelf : V.shelf c' = V.shelf c)
    (hlook : V.look s c' id = some r) (hexp : r.isExpiredAt t = false) : False := by
  rw [V.look_of_shelf hshelf] at hlook
  have hdead := h r hlook
  rw [hexp] at hdead
  cases hdead

/-- What is stored elsewhere does not bring a record to life. -/
theorem Dead.stored (h : V.Dead t s c id) (hstored : V.Stored s s' c' r)
    (helsewhere : V.shelf c' = V.shelf c → r.id ≠ id) : V.Dead t s' c id := by
  intro r' hr'
  rw [hstored.look, if_neg fun hcell => helsewhere hcell.1.symm hcell.2.symm] at hr'
  exact h r' hr'

theorem Dead.same (h : V.Dead t s c id) (hsame : V.Same s s') : V.Dead t s' c id :=
  h.thins hsame.thins

end View

namespace Session

variable {s s' : Session σ} {owner : Owner} {seconds : Nat} {fine : Prop}

/-- A write leaves the dead alone unless it succeeds under their id. -/
theorem Puts.dead {r : Record} {admitted : Prop} {reply : Except StoreError Record}
    (h : Puts V c' r admitted fine s s' reply) {t : Instant} (hdead : V.Dead t s.world.store c id)
    (hother : V.shelf c' = V.shelf c → (∃ stored, reply = .ok stored) → r.id ≠ id) :
    V.Dead t s'.world.store c id := by
  cases h with
  | stored _ hstored => exact hdead.stored hstored fun hshelf => hother hshelf ⟨_, rfl⟩
  | refused _ hsame => exact hdead.same hsame
  | failed _ hsame => exact hdead.same hsame

/-- An attempt to lock succeeds on the living, and leaves the dead alone. -/
theorem Takes.dead {reply : Except StoreError Bool}
    (h : Takes V c' id' owner seconds fine s s' reply) (hsound : V.Sound s.world.store)
    (hdead : V.Dead s.world.clock s.world.store c id) :
    V.Dead s.world.clock s'.world.store c id ∧
      (reply = .ok true → V.shelf c' = V.shelf c → id' ≠ id) := by
  cases h with
  | @taken r token hlook hexp _ hstored =>
    have hother : V.shelf c' = V.shelf c → id' ≠ id := by
      rintro hshelf rfl
      exact hdead.elim hshelf hlook hexp
    have hid := V.id_of_look hsound hlook
    exact ⟨hdead.stored hstored fun hshelf => hid ▸ hother hshelf, fun _ => hother⟩
  | contended _ _ _ hsame => exact ⟨hdead.same hsame, nofun⟩
  | missing _ hclears => exact ⟨hdead.thins hclears.thins, nofun⟩
  | failed _ hreply hsame => exact ⟨hdead.same hsame, fun h => absurd h hreply⟩

theorem Frees.dead {reply : Except StoreError Bool} (h : Frees V c' id' owner fine s s' reply)
    (hsound : V.Sound s.world.store) (hdead : V.Dead s.world.clock s.world.store c id) :
    V.Dead s.world.clock s'.world.store c id ∧
      (reply = .ok true → V.shelf c' = V.shelf c → id' ≠ id) := by
  cases h with
  | @released r token hlook hexp _ hstored =>
    have hother : V.shelf c' = V.shelf c → id' ≠ id := by
      rintro hshelf rfl
      exact hdead.elim hshelf hlook hexp
    have hid := V.id_of_look hsound hlook
    exact ⟨hdead.stored hstored fun hshelf => hid ▸ hother hshelf, fun _ => hother⟩
  | idle hlook hexp _ hsame =>
    refine ⟨hdead.same hsame, ?_⟩
    rintro - hshelf rfl
    exact hdead.elim hshelf hlook hexp
  | kept _ _ _ hsame => exact ⟨hdead.same hsame, nofun⟩
  | missing _ hclears => exact ⟨hdead.thins hclears.thins, nofun⟩
  | failed _ hreply hsame => exact ⟨hdead.same hsame, fun h => absurd h hreply⟩

/-- Neither do attempts with pauses in between, for the dead stay dead. -/
theorem Retries.dead {answer : Option (Except StoreError Bool)}
    (h : Retries V c' id' owner seconds s s' answer) (hsound : V.Sound s.world.store)
    (hdead : V.Dead s.world.clock s.world.store c id) (hclock : s.world.clock ≤ s'.world.clock) :
    V.Dead s'.world.clock s'.world.store c id ∧
      (answer = some (.ok true) → V.shelf c' = V.shelf c → id' ≠ id) := by
  cases h with
  | last hsame hle hend htakes =>
    obtain ⟨hdead', hreply⟩ := htakes.dead (hsame.sound hsound) ((hdead.same hsame).mono hle)
    rw [hend]
    exact ⟨hdead', fun h => hreply (Option.some.inj h)⟩
  | gaveUp hanswer hsame => exact ⟨(hdead.same hsame).mono hclock, fun h => absurd h hanswer⟩

end Session

/-! ## Requests -/

namespace Request

/-- The answer to the request says that a record lives under the id. -/
def SignOfLife (id : String) : Request → Answer → Prop
  | get id', .record (.ok _) => id' = id
  | contains id', .truth (.ok true) => id' = id
  | getAll, .records (.ok rs) => ∃ r ∈ rs, r.id = id
  | tryToLock id' _ _, .truth (.ok true) => id' = id
  | tryToUnlock id' _, .truth (.ok true) => id' = id
  | lockWithRetry id' _ _ _, .retried (some (.ok true)) => id' = id
  | _, _ => False

/-- The request has put a record under the id. -/
def Plants (id : String) : Request → Answer → Prop
  | create r, .record (.ok _) => r.id = id
  | upsert r, .record (.ok _) => r.id = id
  | upsertWithToken r _, .record (.ok _) => r.id = id
  | _, _ => False

/-- The request may store a record. -/
def Stores : Request → Prop
  | create _ | upsert _ | upsertWithToken _ _ => True
  | tryToLock _ _ _ | tryToUnlock _ _ | lockWithRetry _ _ _ _ => True
  | _ => False

/-- What a request that stores nothing does can only make the store thinner. -/
theorem thins {q : Request} (hq : ¬ q.Stores) {s : Session σ} (h : s.Fit V c) :
    V.Thins s.world.store (q.call.run s).2.world.store := by
  refine ((Errand.conduct (.request q)).lasts (fun past r w hallowed => ?_) h).2 fun past a ha => ?_
  · obtain ⟨-, t, before, -, hwrites⟩ := hallowed
    exact Errand.ofToken_of_writes hwrites
  · cases a with
    | create r =>
      obtain ⟨-, t, before, r₀, -, herrand, -⟩ := ha
      cases herrand
      exact absurd trivial hq
    | upsert r w =>
      obtain ⟨-, t, before, -, hwrites⟩ := ha
      cases q with
      | create | upsert | upsertWithToken | tryToLock | tryToUnlock | lockWithRetry =>
        exact absurd trivial hq
      | get | contains | getAll | delete | deleteMany | healthCheck => exact hwrites.elim
    | connect | now | read | list | delete | deleteWave | health | count | pause | draw =>
      exact fun hstores => hstores

open Operation Session in
/-- What was dead before a request is dead after it, unless the request has put
a record there. Cases on the request. -/
theorem dead {q : Request} {s : Session σ} (h : s.Fit V c')
    (hdead : V.Dead s.world.clock s.world.store c id)
    (hplants : V.shelf c' = V.shelf c → ¬ q.Plants id (q.call.run s).1) :
    V.Dead (q.call.run s).2.world.clock (q.call.run s).2.world.store c id := by
  have hclock : s.world.clock ≤ (q.call.run s).2.world.clock :=
    ((Errand.request q).lasts h).clock
  have hputs {r : Record} {admitted : Prop} {reply : Except StoreError Record} {s' : Session σ}
      (hrun : q.call.run s = (.record reply, s'))
      (hputs : Puts V c' r admitted (s.Ready V) s s' reply)
      (hid : (∃ stored, reply = .ok stored) → r.id = id → q.Plants id (.record reply)) :
      V.Dead (q.call.run s).2.world.clock (q.call.run s).2.world.store c id := by
    refine View.Dead.mono ?_ hclock
    rw [hrun] at hplants ⊢
    exact hputs.dead hdead fun hshelf hok heq => hplants hshelf (hid hok heq)
  -- a request that stores nothing only takes records away
  by_cases hstores : q.Stores
  case neg => exact (hdead.thins (thins hstores h)).mono hclock
  cases q with
  | get | contains | getAll | delete | deleteMany | healthCheck => exact hstores.elim
  | create r =>
    obtain ⟨reply, s', heq, -, hput⟩ := run_create h r
    refine hputs (run_answer heq) hput ?_
    rintro ⟨stored, rfl⟩ hid
    exact hid
  | upsert r =>
    obtain ⟨reply, s', heq, -, hput⟩ := run_write h r r.token
    refine hputs (run_answer heq) hput ?_
    rintro ⟨stored, rfl⟩ hid
    exact hid
  | upsertWithToken r token =>
    obtain ⟨reply, s', heq, -, hput⟩ := run_write h r token
    refine hputs (run_answer heq) hput ?_
    rintro ⟨stored, rfl⟩ hid
    exact hid
  | tryToLock id' owner seconds =>
    obtain ⟨reply, s', heq, -, htakes⟩ := run_tryToLock h id' owner seconds
    have hrun : (Request.tryToLock id' owner seconds).call.run s = (.truth reply, s') :=
      run_answer heq
    rw [hrun] at hclock ⊢
    exact (htakes.dead h.sound hdead).1.mono hclock
  | tryToUnlock id' owner =>
    obtain ⟨reply, s', heq, -, hfrees⟩ := run_tryToUnlock h id' owner
    have hrun : (Request.tryToUnlock id' owner).call.run s = (.truth reply, s') := run_answer heq
    rw [hrun] at hclock ⊢
    exact (hfrees.dead h.sound hdead).1.mono hclock
  | lockWithRetry id' owner seconds policy =>
    obtain ⟨answer, s', heq, -, hretries⟩ := run_lockWithRetry h id' owner seconds policy
    have hrun : (Request.lockWithRetry id' owner seconds policy).call.run s =
        (.retried answer, s') := run_answer heq
    rw [hrun] at hclock ⊢
    exact (hretries.dead h.sound hdead hclock).1

open Operation Session in
/-- No request finds life where nothing lives. Cases on the request. -/
theorem not_signOfLife {q : Request} {s : Session σ} (h : s.Fit V c')
    (hdead : V.Dead s.world.clock s.world.store c id) (hshelf : V.shelf c' = V.shelf c) :
    ¬ q.SignOfLife id (q.call.run s).1 := by
  cases q with
  | get id' =>
    obtain ⟨reply, s', heq, -, hgets⟩ := run_get h id'
    have hrun : (Request.get id').call.run s = (.record reply, s') := run_answer heq
    rw [hrun]
    cases hgets with
    | found hlook hexp =>
      rintro rfl
      exact hdead.elim hshelf hlook hexp
    | missing | failed => exact fun hsign => hsign
  | contains id' =>
    obtain ⟨reply, s', heq, -, hgets⟩ := run_get h id'
    have hrun : (Request.contains id').call.run s = (.truth (found? reply), s') :=
      run_answer (by rw [run_contains, heq])
    rw [hrun]
    cases hgets with
    | found hlook hexp =>
      rintro rfl
      exact hdead.elim hshelf hlook hexp
    | missing => exact fun hsign => hsign
    | @failed err => cases err <;> exact fun hsign => hsign
  | getAll =>
    obtain ⟨reply, s', heq, -, hscans⟩ := run_getAll h
    have hrun : Request.getAll.call.run s = (.records reply, s') := run_answer heq
    rw [hrun]
    cases hscans with
    | listed hholds =>
      rintro ⟨r, hr, rfl⟩
      obtain ⟨hmem, hlive⟩ := List.mem_filter.1 hr
      exact hdead.elim hshelf ((hholds.mem_iff r).1 hmem) (by simpa using hlive)
    | failed => exact fun hsign => hsign
  | create | upsert | upsertWithToken | delete | deleteMany | healthCheck =>
    exact fun hsign => hsign
  | tryToLock id' owner seconds =>
    obtain ⟨reply, s', heq, -, htakes⟩ := run_tryToLock h id' owner seconds
    have hrun : (Request.tryToLock id' owner seconds).call.run s = (.truth reply, s') :=
      run_answer heq
    rw [hrun]
    match reply with
    | .ok true => exact (htakes.dead h.sound hdead).2 rfl hshelf
    | .ok false | .error _ => exact fun hsign => hsign
  | tryToUnlock id' owner =>
    obtain ⟨reply, s', heq, -, hfrees⟩ := run_tryToUnlock h id' owner
    have hrun : (Request.tryToUnlock id' owner).call.run s = (.truth reply, s') := run_answer heq
    rw [hrun]
    match reply with
    | .ok true => exact (hfrees.dead h.sound hdead).2 rfl hshelf
    | .ok false | .error _ => exact fun hsign => hsign
  | lockWithRetry id' owner seconds policy =>
    obtain ⟨answer, s', heq, hlasts, hretries⟩ := run_lockWithRetry h id' owner seconds policy
    have hrun : (Request.lockWithRetry id' owner seconds policy).call.run s =
        (.retried answer, s') := run_answer heq
    rw [hrun]
    match answer with
    | some (.ok true) => exact (hretries.dead h.sound hdead hlasts.clock).2 rfl hshelf
    | none | some (.ok false) | some (.error _) => exact fun hsign => hsign

end Request

/-! ## Desks -/

/-- Whatever the engine stores goes where what is put into `c` goes. -/
def Engine.Stands (V : View σ) (c : CollectionRef) (e : Engine σ) : Prop :=
  ∀ config, e.config = .ready config → V.shelf config.collectionRef = V.shelf c

/-- An engine that stands elsewhere suits a collection elsewhere. -/
theorem Engine.exists_suits_stands (e : Engine σ) (V : View σ) (c : CollectionRef) :
    ∃ c', e.Suits c' ∧ (V.shelf c' = V.shelf c ↔ e.Stands V c) := by
  cases hconfig : e.config with
  | unset =>
    refine ⟨c, ?_, iff_of_true rfl ?_⟩ <;>
    · intro config h
      rw [hconfig] at h
      cases h
  | ready config =>
    refine ⟨config.collectionRef, ?_, ⟨?_, fun h => h config hconfig⟩⟩
    · intro config' h
      rw [hconfig] at h
      cases h
      rfl
    · intro hshelf config' h
      rw [hconfig] at h
      cases h
      exact hshelf

namespace Desk

/-- Engines over one connector, bound to a configuration or not, before any
order. -/
def start (connector : Connector σ) (configs : Nat → Once Config) (w : World σ) : Desk σ where
  engines k := { connector, config := configs k }
  world := w

/-- No order sets the clock back, and no request puts a record under the id. -/
def Leaves (V : View σ) (c : CollectionRef) (id : String) : Desk σ → List Order → Prop
  | _, [] => True
  | d, .call k q :: orders =>
    ((d.engines k).Stands V c → ¬ q.Plants id (q.call.run (d.session k)).1) ∧
      (d.take (.call k q)).Leaves V c id orders
  | d, .clock t :: orders => d.world.clock ≤ t ∧ (d.take (.clock t)).Leaves V c id orders

variable {d : Desk σ}

theorem hosts_take (h : d.world.Hosts V d.engines) (order : Order) :
    (d.take order).world.Hosts V (d.take order).engines := by
  cases order with
  | clock t => exact h.clock t
  | call k q =>
    exact h.update (q.call.keeps_run (d.session k)) fun c hsuits =>
      (Errand.request q).lasts (h k c hsuits)

theorem hosts_run (h : d.world.Hosts V d.engines) (orders : List Order) :
    (d.run orders).world.Hosts V (d.run orders).engines := by
  induction orders generalizing d with
  | nil => exact h
  | cons order orders ih => exact ih (hosts_take h order)

/-- Induction on the orders: what is dead before them is dead after them. -/
theorem dead_run (h : d.world.Hosts V d.engines) {orders : List Order}
    (hdead : V.Dead d.world.clock d.world.store c id) (hleaves : d.Leaves V c id orders) :
    V.Dead (d.run orders).world.clock (d.run orders).world.store c id := by
  induction orders generalizing d with
  | nil => exact hdead
  | cons order orders ih =>
    cases order with
    | clock t => exact ih (h.clock t) (hdead.mono hleaves.1) hleaves.2
    | call k q =>
      obtain ⟨hplants, hleaves⟩ := hleaves
      obtain ⟨c', hsuits, hstands⟩ := (d.engines k).exists_suits_stands V c
      refine ih (hosts_take h (.call k q)) ?_ hleaves
      exact Request.dead (h k c' hsuits) hdead fun hshelf => hplants (hstands.1 hshelf)

end Desk

open Fleet in
/-- **An expired record does not come back.** Engines share a backend of any
kind, to which nothing had been put before they began, and any of whose
operations may fail at any time. Calls are made on them one after the other,
until a record is absent or has expired. As long as the clock is not set back
and no create or upsert under its id succeeds on an engine that stands on its
collection, no such engine gives a sign of life of it: no read finds it, no
scan lists it, and no operation on its lock succeeds. -/
theorem no_revival_without_write (kind : BackendKind) (configs : Nat → Once Config)
    (w : World (Fleet × Outages)) (hvacant : Vacant kind w.store.1) (before orders : List Order)
    (c : CollectionRef) (id : String) :
    let d := (Desk.start (shared kind).exposed configs w).run before
    let e := d.run orders
    (view kind).Dead d.world.clock d.world.store.1 c id →
    d.Leaves (view kind).exposed c id orders →
    ∀ (k : Nat) (q : Request), (e.engines k).Stands (view kind).exposed c →
      ¬ q.SignOfLife id (q.call.run (e.session k)).1 := by
  intro d e hdead hleaves k q hstands
  have hhosts : d.world.Hosts (view kind).exposed d.engines :=
    Desk.hosts_run (d := .start _ configs w) (hosts_fresh hvacant configs) before
  have hdead' : (view kind).exposed.Dead e.world.clock e.world.store c id :=
    Desk.dead_run hhosts hdead hleaves
  obtain ⟨c', hsuits, hiff⟩ := (e.engines k).exists_suits_stands (view kind).exposed c
  have hfit : (e.session k).Fit (view kind).exposed c' := Desk.hosts_run hhosts orders k c' hsuits
  exact Request.not_signOfLife hfit hdead' (hiff.2 hstands)

/-- A record is created that expires a second later, and three seconds pass. -/
def lapse : List Order :=
  [.call 0 (.create { id := "a", expiresAt := Instant.epoch.after 1 }),
    .clock (Instant.epoch.after 3)]

/-- The record is read and asked for its lock. -/
def visits : List Order :=
  [.call 1 (.get "a"), .clock (Instant.epoch.after 4), .call 0 (.tryToLock "a" ⟨"x", "node"⟩ 60)]

open Fleet Fixture in
/-- New engines on the shared memory, of which no delete succeeds. -/
abbrev Desk.cluttered : Desk (Fleet × Outages) :=
  .start (shared .memory).exposed (fun _ => .ready (memoryConfig "items"))
    ⟨Instant.epoch, [], ({}, .deletes)⟩

open Fleet Fixture Desk in
/-- The record is in the store still, but no read finds it. -/
theorem no_revival_without_write_clutter :
    Vacant .memory cluttered.world.store.1 ∧
      (view .memory).Dead (cluttered.run lapse).world.clock (cluttered.run lapse).world.store.1
        Pool.items "a" ∧
      (cluttered.run lapse).Leaves (view .memory).exposed Pool.items "a" visits ∧
      (((cluttered.run lapse).run visits).engines 1).Stands (view .memory).exposed Pool.items ∧
      (view .memory).look ((cluttered.run lapse).run visits).world.store.1 Pool.items "a" ≠ none ∧
      ¬ (Request.get "a").SignOfLife "a"
        ((Request.get "a").call.run (((cluttered.run lapse).run visits).session 1)).1 := by
  have hdead : (view .memory).Dead (cluttered.run lapse).world.clock
      (cluttered.run lapse).world.store.1 Pool.items "a" := by
    have hlook : (view .memory).look (cluttered.run lapse).world.store.1 Pool.items "a" =
        some { id := "a", token := "\"0000000000000000-1234f4af\"",
               expiresAt := Instant.epoch.after 1 } := by
      decide +kernel
    exact View.dead_of_some hlook (by decide)
  have hleaves : (cluttered.run lapse).Leaves (view .memory).exposed Pool.items "a" visits :=
    ⟨fun _ hplants => hplants, by decide, fun _ hplants => hplants, trivial⟩
  have hstands : (((cluttered.run lapse).run visits).engines 1).Stands (view .memory).exposed
      Pool.items := by
    rintro config ⟨⟩
    rfl
  have hleft : (view .memory).look ((cluttered.run lapse).run visits).world.store.1
      Pool.items "a" ≠ none := by
    decide +kernel
  exact ⟨rfl, hdead, hleaves, hstands, hleft,
    no_revival_without_write .memory (fun _ => .ready (memoryConfig "items"))
      ⟨Instant.epoch, [], ({}, .deletes)⟩ rfl lapse visits Pool.items "a" hdead hleaves 1
      (.get "a") hstands⟩

end LeaseStore
