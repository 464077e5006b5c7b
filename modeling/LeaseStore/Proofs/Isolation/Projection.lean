/-
LeaseStore.Proofs.Isolation.Projection — a run, and what it is for one record.

At a desk calls are made one after the other, by engines that are bound to any
collections of one backend, and the clock is set to any time in between. For
one record most of these calls could as well not have been made: if every call
that does not address the record is deleted from the run, the others are
answered as before.

* `BackendKind.SamePlace` — the collections whose records a backend does not
  keep apart: tables go by their name alone, whatever the database.
* `Desk.Pairs.run` — two desks, one of which skips the calls on other records,
  stay in agreement on this one.
* `records_are_isolated` — the same of the backends, from an empty store.
-/
import LeaseStore.Proofs.Agreement.Backends
import LeaseStore.Proofs.Isolation.Requests
import LeaseStore.Proofs.Runs.Revival

namespace LeaseStore

open WriteCondition (IsToken)

/-! ## Picking calls out of a run -/

/-- The tokens of the records that a caller is answered. -/
def Answer.tokens : Answer → List String
  | .record (.ok r) => [r.token]
  | .records (.ok rs) => rs.map (·.token)
  | _ => []

section Picking

variable (p : Nat → Request → Prop) [∀ k q, Decidable (p k q)]

/-- The order stays in the run when only the calls that satisfy `p` do. -/
def Order.Stays : Order → Prop
  | .call k q => p k q
  | .clock _ => True

instance Order.decidableStays : DecidablePred (Order.Stays p)
  | .call k q => inferInstanceAs (Decidable (p k q))
  | .clock _ => .isTrue trivial

/-- The run in which only the calls that satisfy `p` are made. -/
def Order.projection (orders : List Order) : List Order := orders.filter (Order.Stays p)

variable {p}

theorem Order.projection_of_pos {k : Nat} {q : Request} (h : p k q) (orders : List Order) :
    Order.projection p (.call k q :: orders) = .call k q :: Order.projection p orders :=
  List.filter_cons_of_pos (decide_eq_true (p := Order.Stays p (.call k q)) h)

theorem Order.projection_of_neg {k : Nat} {q : Request} (h : ¬ p k q) (orders : List Order) :
    Order.projection p (.call k q :: orders) = Order.projection p orders :=
  List.filter_cons_of_neg (mt (of_decide_eq_true (p := Order.Stays p (.call k q))) h)

variable (p)

namespace Desk

variable {σ : Type}

/-- What the calls that satisfy `p` are answered in a run. -/
def replies : Desk σ → List Order → List Answer
  | _, [] => []
  | d, .call k q :: orders =>
    if p k q then (q.call.run (d.session k)).1 :: (d.take (.call k q)).replies orders
    else (d.take (.call k q)).replies orders
  | d, .clock t :: orders => (d.take (.clock t)).replies orders

/-- The tokens that come with the calls that satisfy `p` name no version, or
are known, or were in an earlier answer to such a call. -/
def Presents : Desk σ → List String → List Order → Prop
  | _, _, [] => True
  | d, known, .call k q :: orders =>
    if p k q then
      (∀ t ∈ q.tokens, ¬ IsToken t ∨ t ∈ known) ∧
        (d.take (.call k q)).Presents (known ++ (q.call.run (d.session k)).1.tokens) orders
    else (d.take (.call k q)).Presents known orders
  | d, known, .clock t :: orders => (d.take (.clock t)).Presents known orders

instance decidablePresents :
    (d : Desk σ) → (known : List String) → (orders : List Order) →
      Decidable (d.Presents p known orders)
  | _, _, [] => .isTrue trivial
  | d, known, .call k q :: orders =>
    have := (d.take (.call k q)).decidablePresents
      (known ++ (q.call.run (d.session k)).1.tokens) orders
    have := (d.take (.call k q)).decidablePresents known orders
    inferInstanceAs (Decidable (if p k q then _ ∧ _ else _))
  | d, known, .clock t :: orders => (d.take (.clock t)).decidablePresents known orders

end Desk

end Picking

/-! ## Tokens in alike answers -/

variable {ρ ρ' : Renaming}

/-- What names no version or is linked is linked to what it is renamed to. -/
theorem Renaming.links_apply (ρ : Renaming) {t : String} (h : ¬ IsToken t ∨ ∃ b, ρ.Links t b) :
    ρ.Links t (ρ.apply t) := by
  obtain hplain | ⟨b, hb⟩ := h
  · have hself : ρ.Links t t := .inr ⟨rfl, hplain⟩
    rwa [ρ.follows_apply t t hself]
  · rwa [ρ.follows_apply t b hb]

theorem Record.Alike.links {r r' : Record} (h : r.Alike ρ r') : ∃ b, ρ.Links r.token b := by
  obtain ⟨token, hlinks, -⟩ := h
  exact ⟨token, hlinks⟩

theorem Record.links_of_mem {rs rs' : List Record} (h : List.Forall₂ (Record.Alike ρ) rs rs') :
    ∀ r ∈ rs, ∃ b, ρ.Links r.token b :=
  ((List.forall₂_and_left rs rs').1 (h.imp fun _ _ hr => ⟨hr.links, hr⟩)).1

/-- The tokens of an answer are linked if it is alike another one. -/
theorem Answer.Alike.links {a a' : Answer} (h : a.Alike ρ a') :
    ∀ t ∈ a.tokens, ∃ b, ρ.Links t b := by
  intro t ht
  cases h with
  | unit | truth | report | retried => cases ht
  | record hr =>
    cases hr with
    | error => cases ht
    | ok halike =>
      rw [List.mem_singleton.1 ht]
      exact halike.links
  | records hrs =>
    cases hrs with
    | error => cases ht
    | ok hall =>
      obtain ⟨r, hr, rfl⟩ := List.mem_map.1 ht
      exact Record.links_of_mem hall r hr

theorem Answer.links_of_mem {as as' : List Answer} (h : List.Forall₂ (Answer.Alike ρ) as as') :
    ∀ a ∈ as, ∀ t ∈ a.tokens, ∃ b, ρ.Links t b :=
  ((List.forall₂_and_left as as').1 (h.imp fun _ _ ha => ⟨ha.links, ha⟩)).1

theorem Answer.map_rename_eq {f : String → String} (hf : ρ.Follows f) {as as' : List Answer}
    (h : List.Forall₂ (Answer.Alike ρ) as as') : as' = as.map (Answer.rename f) := by
  induction h with
  | nil => rfl
  | cons ha _ ih => rw [List.map_cons, ha.rename_eq hf, ← ih]

/-! ## Two desks -/

namespace Desk

variable {σ : Type} {V : View σ} {K : Connector σ} {configs : Nat → Config}
  {c : CollectionRef} {id : String} {d e : Desk σ}

/-- Two desks with engines of the same configurations, which agree on one
record. -/
structure Pairs (V : View σ) (K : Connector σ) (configs : Nat → Config) (c : CollectionRef)
    (id : String) (ρ : Renaming) (d e : Desk σ) : Prop where
  worlds : World.Pairs V c id ρ d.world e.world
  posted : ∀ k, (d.engines k).Posted K (configs k) ∧ (e.engines k).Posted K (configs k)
  hosts : d.world.Hosts V d.engines ∧ e.world.Hosts V e.engines

theorem posted_take (h : ∀ k, (d.engines k).Posted K (configs k)) (order : Order) (k : Nat) :
    ((d.take order).engines k).Posted K (configs k) := by
  cases order with
  | clock t => exact h k
  | call n q =>
    show (Function.update d.engines n (q.call.run (d.session n)).2.engine k).Posted K (configs k)
    by_cases hk : k = n
    · subst hk
      rw [Function.update_self]
      exact (h k).of_opens (q.call.keeps_run (d.session k)) (q.call.opens_run (d.session k))
    · rw [Function.update_of_ne hk]
      exact h k

theorem fit_of_posted (hhosts : d.world.Hosts V d.engines) {k : Nat}
    (hposted : (d.engines k).Posted K (configs k)) :
    (d.session k).Fit V (configs k).collectionRef := by
  refine hhosts k _ fun config hconfig => ?_
  rw [hposted.config] at hconfig
  cases hconfig
  rfl

/-- A call that does not address the record may be left out at one of the
desks. -/
theorem Pairs.skip (h : Pairs V K configs c id ρ d e) {k : Nat} {q : Request} (hq : ¬ q.Waits)
    (hnot : V.shelf (configs k).collectionRef = V.shelf c → ¬ q.Names id) :
    Pairs V K configs c id ρ (d.take (.call k q)) e := by
  have hspares := q.spares hq (fit_of_posted h.hosts.1 (h.posted k).1)
    fun hshelf => hnot hshelf.symm
  refine ⟨⟨?_, hspares.clock.trans h.worlds.clock⟩,
    fun n => ⟨posted_take (fun k => (h.posted k).1) (.call k q) n, (h.posted n).2⟩,
    hosts_take h.hosts.1 (.call k q), h.hosts.2⟩
  exact h.worlds.stores.same (hspares.passes.focus_same hspares.look) (.refl _)

/-- A call that addresses the record, and its renamed self. -/
theorem Pairs.call (h : Pairs V K configs c id ρ d e) (hlawful : K.Lawful V)
    (hsteady : K.Steady V) {k : Nat} {q : Request}
    (hshelf : V.shelf (configs k).collectionRef = V.shelf c) (hq : ¬ q.Waits)
    (hscan : q ≠ .getAll) (hid : q.Names id) {f : String → String}
    (htokens : ∀ t ∈ q.tokens, ρ.Links t (f t)) :
    ∃ ρ', ρ.Within ρ' ∧
      (q.call.run (d.session k)).1.Alike ρ' ((q.rename f).call.run (e.session k)).1 ∧
      Pairs V K configs c id ρ' (d.take (.call k q)) (e.take (.call k (q.rename f))) := by
  have hworlds : World.Pairs V (configs k).collectionRef id ρ (d.session k).world
      (e.session k).world := ⟨h.worlds.stores.of_shelf hshelf.symm, h.worlds.clock⟩
  obtain ⟨ρ', hwithin, halike, hend⟩ := hworlds.run_request hlawful hsteady (h.posted k).1
    (h.posted k).2 (fit_of_posted h.hosts.1 (h.posted k).1)
    (fit_of_posted h.hosts.2 (h.posted k).2) hq hscan hid htokens
  refine ⟨ρ', hwithin, halike, ⟨hend.stores.of_shelf hshelf, hend.clock⟩, fun n => ⟨?_, ?_⟩,
    hosts_take h.hosts.1 (.call k q), hosts_take h.hosts.2 (.call k (q.rename f))⟩
  · exact posted_take (fun k => (h.posted k).1) (.call k q) n
  · exact posted_take (fun k => (h.posted k).2) (.call k (q.rename f)) n

theorem Pairs.clock (h : Pairs V K configs c id ρ d e) (t : Instant) :
    Pairs V K configs c id ρ (d.take (.clock t)) (e.take (.clock t)) :=
  ⟨⟨h.worlds.stores, rfl⟩, h.posted, h.hosts.1.clock t, h.hosts.2.clock t⟩

variable {p : Nat → Request → Prop} [∀ k q, Decidable (p k q)]

/-- **A run and its projection.** Induction on the orders: how the later ones
are renamed is settled by the calls before them. -/
theorem Pairs.run (h : Pairs V K configs c id ρ d e) (hlawful : K.Lawful V)
    (hsteady : K.Steady V)
    (hp : ∀ k q, p k q ↔ V.shelf (configs k).collectionRef = V.shelf c ∧ q.Names id)
    {orders : List Order}
    (hscope : ∀ k q, .call k q ∈ orders → ¬ q.Waits ∧ (p k q → q ≠ .getAll))
    {known : List String} (hknown : ∀ t ∈ known, ∃ b, ρ.Links t b)
    (hpresents : d.Presents p known orders) :
    ∃ ρ', ρ.Within ρ' ∧ ∀ f, ρ'.Follows f → ∃ answers,
      (e.run ((Order.projection p orders).map (Order.rename f))).answers.map Prod.fst =
        e.answers.map Prod.fst ++ answers ∧
      List.Forall₂ (Answer.Alike ρ') (d.replies p orders) answers := by
  induction orders generalizing d e ρ known with
  | nil => exact ⟨ρ, .refl ρ, fun f _ => ⟨[], (List.append_nil _).symm, .nil⟩⟩
  | cons order orders ih =>
    have hlater (k : Nat) (q : Request) (hmem : .call k q ∈ orders) :
        ¬ q.Waits ∧ (p k q → q ≠ .getAll) := hscope k q (List.mem_cons_of_mem _ hmem)
    cases order with
    | clock t => exact ih (h.clock t) hlater hknown hpresents
    | call k q =>
      obtain ⟨hq, hscan⟩ := hscope k q List.mem_cons_self
      by_cases hpick : p k q
      case neg =>
        rw [Presents, if_neg hpick] at hpresents
        rw [replies, if_neg hpick, Order.projection_of_neg hpick]
        refine ih (h.skip hq fun hshelf hid => hpick ((hp k q).2 ⟨hshelf, hid⟩)) hlater hknown
          hpresents
      case pos =>
        rw [Presents, if_pos hpick] at hpresents
        obtain ⟨htokens, hpresents⟩ := hpresents
        obtain ⟨hshelf, hid⟩ := (hp k q).1 hpick
        -- a token that is presented is none, or one that an earlier answer has shown
        have hlinks (t : String) (ht : t ∈ q.tokens) : ρ.Links t (ρ.apply t) :=
          ρ.links_apply ((htokens t ht).imp_right (hknown t))
        obtain ⟨ρ₁, hwithin, halike, hmid⟩ :=
          h.call hlawful hsteady hshelf hq (hscan hpick) hid hlinks
        have hknown' (t : String) (ht : t ∈ known ++ (q.call.run (d.session k)).1.tokens) :
            ∃ b, ρ₁.Links t b := by
          obtain hold | hnew := List.mem_append.1 ht
          · obtain ⟨b, hb⟩ := hknown t hold
            exact ⟨b, hb.within hwithin⟩
          · exact halike.links t hnew
        obtain ⟨ρ', hwithin', hend⟩ := ih hmid hlater hknown' hpresents
        refine ⟨ρ', hwithin.trans hwithin', fun f hf => ?_⟩
        -- the renaming of the whole run agrees on these tokens with what they are named by now
        have hsame : q.rename f = q.rename ρ.apply := Request.rename_congr fun t ht =>
          hf.of_within (hwithin.trans hwithin') t _ (hlinks t ht)
        obtain ⟨answers, hanswers, hall⟩ := hend f hf
        rw [← hsame] at hanswers halike
        refine ⟨((q.rename f).call.run (e.session k)).1 :: answers, ?_, ?_⟩
        · rw [Order.projection_of_pos hpick, List.map_cons]
          refine hanswers.trans ?_
          simp [take]
        · rw [replies, if_pos hpick]
          exact .cons (halike.within hwithin') hall

end Desk

/-! ## The kinds of backends -/

/-- Records of these collections are kept in one place: a table service goes
by the name of the table, the other backends by database and name. -/
def BackendKind.SamePlace : BackendKind → CollectionRef → CollectionRef → Prop
  | .memory, c, c' | .document, c, c' => c = c'
  | .table, c, c' => c.collection = c'.collection

instance BackendKind.decidableSamePlace (c c' : CollectionRef) :
    (kind : BackendKind) → Decidable (kind.SamePlace c c')
  | .memory | .document => inferInstanceAs (Decidable (c = c'))
  | .table => inferInstanceAs (Decidable (c.collection = c'.collection))

namespace Fleet

theorem shelf_eq_iff (kind : BackendKind) (c c' : CollectionRef) :
    (view kind).shelf c = (view kind).shelf c' ↔ kind.SamePlace c c' := by
  cases kind with
  | memory | document => exact Iff.rfl
  | table =>
    constructor
    · intro h
      exact (CollectionRef.mk.inj h).2
    · intro h
      exact CollectionRef.ext rfl h

/-- The call addresses the record under `id` of the collection `c`: its engine
is bound to where the records of `c` are kept, and its request names the id. -/
def Addresses (kind : BackendKind) (configs : Nat → Config) (c : CollectionRef) (id : String)
    (k : Nat) (q : Request) : Prop :=
  kind.SamePlace (configs k).collectionRef c ∧ q.Names id

instance decidableAddresses (kind : BackendKind) (configs : Nat → Config) (c : CollectionRef)
    (id : String) (k : Nat) (q : Request) : Decidable (Addresses kind configs c id k q) :=
  inferInstanceAs (Decidable (_ ∧ _))

/-- New desks on an empty backend agree on every record. -/
theorem pairs_fresh {kind : BackendKind} {w : World Fleet} (hvacant : Vacant kind w.store)
    (hcalm : (view kind).Calm w.store) (configs : Nat → Config) (c : CollectionRef)
    (id : String) :
    Desk.Pairs (view kind) (shared kind) configs c id .empty (.fresh (shared kind) configs w)
      (.fresh (shared kind) configs w) := by
  have hsound := sound_of_vacant hvacant
  have hhosts : w.Hosts (view kind) (Desk.fresh (shared kind) configs w).engines :=
    fun k c hsuits => ⟨hsound, steady_shared kind, hsuits, fun _ hl => nomatch hl⟩
  have hposted (k : Nat) :
      ((Desk.fresh (shared kind) configs w).engines k).Posted (shared kind) (configs k) :=
    ⟨rfl, rfl, fun _ hl => nomatch hl⟩
  refine ⟨⟨.intro ⟨hsound, hsound⟩ ⟨hcalm, hcalm⟩ ?_ (fun _ _ hab => nomatch hab), rfl⟩,
    fun k => ⟨hposted k, hposted k⟩, hhosts, hhosts⟩
  show Option.Rel _ ((view kind).look w.store c id) ((view kind).look w.store c id)
  rw [look_of_vacant hvacant]
  exact .none

end Fleet

open Fleet in
/-- **Records are isolated.** Engines are bound to any collections of one
backend, to which nothing has been put and for which no failure is planned.
Calls are made on them one after the other, at any times, none of which waits
in between. Pick one record, of which the run makes no scan of the whole
collection, and let the callers who address it supply only tokens from earlier
answers about it, the empty token, or the wildcard. Then delete from the run
every call that does not address the record. There is a function that renames
tokens so that the calls that are left, renamed, get the renamed answers. It is
one-to-one on the tokens that those answers show, and leaves the empty token
and the wildcard as they are. -/
theorem records_are_isolated (kind : BackendKind) (configs : Nat → Config) (w : World Fleet)
    (hvacant : Vacant kind w.store) (hcalm : (view kind).Calm w.store) (c : CollectionRef)
    (id : String) (orders : List Order)
    (hscope : ∀ k q, .call k q ∈ orders →
      ¬ q.Waits ∧ (Addresses kind configs c id k q → q ≠ .getAll))
    (hpresents : (Desk.fresh (shared kind) configs w).Presents
      (Addresses kind configs c id) [] orders) :
    let d := Desk.fresh (shared kind) configs w
    let replies := d.replies (Addresses kind configs c id) orders
    ∃ f : String → String, (∀ t, ¬ IsToken t → f t = t) ∧
      Set.InjOn f {t | ¬ IsToken t ∨ ∃ a ∈ replies, t ∈ a.tokens} ∧
      (d.run ((Order.projection (Addresses kind configs c id) orders).map
        (Order.rename f))).answers.map Prod.fst = replies.map (Answer.rename f) := by
  intro d replies
  have hp (k : Nat) (q : Request) : Addresses kind configs c id k q ↔
      (view kind).shelf (configs k).collectionRef = (view kind).shelf c ∧ q.Names id := by
    rw [shelf_eq_iff]
    exact Iff.rfl
  obtain ⟨ρ, -, hrun⟩ := (pairs_fresh hvacant hcalm configs c id).run (lawful_shared kind)
    (steady_shared kind) hp hscope (fun _ ht => absurd ht List.not_mem_nil) hpresents
  have hfollows := ρ.follows_apply
  obtain ⟨answers, hanswers, hall⟩ := hrun ρ.apply hfollows
  refine ⟨ρ.apply, fun t ht => hfollows t t (.inr ⟨rfl, ht⟩), ?_, ?_⟩
  · refine hfollows.injOn.mono fun t ht => ?_
    obtain hplain | ⟨a, ha, hmem⟩ := ht
    · exact ⟨t, .inr ⟨rfl, hplain⟩⟩
    · exact Answer.links_of_mem hall a ha t hmem
  · rw [hanswers, ← Answer.map_rename_eq hfollows hall]
    rfl

/-- A table that two databases have in common, and another one. -/
def sharedPosts : Nat → Config
  | 0 => Fixture.tableConfig "leases"
  | 1 => { Fixture.tableConfig "leases" with database := "other" }
  | _ => Fixture.tableConfig "jobs"

/-- A record is created, written through the other database on the condition
of that version, and locked, while others come and go. -/
def mixedRun : List Order :=
  [.call 2 (.create { id := "a" }), .call 0 (.create { id := "a" }),
    .call 0 (.create { id := "b" }), .clock (Instant.epoch.after 5),
    .call 1 (.upsertWithToken { id := "a", data := "x" } (TableService.tagOf 2)),
    .call 2 .getAll, .call 0 (.tryToLock "a" ⟨"x", "node"⟩ 60), .call 2 (.deleteMany ["a"]),
    .call 1 (.get "a")]

open Fleet in
/-- New engines over the tables. -/
abbrev Desk.overSharedTables : Desk Fleet := .fresh (shared .table) sharedPosts Pool.blank.world

/-- The calls on the record that is locked. -/
abbrev leaseCalls : Nat → Request → Prop :=
  Fleet.Addresses .table sharedPosts ⟨"fleetsim", "leases"⟩ "a"

open Fleet Desk in
/-- Where nothing else has happened, the last read shows the same record, under
the token of the third write instead of the fifth. -/
theorem records_are_isolated_lease :
    Vacant .table overSharedTables.world.store ∧
      (view .table).Calm overSharedTables.world.store ∧
      (∀ k q, .call k q ∈ mixedRun → ¬ q.Waits ∧ (leaseCalls k q → q ≠ .getAll)) ∧
      overSharedTables.Presents leaseCalls [] mixedRun ∧
      ∃ f : String → String,
        Set.InjOn f {t | ¬ IsToken t ∨
          ∃ a ∈ overSharedTables.replies leaseCalls mixedRun, t ∈ a.tokens} ∧
        ∃ r, ((overSharedTables.run ((Order.projection leaseCalls mixedRun).map
            (Order.rename f))).answers.map Prod.fst)[3]? = some (.record (.ok r)) ∧
          r.data = "x" ∧ r.token = f (TableService.tagOf 5) := by
  have hscope (k : Nat) (q : Request) (hmem : .call k q ∈ mixedRun) :
      ¬ q.Waits ∧ (leaseCalls k q → q ≠ .getAll) := by
    cases q with
    | getAll =>
      have hk : k = 2 := by simpa [mixedRun] using hmem
      subst hk
      exact ⟨fun h => h, fun haddresses => absurd haddresses.1 (by decide)⟩
    | lockWithRetry => simp [mixedRun] at hmem
    | _ => exact ⟨fun h => h, fun _ h => nomatch h⟩
  have hpresents : overSharedTables.Presents leaseCalls [] mixedRun := by decide +kernel
  have hread : ((overSharedTables.replies leaseCalls mixedRun)[3]?.bind Answer.record?).map
      (fun r => (r.data, r.token)) = some ("x", TableService.tagOf 5) := by
    decide +kernel
  obtain ⟨r, hr, hfields⟩ := Option.map_eq_some_iff.1 hread
  obtain ⟨a, ha, hrecord⟩ := Option.bind_eq_some_iff.1 hr
  obtain rfl := Answer.eq_of_record? hrecord
  obtain ⟨hdata, htoken⟩ := Prod.mk.inj hfields
  obtain ⟨f, -, hinj, hanswers⟩ := records_are_isolated .table sharedPosts Pool.blank.world rfl
    ⟨rfl, trivial⟩ ⟨"fleetsim", "leases"⟩ "a" mixedRun hscope hpresents
  refine ⟨rfl, ⟨rfl, trivial⟩, hscope, hpresents, f, hinj, r.rename f, ?_, hdata, congrArg f htoken⟩
  rw [hanswers, List.getElem?_map, ha]
  rfl

end LeaseStore
