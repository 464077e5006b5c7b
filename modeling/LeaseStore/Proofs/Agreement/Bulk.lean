/-
LeaseStore.Proofs.Agreement.Bulk — bulk deletes, in waves of any size.

How many deletes an engine has under way at once is its own affair. Where no
failure is planned every delete of a bulk either removes a record or finds
none, and both count as deleted. So the report depends on the number of ids
alone, and a bulk deletes the ids one after the other, whatever the waves
(`Operation.run_deleteWaves`). On mirrored sessions it does alike
(`Session.Mirrors.run_deleteMany`), as every request does
(`Session.Mirrors.run_request`).
-/
import LeaseStore.Proofs.Agreement.Sessions
import LeaseStore.Proofs.Calls.Conduct

namespace LeaseStore

variable {σ τ : Type} {V : View σ} {W : View τ} {c : CollectionRef} {ρ : Renaming}

/-! ## Deletes one after the other -/

namespace View

theorem DeletesAll.append {s t u : σ} {ids ids' : List String}
    {rs rs' : List (Except BackendError Unit)} (h : V.DeletesAll c s ids t rs)
    (h' : V.DeletesAll c t ids' u rs') : V.DeletesAll c s (ids ++ ids') u (rs ++ rs') := by
  induction h with
  | nil => exact h'
  | cons hdel _ ih => exact .cons hdel (ih h')

/-- Without planned failures each delete of a collection that is there finds
the record, or finds none. -/
theorem DeletesAll.settled {s t : σ} {ids : List String} {rs : List (Except BackendError Unit)}
    (h : V.DeletesAll c s ids t rs) (hcalm : V.Calm s) (hthere : V.Provided s c) :
    rs.length = ids.length ∧ ∀ r ∈ rs, r = .ok () ∨ r = .error .notFound := by
  induction h with
  | nil => simp
  | cons hdel _ ih =>
    have hpasses := hdel.move.passes
    obtain ⟨hlength, hsettled⟩ := ih (hpasses.calm hcalm) (hpasses.provided c hthere)
    refine ⟨congrArg (· + 1) hlength, List.forall_mem_cons.2 ⟨?_, hsettled⟩⟩
    cases hdel with
    | removed => exact .inl rfl
    | absent => exact .inr rfl
    | failed hfail => exact absurd ⟨hcalm, hthere⟩ hfail

end View

/-! ## Running a bulk -/

namespace Operation

open Call

/-- A session whose engine has counted an event `n` times more. -/
def counting (s : Session σ) (counter : Counter) (n : Nat) : Session σ :=
  { s with engine := { s.engine with
      metrics := (fun m : Metrics => m.record counter)^[n] s.engine.metrics } }

theorem run_countTimes (counter : Counter) (n : Nat) (s : Session σ) :
    (countTimes counter n).run s = ((), counting s counter n) := by
  induction n generalizing s with
  | zero => rfl
  | succ n ih => exact ih (s.count counter)

theorem run_tally (report : BulkDelete) {outcomes : List (String × Except BackendError Unit)}
    (h : ∀ x ∈ outcomes, x.2 = .ok () ∨ x.2 = .error .notFound) (s : Session σ) :
    (tally report outcomes).run s =
      ({ report with deleted := report.deleted + outcomes.length }, s) := by
  induction outcomes generalizing report with
  | nil => rfl
  | cons outcome rest ih =>
    obtain ⟨id, r⟩ := outcome
    obtain ⟨hr, hrest⟩ := List.forall_mem_cons.1 h
    have htail := ih { report with deleted := report.deleted + 1 } hrest
    have hstep : (tally report ((id, r) :: rest)).run s =
        (tally { report with deleted := report.deleted + 1 } rest).run s := by
      obtain rfl | rfl := hr <;> rfl
    rw [hstep, htail, List.length_cons, Nat.add_assoc, Nat.add_comm 1]

theorem counting_counting (s : Session σ) (counter : Counter) (m n : Nat) (st st' : σ) :
    { counting { counting s counter m with world := { s.world with store := st } } counter n with
      world := { s.world with store := st' } } =
      ({ counting s counter (m + n) with world := { s.world with store := st' } } : Session σ) := by
  simp only [counting, Nat.add_comm m n, Function.iterate_add_apply]

/-- Whatever the waves, a bulk deletes all ids in order, and reports and
counts so many deletes. Induction on the waves. -/
theorem run_deleteWaves (report : BulkDelete) (waves : List (List String)) {s : Session σ}
    {l : Link σ} (hs : V.Sound s.world.store) (hcalm : V.Calm s.world.store)
    (hserves : s.engine.Serves V c s.world.store) (hl : s.engine.link = some l) :
    ∃ st replies, (deleteWaves report waves).run s =
        ({ report with deleted := report.deleted + waves.flatten.length },
          { counting s .delete waves.flatten.length with world := { s.world with store := st } }) ∧
      V.DeletesAll c s.world.store waves.flatten st replies := by
  induction waves generalizing report s with
  | nil => exact ⟨s.world.store, [], rfl, .nil _⟩
  | cons wave rest ih =>
    have hcollection := hserves.linked l hl
    obtain ⟨replies, st, hwave, hall⟩ :=
      (hserves.lawful.link l hl).1.deleteWave l.collection wave (w := s.world) hs
    rw [hcollection] at hwave hall
    obtain ⟨hlength, hsettled⟩ := hall.settled hcalm (hserves.provided hl)
    have hpasses := hall.moves.passes
    have hperform : (counting s .delete wave.length).perform (.deleteWave wave) = (replies,
        { counting s .delete wave.length with world := { s.world with store := st } }) := by
      simp only [Session.perform, counting, hl, hcollection, hwave]
    -- on a calm store a delete fails for want of a record only, and that counts as done
    have htally : ∀ x ∈ wave.zip replies, x.2 = .ok () ∨ x.2 = .error .notFound :=
      fun x hx => hsettled x.2 (List.of_mem_zip hx).2
    have hzip : (wave.zip replies).length = wave.length := by
      rw [List.length_zip, hlength, Nat.min_self]
    have hfirst : (deleteWaves report (wave :: rest)).run s =
        (deleteWaves { report with deleted := report.deleted + wave.length } rest).run
          { counting s .delete wave.length with world := { s.world with store := st } } := by
      rw [deleteWaves, run_bind, run_countTimes]
      show Call.run (tally report (wave.zip
          ((counting s .delete wave.length).perform (.deleteWave wave)).1) >>= fun report =>
            deleteWaves report rest)
        ((counting s .delete wave.length).perform (.deleteWave wave)).2 = _
      rw [hperform, run_bind, run_tally report htally, hzip]
    obtain ⟨st', replies', hrest, hall'⟩ :=
      ih { report with deleted := report.deleted + wave.length }
        (s := { counting s .delete wave.length with world := { s.world with store := st } })
        (hpasses.sound hs) (hpasses.calm hcalm) ((hserves.passes hpasses).metered _) hl
    refine ⟨st', replies ++ replies', ?_, hall.append hall'⟩
    rw [hfirst, hrest, List.flatten_cons, List.length_append, counting_counting, Nat.add_assoc]

end Operation

/-! ## On mirrored sessions -/

/-- A call that makes no write issues no token. Induction on the call. -/
theorem Call.Along.issues_eq_nil {α : Type} {x : Call α} {P : List Exchange → Action → Prop}
    {Q : List Exchange → α → Prop} {past : List Exchange} (h : x.Along P Q past)
    (hP : ∀ past a, P past a → ∀ reply, Exchange.issued ⟨a, reply⟩ = []) (s : Session σ) :
    x.issues s = [] := by
  induction x generalizing past s with
  | done => rfl
  | act a next ih =>
    rw [issues, hP past a h.1, ih _ (h.2 _)]
    rfl

namespace Session

open Operation

theorem issues_deleteMany (ids : List String) (s : Session σ) : (deleteMany ids).issues s = [] := by
  refine (along_deleteMany ids []).issues_eq_nil (fun past a ha reply => ?_) s
  cases a with
  | create r =>
    obtain ⟨-, _, _, _, -, herrand, -⟩ := ha
    cases herrand
  | upsert r w =>
    obtain ⟨-, _, _, -, hwrites⟩ := ha
    exact hwrites.elim
  | _ => rfl

/-- A bulk delete connects, and then deletes all ids. -/
theorem run_deleteMany {s : Session σ} (hs : V.Sound s.world.store) (hcalm : V.Calm s.world.store)
    (hserves : s.engine.Serves V c s.world.store) (ids : List String) :
    ∃ l mid st replies, (deleteMany ids).run s =
        (.ok { requested := ids.length, deleted := ids.length },
          { counting ⟨{ s.engine with link := some l }, s.world⟩ .delete ids.length with
            world := { s.world with store := st } }) ∧
      V.Same s.world.store mid ∧ V.Provided mid c ∧ V.DeletesAll c mid ids st replies ∧
      Engine.Serves V c { s.engine with link := some l } mid := by
  obtain ⟨config, l, mid, hconnect, hsame, hlinked⟩ := connect_of_serves hs hcalm hserves
  obtain ⟨st, replies, hrun, hall⟩ := run_deleteWaves { requested := ids.length }
    (waves config.maxPending ids) (s := ⟨{ s.engine with link := some l },
      { s.world with store := mid }⟩) (hsame.sound hs) (hsame.calm hcalm) hlinked rfl
  rw [flatten_waves] at hrun hall
  simp only [Nat.zero_add] at hrun
  refine ⟨l, mid, st, replies, ?_, hsame, hlinked.provided rfl, hall, hlinked⟩
  have hfirst : (deleteMany ids).run s =
      ((deleteWaves { requested := ids.length } (waves config.maxPending ids) >>= fun report =>
        Call.done (Except.ok report)).run
          ⟨{ s.engine with link := some l }, { s.world with store := mid }⟩) := by
    have hperform : s.perform .connect =
        (.ok config, ⟨{ s.engine with link := some l }, { s.world with store := mid }⟩) := hconnect
    unfold deleteMany
    rw [Call.run_bind, Call.run_perform, hperform]
    rfl
  rw [hfirst, Call.run_bind, hrun]
  rfl

/-- Bulk deletes do alike on mirrored sessions, in whatever waves. -/
theorem Mirrors.run_deleteMany {s : Session σ} {t : Session τ} (h : Mirrors V W c ρ s t)
    (ids : List String) :
    ((deleteMany ids).run s).1 = ((deleteMany ids).run t).1 ∧
      Advances V W c ρ ρ ((deleteMany ids).issues s) ((deleteMany ids).issues t) s
        ((deleteMany ids).run s).2 t ((deleteMany ids).run t).2 := by
  obtain ⟨l, mid, st, replies, hrun, hsame, hthere, hall, hserves⟩ :=
    Session.run_deleteMany h.stores.sound.1 h.stores.calm.1 h.serves.1 ids
  obtain ⟨l', mid', st', replies', hrun', hsame', hthere', hall', hserves'⟩ :=
    Session.run_deleteMany h.stores.sound.2 h.stores.calm.2 h.serves.2 ids
  have hmid := h.stores.same hsame hsame'
  obtain ⟨-, hend⟩ := View.Mirrors.deletesAll hall hmid hthere hthere' hall'
  have hpasses := hsame.toPasses.trans hall.moves.passes
  have hpasses' := hsame'.toPasses.trans hall'.moves.passes
  rw [issues_deleteMany, issues_deleteMany, hrun, hrun']
  refine ⟨rfl, .refl ρ, ⟨hend, h.clock, h.draws, ?_, ⟨?_, ?_⟩, ?_⟩, hpasses, hpasses'⟩
  · exact congrArg (fun m : Metrics => m.record .delete)^[ids.length] h.metrics
  · exact (hserves.passes hall.moves.passes).metered _
  · exact (hserves'.passes hall'.moves.passes).metered _
  · have hlinked : some l = none ↔ some l' = none := by simp
    exact hlinked

/-! ## Any request -/

/-- A request and its renamed self do alike on mirrored sessions. -/
theorem Mirrors.run_request {s : Session σ} {t : Session τ} (h : Mirrors V W c ρ s t)
    {q : Request} {f : String → String} (hq : ∀ t ∈ q.tokens, ρ.Links t (f t)) :
    ∃ ρ', (q.call.run s).1.Alike ρ' ((q.rename f).call.run t).1 ∧
      Advances V W c ρ ρ' (q.call.issues s) ((q.rename f).call.issues t) s (q.call.run s).2
        t ((q.rename f).call.run t).2 := by
  by_cases hbulk : ∃ ids, q = .deleteMany ids
  · obtain ⟨ids, rfl⟩ := hbulk
    obtain ⟨hreports, hadvances⟩ := h.run_deleteMany ids
    simp only [Request.rename, Request.call, Call.run_bind, Call.issues_bind]
    refine ⟨ρ, ?_, ?_⟩
    · rw [← hreports]
      exact .report _
    · have hends := hadvances.trans hadvances.mirrors.advances
      exact hends
  · have hplain (ids : List String) : q ≠ .deleteMany ids := fun heq => hbulk ⟨ids, heq⟩
    exact (q.twin hplain hq).run h

end Session

end LeaseStore
