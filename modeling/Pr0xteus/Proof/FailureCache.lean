import Pr0xteus.Callers
import Pr0xteus.Proof.Acquire
import Pr0xteus.Proof.PoolCalls
import Pr0xteus.Proof.Turn

/-!
# Why a configuration is in the failure cache

Three places write to a pool's failure cache: a request whose spawn failed, a health tick, and
`MarkFailed`. The first does not ask why the spawn failed, so a caller that leaves while its cell is
being readied has the configuration set aside as well.
-/

namespace Pr0xteus

open GoTime Transition

variable {m : Setup}

/-- When the configuration failed, according to the cache of the pool. -/
def Shared.failedAt (s : Shared) (pool conf : String) : Option Int :=
  (s.pools pool).bind fun p => p.failed.lookup conf

/-- The configuration enters the cache, or enters it anew. -/
def Enters (pool conf : String) (e : CallerEdge) : Prop :=
  ∃ now ∈ e.target.machine.shared.failedAt pool conf,
    e.source.machine.shared.failedAt pool conf ≠ some now

/-- The goroutine that makes the access of an edge, and the answer it gets. -/
def CallerAction.turn : CallerAction → Option (Nat × Answer)
  | .act (.step i answer) => some (i, answer)
  | _ => none

/-- The pool and the configuration of a `Spawn` at an access that takes the caller's context. -/
def Pc.attempts : Pc → Option (String × String)
  | .acquire a (.create _ conf) => some (a.state, conf)
  | .acquire a (.waitReady _ conf _) => some (a.state, conf)
  | _ => none

/-- The pool and the configuration of a tunnel that a health tick finds unhealthy, given the answer
to its probe. -/
def Pc.condemns (m : Setup) (s : Shared) (answer : Answer) : Pc → Option (String × String)
  | .reaper (.healthProbe _ _ pool t _) => if answer.isFail then some (pool, t.confName) else none
  | .reaper (.healthAge _ _ pool t) =>
      if m.cfg.healthHandshakeMaxAge < sub s.now t.healthyAt then some (pool, t.confName) else none
  | _ => none

/-- A spawn of the configuration by goroutine `i` fails while its caller is still there. -/
def SpawnFails (i : Nat) (pool conf : String) (e : CallerEdge) : Prop :=
  ∃ turn ∈ e.action.turn, turn.1 = i ∧ turn.2.isFail = true ∧ i ∉ e.source.gone ∧
    ∃ pc ∈ e.source.machine.threads[i]?, pc.attempts = some (pool, conf)

/-- Goroutine `i`, a health tick, finds a tunnel of the configuration unhealthy. -/
def FindsUnhealthy (m : Setup) (i : Nat) (pool conf : String) (e : CallerEdge) : Prop :=
  ∃ turn ∈ e.action.turn, turn.1 = i ∧
    ∃ pc ∈ e.source.machine.threads[i]?,
      pc.condemns m e.source.machine.shared turn.2 = some (pool, conf)

/-- `MarkFailed` is at its last access: it was called because a tunnel proved unhealthy. -/
def Pc.reports (pool conf : String) : Pc → Bool
  | .markFailed pool' conf' (.record _) => pool' == pool && conf' == conf
  | _ => false

/-- What an edge writes to the cache is explained by an earlier edge of the same goroutine. -/
def Explained (m : Setup) (front : List CallerEdge) (pool conf : String) (e : CallerEdge) : Prop :=
  ∃ turn ∈ e.action.turn, ∃ pc ∈ e.source.machine.threads[turn.1]?,
    (∃ g ∈ front, SpawnFails turn.1 pool conf g) ∨
      (∃ g ∈ front, FindsUnhealthy m turn.1 pool conf g) ∨ pc.reports pool conf = true

/-- No caller is gone while its request is at an access that takes its context. -/
def CallersWait (e : CallerEdge) : Prop :=
  ∀ i ∈ e.source.gone, ∀ pc ∈ e.source.machine.threads[i]?, pc.awaits = false

instance (pool conf : String) (e : CallerEdge) : Decidable (Enters pool conf e) :=
  inferInstanceAs (Decidable (∃ now ∈ e.target.machine.shared.failedAt pool conf,
    e.source.machine.shared.failedAt pool conf ≠ some now))

instance (i : Nat) (pool conf : String) (e : CallerEdge) : Decidable (SpawnFails i pool conf e) :=
  inferInstanceAs (Decidable (∃ turn ∈ e.action.turn, turn.1 = i ∧ turn.2.isFail = true ∧
    i ∉ e.source.gone ∧ ∃ pc ∈ e.source.machine.threads[i]?, pc.attempts = some (pool, conf)))

instance (i : Nat) (pool conf : String) (e : CallerEdge) :
    Decidable (FindsUnhealthy m i pool conf e) :=
  inferInstanceAs (Decidable (∃ turn ∈ e.action.turn, turn.1 = i ∧
    ∃ pc ∈ e.source.machine.threads[i]?,
      pc.condemns m e.source.machine.shared turn.2 = some (pool, conf)))

instance (front : List CallerEdge) (pool conf : String) (e : CallerEdge) :
    Decidable (Explained m front pool conf e) :=
  inferInstanceAs (Decidable (∃ turn ∈ e.action.turn, ∃ pc ∈ e.source.machine.threads[turn.1]?,
    (∃ g ∈ front, SpawnFails turn.1 pool conf g) ∨
      (∃ g ∈ front, FindsUnhealthy m turn.1 pool conf g) ∨ pc.reports pool conf = true))

instance (e : CallerEdge) : Decidable (CallersWait e) :=
  inferInstanceAs (Decidable (∀ i ∈ e.source.gone, ∀ pc ∈ e.source.machine.threads[i]?,
    pc.awaits = false))

section Exec

variable {s s' : Shared} {answer : Answer} {pool conf : String} {failedAt : Int}

theorem Call.eq_markFailed_of_poolOp {c : Call} {now : Int}
    (h : c.poolOp now answer = some (pool, .markFailed conf failedAt)) :
    c = .markFailed pool conf failedAt := by
  cases c with
  | pickConf pool' now' exclude => cases answer <;> cases h
  | _ => cases h <;> rfl

/-- An entry of the cache was there before, or the access is the one that records a failure. -/
theorem failedAt_exec {c : Call} {ret : c.Ret} (hexec : exec m s c answer = some (s', ret))
    (h : s'.failedAt pool conf = some failedAt) :
    s.failedAt pool conf = some failedAt ∨ c = .markFailed pool conf failedAt := by
  unfold Shared.failedAt at h ⊢
  rw [pools_exec hexec] at h
  unfold Call.opsOn at h
  cases hp : s.pools pool with
  | none => simp [hp] at h
  | some p =>
      cases hop : c.poolOp s.now answer with
      | none => exact .inl (by simpa [hp, hop] using h)
      | some target =>
          obtain ⟨pool', op⟩ := target
          by_cases hpool : pool' = pool
          · subst hpool
            have hlookup : (op.apply m.cfg.failureCacheTTL p).failed.lookup conf = some failedAt := by
              simpa [hp, hop] using h
            rcases PoolOp.lookup_failed_apply hlookup with hold | rfl
            · exact .inl hold
            · exact .inr (Call.eq_markFailed_of_poolOp hop)
          · exact .inl (by simpa [hp, hop, hpool] using h)

end Exec

/-! What a goroutine carries from the failure to the cache. -/

namespace Pc

/-- The pool and the configuration of a failed spawn that is not in the cache yet. -/
def givesUp : Pc → Option (String × String)
  | .acquire a (.abandon _ conf _ _) => some (a.state, conf)
  | .acquire a (.failClock _ conf _) => some (a.state, conf)
  | .acquire a (.recordFailure _ conf _ _) => some (a.state, conf)
  | _ => none

/-- The pool and the configuration of an unhealthy tunnel that is not in the cache yet. -/
def condemned : Pc → Option (String × String)
  | .reaper (.failClock _ _ pool t) => some (pool, t.confName)
  | .reaper (.recordFailure _ _ pool t _) => some (pool, t.confName)
  | _ => none

variable {pc : Pc} {k : String × String}

theorem isOutside_of_givesUp (h : pc.givesUp = some k) : pc.isOutside = false := by
  unfold givesUp at h
  split at h <;> first | rfl | cases h

theorem isBusy_of_condemned (h : pc.condemned = some k) : pc.isBusy = true := by
  unfold condemned at h
  split at h <;> first | rfl | cases h

theorem awaits_of_attempts (h : pc.attempts = some k) : pc.awaits = true := by
  unfold attempts at h
  split at h <;> first | rfl | cases h

theorem cause_of_markFailed {pool conf : String} {now : Int}
    (h : pc.call = .markFailed pool conf now) :
    pc.givesUp = some (pool, conf) ∨ pc.condemned = some (pool, conf) ∨
      pc.reports pool conf = true := by
  cases pc with
  | acquire a stage =>
      cases stage with
      | recordFailure mu conf' reason now' =>
          cases h
          exact .inl rfl
      | _ => cases h
  | reaper stage =>
      cases stage with
      | recordFailure urls names pool' t now' =>
          cases h
          exact .inr (.inl rfl)
      | _ => cases h
  | markFailed pool' conf' stage =>
      cases stage with
      | record now' =>
          cases h
          exact .inr (.inr (by simp [reports]))
      | _ => cases h
  | assign acq stage | gateway u p stage | orphan stage | close stage => cases stage <;> cases h
  | destroy containerID stage => cases stage <;> cases h
  | done | failed err => cases h

end Pc

section Resume

variable {s s' : Shared} {answer : Answer} {pc : Pc} {ret : pc.call.Ret} {k : String × String}

/-- A request gives a configuration up when an access of `Spawn` fails. -/
theorem givesUp_resume (hexec : exec m s pc.call answer = some (s', ret))
    (hk : (resume m pc ret).givesUp = some k) :
    pc.givesUp = some k ∨ pc.attempts = some k ∧ answer.isFail = true := by
  obtain ⟨a, stage, rfl, hnext⟩ := acquireNext_of_inside hexec (Pc.isOutside_of_givesUp hk)
  cases stage with
  | create mu conf =>
      rcases ret with reason | containerID
      · refine .inr ⟨hk, ?_⟩
        cases answer with
        | fail reason => rfl
        | container id =>
            simp only [Pc.call, exec] at hexec
            split at hexec <;> cases hexec
        | _ => cases hexec
      · cases hk
  | waitReady mu conf containerID =>
      rcases ret with reason | ⟨addr, gatewayAddr⟩
      · refine .inr ⟨hk, ?_⟩
        cases answer with
        | fail reason => rfl
        | ready addr gatewayAddr =>
            simp only [Pc.call, exec] at hexec
            split at hexec <;> cases hexec
        | _ => cases hexec
      · cases hk
  | _ =>
      generalize resume m _ ret = pc' at hnext hk
      cases hnext <;> first | exact .inl hk | cases hk

theorem condemned_resume (hexec : exec m s pc.call answer = some (s', ret))
    (hk : (resume m pc ret).condemned = some k) :
    pc.condemned = some k ∨ pc.condemns m s answer = some k := by
  have hnext := (backgroundNext_of_isBusy hexec (Pc.isBusy_of_condemned hk)).2
  generalize hresume : resume m pc ret = pc' at hnext hk
  cases hnext with
  | probeFail urls pool names t url =>
      cases answer with
      | ok =>
          cases hexec
          cases hresume
      | fail reason => exact .inr hk
      | _ => cases hexec
  | ageFail urls pool names t hage =>
      cases hk
      exact .inr (if_pos hage)
  | recordFailure => exact .inl hk
  | _ => cases hk

end Resume

/-- Every failure that is on its way to the cache is explained by an edge of its goroutine. -/
structure Accounted (m : Setup) (es : List CallerEdge) (s : State) : Prop where
  spawn : ∀ (i : Nat) (pc : Pc), s.threads[i]? = some pc → ∀ k, pc.givesUp = some k →
    ∃ g ∈ es, SpawnFails i k.1 k.2 g
  health : ∀ (i : Nat) (pc : Pc), s.threads[i]? = some pc → ∀ k, pc.condemned = some k →
    ∃ g ∈ es, FindsUnhealthy m i k.1 k.2 g

theorem Accounted.mono {es : List CallerEdge} {s : State} (h : Accounted m es s) (e : CallerEdge) :
    Accounted m (es ++ [e]) s where
  spawn i pc hpc k hk := by
    obtain ⟨g, hg, hfails⟩ := h.spawn i pc hpc k hk
    exact ⟨g, List.mem_append_left _ hg, hfails⟩
  health i pc hpc k hk := by
    obtain ⟨g, hg, hfinds⟩ := h.health i pc hpc k hk
    exact ⟨g, List.mem_append_left _ hg, hfinds⟩

theorem accounted_step {es : List CallerEdge} {s t : CallerState} {a : CallerAction}
    (h : Accounted m es s.machine) (hwait : CallersWait ⟨s, a, t⟩)
    (hstep : callerStep m s a = some t) : Accounted m (es ++ [⟨s, a, t⟩]) t.machine := by
  have hlast : (⟨s, a, t⟩ : CallerEdge) ∈ es ++ [⟨s, a, t⟩] := by simp
  have hbefore := h.mono ⟨s, a, t⟩
  obtain ⟨i, rfl, -, rfl⟩ | ⟨b, rfl, -, hstep, hgone⟩ := callerStep_eq_some_iff.mp hstep
  · exact hbefore
  · constructor
    · refine forall_threads_of_step hstep hbefore.spawn (fun _ _ hpc => hpc) ?_ ?_
      · intro i entry _ _ k hk
        have hinside := Pc.isOutside_of_givesUp hk
        rw [isOutside_start] at hinside
        cases hinside
      · rintro i answer pc ret rfl hpc hexec k hk
        obtain hk | ⟨hattempts, hfail⟩ := givesUp_resume hexec hk
        · exact hbefore.spawn i pc hpc k hk
        · refine ⟨_, hlast, (i, answer), rfl, rfl, hfail, fun hleft => ?_, pc, hpc, hattempts⟩
          have hthere := hwait i hleft pc hpc
          rw [Pc.awaits_of_attempts hattempts] at hthere
          cases hthere
    · refine forall_threads_of_step hstep hbefore.health (fun _ _ hpc => hpc) ?_ ?_
      · intro i entry _ _ k hk
        have hbusy := Pc.isBusy_of_condemned hk
        rw [isBusy_start] at hbusy
        cases hbusy
      · rintro i answer pc ret rfl hpc hexec k hk
        obtain hk | hcondemns := condemned_resume hexec hk
        · exact hbefore.health i pc hpc k hk
        · exact ⟨_, hlast, (i, answer), rfl, rfl, pc, hpc, hcondemns⟩

theorem explained_of_enters {es : List CallerEdge} {s t : CallerState} {a : CallerAction}
    (h : Accounted m es s.machine) (hstep : callerStep m s a = some t) {pool conf : String}
    (henters : Enters pool conf ⟨s, a, t⟩) : Explained m es pool conf ⟨s, a, t⟩ := by
  obtain ⟨now, hafter, hbefore⟩ := henters
  obtain ⟨i, rfl, -, rfl⟩ | ⟨b, rfl, -, hstep, -⟩ := callerStep_eq_some_iff.mp hstep
  · exact absurd hafter hbefore
  · obtain ⟨t, gone⟩ := t
    cases step_cases hstep with
    | tick | start => exact absurd hafter hbefore
    | turn i answer pc shared ret hpc hexec =>
        have hcall := (failedAt_exec hexec hafter).resolve_left hbefore
        refine ⟨(i, answer), rfl, pc, hpc, ?_⟩
        obtain hk | hk | hreports := Pc.cause_of_markFailed hcall
        · exact .inl (h.spawn i pc hpc _ hk)
        · exact .inr (.inl (h.health i pc hpc _ hk))
        · exact .inr (.inr hreports)

/-- In a run where no caller leaves while its cell is being spawned, a configuration enters the cache
only because a spawn of it failed under a live context, because a health tick found a tunnel of it
unhealthy, or because `MarkFailed` reported one. -/
theorem cache_entries_explained (m : Setup) (actions : List CallerAction)
    (hwait : ∀ e ∈ callerRun m actions, CallersWait e) :
    ∀ (j : Nat) (e : CallerEdge), (callerRun m actions)[j]? = some e → ∀ pool conf,
      Enters pool conf e → Explained m ((callerRun m actions).take j) pool conf e := by
  intro j e he pool conf henters
  obtain ⟨s, hpath⟩ : ∃ s, Path (callerStep m) ⟨init m, []⟩ (callerRun m actions) s :=
    exists_path_edges _ actions
  obtain ⟨hfront, hstep, -⟩ := hpath.cut he
  refine explained_of_enters ?_ hstep henters
  refine hfront.history (fun es s => Accounted m es s.machine) ?_ ?_
  · exact ⟨fun i pc hpc => by simp [init] at hpc, fun i pc hpc => by simp [init] at hpc⟩
  · intro fs u a v haccounted huv hmem
    exact accounted_step haccounted (hwait _ (List.take_subset _ _ hmem)) huv

open Schedule in
/-- A container cannot be created, and the caller leaves once that is known. -/
theorem cache_entries_explained_uncreated :
    let actions := (.start (.proxy "de" none false) :: go 0 5 ++
      steps 0 [.draw 0, .fail "no such image"]).map CallerAction.act ++
      .leave 0 :: (go 0 3).map CallerAction.act
    (∀ e ∈ callerRun setup actions, CallersWait e) ∧
      ∃ e ∈ (callerRun setup actions)[10]?, Enters "de" "a.conf" e ∧
        Explained setup ((callerRun setup actions).take 10) "de" "a.conf" e := by
  intro actions
  have hwait : ∀ e ∈ callerRun setup actions, CallersWait e := by decide +kernel
  have henters : ∃ e ∈ (callerRun setup actions)[10]?, Enters "de" "a.conf" e := by decide +kernel
  obtain ⟨e, he, henters⟩ := henters
  exact ⟨hwait, e, he, henters, cache_entries_explained setup actions hwait 10 e he _ _ henters⟩

open Schedule in
/-- The caller leaves while its cell is being readied: the wait ends, and the configuration enters
the cache although nothing is known against it. -/
theorem not_cache_entries_explained :
    let actions := (.start (.proxy "de" none false) :: go 0 5 ++
      steps 0 [.draw 0, .container "x"]).map CallerAction.act ++
      .leave 0 :: (steps 0 [.fail "container x never reported running"] ++ go 0 4).map .act
    ¬∀ (j : Nat) (e : CallerEdge), (callerRun setup actions)[j]? = some e → ∀ pool conf,
      Enters pool conf e → Explained setup ((callerRun setup actions).take j) pool conf e := by
  intro actions hexplained
  have hunexplained : ∃ e ∈ (callerRun setup actions)[12]?, Enters "de" "a.conf" e ∧
      ¬Explained setup ((callerRun setup actions).take 12) "de" "a.conf" e := by
    decide +kernel
  obtain ⟨e, he, henters, hnot⟩ := hunexplained
  exact hnot (hexplained 12 e he _ _ henters)

end Pr0xteus
