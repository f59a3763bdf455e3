import FreeLunch.Health.Marks
import FreeLunch.Routing.PickCandidates
import Mathlib.Data.List.Dedup

/-!
# Who is active

The column `is_active` is shared by the operator's switch, discovery and the
runtime gating of providers.  This module lists the operations that write to the
`models` table as the statements they enqueue, and follows a model that the
operator disabled through every interleaving of these operations with the writer.

Main results:

- Theorem `inactive_apply`: only an upsert of the model or an activation of it makes
  an inactive model active.
- Theorem `disabled_until_revived`: a disabled model stays inactive, and is never a
  candidate, until a statement is enqueued that enables it or reports it as discovered.
- Theorem `guarded_of_calm`: only two operations enqueue such a statement.

Current gaps:

- What ranking computes is a parameter, and so is what providers report.
-/

namespace FreeLunch
namespace Inventory

open Runs Python Store Health Routing

/-! ## Operations -/

/-- One provider's turn in `run_discovery`: the models whose upsert was enqueued,
and whether the turn ended without an exception. -/
structure ProviderDiscovery (F : Type) where
  name : String
  models : List (DiscoveredModel F)
  completed : Bool := true

/-- What `apply_provider_runtime_state` reads besides the table: the registered
providers with their inference flag, the known provider ids and the configured
inference flags. -/
structure RuntimeState where
  registered : List (String × Bool)
  knownProviderIds : List String
  isProviderInferenceEnabled : String → Bool

/-- The operations that write to the `models` table. -/
inductive Operation (F : Type) where
  /-- `POST /admin/models/{id}/enable`. -/
  | enable (id : String)
  /-- `POST /admin/models/{id}/disable`. -/
  | disable (id : String)
  /-- `run_discovery`. -/
  | discovery (now : String) (providers : List (ProviderDiscovery F))
  /-- `recompute_ranking`, with the score it computes for a row. -/
  | ranking (scoreUpdatedAt : String) (score : List (ModelRow F) → ModelRow F → F)
  /-- `_run_probe_batch` on a candidate whose provider is not routable. -/
  | unroutableProbe (id : String)
  /-- `mark_failure`, passive or after a probe. -/
  | markFailure (settings : HealthSettings) (id : String) (call : FailureCall)
  /-- `mark_success`, passive or after a probe. -/
  | markSuccess (id : String) (call : SuccessCall F)
  /-- `apply_provider_runtime_state`, in a settings reload or a readiness
  recomputation. -/
  | runtimeState (state : RuntimeState)

section Operations

variable {F : Type} [FloatArith F]

/-- The statements of `run_discovery`; an exception ends the run. -/
def discoveryWrites (now : String) : List (ProviderDiscovery F) → List (ModelWrite F)
  | [] => []
  | provider :: rest =>
      provider.models.map (fun model => .upsert model now) ++
        if provider.completed then
          .markNotSeen provider.name (provider.models.map DiscoveredModel.id) ::
            discoveryWrites now rest
        else []

/-- The statements of `recompute_ranking`: one for each active model. -/
def rankingWrites (table : ModelsTable F) (scoreUpdatedAt : String)
    (score : List (ModelRow F) → ModelRow F → F) : List (ModelWrite F) :=
  let rows := table.rows.filter fun row => row.isActive == some 1
  rows.map fun row => .setScore row.id (score rows row) scoreUpdatedAt

/-- The provider ids `apply_provider_runtime_state` finds disabled, sorted. -/
def disabledProviderIds (table : ModelsTable F) (state : RuntimeState) : List String :=
  let active := (table.rows.filter fun row => row.isActive == some 1).map ModelRow.providerId
  let providerIds := state.registered.map Prod.fst ++
    active.filter (fun providerId => !(strip providerId.toList).isEmpty) ++
    state.knownProviderIds.filter state.isProviderInferenceEnabled
  (providerIds.dedup.insertionSort fun a b => a ≤ b).filter fun providerId =>
    !(dictGet state.registered providerId).getD false

/-- The statements an operation enqueues, computed from the table it reads. -/
def Operation.writes (table : ModelsTable F) : Operation F → List (ModelWrite F)
  | .enable id => [.setActive id true]
  | .disable id => [.setActive id false]
  | .discovery now providers => discoveryWrites now providers
  | .ranking scoreUpdatedAt score => rankingWrites table scoreUpdatedAt score
  | .unroutableProbe id => [.setActive id false]
  | .markFailure settings id call =>
      match Health.markFailure settings table id call with
      | .ok w => w.toList
      | .error _ => []
  | .markSuccess id call => [Health.markSuccess id call]
  | .runtimeState state => (disabledProviderIds table state).map .deactivateProvider

/-! ## The system -/

/-- The table, the writer's queue and, for each operation in progress, the
statements it has still to enqueue. -/
structure System (F : Type) where
  table : ModelsTable F
  queue : List (ModelWrite F)
  inProgress : List (List (ModelWrite F))

/-- One step: an operation starts, an operation in progress enqueues its next
statement, or the writer applies the next one. -/
inductive Event (F : Type) where
  | start (op : Operation F)
  | emit (task : Nat)
  | drain

/-- The step relation. -/
def step (s : System F) : Event F → Option (System F)
  | .start op => some { s with inProgress := s.inProgress ++ [op.writes s.table] }
  | .emit task =>
      match s.inProgress[task]? with
      | some (w :: rest) =>
          some { s with queue := s.queue ++ [w], inProgress := s.inProgress.set task rest }
      | _ => none
  | .drain =>
      match s.queue with
      | [] => none
      | w :: rest => some { s with table := s.table.exec w, queue := rest }

/-- The statements that can make model `id` active: enabling it, and an upsert that
reports it. -/
def revives (id : String) : ModelWrite F → Bool
  | .upsert model _ => model.id == id
  | .setActive other isActive => other == id && isActive
  | _ => false

/-- The operations that can enqueue such a statement. -/
def Operation.revives (id : String) : Operation F → Bool
  | .enable other => other == id
  | .discovery _ providers =>
      providers.any fun provider => provider.models.any fun model => model.id == id
  | _ => false

/-- Every row of model `id` is inactive. -/
def Inactive (id : String) (rows : List (ModelRow F)) : Prop :=
  ∀ row ∈ rows, row.id = id → row.isActive = some 0

/-- The table once the queue is drained. -/
def System.drained (s : System F) : ModelsTable F :=
  s.table.execAll s.queue

/-- `flush` has returned: the queue was empty. -/
def System.Flushed (s : System F) : Prop :=
  s.queue = []

/-! ## One statement -/

/-- Only a reviving statement makes an inactive model active. -/
theorem inactive_apply {id : String} {w : ModelWrite F} (hw : Inventory.revives id w = false)
    {rows : List (ModelRow F)} (hrows : Inactive id rows) : Inactive id (w.apply rows) := by
  rcases apply_cases w rows with happly | ⟨model, now, rfl, -, happly⟩
  · rw [happly]
    refine Tables.forall_mem_updateWhere hrows ?_
    intro row hrow hselects hid
    rw [id_set] at hid
    cases w with
    | upsert model now =>
        have hmodel : row.id = model.id := of_decide_eq_true hselects
        have hne : model.id ≠ id := by simpa [Inventory.revives] using hw
        exact absurd (hmodel.symm.trans hid) hne
    | setActive other isActive =>
        have hother : row.id = other := of_decide_eq_true hselects
        have hisActive : isActive = false := by
          simpa [Inventory.revives, ← hother, hid] using hw
        rw [hisActive]
        rfl
    | markNotSeen providerId seenIds => rfl
    | deactivateProvider providerId => rfl
    | setScore other compositeScore scoreUpdatedAt => exact hrow hid
    | failure other now error nextBackoff cooldownUntil threshold => exact hrow hid
    | success other now latencyMs ttfbMs probedAt => exact hrow hid
  · rw [happly]
    intro row hmem hid
    rcases List.mem_append.mp hmem with hold | hnew
    · exact hrows row hold hid
    · rw [List.mem_singleton] at hnew
      have hne : model.id ≠ id := by simpa [Inventory.revives] using hw
      refine absurd ?_ hne
      rw [← hid, hnew]
      rfl

/-- Disabling a model leaves all its rows inactive. -/
theorem inactive_apply_disable (id : String) (rows : List (ModelRow F)) :
    Inactive id ((ModelWrite.setActive id false).apply rows) := by
  intro row hmem hid
  obtain ⟨old, -, hset⟩ := Tables.mem_updateWhere.mp hmem
  by_cases hselects : (ModelWrite.setActive (F := F) id false).selects old = true
  · rw [if_pos hselects] at hset
    rw [← hset]
    rfl
  · rw [if_neg hselects] at hset
    rw [← hset] at hid
    exact absurd (decide_eq_true hid) hselects

/-! ## One operation -/

/-- What an operation can enqueue, whatever table it reads. -/
inductive Operation.Enqueues : Operation F → ModelWrite F → Prop where
  | enable (id : String) : Enqueues (.enable id) (.setActive id true)
  | disable (id : String) : Enqueues (.disable id) (.setActive id false)
  | upsert {now : String} {providers : List (ProviderDiscovery F)}
      {provider : ProviderDiscovery F} {model : DiscoveredModel F}
      (hprovider : provider ∈ providers) (hmodel : model ∈ provider.models) :
      Enqueues (.discovery now providers) (.upsert model now)
  | markNotSeen {now : String} {providers : List (ProviderDiscovery F)}
      (providerId : String) (seenIds : List String) :
      Enqueues (.discovery now providers) (.markNotSeen providerId seenIds)
  | setScore {scoreUpdatedAt : String} {score : List (ModelRow F) → ModelRow F → F}
      (id : String) (compositeScore : F) :
      Enqueues (.ranking scoreUpdatedAt score) (.setScore id compositeScore scoreUpdatedAt)
  | unroutableProbe (id : String) : Enqueues (.unroutableProbe id) (.setActive id false)
  | failure {settings : HealthSettings} {id : String} {call : FailureCall} (error : String)
      (nextBackoff : Int) (cooldownUntil : String) :
      Enqueues (.markFailure settings id call)
        (.failure id call.now error nextBackoff cooldownUntil
          settings.healthConsecutiveFailuresThreshold)
  | success (id : String) (call : SuccessCall F) :
      Enqueues (.markSuccess id call) (Health.markSuccess id call)
  | deactivateProvider {state : RuntimeState} (providerId : String) :
      Enqueues (.runtimeState state) (.deactivateProvider providerId)

omit [FloatArith F] in
theorem enqueues_of_mem_discoveryWrites {now : String} {all providers : List (ProviderDiscovery F)}
    (hall : providers ⊆ all) :
    ∀ w ∈ discoveryWrites now providers, (Operation.discovery now all).Enqueues w := by
  induction providers with
  | nil => simp [discoveryWrites]
  | cons provider rest ih =>
      intro w hw
      unfold discoveryWrites at hw
      rcases List.mem_append.mp hw with hupsert | hrest
      · obtain ⟨model, hmodel, rfl⟩ := List.mem_map.mp hupsert
        exact .upsert (hall List.mem_cons_self) hmodel
      · split at hrest
        · rcases List.mem_cons.mp hrest with rfl | hrest
          · exact .markNotSeen _ _
          · exact ih (fun p hp => hall (List.mem_cons_of_mem _ hp)) w hrest
        · cases hrest

omit [FloatArith F] in
/-- An operation enqueues nothing else. -/
theorem enqueues_of_mem_writes {op : Operation F} {table : ModelsTable F} {w : ModelWrite F}
    (hw : w ∈ op.writes table) : op.Enqueues w := by
  cases op with
  | enable id =>
      rw [List.mem_singleton.mp hw]
      exact .enable id
  | disable id =>
      rw [List.mem_singleton.mp hw]
      exact .disable id
  | discovery now providers =>
      exact enqueues_of_mem_discoveryWrites (List.Subset.refl _) w hw
  | ranking scoreUpdatedAt score =>
      obtain ⟨row, -, rfl⟩ := List.mem_map.mp hw
      exact .setScore _ _
  | unroutableProbe id =>
      rw [List.mem_singleton.mp hw]
      exact .unroutableProbe id
  | markFailure settings id call =>
      cases hmark : Health.markFailure settings table id call with
      | error err => simp [Operation.writes, hmark] at hw
      | ok enqueued =>
          simp only [Operation.writes, hmark, Option.mem_toList] at hw
          cases hw
          obtain ⟨error, next, iso, rfl⟩ := markFailure_eq_ok_some hmark
          exact .failure error next iso
  | markSuccess id call =>
      rw [List.mem_singleton.mp hw]
      exact .success id call
  | runtimeState state =>
      obtain ⟨providerId, -, rfl⟩ := List.mem_map.mp hw
      exact .deactivateProvider providerId

omit [FloatArith F] in
/-- An operation that cannot revive a model enqueues no reviving statement. -/
theorem revives_writes {id : String} {op : Operation F} (hop : op.revives id = false)
    (table : ModelsTable F) : ∀ w ∈ op.writes table, Inventory.revives id w = false := by
  intro w hw
  cases enqueues_of_mem_writes hw with
  | enable other => simpa [Operation.revives, Inventory.revives] using hop
  | disable other => simp [Inventory.revives]
  | @upsert now providers provider model hprovider hmodel =>
      have hne : ∀ provider ∈ providers, ∀ model ∈ provider.models, model.id ≠ id := by
        simpa [Operation.revives] using hop
      simpa [Inventory.revives] using hne provider hprovider model hmodel
  | markNotSeen providerId seenIds => rfl
  | setScore other compositeScore => rfl
  | unroutableProbe other => simp [Inventory.revives]
  | failure error nextBackoff cooldownUntil => rfl
  | success other call => rfl
  | deactivateProvider providerId => rfl

/-! ## Pending statements -/

/-- Every statement on the queue or still to be enqueued satisfies `P`. -/
structure System.Pending (P : ModelWrite F → Prop) (s : System F) : Prop where
  queued : ∀ w ∈ s.queue, P w
  inProgress : ∀ writes ∈ s.inProgress, ∀ w ∈ writes, P w

/-- Pending statements keep satisfying what the statements of every operation that
starts satisfy. -/
theorem pending_step {P : ModelWrite F → Prop} {s s' : System F} {e : Event F}
    (hstep : step s e = some s')
    (hstart : ∀ op, e = .start op → ∀ w ∈ op.writes s.table, P w) (h : s.Pending P) :
    s'.Pending P := by
  obtain ⟨hqueued, hinProgress⟩ := h
  cases e with
  | start op =>
      cases hstep
      refine ⟨hqueued, fun writes hwrites => ?_⟩
      rcases List.mem_append.mp hwrites with hold | hnew
      · exact hinProgress writes hold
      · rw [List.mem_singleton.mp hnew]
        exact hstart op rfl
  | emit task =>
      simp only [step] at hstep
      split at hstep
      · rename_i w rest htask
        cases hstep
        have htaskWrites := hinProgress _ (List.mem_of_getElem? htask)
        rw [List.forall_mem_cons] at htaskWrites
        refine ⟨fun w' hw' => ?_, fun writes hwrites => ?_⟩
        · rcases List.mem_append.mp hw' with hold | hnew
          · exact hqueued w' hold
          · rw [List.mem_singleton.mp hnew]
            exact htaskWrites.1
        · rcases List.mem_or_eq_of_mem_set hwrites with hold | rfl
          · exact hinProgress writes hold
          · exact htaskWrites.2
      · cases hstep
  | drain =>
      simp only [step] at hstep
      split at hstep
      · cases hstep
      · rename_i w rest hqueue
        cases hstep
        rw [hqueue, List.forall_mem_cons] at hqueued
        exact ⟨hqueued.2, hinProgress⟩

/-! ## Every run -/

/-- The statement that an event enqueues. -/
def Event.enqueued (s : System F) : Event F → Option (ModelWrite F)
  | .emit task => s.inProgress[task]?.bind List.head?
  | _ => none

/-- The event enqueues no statement that revives the model. -/
def Event.Harmless (id : String) (s : System F) (e : Event F) : Prop :=
  ∀ w ∈ e.enqueued s, Inventory.revives id w = false

instance (id : String) (s : System F) (e : Event F) : Decidable (e.Harmless id s) :=
  inferInstanceAs (Decidable (∀ w ∈ e.enqueued s, _))

/-- What a step does to the table and the queue: it leaves them alone, it adds the statement
that it enqueues, or it applies the next one. -/
theorem step_cases {s s' : System F} {e : Event F} (hstep : step s e = some s') :
    (s'.table = s.table ∧ s'.queue = s.queue) ∨
      (∃ w, e.enqueued s = some w ∧ s'.table = s.table ∧ s'.queue = s.queue ++ [w]) ∨
      ∃ w rest, s.queue = w :: rest ∧ s'.table = s.table.exec w ∧ s'.queue = rest := by
  cases e with
  | start op =>
      cases hstep
      exact .inl ⟨rfl, rfl⟩
  | emit task =>
      simp only [step] at hstep
      split at hstep
      · rename_i w rest htask
        cases hstep
        refine .inr (.inl ⟨w, ?_, rfl, rfl⟩)
        rw [Event.enqueued, htask]
        rfl
      · cases hstep
  | drain =>
      simp only [step] at hstep
      split at hstep
      · cases hstep
      · rename_i w rest hqueue
        cases hstep
        exact .inr (.inr ⟨w, rest, hqueue, rfl, rfl⟩)

/-- Before the flush: the model is inactive once the queue is drained. -/
def WillBeInactive (id : String) (s : System F) : Prop :=
  Inactive id s.drained.rows

/-- After the flush: the model is inactive and nothing queued can revive it. -/
def IsInactive (id : String) (s : System F) : Prop :=
  Inactive id s.table.rows ∧ ∀ w ∈ s.queue, Inventory.revives id w = false

theorem willBeInactive_step {id : String} {s s' : System F} {e : Event F}
    (hstep : step s e = some s') (he : e.Harmless id s) (h : WillBeInactive id s) :
    WillBeInactive id s' := by
  have hinactive : Inactive id (s.table.execAll s.queue).rows := h
  unfold WillBeInactive System.drained
  rcases step_cases hstep with ⟨htable, hqueue⟩ | ⟨w, hw, htable, hqueue⟩ |
    ⟨w, rest, hold, htable, hqueue⟩
  · rw [htable, hqueue]
    exact hinactive
  · rw [htable, hqueue, execAll_append]
    exact inactive_apply (he w hw) hinactive
  · rw [hold] at hinactive
    rw [htable, hqueue]
    exact hinactive

theorem isInactive_step {id : String} {s s' : System F} {e : Event F}
    (hstep : step s e = some s') (he : e.Harmless id s) (h : IsInactive id s) :
    IsInactive id s' := by
  obtain ⟨hinactive, hqueued⟩ := h
  rcases step_cases hstep with ⟨htable, hqueue⟩ | ⟨w, hw, htable, hqueue⟩ |
    ⟨w, rest, hold, htable, hqueue⟩
  · unfold IsInactive
    rw [htable, hqueue]
    exact ⟨hinactive, hqueued⟩
  · unfold IsInactive
    rw [htable, hqueue]
    refine ⟨hinactive, fun w' hw' => ?_⟩
    rcases List.mem_append.mp hw' with hmem | hmem
    · exact hqueued w' hmem
    · rw [List.mem_singleton.mp hmem]
      exact he w hw
  · unfold IsInactive
    rw [htable, hqueue]
    rw [hold] at hqueued
    refine ⟨inactive_apply (hqueued w List.mem_cons_self) hinactive, fun w' hw' => ?_⟩
    exact hqueued w' (List.mem_cons_of_mem _ hw')

/-- A drained system in which the model will be inactive has it inactive. -/
theorem WillBeInactive.isInactive {id : String} {s : System F} (h : WillBeInactive id s)
    (hflushed : s.Flushed) : IsInactive id s := by
  unfold System.Flushed at hflushed
  unfold WillBeInactive System.drained at h
  rw [hflushed] at h
  refine ⟨h, ?_⟩
  intro w hw
  rw [hflushed] at hw
  cases hw

/-! ## Operations that cannot revive the model -/

/-- No operation in progress has a reviving statement left. -/
def System.Calm (id : String) (s : System F) : Prop :=
  ∀ writes ∈ s.inProgress, ∀ w ∈ writes, Inventory.revives id w = false

omit [FloatArith F] in
theorem System.Calm.harmless {id : String} {s : System F} (hcalm : s.Calm id) (e : Event F) :
    e.Harmless id s := by
  intro w hw
  cases e with
  | start op => cases hw
  | emit task =>
      obtain ⟨writes, hwrites, hhead⟩ := Option.bind_eq_some_iff.mp hw
      exact hcalm writes (List.mem_of_getElem? hwrites) w (List.mem_of_mem_head? hhead)
  | drain => cases hw

/-- No step makes a calm system able to revive the model, unless it starts an operation
that can. -/
theorem calm_step {id : String} {s s' : System F} {e : Event F} (hstep : step s e = some s')
    (he : ∀ op, e = .start op → op.revives id = false) (hcalm : s.Calm id) : s'.Calm id := by
  intro writes hwrites w hw
  cases e with
  | start op =>
      cases hstep
      rcases List.mem_append.mp hwrites with hold | hnew
      · exact hcalm writes hold w hw
      · rw [List.mem_singleton.mp hnew] at hw
        exact revives_writes (he op rfl) s.table w hw
  | emit task =>
      simp only [step] at hstep
      split at hstep
      · rename_i w' rest htask
        cases hstep
        rcases List.mem_or_eq_of_mem_set hwrites with hold | rfl
        · exact hcalm writes hold w hw
        · exact hcalm _ (List.mem_of_getElem? htask) w (List.mem_cons_of_mem _ hw)
      · cases hstep
  | drain =>
      simp only [step] at hstep
      split at hstep
      · cases hstep
      · cases hstep
        exact hcalm writes hwrites w hw

/-- In a calm system only an operation that enables the model or reports it can enqueue a
statement that revives it. -/
theorem guarded_of_calm {id : String} {s : System F} {es : List (Event F)}
    (hcalm : s.Calm id) (hes : ∀ op, .start op ∈ es → op.revives id = false) :
    Guarded step (fun s e => e.Harmless id s) s es := by
  induction es generalizing s with
  | nil => trivial
  | cons e es ih =>
      refine ⟨hcalm.harmless e, fun s' hstep => ih ?_ ?_⟩
      · exact calm_step hstep (fun op hop => hes op (hop ▸ List.mem_cons_self)) hcalm
      · exact fun op hop => hes op (List.mem_cons_of_mem _ hop)

/-- An inactive model is never a candidate. -/
theorem not_mem_pickCandidates [Runtime F] {id : String} {table : ModelsTable F}
    (hinactive : Inactive id table.rows) (estimate : EstimateRequiredTokens F) (now : String)
    (req : RoutingRequirements F) (preferences : Option RoutingPreferences)
    (fallbackModelId : Option String) {limit : Int} {result : List Routed}
    (h : pickCandidates estimate table now req preferences fallbackModelId limit =
      .ok result) : id ∉ result.map Routed.id := by
  intro hmem
  obtain ⟨routed, hrouted, hid⟩ := List.mem_map.mp hmem
  obtain ⟨row, hrow, heq, hsat⟩ := satisfies_of_mem_pickCandidates h hrouted
  have hrowId : row.id = id := by
    rw [← hid, ← heq]
    rfl
  have hzero := hinactive row hrow hrowId
  rw [hsat.active] at hzero
  cases hzero

/-- From the return of `admin_disable_model` on, the model is inactive and never a
candidate in every state, as long as no operation, in progress or started later, enqueues
a statement that enables it or reports it as discovered. -/
theorem disabled_until_revived [Runtime F] {id : String} {s t s' : System F}
    {es₁ es₂ : List (Event F)}
    (hdisable : run step s
      (.start (.disable id) :: .emit s.inProgress.length :: es₁) = some t)
    (hharmless₁ : Guarded step (fun s e => e.Harmless id s) s
      (.start (.disable id) :: .emit s.inProgress.length :: es₁))
    (hflushed : t.Flushed) (hrun : run step t es₂ = some s')
    (hharmless₂ : Guarded step (fun s e => e.Harmless id s) t es₂) :
    Inactive id s'.table.rows ∧
      ∀ estimate now req preferences fallbackModelId limit result,
        pickCandidates estimate s'.table now req preferences fallbackModelId limit =
          .ok result → id ∉ result.map Routed.id := by
  obtain ⟨s₁, hstart, hdisable⟩ := run_cons_eq_some.mp hdisable
  obtain ⟨s₂, hemit, hdisable⟩ := run_cons_eq_some.mp hdisable
  have hharmless₁ := (hharmless₁.2 s₁ hstart).2 s₂ hemit
  have hwill : WillBeInactive id s₂ := by
    cases hstart
    simp only [step, Operation.writes, List.getElem?_concat_length] at hemit
    cases hemit
    unfold WillBeInactive System.drained
    rw [execAll_append]
    exact inactive_apply_disable id _
  have hwill' : WillBeInactive id t :=
    run_guarded_invariant (WillBeInactive id)
      (fun _ _ _ hs he h => willBeInactive_step hs he h) hdisable hharmless₁ hwill
  have his : IsInactive id s' :=
    run_guarded_invariant (IsInactive id)
      (fun _ _ _ hs he h => isInactive_step hs he h) hrun hharmless₂
      (hwill'.isInactive hflushed)
  refine ⟨his.1, ?_⟩
  intro estimate now req preferences fallbackModelId limit result hpick
  exact not_mem_pickCandidates his.1 estimate now req preferences fallbackModelId hpick

end Operations

/-! ## A discovery run after the switch -/

/-- An idle system on the table of two routable models. -/
def sampleSystem : System Rat where
  table := sampleTable
  queue := []
  inProgress := []

/-- What a provider reports about the model `a`. -/
def reportedModel : DiscoveredModel Rat where
  id := "a"
  name := "a"
  providerId := "p"
  providerModelId := "a"
  providerBaseUrl := ""
  providerApiKeyEnv := ""

/-- A discovery run that reports the model after another provider's turn. -/
def sampleDiscovery : Operation Rat :=
  .discovery "t1" [{ name := "q", models := [] }, { name := "p", models := [reportedModel] }]

/-- The system when `admin_disable_model` has returned beside the discovery run. -/
def disabledSystem : System Rat where
  table := (sampleTable.exec (.setActive "a" false)).exec (.markNotSeen "q" [])
  queue := []
  inProgress := [[], [.upsert reportedModel "t1", .markNotSeen "p" ["a"]]]

/-- The system when the model has also had a late success. -/
def succeededSystem : System Rat where
  table := disabledSystem.table.exec (Health.markSuccess "a" { now := "t1" })
  queue := []
  inProgress := disabledSystem.inProgress ++ [[]]

/-- The switch holds over a late success of the model, and over a discovery run that has
started and has not come to the model. -/
theorem disabled_until_revived_sample :
    run step sampleSystem
        [.start (.disable "a"), .emit 0, .start sampleDiscovery, .emit 1, .drain, .drain] =
          some disabledSystem ∧
      run step disabledSystem [.start (.markSuccess "a" { now := "t1" }), .emit 2, .drain] =
        some succeededSystem ∧
      Inactive "a" succeededSystem.table.rows := by
  have hflushed : disabledSystem.Flushed := rfl
  have hdisable : Guarded step (fun s e => e.Harmless "a" s) sampleSystem
      [.start (.disable "a"), .emit 0, .start sampleDiscovery, .emit 1, .drain, .drain] := by
    decide
  have hsuccess : Guarded step (fun s e => e.Harmless "a" s) disabledSystem
      [.start (.markSuccess "a" { now := "t1" }), .emit 2, .drain] := by
    decide
  exact ⟨rfl, rfl, (disabled_until_revived rfl hdisable hflushed rfl hsuccess).1⟩

/-- A discovery run that still reports a disabled model makes it active and
routable again. -/
theorem rediscovery_reactivates :
    ∃ t s', run step sampleSystem [.start (.disable "a"), .emit 0, .drain] = some t ∧
      t.Flushed ∧ Inactive "a" t.table.rows ∧
      run step t [.start (.discovery "t1" [{ name := "p", models := [reportedModel] }]),
        .emit 1, .emit 1, .drain, .drain] = some s' ∧
      (s'.table.row? "a").map ModelRow.isActive = some (some 1) ∧
      pickCandidates (fun _ _ _ _ _ _ => .ok 0) s'.table "2024-01-02T00:00:00Z" plainRequest
        none none 1 = .ok [routedRow (sampleRow "a" 2)] := by
  refine ⟨_, _, rfl, rfl, ?_, rfl, by decide +kernel, by decide +kernel⟩
  exact inactive_apply_disable "a" sampleTable.rows

end Inventory
end FreeLunch
