import FreeLunch.Foundations.Writes
import Mathlib.Data.List.Basic
import Mathlib.Data.List.Forall2
import Mathlib.Logic.Relation

/-!
# Migrations that are run again

A database is changed over a connection that commits each statement by itself unless a
transaction is open.  Migrations are applied in their order and recorded; the ones that are
recorded already are skipped.  A script commits what is open and then each of its statements; any
other migration stays inside the open transaction.  A run that is cut off leaves one of the
databases that were committed so far, and another run starts from there.

Main results:

- Theorem `migrateAll_spec`: what a run over a connection ends with, and what it commits.
- Theorem `simulates_apply`: runs on related databases end in related databases.
- Theorems `rerunnable_of_settles`, `rerunnable_of_reset`: two kinds of scripts that can be run
  again.
- Theorem `apply_of_commits`: a run from a committed database ends like the one that was cut off,
  when every script can be run again from each of its own statements.
-/

namespace FreeLunch
namespace Reruns

open Writes

/-! ## Connections -/

/-- A connection: the committed database, those that were committed before it, and the database
inside the open transaction. -/
structure Connection (σ : Type) where
  committed : σ
  earlier : List σ
  pending : Option σ

section Connections

variable {σ ε : Type}

/-- A new connection. -/
def connect (db : σ) : Connection σ where
  committed := db
  earlier := []
  pending := none

/-- Every database that was committed, the last one first. -/
def Connection.history (conn : Connection σ) : List σ :=
  conn.committed :: conn.earlier

/-- What the connection reads. -/
def Connection.view (conn : Connection σ) : σ :=
  conn.pending.getD conn.committed

/-- `BEGIN`, or nothing where a transaction is open. -/
def Connection.begin (conn : Connection σ) : Connection σ :=
  { conn with pending := some conn.view }

/-- `COMMIT`, or nothing where no transaction is open. -/
def Connection.commit (conn : Connection σ) : Connection σ :=
  match conn.pending with
  | none => conn
  | some db => { committed := db, earlier := conn.history, pending := none }

/-- One statement: inside the open transaction, or committed by itself. -/
def Connection.run (statement : σ → Except ε σ) (conn : Connection σ) :
    Except ε (Connection σ) :=
  match conn.pending with
  | some db => (statement db).map fun db => { conn with pending := some db }
  | none => (statement conn.committed).map fun db =>
      { committed := db, earlier := conn.history, pending := none }

/-- A script: it commits what is open, and then each statement by itself. -/
def Connection.script (statements : List (σ → Except ε σ)) (conn : Connection σ) :
    Except ε (Connection σ) :=
  statements.foldlM (fun conn statement => conn.run statement) conn.commit

/-- What a script does to a database. -/
def runScript (statements : List (σ → Except ε σ)) (db : σ) : Except ε σ :=
  statements.foldlM (fun db statement => statement db) db

theorem runScript_cons (statement : σ → Except ε σ) (rest : List (σ → Except ε σ)) (db : σ) :
    runScript (statement :: rest) db = (statement db).bind (runScript rest) :=
  rfl

theorem runScript_cons_ok {statement : σ → Except ε σ} {rest : List (σ → Except ε σ)} {db d : σ} :
    runScript (statement :: rest) db = .ok d ↔
      ∃ next, statement db = .ok next ∧ runScript rest next = .ok d := by
  rw [runScript_cons]
  exact bind_ok_iff

theorem runScript_append (first second : List (σ → Except ε σ)) (db : σ) :
    runScript (first ++ second) db = (runScript first db).bind (runScript second) := by
  unfold runScript
  rw [List.foldlM_append]
  rfl

/-- What every statement of a script keeps, the script keeps. -/
theorem runScript_invariant {statements : List (σ → Except ε σ)} {P : σ → Prop}
    (h : ∀ statement ∈ statements, ∀ db d, statement db = .ok d → P db → P d) {db d : σ}
    (hrun : runScript statements db = .ok d) (hdb : P db) : P d := by
  induction statements generalizing db with
  | nil =>
      cases hrun
      exact hdb
  | cons statement rest ih =>
      rw [List.forall_mem_cons] at h
      obtain ⟨next, hnext, hrest⟩ := runScript_cons_ok.mp hrun
      exact ih h.2 hrest (h.1 db next hnext hdb)

@[simp]
theorem view_begin (conn : Connection σ) : conn.begin.view = conn.view :=
  rfl

theorem begin_of_pending {conn : Connection σ} {db : σ} (h : conn.pending = some db) :
    conn.begin = conn := by
  cases conn with
  | mk committed earlier pending =>
      cases h
      rfl

/-- Committing keeps what the connection reads. -/
theorem committed_commit (conn : Connection σ) : conn.commit.committed = conn.view := by
  unfold Connection.commit Connection.view
  cases conn.pending <;> rfl

theorem pending_commit (conn : Connection σ) : conn.commit.pending = none := by
  unfold Connection.commit
  cases h : conn.pending with
  | none => exact h
  | some db => rfl

theorem mem_history_commit {conn : Connection σ} {db : σ} (h : db ∈ conn.commit.history) :
    db = conn.view ∨ db ∈ conn.history := by
  unfold Connection.commit at h
  unfold Connection.view
  cases hpending : conn.pending with
  | none =>
      rw [hpending] at h
      exact .inr h
  | some other =>
      rw [hpending] at h
      exact List.mem_cons.mp h

/-- A statement inside a transaction. -/
theorem run_of_pending {conn : Connection σ} {statement : σ → Except ε σ} {db d : σ}
    (hpending : conn.pending = some db) (h : statement db = .ok d) :
    conn.run statement = .ok { conn with pending := some d } := by
  unfold Connection.run
  rw [hpending]
  dsimp only
  rw [h]
  rfl

/-- What statements that are committed one by one end with, and what they commit.  By induction
on the statements. -/
theorem foldlM_run_spec {statements : List (σ → Except ε σ)} {conn : Connection σ} {d : σ}
    (hclosed : conn.pending = none) (h : runScript statements conn.committed = .ok d) :
    ∃ conn', statements.foldlM (fun conn statement => conn.run statement) conn = .ok conn' ∧
      conn'.committed = d ∧ conn'.pending = none ∧
      ∀ db ∈ conn'.history, db ∈ conn.history ∨
        ∃ count, runScript (statements.take count) conn.committed = .ok db := by
  induction statements generalizing conn with
  | nil =>
      cases h
      exact ⟨conn, rfl, rfl, hclosed, fun _ hmem => .inl hmem⟩
  | cons statement rest ih =>
      obtain ⟨next, hnext, hrest⟩ := runScript_cons_ok.mp h
      have hrun : conn.run statement =
          .ok { committed := next, earlier := conn.history, pending := none } := by
        unfold Connection.run
        rw [hclosed]
        dsimp only
        rw [hnext]
        rfl
      obtain ⟨conn', hconn', hcommitted, hpending, hhistory⟩ :=
        @ih { committed := next, earlier := conn.history, pending := none } rfl hrest
      refine ⟨conn', ?_, hcommitted, hpending, fun db hmem => ?_⟩
      · rw [List.foldlM_cons, hrun]
        exact hconn'
      · rcases hhistory db hmem with hold | ⟨count, hcount⟩
        · rcases List.mem_cons.mp hold with hsame | hold
          · rw [hsame]
            exact .inr ⟨1, runScript_cons_ok.mpr ⟨next, hnext, rfl⟩⟩
          · exact .inl hold
        · exact .inr ⟨count + 1, runScript_cons_ok.mpr ⟨next, hnext, hcount⟩⟩

/-- What a script over a connection ends with, and what it commits. -/
theorem script_spec {statements : List (σ → Except ε σ)} {conn : Connection σ} {d : σ}
    (h : runScript statements conn.view = .ok d) :
    ∃ conn', conn.script statements = .ok conn' ∧ conn'.committed = d ∧ conn'.pending = none ∧
      ∀ db ∈ conn'.history, db ∈ conn.history ∨
        ∃ count, runScript (statements.take count) conn.view = .ok db := by
  rw [← committed_commit] at h ⊢
  obtain ⟨conn', hconn', hcommitted, hpending, hhistory⟩ :=
    foldlM_run_spec (pending_commit conn) h
  refine ⟨conn', hconn', hcommitted, hpending, fun db hmem => ?_⟩
  rcases hhistory db hmem with hold | hnew
  · rcases mem_history_commit hold with rfl | hold
    · exact .inr ⟨0, by rw [committed_commit]; rfl⟩
    · exact .inl hold
  · exact .inr hnew

end Connections

/-! ## Migrations -/

/-- A migration: a script, or a change inside the open transaction. -/
inductive Migration (σ ε : Type) where
  | script (statements : List (σ → Except ε σ))
  | inside (change : σ → Except ε σ)

/-- What a migration does to a database. -/
def Migration.effect {σ ε : Type} : Migration σ ε → σ → Except ε σ
  | .script statements => runScript statements
  | .inside change => change

/-- The statements of a migration keep a property. -/
def Migration.Keeps {σ ε : Type} (P : σ → Prop) : Migration σ ε → Prop
  | .script statements => ∀ statement ∈ statements, ∀ db d, statement db = .ok d → P db → P d
  | .inside change => ∀ db d, change db = .ok d → P db → P d

theorem Migration.Keeps.effect {σ ε : Type} {P : σ → Prop} {migration : Migration σ ε}
    (h : migration.Keeps P) {db d : σ} (hrun : migration.effect db = .ok d) (hdb : P db) :
    P d := by
  cases migration with
  | script statements => exact runScript_invariant h hrun hdb
  | inside change => exact h db d hrun hdb

/-- A function on connections does what a migration says. -/
def Implements {σ ε : Type} (code : Connection σ → Except ε (Connection σ)) :
    Migration σ ε → Prop
  | .script statements => ∀ conn, code conn = conn.script statements
  | .inside change => ∀ conn db d, conn.pending = some db → change db = .ok d →
      code conn = .ok { conn with pending := some d }

section Runs

variable {σ ε V : Type}

/-- Apply and record the migrations that are not skipped, over a connection. -/
def migrateAll (skip : V → Bool) (record : V → σ → Except ε σ)
    (migrations : List (V × (Connection σ → Except ε (Connection σ)))) (conn : Connection σ) :
    Except ε (Connection σ) :=
  migrations.foldlM (fun conn migration =>
    if skip migration.1 then .ok conn
    else do
      let conn ← migration.2 conn
      conn.begin.run (record migration.1)) conn

/-- Apply and record the migrations that are not skipped, to a database. -/
def apply (skip : V → Bool) (record : V → σ → Except ε σ) :
    List (V × Migration σ ε) → σ → Except ε σ
  | [], db => .ok db
  | (version, migration) :: rest, db =>
      if skip version then apply skip record rest db
      else do
        let db ← migration.effect db
        let db ← record version db
        apply skip record rest db

theorem apply_of_skip {skip : V → Bool} {version : V} (h : skip version = true)
    (record : V → σ → Except ε σ) (migration : Migration σ ε) (rest : List (V × Migration σ ε))
    (db : σ) : apply skip record ((version, migration) :: rest) db = apply skip record rest db := by
  rw [apply, if_pos h]

theorem apply_cons_ok {skip : V → Bool} {version : V} (h : skip version = false)
    {record : V → σ → Except ε σ} {migration : Migration σ ε} {rest : List (V × Migration σ ε)}
    {db d : σ} :
    apply skip record ((version, migration) :: rest) db = .ok d ↔
      ∃ changed recorded, migration.effect db = .ok changed ∧
        record version changed = .ok recorded ∧ apply skip record rest recorded = .ok d := by
  rw [apply, if_neg (by simp [h])]
  constructor
  · intro hok
    obtain ⟨changed, hchanged, hok⟩ := bind_ok_iff.mp hok
    obtain ⟨recorded, hrecorded, hrest⟩ := bind_ok_iff.mp hok
    exact ⟨changed, recorded, hchanged, hrecorded, hrest⟩
  · rintro ⟨changed, recorded, hchanged, hrecorded, hrest⟩
    exact bind_ok_iff.mpr ⟨changed, hchanged, bind_ok_iff.mpr ⟨recorded, hrecorded, hrest⟩⟩

/-- The databases that are committed while migrations are applied: by the statements of a script,
which commit the migrations before it as well. -/
inductive Commits (skip : V → Bool) (record : V → σ → Except ε σ) :
    List (V × Migration σ ε) → σ → σ → Prop where
  | statement {version : V} {statements : List (σ → Except ε σ)} {rest : List (V × Migration σ ε)}
      {db committed : σ} {count : ℕ} (hskip : skip version = false)
      (hrun : runScript (statements.take count) db = .ok committed) :
      Commits skip record ((version, .script statements) :: rest) db committed
  | skipped {version : V} {migration : Migration σ ε} {rest : List (V × Migration σ ε)}
      {db committed : σ} (hskip : skip version = true)
      (hrest : Commits skip record rest db committed) :
      Commits skip record ((version, migration) :: rest) db committed
  | applied {version : V} {migration : Migration σ ε} {rest : List (V × Migration σ ε)}
      {db changed recorded committed : σ} (hskip : skip version = false)
      (hchanged : migration.effect db = .ok changed)
      (hrecorded : record version changed = .ok recorded)
      (hrest : Commits skip record rest recorded committed) :
      Commits skip record ((version, migration) :: rest) db committed

/-- What migrations and their recording keep holds of every database that is committed. -/
theorem Commits.invariant {skip : V → Bool} {record : V → σ → Except ε σ} {P : σ → Prop}
    {migrations : List (V × Migration σ ε)} (hkeeps : ∀ m ∈ migrations, m.2.Keeps P)
    (hrecord : ∀ version db d, record version db = .ok d → P db → P d) {db committed : σ}
    (h : Commits skip record migrations db committed) (hdb : P db) : P committed := by
  induction h with
  | @statement version statements rest db committed count hskip hrun =>
      refine runScript_invariant ?_ hrun hdb
      intro statement hmem
      exact hkeeps _ List.mem_cons_self statement (List.mem_of_mem_take hmem)
  | skipped hskip hrest ih =>
      rw [List.forall_mem_cons] at hkeeps
      exact ih hkeeps.2 hdb
  | applied hskip hchanged hrecorded hrest ih =>
      rw [List.forall_mem_cons] at hkeeps
      exact ih hkeeps.2 (hrecord _ _ _ hrecorded (hkeeps.1.effect hchanged hdb))

/-- Where everything is skipped nothing is committed. -/
theorem Commits.exists_not_skip {skip : V → Bool} {record : V → σ → Except ε σ}
    {migrations : List (V × Migration σ ε)} {db committed : σ}
    (h : Commits skip record migrations db committed) : ∃ m ∈ migrations, skip m.1 = false := by
  induction h with
  | statement hskip hrun => exact ⟨_, List.mem_cons_self, hskip⟩
  | skipped hskip hrest ih =>
      obtain ⟨m, hmem, hm⟩ := ih
      exact ⟨m, List.mem_cons_of_mem _ hmem, hm⟩
  | applied hskip hchanged hrecorded hrest ih => exact ⟨_, List.mem_cons_self, hskip⟩

/-- What a run over a connection with an open transaction ends with, and what it commits.  By
induction on the migrations; recording one always leaves a transaction open. -/
theorem migrateAll_spec {skip : V → Bool} {record : V → σ → Except ε σ}
    {code : List (V × (Connection σ → Except ε (Connection σ)))}
    {migrations : List (V × Migration σ ε)}
    (hcode : List.Forall₂ (fun c m => c.1 = m.1 ∧ Implements c.2 m.2) code migrations)
    {conn : Connection σ} {db d : σ} (hpending : conn.pending = some db)
    (h : apply skip record migrations db = .ok d) :
    ∃ conn', migrateAll skip record code conn = .ok conn' ∧ conn'.pending = some d ∧
      ∀ committed ∈ conn'.history,
        committed ∈ conn.history ∨ Commits skip record migrations db committed := by
  induction hcode generalizing conn db with
  | nil =>
      cases h
      exact ⟨conn, rfl, hpending, fun _ hmem => .inl hmem⟩
  | @cons c m codes ms himplements _ ih =>
      obtain ⟨version, migration⟩ := m
      obtain ⟨hversion, himplements⟩ := himplements
      dsimp only at hversion himplements
      unfold migrateAll
      rw [List.foldlM_cons, hversion]
      by_cases hskip : skip version = true
      · rw [if_pos hskip]
        rw [apply_of_skip hskip] at h
        obtain ⟨conn', hconn', hpending', hhistory⟩ := ih hpending h
        refine ⟨conn', hconn', hpending', fun committed hmem => ?_⟩
        exact (hhistory committed hmem).imp_right fun hrest => .skipped hskip hrest
      · rw [if_neg hskip]
        rw [Bool.not_eq_true] at hskip
        obtain ⟨changed, recorded, hchanged, hrecorded, hrest⟩ := (apply_cons_ok hskip).mp h
        -- the migration itself: only a script commits
        have hstep : ∃ next, c.2 conn = .ok next ∧ next.view = changed ∧
            ∀ committed ∈ next.history, committed ∈ conn.history ∨
              Commits skip record ((version, migration) :: ms) db committed := by
          cases migration with
          | script statements =>
              have hview : conn.view = db := by
                unfold Connection.view
                rw [hpending]
                rfl
              change runScript statements db = .ok changed at hchanged
              rw [← hview] at hchanged
              obtain ⟨next, hnext, hcommitted, hclosed, hhistory⟩ := script_spec hchanged
              refine ⟨next, (himplements conn).trans hnext, ?_, fun committed hmem => ?_⟩
              · unfold Connection.view
                rw [hclosed]
                exact hcommitted
              · refine (hhistory committed hmem).imp_right fun hprefix => ?_
                obtain ⟨count, hcount⟩ := hprefix
                rw [hview] at hcount
                exact .statement hskip hcount
          | inside change =>
              exact ⟨_, himplements conn db changed hpending hchanged, rfl,
                fun _ hmem => .inl hmem⟩
        obtain ⟨next, hnext, hview, hhistory⟩ := hstep
        have hbegun : next.begin.pending = some changed := congrArg some hview
        have hrecord := run_of_pending hbegun hrecorded
        obtain ⟨conn', hconn', hpending', hhistory'⟩ :=
          @ih { next.begin with pending := some recorded } recorded rfl hrest
        refine ⟨conn', ?_, hpending', fun committed hmem => ?_⟩
        · rw [hnext]
          change (next.begin.run (record version)).bind _ = _
          rw [hrecord]
          exact hconn'
        · rcases hhistory' committed hmem with hold | hlater
          · exact hhistory committed hold
          · exact .inr (.applied hskip hchanged hrecorded hlater)

end Runs

/-! ## Simulation -/

section Simulation

variable {σ σ' ε V : Type}

/-- From related databases the second change succeeds where the first one does, and they end
related. -/
def Simulates (R : σ → σ' → Prop) (f : σ → Except ε σ) (g : σ' → Except ε σ') : Prop :=
  ∀ a b c, R a b → f a = .ok c → ∃ d, g b = .ok d ∧ R c d

/-- A change simulates itself. -/
theorem simulates_eq (f : σ → Except ε σ) : Simulates Eq f f := by
  intro a b c hab hc
  subst hab
  exact ⟨c, hc, rfl⟩

theorem simulates_runScript {R : σ → σ' → Prop} {statements : List (σ → Except ε σ)}
    {statements' : List (σ' → Except ε σ')}
    (h : List.Forall₂ (Simulates R) statements statements') :
    Simulates R (runScript statements) (runScript statements') := by
  induction h with
  | nil =>
      intro a b c hab hc
      cases hc
      exact ⟨b, rfl, hab⟩
  | cons hstatement _ ih =>
      intro a b c hab hc
      obtain ⟨next, hnext, hrest⟩ := runScript_cons_ok.mp hc
      obtain ⟨next', hnext', hrelated⟩ := hstatement a b next hab hnext
      obtain ⟨d, hd, hcd⟩ := ih next next' c hrelated hrest
      exact ⟨d, runScript_cons_ok.mpr ⟨next', hnext', hd⟩, hcd⟩

/-- Runs that skip the same migrations end in related databases. -/
theorem simulates_apply {R : σ → σ' → Prop} {skip skip' : V → Bool}
    {record : V → σ → Except ε σ} {record' : V → σ' → Except ε σ'}
    {migrations : List (V × Migration σ ε)} {migrations' : List (V × Migration σ' ε)}
    (h : List.Forall₂ (fun m m' => m.1 = m'.1 ∧ Simulates R m.2.effect m'.2.effect)
      migrations migrations')
    (hskip : ∀ m ∈ migrations, skip m.1 = skip' m.1)
    (hrecord : ∀ version, Simulates R (record version) (record' version)) :
    Simulates R (apply skip record migrations) (apply skip' record' migrations') := by
  induction h with
  | nil =>
      intro a b c hab hc
      cases hc
      exact ⟨b, rfl, hab⟩
  | @cons m m' ms ms' hpair _ ih =>
      obtain ⟨version, migration⟩ := m
      obtain ⟨version', migration'⟩ := m'
      obtain ⟨hversion, heffect⟩ := hpair
      dsimp only at hversion heffect
      subst hversion
      rw [List.forall_mem_cons] at hskip
      intro a b c hab hc
      cases hsame : skip version with
      | true =>
          rw [apply_of_skip hsame] at hc
          rw [apply_of_skip (hskip.1.symm.trans hsame)]
          exact ih hskip.2 a b c hab hc
      | false =>
          obtain ⟨changed, recorded, hchanged, hrecorded, hrest⟩ := (apply_cons_ok hsame).mp hc
          obtain ⟨changed', hchanged', hrelated⟩ := heffect a b changed hab hchanged
          obtain ⟨recorded', hrecorded', hrelated'⟩ :=
            hrecord version changed changed' recorded hrelated hrecorded
          obtain ⟨d, hd, hcd⟩ := ih hskip.2 recorded recorded' c hrelated' hrest
          exact ⟨d, (apply_cons_ok (hskip.1.symm.trans hsame)).mpr
            ⟨changed', recorded', hchanged', hrecorded', hd⟩, hcd⟩

end Simulation

/-! ## Running again -/

section Rerun

variable {σ ε V : Type}

/-- A script ends the same from each database that its own statements leave. -/
def Rerunnable (statements : List (σ → Except ε σ)) : Prop :=
  ∀ db count committed d, runScript (statements.take count) db = .ok committed →
    runScript statements db = .ok d → runScript statements committed = .ok d

/-- Statements that settle can be run again: one that has been run does nothing more, whatever
statements of the script come after it. -/
theorem rerunnable_of_settles {statements : List (σ → Except ε σ)}
    (hsettles : ∀ statement ∈ statements, ∀ db d, statement db = .ok d → statement d = .ok d)
    (hstays : ∀ statement ∈ statements, ∀ other ∈ statements, ∀ db d, statement db = .ok db →
      other db = .ok d → statement d = .ok d) : Rerunnable statements := by
  -- what has been run once is settled from then on
  have hsettled : ∀ {run : List (σ → Except ε σ)}, run ⊆ statements → ∀ {db d},
      runScript run db = .ok d → ∀ statement ∈ run, statement d = .ok d := by
    intro run
    induction run with
    | nil => exact fun _ _ _ _ statement hmem => nomatch hmem
    | cons first rest ih =>
        intro hsubset db d hrun
        rw [List.cons_subset] at hsubset
        obtain ⟨next, hnext, hrest⟩ := runScript_cons_ok.mp hrun
        rw [List.forall_mem_cons]
        refine ⟨?_, ih hsubset.2 hrest⟩
        refine runScript_invariant (P := fun db => first db = .ok db) ?_ hrest
          (hsettles first hsubset.1 db next hnext)
        intro other hother before after hafter hbefore
        exact hstays first hsubset.1 other (hsubset.2 hother) before after hbefore hafter
  have hnothing : ∀ {run : List (σ → Except ε σ)} {d}, (∀ statement ∈ run, statement d = .ok d) →
      runScript run d = .ok d := by
    intro run d hrun
    induction run with
    | nil => rfl
    | cons first rest ih =>
        rw [List.forall_mem_cons] at hrun
        exact runScript_cons_ok.mpr ⟨d, hrun.1, ih hrun.2⟩
  intro db count committed d htake hall
  rw [← List.take_append_drop count statements, runScript_append] at hall ⊢
  rw [htake] at hall
  rw [hnothing (hsettled (List.take_subset count statements) htake)]
  exact hall

/-- A script whose first part forgets all that the script changes can be run again. -/
theorem rerunnable_of_reset {τ : Type} {kept : σ → τ} {first second : List (σ → Except ε σ)}
    (hkept : ∀ statement ∈ first ++ second, ∀ db d, statement db = .ok d → kept d = kept db)
    (hfirst : ∀ db db', kept db = kept db' → runScript first db = runScript first db') :
    Rerunnable (first ++ second) := by
  intro db count committed d htake hall
  have hsame : kept committed = kept db := by
    refine runScript_invariant (P := fun other => kept other = kept db) ?_ htake rfl
    intro statement hmem before after hafter hbefore
    rw [hkept statement (List.mem_of_mem_take hmem) before after hafter, hbefore]
  rw [runScript_append, hfirst committed db hsame, ← runScript_append]
  exact hall

/-- What recording and running again rest on: which versions are recorded changes by recording
only, scripts can be run again, and the clock that is recorded with a version is not read. -/
structure Resumable (recorded : σ → V → Bool) (Similar : σ → σ → Prop)
    (migrations : List (V × Migration σ ε)) : Prop where
  refl : ∀ db, Similar db db
  keeps : ∀ m ∈ migrations, ∀ P : (V → Bool) → Prop, m.2.Keeps fun db => P (recorded db)
  rerunnable : ∀ version statements, (version, .script statements) ∈ migrations →
    Rerunnable statements
  similar : ∀ m ∈ migrations, Simulates Similar m.2.effect m.2.effect

variable {recorded : σ → V → Bool} {Similar : σ → σ → Prop} {migrations : List (V × Migration σ ε)}

theorem Resumable.tail {m : V × Migration σ ε} (h : Resumable recorded Similar (m :: migrations)) :
    Resumable recorded Similar migrations where
  refl := h.refl
  keeps := fun other hmem => h.keeps other (List.mem_cons_of_mem _ hmem)
  rerunnable := fun version statements hmem =>
    h.rerunnable version statements (List.mem_cons_of_mem _ hmem)
  similar := fun other hmem => h.similar other (List.mem_cons_of_mem _ hmem)

theorem Resumable.recorded_take (h : Resumable recorded Similar migrations) {version : V}
    {statements : List (σ → Except ε σ)} (hmem : (version, .script statements) ∈ migrations)
    {count : ℕ} {db d : σ} (hrun : runScript (statements.take count) db = .ok d) :
    recorded d = recorded db := by
  refine runScript_invariant (P := fun other => recorded other = recorded db) ?_ hrun rfl
  intro statement hstatement
  exact h.keeps _ hmem (· = recorded db) statement (List.mem_of_mem_take hstatement)

theorem Resumable.recorded_effect (h : Resumable recorded Similar migrations)
    {m : V × Migration σ ε} (hmem : m ∈ migrations) {db d : σ} (hrun : m.2.effect db = .ok d) :
    recorded d = recorded db :=
  (h.keeps m hmem (· = recorded db)).effect hrun rfl

variable [DecidableEq V]

/-- Recording a version adds it to those that are recorded. -/
def Records (recorded : σ → V → Bool) (record : V → σ → Except ε σ) : Prop :=
  ∀ version db d, record version db = .ok d →
    ∀ other, recorded d other = (decide (other = version) || recorded db other)

/-- Whatever is committed has recorded what was recorded before. -/
theorem Commits.recorded_mono {skip : V → Bool} {record : V → σ → Except ε σ}
    (hrecords : Records recorded record) {db committed : σ}
    (h : Commits skip record migrations db committed)
    (hlaws : Resumable recorded Similar migrations) {version : V}
    (hversion : recorded db version = true) : recorded committed version = true := by
  refine h.invariant (P := fun db => recorded db version = true)
    (fun m hmem => hlaws.keeps m hmem (· version = true)) ?_ hversion
  intro other before after hafter hbefore
  rw [hrecords other before after hafter, hbefore, Bool.or_true]

/-- A run from a committed database ends like the run that was cut off, up to what is similar.  By
induction on the migrations: those before the cut are recorded and skipped, the script that was
cut is run again, and the rest is simulated. -/
theorem apply_of_commits {skip : V → Bool} {record record' : V → σ → Except ε σ}
    (hlaws : Resumable recorded Similar migrations) (hrecords : Records recorded record)
    (hsimilar : ∀ version, Simulates Similar (record version) (record' version))
    (hdistinct : (migrations.map Prod.fst).Nodup) {db committed d : σ}
    (hcommits : Commits skip record migrations db committed)
    (hskip : ∀ m ∈ migrations, recorded db m.1 = skip m.1)
    (h : apply skip record migrations db = .ok d) :
    ∃ d', apply (recorded committed) record' migrations committed = .ok d' ∧ Similar d d' := by
  induction hcommits with
  | @statement version statements rest db committed count hnew hrun =>
      rw [List.forall_mem_cons] at hskip
      have hsame := hlaws.recorded_take List.mem_cons_self hrun
      have hnew' : recorded committed version = false := by
        rw [hsame, hskip.1]
        exact hnew
      obtain ⟨changed, marked, hchanged, hmarked, hrest⟩ := (apply_cons_ok hnew).mp h
      have hagain : runScript statements committed = .ok changed :=
        hlaws.rerunnable version statements List.mem_cons_self db count committed changed hrun
          hchanged
      obtain ⟨marked', hmarked', hrelated⟩ :=
        hsimilar version changed changed marked (hlaws.refl changed) hmarked
      have hsimulates : Simulates Similar (apply skip record rest)
          (apply (recorded committed) record' rest) := by
        refine simulates_apply (List.forall₂_same.mpr fun m hmem => ?_) (fun m hmem => ?_) hsimilar
        · exact ⟨rfl, hlaws.tail.similar m hmem⟩
        · rw [hsame, hskip.2 m hmem]
      obtain ⟨d', hd', hdd'⟩ := hsimulates marked marked' d hrelated hrest
      exact ⟨d', (apply_cons_ok hnew').mpr ⟨changed, marked', hagain, hmarked', hd'⟩, hdd'⟩
  | @skipped version migration rest db committed hold hrest ih =>
      rw [List.forall_mem_cons] at hskip
      rw [List.map_cons, List.nodup_cons] at hdistinct
      rw [apply_of_skip hold] at h
      have hkept : recorded committed version = true :=
        hrest.recorded_mono hrecords hlaws.tail (hskip.1.trans hold)
      rw [apply_of_skip hkept]
      exact ih hlaws.tail hdistinct.2 hskip.2 h
  | @applied version migration rest db changed marked committed hnew hchanged hmarked hrest ih =>
      rw [List.forall_mem_cons] at hskip
      rw [List.map_cons, List.nodup_cons] at hdistinct
      obtain ⟨changed', marked', hchanged', hmarked', happly⟩ := (apply_cons_ok hnew).mp h
      rw [hchanged] at hchanged'
      cases hchanged'
      rw [hmarked] at hmarked'
      cases hmarked'
      have hrecorded : ∀ other, recorded marked other =
          (decide (other = version) || recorded db other) := by
        intro other
        rw [hrecords _ _ _ hmarked, hlaws.recorded_effect List.mem_cons_self hchanged]
      have hkept : recorded committed version = true := by
        refine hrest.recorded_mono hrecords hlaws.tail ?_
        rw [hrecorded, decide_eq_true rfl, Bool.true_or]
      rw [apply_of_skip hkept]
      refine ih hlaws.tail hdistinct.2 (fun m hmem => ?_) happly
      have hother : m.1 ≠ version := by
        intro heq
        have hin := List.mem_map_of_mem (f := Prod.fst) hmem
        rw [heq] at hin
        exact hdistinct.1 hin
      rw [hrecorded, decide_eq_false hother, Bool.false_or]
      exact hskip.2 m hmem

/-- A finished run has recorded every migration. -/
theorem recorded_of_apply {skip : V → Bool} {record : V → σ → Except ε σ}
    (hlaws : Resumable recorded Similar migrations) (hrecords : Records recorded record)
    {db d : σ} (hskip : ∀ m ∈ migrations, skip m.1 = true → recorded db m.1 = true)
    (h : apply skip record migrations db = .ok d) :
    (∀ version, recorded db version = true → recorded d version = true) ∧
      ∀ m ∈ migrations, recorded d m.1 = true := by
  induction migrations generalizing db with
  | nil =>
      cases h
      exact ⟨fun _ hversion => hversion, fun _ hmem => nomatch hmem⟩
  | cons m rest ih =>
      obtain ⟨version, migration⟩ := m
      rw [List.forall_mem_cons] at hskip
      cases hsame : skip version with
      | true =>
          rw [apply_of_skip hsame] at h
          obtain ⟨hmono, hall⟩ := ih hlaws.tail hskip.2 h
          exact ⟨hmono, List.forall_mem_cons.mpr ⟨hmono version (hskip.1 hsame), hall⟩⟩
      | false =>
          obtain ⟨changed, marked, hchanged, hmarked, hrest⟩ := (apply_cons_ok hsame).mp h
          have hrecorded : ∀ other, recorded marked other =
              (decide (other = version) || recorded db other) := by
            intro other
            rw [hrecords _ _ _ hmarked, hlaws.recorded_effect List.mem_cons_self hchanged]
          have hkept : ∀ other, recorded db other = true → recorded marked other = true := by
            intro other hother
            rw [hrecorded, hother, Bool.or_true]
          obtain ⟨hmono, hall⟩ := ih hlaws.tail
            (fun m hmem hold => hkept m.1 (hskip.2 m hmem hold)) hrest
          refine ⟨fun other hother => hmono other (hkept other hother),
            List.forall_mem_cons.mpr ⟨hmono version ?_, hall⟩⟩
          rw [hrecorded, decide_eq_true rfl, Bool.true_or]

omit [DecidableEq V] in
/-- Where everything is recorded nothing is applied. -/
theorem apply_of_recorded {skip : V → Bool} (h : ∀ m ∈ migrations, skip m.1 = true)
    (record : V → σ → Except ε σ) (db : σ) : apply skip record migrations db = .ok db := by
  induction migrations with
  | nil => rfl
  | cons m rest ih =>
      rw [List.forall_mem_cons] at h
      exact (apply_of_skip h.1 record m.2 rest db).trans (ih h.2)

end Rerun

end Reruns
end FreeLunch
