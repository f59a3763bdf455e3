import FreeLunch.Python.JsonRoundTrip
import FreeLunch.Runtime.AdminConfig
import FreeLunch.Store.Writer
import Mathlib.Data.List.Induction

/-!
# Histories of overrides

`set_override` and `delete_override` of `src/db.py` put statements on the queue of the writer,
and `get_overrides` decodes what is stored.  A string is stored as it is and anything else as
JSON, while every stored text is decoded as JSON first.

Main results:

- Theorem `decodeOverride_iff`: what a stored value is decoded to.
- Theorem `getOverrides_history_iff`: once the writer has drained, `get_overrides` answers with
  the last value set under each key exactly when each of these values survives.

Current gaps:

- Text is valid unless the predicate `encodable` says otherwise: it stands for the lone
  surrogates that `sqlite3` refuses to bind.
- The column `updated_at` is bound but not kept.
-/

namespace FreeLunch
namespace Runtime

open Python Runs Store Tables Writes

variable {F : Type}

/-! ## The calls -/

/-- A JSON value.  The keys of a dictionary are distinct. -/
structure JsonValue (F : Type) where
  value : PyValue F
  keys_nodup : ∀ members, .dict members ∈ value.parts → (members.map Prod.fst).Nodup

/-- A call of `set_override`, at the time `utc_now_iso()`, or of `delete_override`. -/
inductive OverrideCall (F : Type) where
  | set (key : String) (value : JsonValue F) (updatedAt : String)
  | delete (key : String)

/-- The statement of `set_override`. -/
def setOverrideSql : String :=
  "INSERT INTO config_overrides(key, value, updated_at) VALUES (?, ?, ?) " ++
    "ON CONFLICT(key) DO UPDATE SET value=excluded.value, updated_at=excluded.updated_at"

/-- The statement of `delete_override`. -/
def deleteOverrideSql : String :=
  "DELETE FROM config_overrides WHERE key=?"

/-- An integer with more digits than `int()` writes. -/
def isLongInt : PyValue F → Bool
  | .int n => decide (maxStrDigits < digitCount n)
  | _ => false

section Calls

variable [Runtime F]

/-- `json.dumps(value)` with what it raises: the encoder nests no deeper than its limit, and
a long integer has no text. -/
def dumpsOrRaise (encoderLimit : Nat) (value : PyValue F) : Except Exc String :=
  if encoderLimit < value.nesting then
    .error (.recursionError "maximum recursion depth exceeded while encoding a JSON object")
  else if value.parts.any isLongInt then
    .error (.valueError "Exceeds the limit (4300 digits) for integer string conversion")
  else .ok (dumps value)

/-- `value if isinstance(value, str) else json.dumps(value)` with what it raises. -/
def serializeOrRaise (encoderLimit : Nat) (value : PyValue F) : Except Exc String :=
  match value with
  | .str text => .ok text
  | value => dumpsOrRaise encoderLimit value

/-- The task that a call enqueues. -/
def OverrideCall.enqueue (encoderLimit : Nat) : OverrideCall F → Except Exc (WriteTask String)
  | .set key value updatedAt => do
      let serialized ← serializeOrRaise encoderLimit value.value
      return { sql := setOverrideSql, params := [key, serialized, updatedAt] }
  | .delete key => .ok { sql := deleteOverrideSql, params := [key] }

/-- The calls that return. -/
def returned (encoderLimit : Nat) (calls : List (OverrideCall F)) : List (OverrideCall F) :=
  calls.filter fun call => (call.enqueue encoderLimit).isOk

/-- The tasks of these calls. -/
def enqueued (encoderLimit : Nat) (calls : List (OverrideCall F)) : List (WriteTask String) :=
  calls.filterMap fun call => (call.enqueue encoderLimit).toOption

end Calls

/-- `config_overrides` behind a connection that binds only texts it can encode. -/
def overridesConnection (encodable : String → Bool) : Sqlite OverridesTable String Exc where
  execute table sql params :=
    if params.all encodable = false then
      .error (.valueError "'utf-8' codec can't encode characters: surrogates not allowed")
    else if sql = setOverrideSql then
      match params with
      | [key, value, _] => .ok (table.setOverride key value)
      | _ => .error (.other "Incorrect number of bindings supplied.")
    else if sql = deleteOverrideSql then
      match params with
      | [key] => .ok (table.deleteOverride key)
      | _ => .error (.other "Incorrect number of bindings supplied.")
    else .error (.other "no such statement")
  commit table := .ok table

/-- The table of a new database. -/
def OverridesTable.empty : OverridesTable where
  rows := []
  keys_nodup := List.nodup_nil

/-- The text stored under a key. -/
def OverridesTable.text (table : OverridesTable) (key : String) : Option String :=
  (lookup OverrideRow.key key table.rows).map OverrideRow.value

theorem text_setOverride (table : OverridesTable) (key text other : String) :
    (table.setOverride key text).text other =
      if other = key then some text else table.text other := by
  have hnew : OverrideRow.key ⟨key, text⟩ = key := rfl
  have hset : ∀ row : OverrideRow,
      OverrideRow.key { row with value := text } = row.key := fun _ => rfl
  unfold OverridesTable.text OverridesTable.setOverride
  dsimp only
  by_cases heq : other = key
  · rw [if_pos heq, heq, lookup_upsert_self hnew hset]
    cases lookup OverrideRow.key key table.rows <;> rfl
  · rw [if_neg heq, lookup_upsert_of_ne hnew hset heq]

theorem text_deleteOverride (table : OverridesTable) (key other : String) :
    (table.deleteOverride key).text other = if other = key then none else table.text other := by
  unfold OverridesTable.text OverridesTable.deleteOverride
  dsimp only
  rw [lookup_deleteKey]
  by_cases heq : other = key
  · rw [if_pos heq, if_pos heq, Option.map_none]
  · rw [if_neg heq, if_neg heq]

/-! ## The last values set -/

/-- What a call makes of the last values set. -/
def OverrideCall.remember (last : String → Option (JsonValue F)) :
    OverrideCall F → String → Option (JsonValue F)
  | .set key value _ => Function.update last key (some value)
  | .delete key => Function.update last key none

/-- The last value set under each key that was not deleted afterwards. -/
def lastSet (calls : List (OverrideCall F)) : String → Option (JsonValue F) :=
  calls.foldl OverrideCall.remember fun _ => none

theorem remember_set (last : String → Option (JsonValue F)) (key : String) (value : JsonValue F)
    (updatedAt other : String) :
    (OverrideCall.set key value updatedAt).remember last other =
      if other = key then some value else last other :=
  Function.update_apply last key (some value) other

theorem remember_delete (last : String → Option (JsonValue F)) (key other : String) :
    (OverrideCall.delete key).remember last other = if other = key then none else last other :=
  Function.update_apply last key none other

theorem lastSet_concat (calls : List (OverrideCall F)) (call : OverrideCall F) :
    lastSet (calls ++ [call]) = call.remember (lastSet calls) := by
  unfold lastSet
  rw [List.foldl_append]
  rfl

section Statements

variable [Runtime F]

/-- The database binds the texts of a call. -/
def OverrideCall.taken (encodable : String → Bool) : OverrideCall F → Bool
  | .set key value updatedAt =>
      encodable key && (encodable (serializeOverride value.value) && encodable updatedAt)
  | .delete key => encodable key

/-- What the statement of a call does. -/
def OverrideCall.apply (table : OverridesTable) : OverrideCall F → OverridesTable
  | .set key value _ => table.setOverride key (serializeOverride value.value)
  | .delete key => table.deleteOverride key

/-- What is serialized without an exception. -/
theorem serializeOrRaise_ok_iff {encoderLimit : Nat} {value : PyValue F} {text : String} :
    serializeOrRaise encoderLimit value = .ok text ↔
      text = serializeOverride value ∧ ((∃ s, value = .str s) ∨
        value.nesting ≤ encoderLimit ∧ value.parts.any isLongInt = false) := by
  have hdumps : dumpsOrRaise encoderLimit value = .ok text ↔
      text = dumps value ∧ value.nesting ≤ encoderLimit ∧ value.parts.any isLongInt = false := by
    unfold dumpsOrRaise
    by_cases hdepth : encoderLimit < value.nesting
    · simp [hdepth]
    · rw [if_neg hdepth]
      by_cases hlong : value.parts.any isLongInt = true
      · simp [hlong]
      · rw [if_neg hlong, Except.ok.injEq]
        rw [Bool.not_eq_true] at hlong
        exact ⟨fun h => ⟨h.symm, Nat.le_of_not_lt hdepth, hlong⟩, fun h => h.1.symm⟩
  cases value with
  | str s =>
      unfold serializeOrRaise serializeOverride
      rw [Except.ok.injEq]
      exact ⟨fun h => ⟨h.symm, .inl ⟨s, rfl⟩⟩, fun h => h.1.symm⟩
  | _ =>
      unfold serializeOrRaise serializeOverride
      rw [hdumps]
      simp

/-- The task of a call acts on the database as the call does, unless it is refused. -/
theorem attempt_enqueue (encodable : String → Bool) {encoderLimit : Nat} {call : OverrideCall F}
    {task : WriteTask String} (h : call.enqueue encoderLimit = .ok task)
    (table : OverridesTable) :
    (overridesConnection encodable).attempt table task =
      if call.taken encodable then .ok (call.apply table)
      else
        .error (.valueError "'utf-8' codec can't encode characters: surrogates not allowed") := by
  cases call with
  | set key value updatedAt =>
      obtain ⟨text, htext, htask⟩ := bind_ok_iff.mp h
      cases htask
      rw [(serializeOrRaise_ok_iff.mp htext).1]
      have hall : [key, serializeOverride value.value, updatedAt].all encodable =
          (OverrideCall.set key value updatedAt).taken encodable := by
        simp [OverrideCall.taken]
      unfold Sqlite.attempt overridesConnection
      dsimp only
      rw [hall, if_pos rfl]
      cases (OverrideCall.set key value updatedAt).taken encodable with
      | false => rfl
      | true => rfl
  | delete key =>
      cases h
      have hall : [key].all encodable = (OverrideCall.delete (F := F) key).taken encodable := by
        simp [OverrideCall.taken]
      have hother : deleteOverrideSql ≠ setOverrideSql := by decide
      unfold Sqlite.attempt overridesConnection
      dsimp only
      rw [hall, if_neg hother, if_pos rfl]
      cases (OverrideCall.delete (F := F) key).taken encodable with
      | false => rfl
      | true => rfl

/-! ## The table against the last values -/

/-- The table holds the text of the last value under each key. -/
def Stores (table : OverridesTable) (last : String → Option (JsonValue F)) : Prop :=
  ∀ key, table.text key = (last key).map fun value => serializeOverride value.value

theorem stores_empty : Stores (F := F) OverridesTable.empty fun _ => none := by
  intro key
  rfl

/-- A call acts on the table as it acts on the last values. -/
theorem Stores.apply {table : OverridesTable} {last : String → Option (JsonValue F)}
    (h : Stores table last) (call : OverrideCall F) :
    Stores (call.apply table) (call.remember last) := by
  intro other
  cases call with
  | set key value updatedAt =>
      rw [remember_set, OverrideCall.apply, text_setOverride]
      by_cases heq : other = key
      · rw [if_pos heq, if_pos heq]
        rfl
      · rw [if_neg heq, if_neg heq]
        exact h other
  | delete key =>
      rw [remember_delete, OverrideCall.apply, text_deleteOverride]
      by_cases heq : other = key
      · rw [if_pos heq, if_pos heq]
        rfl
      · rw [if_neg heq, if_neg heq]
        exact h other

/-- Where every task of a history is applied, every call was taken and the table holds the last
values. -/
theorem Stores.replay {encodable : String → Bool} {encoderLimit : Nat}
    {calls : List (OverrideCall F)} {tasks : List (WriteTask String)}
    (htasks : List.Forall₂ (fun call task => call.enqueue encoderLimit = .ok task) calls tasks)
    {table table' : OverridesTable} {last : String → Option (JsonValue F)}
    (h : Stores table last)
    (hreplay : (overridesConnection encodable).replay table tasks = .ok table') :
    (∀ call ∈ calls, call.taken encodable = true) ∧
      Stores table' (calls.foldl OverrideCall.remember last) := by
  induction htasks generalizing table last with
  | nil =>
      cases hreplay
      exact ⟨nofun, h⟩
  | @cons call task calls tasks hcall _ ih =>
      obtain ⟨next, hattempt, hrest⟩ := replay_cons_eq_ok hreplay
      rw [attempt_enqueue _ hcall] at hattempt
      by_cases htaken : call.taken encodable = true
      · rw [if_pos htaken] at hattempt
        cases hattempt
        obtain ⟨htakens, hstores⟩ := ih (h.apply call) hrest
        exact ⟨List.forall_mem_cons.mpr ⟨htaken, htakens⟩, hstores⟩
      · rw [if_neg htaken] at hattempt
        cases hattempt

/-- The calls that return and their tasks. -/
theorem returned_enqueued (encoderLimit : Nat) (calls : List (OverrideCall F)) :
    List.Forall₂ (fun call task => call.enqueue encoderLimit = .ok task)
      (returned encoderLimit calls) (enqueued encoderLimit calls) := by
  unfold returned enqueued
  induction calls with
  | nil => exact .nil
  | cons call calls ih =>
      cases hcall : call.enqueue encoderLimit with
      | error exc =>
          rw [List.filter_cons_of_neg (by simp [hcall, Except.isOk, Except.toBool]),
            List.filterMap_cons_none (by rw [hcall]; rfl)]
          exact ih
      | ok task =>
          rw [List.filter_cons_of_pos (by simp [hcall, Except.isOk, Except.toBool]),
            List.filterMap_cons_some (by rw [hcall]; rfl)]
          exact .cons hcall ih

omit [Runtime F] in
/-- The last value was set by some call. -/
theorem exists_set_of_lastSet {calls : List (OverrideCall F)} {key : String}
    {value : JsonValue F} (h : lastSet calls key = some value) :
    ∃ updatedAt, .set key value updatedAt ∈ calls := by
  induction calls using List.reverseRecOn with
  | nil => cases h
  | append_singleton calls call ih =>
      rw [lastSet_concat] at h
      have hbefore : lastSet calls key = some value →
          ∃ updatedAt, .set key value updatedAt ∈ calls ++ [call] := by
        intro h
        obtain ⟨updatedAt, hmem⟩ := ih h
        exact ⟨updatedAt, List.mem_append_left _ hmem⟩
      cases call with
      | set other new updatedAt =>
          rw [remember_set] at h
          by_cases heq : key = other
          · rw [if_pos heq, Option.some.injEq] at h
            rw [heq, ← h]
            exact ⟨updatedAt, List.mem_append_right _ List.mem_cons_self⟩
          · rw [if_neg heq] at h
            exact hbefore h
      | delete other =>
          rw [remember_delete] at h
          by_cases heq : key = other
          · rw [if_pos heq] at h
            cases h
          · rw [if_neg heq] at h
            exact hbefore h

/-- Once the writer has drained the table holds the last values of the calls that the database
took; the others can only have set something. -/
theorem stores_of_flushed {encodable : String → Bool} {encoderLimit : Nat} {enabled : Bool}
    {size : Int} {calls : List (OverrideCall F)} {events : List (Event String)}
    {s : System String OverridesTable}
    (hrun : run (step (overridesConnection encodable))
      (System.start enabled size OverridesTable.empty) events = some s)
    (haccepted : s.accepted = (enqueued encoderLimit calls).map some) (hflushed : s.Flushed) :
    Stores s.db (lastSet ((returned encoderLimit calls).filter (OverrideCall.taken encodable))) ∧
      ∀ key, lastSet (returned encoderLimit calls) key = none →
        lastSet ((returned encoderLimit calls).filter (OverrideCall.taken encodable)) key =
          none := by
  have hattempted := attempted_of_flushed hrun hflushed haccepted
  have hpairs := returned_enqueued encoderLimit calls
  rcases run_applied hrun with ⟨-, hreplay⟩ | ⟨-, before, task, err, hlast, hreplay, herr⟩
  · have hall : (overridesConnection encodable).replay OverridesTable.empty
        (enqueued encoderLimit calls) = .ok s.db := hattempted ▸ hreplay
    obtain ⟨htaken, hstores⟩ := stores_empty.replay hpairs hall
    rw [List.filter_eq_self.mpr htaken]
    exact ⟨hstores, fun key h => h⟩
  · have hlast' : s.attempted = before ++ [task] := hlast
    rw [hattempted] at hlast'
    rw [hlast'] at hpairs
    obtain ⟨calls', last, hcalls, hpairs', hcall⟩ :
        ∃ calls' call, returned encoderLimit calls = calls' ++ [call] ∧
          List.Forall₂ (fun call task => call.enqueue encoderLimit = .ok task) calls' before ∧
            call.enqueue encoderLimit = .ok task := by
      have hfirst := List.forall₂_take_append _ _ _ hpairs
      have hrest := List.forall₂_drop_append _ _ _ hpairs
      obtain ⟨call, more, hcall, hmore, hdrop⟩ := List.forall₂_cons_right_iff.mp hrest
      cases hmore
      refine ⟨_, call, ?_, hfirst, hcall⟩
      rw [← hdrop, List.take_append_drop]
    obtain ⟨htaken, hstores⟩ := stores_empty.replay hpairs' hreplay
    have hrefused : last.taken encodable = false := by
      have hattempt := attempt_enqueue encodable hcall s.db
      by_contra htrue
      rw [if_pos (by simpa using htrue)] at hattempt
      rw [show (overridesConnection encodable).attempt s.db task = .error err from herr]
        at hattempt
      cases hattempt
    have hfilter : (returned encoderLimit calls).filter (OverrideCall.taken encodable) =
        calls' := by
      rw [hcalls, List.filter_append, List.filter_eq_self.mpr htaken,
        List.filter_cons_of_neg (by rw [hrefused]; exact Bool.false_ne_true), List.filter_nil,
        List.append_nil]
    rw [hfilter]
    refine ⟨hstores, fun key hnone => ?_⟩
    by_contra hsome
    obtain ⟨value, hvalue⟩ := Option.ne_none_iff_exists'.mp hsome
    rw [hcalls, lastSet_concat] at hnone
    cases last with
    | set other new updatedAt =>
        rw [remember_set] at hnone
        by_cases heq : key = other
        · rw [if_pos heq] at hnone
          cases hnone
        · rw [if_neg heq] at hnone
          exact hsome hnone
    | delete other =>
        rw [remember_delete] at hnone
        by_cases heq : key = other
        · obtain ⟨updatedAt, hmem⟩ := exists_set_of_lastSet hvalue
          have hset := htaken _ hmem
          rw [OverrideCall.taken, Bool.and_eq_true, heq] at hset
          rw [OverrideCall.taken, hset.1] at hrefused
          cases hrefused
        · rw [if_neg heq] at hnone
          exact hsome hnone

end Statements

/-! ## What is read back -/

section ReadingBack

variable [Runtime F]

/-- A text that `json.loads` rejects as no JSON document. -/
def Rejected (F : Type) [Runtime F] (text : String) : Prop :=
  ∃ message, loads (F := F) text.toList = .error (.jsonDecodeError message)

/-- A value that is read back as itself: a string that is no JSON document, or anything else
that the scanner can follow. -/
def DecodesToItself (value : PyValue F) : Prop :=
  match value with
  | .str text => Rejected F text
  | value => value.nesting ≤ Runtime.recursionLimit F

/-- A stored value is read as the given one: it is that value and is read back, or it is a
string with that value as its JSON document. -/
def Survives (stored value : PyValue F) : Prop :=
  (stored = value ∧ DecodesToItself value) ∨
    ∃ text, stored = .str text ∧ loads text.toList = .ok value

/-- What a stored text is decoded to. -/
theorem decodeOverride_ok_iff {text : String} {value : PyValue F} :
    decodeOverride text = .ok value ↔
      loads text.toList = .ok value ∨ (Rejected F text ∧ value = .str text) := by
  unfold decodeOverride Rejected
  cases hread : loads (F := F) text.toList with
  | ok read => simp
  | error exc =>
      cases exc with
      | jsonDecodeError message => simp [eq_comm]
      | _ => simp

/-- What the call could serialize is legible. -/
theorem legible_of_serialized [LawfulJson F] {encoderLimit : Nat} {value : JsonValue F}
    {text : String} (h : serializeOrRaise encoderLimit value.value = .ok text) :
    ∀ w ∈ value.value.parts, w.Legible := by
  intro w hw
  cases w with
  | int n =>
      rcases (serializeOrRaise_ok_iff.mp h).2 with ⟨s, hs⟩ | ⟨-, hshort⟩
      · rw [hs, PyValue.parts, List.mem_singleton] at hw
        cases hw
      · have hn := List.any_eq_false.mp hshort _ hw
        unfold isLongInt at hn
        rw [decide_eq_true_eq] at hn
        exact Nat.le_of_not_lt hn
  | float x => exact LawfulJson.legible_float x
  | dict members => exact value.keys_nodup members hw
  | none => trivial
  | bool b => trivial
  | str s => trivial
  | list items => trivial

/-- The text of a value is decoded to the values it survives as. -/
theorem decodeOverride_iff [LawfulJson F] {encoderLimit : Nat} {stored : JsonValue F}
    {text : String} (h : serializeOrRaise encoderLimit stored.value = .ok text)
    {value : PyValue F} :
    decodeOverride (serializeOverride stored.value) = .ok value ↔
      Survives stored.value value := by
  have hlegible := legible_of_serialized h
  have hdumps : (∀ s, stored.value ≠ .str s) →
      serializeOverride stored.value = dumps stored.value := by
    intro hno
    unfold serializeOverride
    split
    · rename_i s heq
      exact absurd heq (hno s)
    · rfl
  by_cases hstr : ∃ s, stored.value = .str s
  · obtain ⟨s, hs⟩ := hstr
    rw [hs, serializeOverride, decodeOverride_ok_iff]
    unfold Survives
    constructor
    · rintro (hread | ⟨hrejected, rfl⟩)
      · exact .inr ⟨s, rfl, hread⟩
      · exact .inl ⟨rfl, hrejected⟩
    · rintro (⟨rfl, hrejected⟩ | ⟨t, ht, hread⟩)
      · exact .inr ⟨hrejected, rfl⟩
      · cases ht
        exact .inl hread
  · have hno : ∀ s, stored.value ≠ .str s := fun s hs => hstr ⟨s, hs⟩
    have hback : DecodesToItself stored.value ↔
        stored.value.nesting ≤ Runtime.recursionLimit F := by
      unfold DecodesToItself
      split
      · rename_i s heq
        exact absurd heq (hno s)
      · exact Iff.rfl
    rw [hdumps hno, decodeOverride_ok_iff]
    unfold Rejected Survives
    by_cases hdepth : stored.value.nesting ≤ Runtime.recursionLimit F
    · rw [loads_dumps hlegible hdepth]
      constructor
      · rintro (hread | ⟨⟨message, hread⟩, -⟩)
        · cases hread
          exact .inl ⟨rfl, hback.mpr hdepth⟩
        · cases hread
      · rintro (⟨rfl, -⟩ | ⟨s, hs, -⟩)
        · exact .inl rfl
        · exact absurd hs (hno s)
    · rw [loads_dumps_of_deep hlegible (Nat.lt_of_not_le hdepth)]
      constructor
      · rintro (hread | ⟨⟨message, hread⟩, -⟩)
        · cases hread
        · cases hread
      · rintro (⟨rfl, hread⟩ | ⟨s, hs, -⟩)
        · exact absurd (hback.mp hread) hdepth
        · exact absurd hs (hno s)

/-- The dictionary that `get_overrides` builds, under each key. -/
theorem dictGet_getOverrides {rows : List OverrideRow} {overrides : List (String × PyValue F)}
    (h : rows.mapM decodeRow = .ok overrides) (key : String) :
    dictGet overrides key =
      (lookup OverrideRow.key key rows).bind fun row =>
        (decodeOverride row.value).toOption := by
  induction rows generalizing overrides with
  | nil =>
      cases h
      rfl
  | cons row rows ih =>
      obtain ⟨entry, rest, hentry, hrest, rfl⟩ := mapM_cons_ok_iff.mp h
      obtain ⟨hkey, hvalue⟩ := decodeRow_ok_iff.mp hentry
      rw [dictGet_cons, ← hkey]
      unfold lookup at ih ⊢
      rw [List.find?_cons]
      by_cases heq : row.key = key
      · simp [heq, hvalue, Except.toOption]
      · rw [if_neg heq]
        simpa [heq] using ih hrest

/-- `get_overrides` answers as expected exactly when every stored text is decoded so. -/
theorem getOverrides_iff {table : OverridesTable} {expected : String → Option (PyValue F)} :
    (∃ overrides, getOverrides table = .ok overrides ∧
        ∀ key, dictGet overrides key = expected key) ↔
      (∀ key text, table.text key = some text →
        ∃ value, expected key = some value ∧ decodeOverride text = .ok value) ∧
      ∀ key, table.text key = none → expected key = none := by
  unfold OverridesTable.text getOverrides
  constructor
  · rintro ⟨overrides, hread, hexpected⟩
    refine ⟨fun key text htext => ?_, fun key htext => ?_⟩
    · obtain ⟨row, hrow, rfl⟩ := Option.map_eq_some_iff.mp htext
      obtain ⟨entry, hentry⟩ :=
        mapM_ok_iff.mp ⟨overrides, hread⟩ row (List.mem_of_find?_eq_some hrow)
      have hvalue := (decodeRow_ok_iff.mp hentry).2
      refine ⟨entry.2, ?_, hvalue⟩
      rw [← hexpected, dictGet_getOverrides hread, hrow, Option.bind_some, hvalue]
      rfl
    · rw [← hexpected, dictGet_getOverrides hread, Option.map_eq_none_iff.mp htext]
      rfl
  · rintro ⟨hsome, hnone⟩
    have hdecode : ∀ row ∈ table.rows,
        ∃ value, expected row.key = some value ∧ decodeOverride row.value = .ok value := by
      intro row hrow
      refine hsome row.key row.value ?_
      rw [(lookup_eq_some_iff table.keys_nodup).mpr ⟨hrow, rfl⟩]
      rfl
    obtain ⟨overrides, hread⟩ : ∃ overrides : List (String × PyValue F),
        table.rows.mapM decodeRow = .ok overrides := by
      refine mapM_ok_iff.mpr fun row hrow => ?_
      obtain ⟨value, -, hvalue⟩ := hdecode row hrow
      exact ⟨(row.key, value), decodeRow_ok_iff.mpr ⟨rfl, hvalue⟩⟩
    refine ⟨overrides, hread, fun key => ?_⟩
    rw [dictGet_getOverrides hread]
    cases hrow : lookup OverrideRow.key key table.rows with
    | none =>
        rw [hnone key (by rw [hrow]; rfl)]
        rfl
    | some row =>
        obtain ⟨value, hexpected, hvalue⟩ := hsome key row.value (by rw [hrow]; rfl)
        rw [hexpected, Option.bind_some, hvalue]
        rfl

/-- For any history of calls, once the writer has drained, `get_overrides` answers with exactly
the last value set under each key and not deleted afterwards if and only if each of these values
survives: what the database took last under the key is read as that value. -/
theorem getOverrides_history_iff [LawfulJson F] {encodable : String → Bool} {encoderLimit : Nat}
    {enabled : Bool} {size : Int} {calls : List (OverrideCall F)} {events : List (Event String)}
    {s : System String OverridesTable}
    (hrun : run (step (overridesConnection encodable))
      (System.start enabled size OverridesTable.empty) events = some s)
    (haccepted : s.accepted = (enqueued encoderLimit calls).map some) (hflushed : s.Flushed) :
    (∃ overrides, getOverrides s.db = .ok overrides ∧ ∀ key, dictGet overrides key =
        (lastSet (returned encoderLimit calls) key).map JsonValue.value) ↔
      ∀ key value, lastSet (returned encoderLimit calls) key = some value →
        ∃ stored,
          lastSet ((returned encoderLimit calls).filter (OverrideCall.taken encodable)) key =
              some stored ∧
            Survives stored.value value.value := by
  obtain ⟨hstores, hnone⟩ := stores_of_flushed hrun haccepted hflushed
  have hdecode : ∀ {key stored},
      lastSet ((returned encoderLimit calls).filter (OverrideCall.taken encodable)) key =
        some stored → ∀ {value}, decodeOverride (serializeOverride stored.value) = .ok value ↔
          Survives stored.value value := by
    intro key stored hstored value
    obtain ⟨updatedAt, hmem⟩ := exists_set_of_lastSet hstored
    have hok := (List.mem_filter.mp (List.mem_filter.mp hmem).1).2
    obtain ⟨task, htask⟩ := isOk_iff.mp hok
    obtain ⟨text, htext, -⟩ := bind_ok_iff.mp htask
    exact decodeOverride_iff htext
  rw [getOverrides_iff]
  constructor
  · rintro ⟨hsome, hempty⟩ key value hvalue
    cases hstored :
        lastSet ((returned encoderLimit calls).filter (OverrideCall.taken encodable)) key with
    | none =>
        have hlost := hempty key (by rw [hstores, hstored]; rfl)
        rw [hvalue] at hlost
        cases hlost
    | some stored =>
        obtain ⟨read, hexpected, hread⟩ := hsome key _ (by rw [hstores, hstored]; rfl)
        rw [hvalue] at hexpected
        cases hexpected
        exact ⟨stored, rfl, (hdecode hstored).mp hread⟩
  · intro hsurvive
    refine ⟨fun key text htext => ?_, fun key htext => ?_⟩
    · rw [hstores] at htext
      obtain ⟨stored, hstored, rfl⟩ := Option.map_eq_some_iff.mp htext
      cases hvalue : lastSet (returned encoderLimit calls) key with
      | none =>
          rw [hnone key hvalue] at hstored
          cases hstored
      | some value =>
          obtain ⟨other, hother, hread⟩ := hsurvive key value hvalue
          rw [hstored, Option.some.injEq] at hother
          rw [← hother] at hread
          exact ⟨value.value, rfl, (hdecode hstored).mpr hread⟩
    · cases hvalue : lastSet (returned encoderLimit calls) key with
      | none => rfl
      | some value =>
          obtain ⟨stored, hstored, -⟩ := hsurvive key value hvalue
          rw [hstores, hstored] at htext
          cases htext

end ReadingBack

/-- A boolean. -/
def boolValue (F : Type) (b : Bool) : JsonValue F where
  value := .bool b
  keys_nodup := by
    intro members hmem
    rw [PyValue.parts, List.mem_singleton] at hmem
    cases hmem

/-- A string. -/
def strValue (F : Type) (text : String) : JsonValue F where
  value := .str text
  keys_nodup := by
    intro members hmem
    rw [PyValue.parts, List.mem_singleton] at hmem
    cases hmem

/-- A call that sets an override. -/
def setCall {F : Type} (value : JsonValue F) : OverrideCall F :=
  .set "health_check_enabled" value "2025-01-01T00:00:00Z"

/-- Its task when the value is serialized to a text. -/
def setTask (text : String) : WriteTask String where
  sql := setOverrideSql
  params := ["health_check_enabled", text, "2025-01-01T00:00:00Z"]

/-- One task on its way through the writer. -/
def oneTask (task : WriteTask String) : List (Event String) :=
  [.put task, .get, .execute, .settle]

/-- The call is written to the end. -/
theorem exists_run_setCall [Runtime F] {encoderLimit : Nat} {value : JsonValue F} {text : String}
    (h : (setCall value).enqueue encoderLimit = .ok (setTask text)) :
    ∃ s, run (step (overridesConnection fun _ => true))
        (System.start true 5000 OverridesTable.empty) (oneTask (setTask text)) = some s ∧
      s.accepted = (enqueued encoderLimit [setCall value]).map some ∧ s.Flushed ∧
      s.db = (setCall value).apply OverridesTable.empty := by
  have hattempt : (overridesConnection fun _ => true).attempt OverridesTable.empty
      (setTask text) = .ok ((setCall value).apply OverridesTable.empty) := by
    rw [attempt_enqueue _ h]
    rfl
  have henqueued : enqueued encoderLimit [setCall value] = [setTask text] := by
    unfold enqueued
    rw [List.filterMap_cons_some (by rw [h]; rfl), List.filterMap_nil]
  rw [henqueued]
  have hput : step (overridesConnection fun _ => true)
      (System.start true 5000 OverridesTable.empty) (.put (setTask text)) =
        some ((System.start true 5000 OverridesTable.empty).putItem (some (setTask text))) := rfl
  have hexecute : ∀ s : System String OverridesTable, s.consumer = .holding (setTask text) →
      s.db = OverridesTable.empty → step (overridesConnection fun _ => true) s .execute =
        some { s with
          db := (setCall value).apply OverridesTable.empty
          consumer := .settling (setTask text) false
          attempted := s.attempted ++ [setTask text] } :=
    fun s hconsumer hdb => step_execute_of_ok hconsumer (by rw [hdb]; exact hattempt)
  have hrun : run (step (overridesConnection fun _ => true))
      (System.start true 5000 OverridesTable.empty) (oneTask (setTask text)) = some _ :=
    (run_cons_of_step hput _).trans <|
      (run_cons_of_step (step_get_of_task rfl rfl) _).trans <|
        (run_cons_of_step (hexecute _ rfl rfl) _).trans <|
          run_cons_of_step (step_settle_of_settling rfl) []
  exact ⟨_, hrun, rfl, rfl, rfl⟩

/-- A boolean that was set is read as that boolean. -/
theorem bool_override_survives :
    ∃ s, run (step (overridesConnection fun _ => true))
        (System.start true 5000 OverridesTable.empty) (oneTask (setTask "true")) = some s ∧
      ∃ overrides, getOverrides (F := SpecialFloat) s.db = .ok overrides ∧
        ∀ key, dictGet overrides key =
          (lastSet (returned 1000 [setCall (boolValue SpecialFloat true)]) key).map
            JsonValue.value := by
  have henqueue : (setCall (boolValue SpecialFloat true)).enqueue 1000 = .ok (setTask "true") :=
    rfl
  obtain ⟨s, hrun, haccepted, hflushed, -⟩ := exists_run_setCall henqueue
  refine ⟨s, hrun, (getOverrides_history_iff hrun haccepted hflushed).mpr ?_⟩
  intro key value hvalue
  obtain ⟨updatedAt, hmem⟩ := exists_set_of_lastSet hvalue
  have hcall := List.mem_singleton.mp (List.mem_filter.mp hmem).1
  cases hcall
  exact ⟨_, hvalue, .inl ⟨rfl, Nat.zero_le _⟩⟩

/-- The string `123` is read as a number. -/
theorem numeral_override_is_number :
    ∃ s, run (step (overridesConnection fun _ => true))
        (System.start true 5000 OverridesTable.empty) (oneTask (setTask "123")) = some s ∧
      s.accepted = (enqueued 1000 [setCall (strValue SpecialFloat "123")]).map some ∧
      s.Flushed ∧
      getOverrides (F := SpecialFloat) s.db = .ok [("health_check_enabled", .int 123)] ∧
      lastSet (returned 1000 [setCall (strValue SpecialFloat "123")]) "health_check_enabled" =
        some (strValue SpecialFloat "123") := by
  have henqueue : (setCall (strValue SpecialFloat "123")).enqueue 1000 = .ok (setTask "123") :=
    rfl
  obtain ⟨s, hrun, haccepted, hflushed, hdb⟩ := exists_run_setCall henqueue
  refine ⟨s, hrun, haccepted, hflushed, ?_, rfl⟩
  have hread : decodeOverride (F := SpecialFloat) "123" = .ok (.int 123) := by
    refine decodeOverride_ok_iff.mpr (.inl ?_)
    rfl
  rw [hdb]
  change [OverrideRow.mk "health_check_enabled" "123"].mapM decodeRow = _
  exact mapM_cons_ok_iff.mpr
    ⟨_, [], decodeRow_ok_iff.mpr ⟨rfl, hread⟩, rfl, rfl⟩

end Runtime
end FreeLunch
