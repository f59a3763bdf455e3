import FreeLunch.Gateway.Attempts
import FreeLunch.Python.Utf8
import Mathlib.Algebra.GroupWithZero.Nat
import Mathlib.Data.List.Induction

/-!
# The event stream of an adapter

`event_stream` of `OpenAICompatibleAdapter` and `OpenRouterAdapter` (one text in both): bytes
arrive in chunks, lines are taken off a buffer, comments are dropped, and the lines between
two empty ones are emitted as one event.  Sizes are checked on every complete line, on the
lines of the event so far and on the unfinished line after each chunk.

What a stream says is a list of lines; `Grouping` reads it without buffers, text or limits.

Main results:

- Theorem `readLine_spec`: the adapter takes a line as the grouping does, or the line exceeds
  a limit.
- Theorem `readLines_spec`: so it does with the lines of a buffer.
- Theorem `withinLimits_concat`: one more line is within the limits when it and its group are.

Current gaps:

- Exceptions of the transport and the closing of the response are left out: a stream is what
  arrives before its end.
-/

namespace FreeLunch
namespace Providers

open Gateway Python

/-! ## Lines -/

/-- `b"\n"`. -/
def newline : UInt8 := 10

/-- `b"\r"`. -/
def carriageReturn : UInt8 := 13

/-- The lines that `line_buffer.partition(b"\n")` takes off a buffer while it contains a
newline, and what is left of the buffer. -/
def bufferLines : List UInt8 → List (List UInt8) × List UInt8
  | [] => ([], [])
  | b :: rest =>
      if b = newline then ([] :: (bufferLines rest).1, (bufferLines rest).2)
      else
        match bufferLines rest with
        | ([], remainder) => ([], b :: remainder)
        | (line :: lines, remainder) => ((b :: line) :: lines, remainder)

/-- `line[:-1]` where the line ends with a carriage return. -/
def dropCarriageReturn (line : List UInt8) : List UInt8 :=
  if line.getLast? = some carriageReturn then line.dropLast else line

/-- `"\n".join(lines)`. -/
def joinLines (lines : List (List Char)) : List Char :=
  List.intercalate ['\n'] lines

/-- `("\n".join(pending_lines) + "\n\n").encode("utf-8")`. -/
def encodeLines (lines : List (List Char)) : List UInt8 :=
  encodeUtf8 (joinLines lines ++ ['\n', '\n'])

/-! ## The generator -/

/-- The local variables of `event_stream`, with the events it has yielded. -/
structure StreamState where
  pendingLines : List (List Char)
  pendingBytes : Nat
  lineBuffer : List UInt8
  events : List (List UInt8)
deriving DecidableEq

/-- What draining the generator gives: the events, and the exception at the end if any. -/
structure StreamOutcome where
  events : List (List UInt8)
  raised : Option ProviderError
deriving DecidableEq

/-- The variables before the first chunk. -/
def StreamState.initial : StreamState where
  pendingLines := []
  pendingBytes := 0
  lineBuffer := []
  events := []

/-- `raise ProviderRetryableError("provider SSE event exceeded size limit", ...)`. -/
def StreamState.exceeded (st : StreamState) : StreamOutcome where
  events := st.events
  raised := some (providerRetryableError "provider SSE event exceeded size limit")

/-- `yield` the pending lines. -/
def StreamState.flush (st : StreamState) : StreamState :=
  { st with events := st.events ++ [encodeLines st.pendingLines] }

/-- The body of the inner loop, for the line that has been taken off the buffer. -/
def readLine (maxSseEventBytes : Int) (st : StreamState) (raw : List UInt8) :
    Except StreamOutcome StreamState :=
  let line := dropCarriageReturn raw
  if maxSseEventBytes < line.length then .error st.exceeded
  else if line.isEmpty then
    if !st.pendingLines.isEmpty then
      .ok { st.flush with pendingLines := [], pendingBytes := 0 }
    else .ok st
  else
    let decoded := decodeReplace line
    if startsWith decoded ":".toList then .ok st
    else if maxSseEventBytes < (st.pendingBytes + (line.length + 1) : Nat) then
      .error st.exceeded
    else
      .ok { st with
        pendingBytes := st.pendingBytes + (line.length + 1)
        pendingLines := st.pendingLines ++ [decoded] }

/-- The inner loop. -/
def readLines (maxSseEventBytes : Int) :
    StreamState → List (List UInt8) → Except StreamOutcome StreamState
  | st, [] => .ok st
  | st, line :: lines =>
      match readLine maxSseEventBytes st line with
      | .error outcome => .error outcome
      | .ok st' => readLines maxSseEventBytes st' lines

/-- The body of the outer loop. -/
def readChunk (maxSseEventBytes : Int) (st : StreamState) (chunk : List UInt8) :
    Except StreamOutcome StreamState :=
  let (lines, remainder) := bufferLines (st.lineBuffer ++ chunk)
  match readLines maxSseEventBytes st lines with
  | .error outcome => .error outcome
  | .ok st' =>
      if maxSseEventBytes < remainder.length then .error st'.exceeded
      else .ok { st' with lineBuffer := remainder }

/-- The outer loop. -/
def readChunks (maxSseEventBytes : Int) :
    StreamState → List (List UInt8) → Except StreamOutcome StreamState
  | st, [] => .ok st
  | st, chunk :: chunks =>
      match readChunk maxSseEventBytes st chunk with
      | .error outcome => .error outcome
      | .ok st' => readChunks maxSseEventBytes st' chunks

/-- What follows the loops: the last line, which no newline ends, and the last event. -/
def endStream (maxSseEventBytes : Int) (st : StreamState) : StreamOutcome :=
  if st.lineBuffer.isEmpty then
    if st.pendingLines.isEmpty then ⟨st.events, none⟩ else ⟨st.flush.events, none⟩
  else
    let finalLine := dropCarriageReturn st.lineBuffer
    if maxSseEventBytes < (st.pendingBytes + (finalLine.length + 1) : Nat) then st.exceeded
    else
      ⟨{ st with pendingLines := st.pendingLines ++ [decodeReplace finalLine] }.flush.events,
        none⟩

/-- `event_stream`, drained by the consumer. -/
def eventStream (maxSseEventBytes : Int) (chunks : List (List UInt8)) : StreamOutcome :=
  match readChunks maxSseEventBytes .initial chunks with
  | .error outcome => outcome
  | .ok st => endStream maxSseEventBytes st

/-! ## What a stream says -/

/-- A line that a server sends as a comment. -/
def isComment (line : List UInt8) : Bool :=
  line.head? == some 58

/-- The bytes of a group of lines, each with its separator. -/
def groupBytes (group : List (List UInt8)) : Nat :=
  (group.map fun line => line.length + 1).sum

/-- The event of a group of lines: decoded, joined, and terminated by a blank line. -/
def eventOf (group : List (List UInt8)) : List UInt8 :=
  encodeLines (group.map decodeReplace)

/-- The groups that an empty line has closed, and the lines since. -/
structure Grouping where
  closed : List (List (List UInt8))
  pending : List (List UInt8)

/-- One more line: an empty one closes the group, a comment is dropped. -/
def Grouping.add (grouping : Grouping) (line : List UInt8) : Grouping :=
  if line.isEmpty then
    if grouping.pending.isEmpty then grouping
    else { closed := grouping.closed ++ [grouping.pending], pending := [] }
  else if isComment line then grouping
  else { grouping with pending := grouping.pending ++ [line] }

/-- The grouping of some lines. -/
def groupingOf (lines : List (List UInt8)) : Grouping :=
  lines.foldl Grouping.add ⟨[], []⟩

/-- All groups, the last of them perhaps without an empty line after it. -/
def Grouping.groups (grouping : Grouping) : List (List (List UInt8)) :=
  if grouping.pending.isEmpty then grouping.closed
  else grouping.closed ++ [grouping.pending]

/-- Every line and every group of lines has at most so many bytes. -/
def WithinLimits (maxSseEventBytes : Int) (lines : List (List UInt8)) : Prop :=
  (∀ line ∈ lines, (line.length : Int) ≤ maxSseEventBytes) ∧
    ∀ group ∈ (groupingOf lines).groups, (groupBytes group : Int) ≤ maxSseEventBytes

theorem groupingOf_concat (lines : List (List UInt8)) (line : List UInt8) :
    groupingOf (lines ++ [line]) = (groupingOf lines).add line := by
  unfold groupingOf
  rw [List.foldl_append]
  rfl

theorem groupBytes_concat (group : List (List UInt8)) (line : List UInt8) :
    groupBytes (group ++ [line]) = groupBytes group + (line.length + 1) := by
  unfold groupBytes
  rw [List.map_append, List.sum_append]
  rfl

/-- The groups with a last group, however many lines are pending. -/
theorem mem_groups {grouping : Grouping} {group : List (List UInt8)} :
    group ∈ grouping.groups ↔
      group ∈ grouping.closed ∨ group = grouping.pending ∧ grouping.pending ≠ [] := by
  unfold Grouping.groups
  by_cases hpending : grouping.pending.isEmpty = true
  · rw [if_pos hpending]
    have hnil := List.isEmpty_iff.mp hpending
    simp [hnil]
  · rw [if_neg hpending, List.mem_append, List.mem_singleton]
    have hne : grouping.pending ≠ [] := fun h => hpending (List.isEmpty_iff.mpr h)
    simp [hne]

/-- One more line is within the limits when it and the group it leaves pending are. -/
theorem withinLimits_concat {maxSseEventBytes : Int} (hmax : 0 ≤ maxSseEventBytes)
    {lines : List (List UInt8)} {line : List UInt8} :
    WithinLimits maxSseEventBytes (lines ++ [line]) ↔
      WithinLimits maxSseEventBytes lines ∧ (line.length : Int) ≤ maxSseEventBytes ∧
        (groupBytes ((groupingOf lines).add line).pending : Int) ≤ maxSseEventBytes := by
  unfold WithinLimits
  rw [groupingOf_concat, List.forall_mem_append, List.forall_mem_singleton]
  generalize groupingOf lines = grouping
  have hgroups : (∀ group ∈ (grouping.add line).groups,
      (groupBytes group : Int) ≤ maxSseEventBytes) ↔
      (∀ group ∈ grouping.groups, (groupBytes group : Int) ≤ maxSseEventBytes) ∧
        (groupBytes (grouping.add line).pending : Int) ≤ maxSseEventBytes := by
    have hzero : (groupBytes [] : Int) ≤ maxSseEventBytes := hmax
    constructor
    · intro h
      have hpending : (groupBytes (grouping.add line).pending : Int) ≤ maxSseEventBytes := by
        by_cases hnil : (grouping.add line).pending = []
        · rw [hnil]
          exact hzero
        · exact h _ (mem_groups.mpr (.inr ⟨rfl, hnil⟩))
      refine ⟨?_, hpending⟩
      intro group hgroup
      rcases mem_groups.mp hgroup with hclosed | ⟨rfl, hne⟩
      · refine h group (mem_groups.mpr (.inl ?_))
        unfold Grouping.add
        split
        · split
          · exact hclosed
          · exact List.mem_append_left _ hclosed
        · split <;> exact hclosed
      · unfold Grouping.add at h hpending
        have hopen : ¬ grouping.pending.isEmpty = true :=
          fun hempty => hne (List.isEmpty_iff.mp hempty)
        by_cases hempty : line.isEmpty = true
        · rw [if_pos hempty, if_neg hopen] at h
          exact h _ (mem_groups.mpr (.inl (by simp)))
        · rw [if_neg hempty] at h hpending
          by_cases hcomment : isComment line = true
          · rw [if_pos hcomment] at hpending
            exact hpending
          · rw [if_neg hcomment] at hpending
            dsimp only at hpending
            rw [groupBytes_concat] at hpending
            omega
    · rintro ⟨h, hpending⟩ group hgroup
      rcases mem_groups.mp hgroup with hclosed | ⟨rfl, -⟩
      · unfold Grouping.add at hclosed
        split at hclosed
        · split at hclosed
          · exact h group (mem_groups.mpr (.inl hclosed))
          · rename_i hopen
            rw [List.mem_append, List.mem_singleton] at hclosed
            rcases hclosed with hclosed | rfl
            · exact h group (mem_groups.mpr (.inl hclosed))
            · exact h _ (mem_groups.mpr
                (.inr ⟨rfl, fun hnil => hopen (List.isEmpty_iff.mpr hnil)⟩))
        · split at hclosed <;> exact h group (mem_groups.mpr (.inl hclosed))
      · exact hpending
  rw [hgroups]
  constructor
  · rintro ⟨⟨hlines, hline⟩, hrest, hpending⟩
    exact ⟨⟨hlines, hrest⟩, hline, hpending⟩
  · rintro ⟨⟨hlines, hrest⟩, hline, hpending⟩
    exact ⟨⟨hlines, hline⟩, hrest, hpending⟩

/-- What is within the limits was so all along. -/
theorem withinLimits_of_append {maxSseEventBytes : Int} (hmax : 0 ≤ maxSseEventBytes)
    {lines more : List (List UInt8)} (h : WithinLimits maxSseEventBytes (lines ++ more)) :
    WithinLimits maxSseEventBytes lines := by
  induction more using List.reverseRecOn with
  | nil => rwa [List.append_nil] at h
  | append_singleton more line ih =>
      rw [← List.append_assoc] at h
      exact ih ((withinLimits_concat hmax).mp h).1

/-- No line is within any limits. -/
theorem withinLimits_nil {maxSseEventBytes : Int} : WithinLimits maxSseEventBytes [] := by
  constructor
  · intro line hline
    cases hline
  · intro group hgroup
    cases hgroup

/-- The pending lines are within the limits of their own. -/
theorem WithinLimits.pending_le {maxSseEventBytes : Int} (hmax : 0 ≤ maxSseEventBytes)
    {lines : List (List UInt8)} (h : WithinLimits maxSseEventBytes lines) :
    (groupBytes (groupingOf lines).pending : Int) ≤ maxSseEventBytes := by
  by_cases hnil : (groupingOf lines).pending = []
  · rw [hnil]
    exact hmax
  · exact h.2 _ (mem_groups.mpr (.inr ⟨rfl, hnil⟩))

/-! ## The adapter and the grouping -/

/-- The variables hold a grouping. -/
structure Holds (st : StreamState) (grouping : Grouping) : Prop where
  events : st.events = grouping.closed.map eventOf
  pendingLines : st.pendingLines = grouping.pending.map decodeReplace
  pendingBytes : st.pendingBytes = groupBytes grouping.pending

/-- The text of a line starts with a colon exactly when its bytes do. -/
theorem startsWith_decodeReplace (line : List UInt8) :
    startsWith (decodeReplace line) ":".toList = isComment line := by
  have hhead := head_decodeReplace line (c := ':') (by decide)
  have hcode : UInt8.ofNat ':'.toNat = 58 := rfl
  rw [hcode] at hhead
  have hcolon : ":".toList = [':'] := rfl
  unfold startsWith isComment
  rw [hcolon, Bool.eq_iff_iff, beq_iff_eq, ← hhead]
  cases decodeReplace line with
  | nil => simp
  | cons c rest =>
      rw [List.head?_cons, Option.some.injEq]
      simp only [List.isPrefixOf, Bool.and_true, beq_iff_eq]
      exact eq_comm

/-- The adapter takes a line as the grouping does when the line is within the limits, and
raises otherwise. -/
theorem readLine_spec {maxSseEventBytes : Int} (hmax : 0 ≤ maxSseEventBytes) {st : StreamState}
    {grouping : Grouping} (h : Holds st grouping)
    (hpending : (groupBytes grouping.pending : Int) ≤ maxSseEventBytes) (raw : List UInt8) :
    (((dropCarriageReturn raw).length : Int) ≤ maxSseEventBytes ∧
        (groupBytes (grouping.add (dropCarriageReturn raw)).pending : Int) ≤ maxSseEventBytes ∧
        ∃ st', readLine maxSseEventBytes st raw = .ok st' ∧
          Holds st' (grouping.add (dropCarriageReturn raw)) ∧ st'.lineBuffer = st.lineBuffer) ∨
      (¬ (((dropCarriageReturn raw).length : Int) ≤ maxSseEventBytes ∧
          (groupBytes (grouping.add (dropCarriageReturn raw)).pending : Int) ≤
            maxSseEventBytes) ∧
        readLine maxSseEventBytes st raw = .error st.exceeded) := by
  unfold readLine
  generalize dropCarriageReturn raw = line
  dsimp only
  by_cases hlong : maxSseEventBytes < line.length
  · rw [if_pos hlong]
    exact .inr ⟨fun hfits => absurd hfits.1 (Int.not_le.mpr hlong), rfl⟩
  · rw [if_neg hlong]
    have hfits : (line.length : Int) ≤ maxSseEventBytes := Int.not_lt.mp hlong
    unfold Grouping.add
    by_cases hempty : line.isEmpty = true
    · rw [if_pos hempty, if_pos hempty]
      by_cases hopen : grouping.pending.isEmpty = true
      · have hnone : st.pendingLines.isEmpty = true := by
          rw [h.pendingLines, List.isEmpty_iff.mp hopen]
          rfl
        rw [hnone, if_pos hopen]
        exact .inl ⟨hfits, hpending, st, rfl, h, rfl⟩
      · have hsome : st.pendingLines.isEmpty = false := by
          rw [h.pendingLines, List.isEmpty_map]
          exact Bool.not_eq_true _ ▸ hopen
        rw [hsome, if_neg hopen]
        refine .inl ⟨hfits, hmax, _, rfl, ⟨?_, rfl, rfl⟩, rfl⟩
        unfold StreamState.flush eventOf
        dsimp only
        rw [h.events, h.pendingLines, List.map_append]
        rfl
    · rw [if_neg hempty, if_neg hempty, startsWith_decodeReplace]
      by_cases hcomment : isComment line = true
      · rw [if_pos hcomment, if_pos hcomment]
        exact .inl ⟨hfits, hpending, st, rfl, h, rfl⟩
      · rw [if_neg hcomment, if_neg hcomment, h.pendingBytes, ← groupBytes_concat]
        dsimp only
        by_cases hfull : maxSseEventBytes < groupBytes (grouping.pending ++ [line])
        · rw [if_pos hfull]
          exact .inr ⟨fun hboth => absurd hboth.2 (Int.not_le.mpr hfull), rfl⟩
        · rw [if_neg hfull]
          refine .inl ⟨hfits, Int.not_lt.mp hfull, _, rfl, ⟨h.events, ?_, rfl⟩, rfl⟩
          dsimp only
          rw [h.pendingLines, List.map_append]
          rfl

/-- The lines of some bytes that a newline ends, without their carriage returns. -/
def textLines (bytes : List UInt8) : List (List UInt8) :=
  (bufferLines bytes).1.map dropCarriageReturn

/-- The first lines that exceed the limits, as far as they do not. -/
structure Breaks (maxSseEventBytes : Int) (lines first : List (List UInt8)) : Prop where
  within : WithinLimits maxSseEventBytes first
  next : ∃ line rest, lines = first ++ line :: rest ∧
    ¬ WithinLimits maxSseEventBytes (first ++ [line])

/-- The adapter takes lines as the grouping does as long as they are within the limits, and
raises at the first that is not. -/
theorem readLines_spec {maxSseEventBytes : Int} (hmax : 0 ≤ maxSseEventBytes)
    {st : StreamState} {before : List (List UInt8)} (h : Holds st (groupingOf before))
    (hbefore : WithinLimits maxSseEventBytes before) (raws : List (List UInt8)) :
    (WithinLimits maxSseEventBytes (before ++ raws.map dropCarriageReturn) ∧
        ∃ st', readLines maxSseEventBytes st raws = .ok st' ∧
          Holds st' (groupingOf (before ++ raws.map dropCarriageReturn)) ∧
          st'.lineBuffer = st.lineBuffer) ∨
      ∃ first st', Breaks maxSseEventBytes (before ++ raws.map dropCarriageReturn) first ∧
        Holds st' (groupingOf first) ∧
        readLines maxSseEventBytes st raws = .error st'.exceeded := by
  induction raws generalizing st before with
  | nil =>
      rw [List.map_nil, List.append_nil]
      exact .inl ⟨hbefore, st, rfl, h, rfl⟩
  | cons raw raws ih =>
      rw [readLines, List.map_cons]
      have hconcat : before ++ dropCarriageReturn raw :: raws.map dropCarriageReturn =
          (before ++ [dropCarriageReturn raw]) ++ raws.map dropCarriageReturn := by simp
      rcases readLine_spec hmax h (hbefore.pending_le hmax) raw with
        ⟨hline, hgroup, st', hread, hholds, hbuffer⟩ | ⟨hexceeds, hread⟩
      · rw [hread]
        dsimp only
        rw [← groupingOf_concat] at hholds
        have hnext := (withinLimits_concat hmax).mpr ⟨hbefore, hline, hgroup⟩
        rw [hconcat, ← hbuffer]
        exact ih hholds hnext
      · rw [hread]
        refine .inr ⟨before, st, ⟨hbefore, _, _, rfl, ?_⟩, h, rfl⟩
        intro hwithin
        exact hexceeds ((withinLimits_concat hmax).mp hwithin).2

/-- The first line that exceeds the limits is the same wherever the lines end after it. -/
theorem Breaks.unique {maxSseEventBytes : Int} (hmax : 0 ≤ maxSseEventBytes)
    {lines more first other : List (List UInt8)}
    (h : Breaks maxSseEventBytes lines first)
    (hother : Breaks maxSseEventBytes (lines ++ more) other) : first = other := by
  obtain ⟨hwithin, line, rest, hlines, hexceeds⟩ := h
  obtain ⟨hwithin', line', rest', hlines', hexceeds'⟩ := hother
  have hsame : first ++ (line :: rest ++ more) = other ++ line' :: rest' := by
    rw [← List.append_assoc, ← hlines, hlines']
  rcases List.append_eq_append_iff.mp hsame with
    ⟨middle, hmiddle, hrest⟩ | ⟨middle, hmiddle, hrest⟩
  · cases middle with
    | nil => rw [hmiddle, List.append_nil]
    | cons head middle =>
        obtain ⟨rfl, -⟩ := List.cons_eq_cons.mp hrest
        rw [hmiddle] at hwithin'
        have happend : first ++ line :: middle = (first ++ [line]) ++ middle := by simp
        rw [happend] at hwithin'
        exact absurd (withinLimits_of_append hmax hwithin') hexceeds
  · cases middle with
    | nil => rw [hmiddle, List.append_nil]
    | cons head middle =>
        obtain ⟨rfl, -⟩ := List.cons_eq_cons.mp hrest
        rw [hmiddle] at hwithin
        have happend : other ++ line' :: middle = (other ++ [line']) ++ middle := by simp
        rw [happend] at hwithin
        exact absurd (withinLimits_of_append hmax hwithin) hexceeds'

end Providers
end FreeLunch
